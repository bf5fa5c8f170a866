/-!
# Handles

A table of the things that are held under small numbers, in ascending order of the numbers.
-/

namespace Pinwire

/-- Held things under their numbers. -/
abbrev Handles (α : Type) := List (Nat × α)

namespace Handles

variable {α : Type}

def find? (handles : Handles α) (number : Nat) : Option α :=
  (List.find? (fun entry => entry.1 = number) handles).map (·.2)

def erase (handles : Handles α) (number : Nat) : Handles α :=
  handles.filter fun entry => entry.1 ≠ number

/-- The table with a thing held under a number, in place of what was held under it. -/
def insert (handles : Handles α) (number : Nat) (value : α) : Handles α :=
  handles.filter (fun entry => entry.1 < number) ++
    (number, value) :: handles.filter fun entry => number < entry.1

end Handles

end Pinwire

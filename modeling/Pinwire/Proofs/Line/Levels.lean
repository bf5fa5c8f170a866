import Mathlib.Data.List.Nodup
import Pinwire.Bench.MemoryChip
import Pinwire.Proofs.Program

/-!
# Levels

What a chip is to its lines: one level for each line number. Levels change by assignments, of which
the last one of a line counts, so a history of assignments is all there is to know of a level.

A backend keeps registers if requests and writes assign to the levels what they are asked for, reads
store nothing but levels, and what fails changes nothing. A program assigns levels if it does so
when it answers and changes nothing when it fails.
-/

namespace Pinwire

abbrev Levels := LineNumber → PinState

section LastAssigned

variable {assignments : List (LineNumber × PinState)} {line : LineNumber} {state : PinState}

@[simp]
theorem lastAssigned_append (earlier later : List (LineNumber × PinState)) (line : LineNumber) :
    lastAssigned (earlier ++ later) line =
      (lastAssigned later line).or (lastAssigned earlier line) := by
  rw [lastAssigned, List.reverse_append, List.find?_append, Option.map_or, ← lastAssigned,
    ← lastAssigned]

theorem lastAssigned_cons (line' : LineNumber) (state : PinState)
    (assignments : List (LineNumber × PinState)) (line : LineNumber) :
    lastAssigned ((line', state) :: assignments) line =
      (lastAssigned assignments line).or (if line' = line then some state else none) := by
  have single : lastAssigned [(line', state)] line = if line' = line then some state else none := by
    by_cases same : line' = line <;> simp [lastAssigned, same]
  rw [← single, ← lastAssigned_append, List.singleton_append]

theorem lastAssigned_eq_none (unnamed : line ∉ assignments.map (·.1)) :
    lastAssigned assignments line = none := by
  simp only [lastAssigned, Option.map_eq_none_iff, List.find?_eq_none, List.mem_reverse,
    decide_eq_true_eq]
  intro entry member same
  exact unnamed (List.mem_map.2 ⟨entry, member, same⟩)

theorem lastAssigned_eq_some_iff (once : (assignments.map (·.1)).Nodup) :
    lastAssigned assignments line = some state ↔ (line, state) ∈ assignments := by
  simp only [lastAssigned, Option.map_eq_some_iff]
  constructor
  · rintro ⟨⟨line', state'⟩, found, rfl⟩
    have same := List.find?_some found
    have member := List.mem_of_find?_eq_some found
    simp only [decide_eq_true_eq] at same
    rw [same] at member
    exact List.mem_reverse.1 member
  · intro member
    have present : (assignments.reverse.find? fun entry => entry.1 = line).isSome := by
      rw [List.find?_isSome]
      exact ⟨(line, state), List.mem_reverse.2 member, by simp⟩
    rcases Option.isSome_iff_exists.1 present with ⟨entry, found⟩
    have same := List.find?_some found
    have member' := List.mem_reverse.1 (List.mem_of_find?_eq_some found)
    simp only [decide_eq_true_eq] at same
    have equal : entry = (line, state) := List.inj_on_of_nodup_map once member' member same
    exact ⟨entry, found, by rw [equal]⟩

theorem lastAssigned_of_perm {assignments' : List (LineNumber × PinState)}
    (once : (assignments.map (·.1)).Nodup) (same : assignments.Perm assignments') :
    lastAssigned assignments = lastAssigned assignments' := by
  have once' : (assignments'.map (·.1)).Nodup := (same.map _).nodup_iff.1 once
  funext line
  apply Option.ext
  intro state
  rw [lastAssigned_eq_some_iff once, lastAssigned_eq_some_iff once', same.mem_iff]

theorem storedStates_map_some (lines : List LineNumber) (values : List PinState) :
    storedStates lines (values.map some) = lines.zip values := by
  induction lines generalizing values with
  | nil => rfl
  | cons line lines ih =>
      cases values with
      | nil => rfl
      | cons value values => exact congrArg _ (ih values)

end LastAssigned

namespace Levels

variable (levels : Levels)

/-- The levels after assignments in order. -/
def assign (assignments : List (LineNumber × PinState)) : Levels := fun line =>
  (lastAssigned assignments line).getD (levels line)

/-- The levels after something that assigns to them if it succeeds. -/
def settle {ε α : Type} (assignments : List (LineNumber × PinState)) : Except ε α → Levels
  | .ok _ => levels.assign assignments
  | .error _ => levels

theorem assign_append (earlier later : List (LineNumber × PinState)) :
    levels.assign (earlier ++ later) = (levels.assign earlier).assign later := by
  funext line
  simp only [assign, lastAssigned_append]
  rcases lastAssigned later line with _ | state <;> rfl

theorem assign_of_unnamed {assignments : List (LineNumber × PinState)} {line : LineNumber}
    (unnamed : line ∉ assignments.map (·.1)) : levels.assign assignments line = levels line := by
  rw [assign, lastAssigned_eq_none unnamed, Option.getD_none]

@[simp]
theorem settle_nil {ε α : Type} (answer : Except ε α) : levels.settle [] answer = levels := by
  cases answer <;> rfl

@[simp]
theorem settle_mapError {ε ε' α : Type} (wrap : ε → ε') (assignments : List (LineNumber × PinState))
    (answer : Except ε α) :
    levels.settle assignments (answer.mapError wrap) = levels.settle assignments answer := by
  cases answer <;> rfl

end Levels

/-- The first levels of lines that are requested with configurations. -/
def initialStates (settings : List (LineNumber × LineConfig)) : List (LineNumber × PinState) :=
  settings.map fun setting => (setting.1, setting.2.initial)

theorem initialStates_lines (settings : List (LineNumber × LineConfig)) :
    (initialStates settings).map (·.1) = settings.map (·.1) := by
  rw [initialStates, List.map_map]
  rfl

/-- A backend that keeps a register for every line number. -/
structure LineBackend.Registers {σ Chip Request : Type} (backend : LineBackend σ Chip Request)
    (levels : σ → Levels) : Prop where
  openChip : ∀ path world, levels (backend.openChip path world).2 = levels world
  requestLines : ∀ chip consumer settings world, (settings.map (·.1)).Nodup →
    levels (backend.requestLines chip consumer settings world).2 =
      (levels world).settle (initialStates settings)
        (backend.requestLines chip consumer settings world).1
  readLines : ∀ request lines slots world,
    levels (backend.readLines request lines slots world).2 = levels world
  /-- A read that succeeds stores nothing but levels, if it stores anything at all. -/
  readStored : ∀ request lines slots world filled (place : Nat) line state,
    (backend.readLines request lines slots world).1 = (.ok (), filled) →
    lines[place]? = some line → slots[place]? = some none → filled[place]?.join = some state →
      state = levels world line
  writeLines : ∀ request lines slots world,
    levels (backend.writeLines request lines slots world).2 =
      (levels world).settle (storedStates lines slots)
        (backend.writeLines request lines slots world).1
  releaseRequest : ∀ request world, levels (backend.releaseRequest request world) = levels world
  releaseChip : ∀ chip world, levels (backend.releaseChip chip world) = levels world

namespace LineStates

theorem get?_insert (states : LineStates) (line : LineNumber) (state : PinState)
    (other : LineNumber) :
    (states.insert line state).get? other =
      if line = other then some state else states.get? other := by
  simp only [get?, insert]
  -- The order of the entries plays no part: the first entry of a line is the only one looked at.
  induction states.entries with
  | nil => by_cases same : line = other <;> simp [insertEntry, same]
  | cons entry rest ih =>
      simp only [insertEntry]
      by_cases same : line = other
      · subst same
        simp only [if_true] at ih ⊢
        split
        · simp
        · split
          · simp
          · rename_i different
            rw [List.find?_cons_of_neg (by simpa [eq_comm] using different)]
            exact ih
      · simp only [if_neg same] at ih ⊢
        split
        · rw [List.find?_cons_of_neg (by simpa using same)]
        · split
          · rename_i replaced
            rw [List.find?_cons_of_neg (by simpa using same),
              List.find?_cons_of_neg (by simpa [← replaced] using same)]
          · by_cases here : entry.1 = other
            · rw [List.find?_cons_of_pos (by simpa using here),
                List.find?_cons_of_pos (by simpa using here)]
            · rw [List.find?_cons_of_neg (by simpa using here),
                List.find?_cons_of_neg (by simpa using here)]
              exact ih

theorem get?_foldl_insert (states : LineStates) (assignments : List (LineNumber × PinState))
    (line : LineNumber) :
    (assignments.foldl (fun states (line, state) => states.insert line state) states).get? line =
      (lastAssigned assignments line).or (states.get? line) := by
  induction assignments generalizing states with
  | nil => rfl
  | cons entry assignments ih =>
      rw [List.foldl_cons, ih, get?_insert, lastAssigned_cons, Option.or_assoc]
      by_cases same : entry.1 = line <;> simp [same]

end LineStates

namespace Bench.MemoryChip

/-- The level of each line; a line that was never set is inactive. -/
def lineLevels (chip : MemoryChip) : Levels := fun line =>
  (chip.levels.get? line).getD .inactive

theorem lineLevels_setLevels (chip : MemoryChip) (assignments : List (LineNumber × PinState)) :
    (chip.setLevels assignments).lineLevels = chip.lineLevels.assign assignments := by
  funext line
  simp only [lineLevels, setLevels, Levels.assign, LineStates.get?_foldl_insert]
  rcases lastAssigned assignments line with _ | state <;> rfl

theorem level_of_answer {chip : MemoryChip} {line : LineNumber} {state : PinState}
    (given : chip.answer line none = some state) : state = chip.lineLevels line := by
  simp only [answer] at given
  split at given
  · cases given
  · split at given
    · rename_i level found
      cases given
      simp only [lineLevels, found, Option.getD_some]
    · cases given

theorem registers : backend.Registers lineLevels where
  openChip path chip := by
    simp only [backend, openChip, guarded]
    split <;> rfl
  requestLines _ consumer settings chip _ := by
    simp only [backend, requestLines, guarded]
    split
    · rfl
    · exact lineLevels_setLevels _ _
  readLines _ lines slots chip := by
    simp only [backend, readLines]
    split <;> rfl
  readStored _ lines slots chip filled place line state read asked empty stored := by
    simp only [backend, readLines] at read
    split at read
    · cases read
    · cases read
      rw [List.getElem?_zipWith, asked, empty] at stored
      exact level_of_answer stored
  writeLines _ lines slots chip := by
    simp only [backend, writeLines, guarded]
    split
    · rfl
    · exact lineLevels_setLevels _ _
  releaseRequest _ _ := rfl
  releaseChip _ _ := rfl

end Bench.MemoryChip

namespace Program

variable {σ τ ε ε' α β : Type}

/-- A program assigns levels if a run that answers leaves them assigned and one that fails leaves
them as they were. -/
def Assigns (levels : σ → Levels) (assignments : List (LineNumber × PinState))
    (program : Program σ ε α) : Prop :=
  ∀ state, levels (program.run state).state =
    (levels state).settle assignments (program.run state).answer

section Assigns

variable {levels : σ → Levels} {assignments : List (LineNumber × PinState)}

theorem assigns_of_keeps {program : Program σ ε α} (kept : Keeps levels program) :
    Assigns levels [] program := by
  intro state
  rw [Levels.settle_nil]
  exact kept state

theorem assigns_fail (error : ε) : Assigns levels assignments (fail error : Program σ ε α) :=
  fun _ => rfl

theorem assigns_act {action : σ → Except ε' α × σ} (wrap : ε' → ε)
    (settled : ∀ state, levels (action state).2 =
      (levels state).settle assignments (action state).1) :
    Assigns levels assignments (act wrap action) := by
  intro state
  exact (settled state).trans (Levels.settle_mapError _ wrap _ _).symm

theorem assigns_mapError {program : Program σ ε α} (wrap : ε → ε')
    (assigns : Assigns levels assignments program) :
    Assigns levels assignments (mapError wrap program) := by
  intro state
  exact (assigns state).trans (Levels.settle_mapError _ wrap _ _).symm

theorem assigns_bind {first : Program σ ε α} {next : α → Program σ ε β}
    (kept : Keeps levels first)
    (rest : ∀ state value, (first.run state).answer = .ok value →
      Assigns levels assignments (next value)) :
    Assigns levels assignments (first >>= next) := by
  intro state
  have same := kept state
  rcases outcome : first.run state with ⟨error | value, reached, journal⟩
  · -- Nothing has been assigned yet, so failing here is failing before any assignment.
    rw [outcome] at same
    rw [run_bind_of_error outcome]
    exact same
  · rw [outcome] at same
    rw [run_bind_of_ok outcome, ← same]
    exact rest state value (by rw [outcome]) reached

/-- What comes after the assignments keeps the levels and always answers. -/
theorem assigns_bind_of_answers {first : Program σ ε α} {next : α → Program σ ε β}
    (assigns : Assigns levels assignments first) (kept : ∀ value, Keeps levels (next value))
    (answers : ∀ value state, ∃ answer, ((next value).run state).answer = .ok answer) :
    Assigns levels assignments (first >>= next) := by
  intro state
  have settled := assigns state
  rcases outcome : first.run state with ⟨error | value, reached, journal⟩
  · rw [outcome] at settled
    rw [run_bind_of_error outcome]
    exact settled
  · rw [outcome] at settled
    rcases answers value reached with ⟨answer, answered⟩
    rw [run_bind_of_ok outcome]
    simp only [answered]
    exact (kept value reached).trans settled

theorem assigns_map {program : Program σ ε α} (f : α → β)
    (assigns : Assigns levels assignments program) :
    Assigns levels assignments (f <$> program) :=
  assigns_bind_of_answers assigns (fun _ => keeps_pure _) fun value _ => ⟨f value, rfl⟩

theorem assigns_undoing {program : Program σ ε α} {undo : σ → σ}
    (undone : ∀ state, levels (undo state) = levels state)
    (assigns : Assigns levels assignments program) :
    Assigns levels assignments (undoing undo program) := by
  intro state
  have settled := assigns state
  rcases outcome : program.run state with ⟨error | value, reached, journal⟩
  · rw [outcome] at settled
    rw [run_undoing_of_error outcome]
    exact (undone reached).trans settled
  · rw [outcome] at settled
    rw [run_undoing_of_ok outcome]
    exact settled

theorem assigns_within {outer : τ → Levels} {part : τ → σ} {replace : τ → σ → τ}
    {program : Program σ ε α} (looked : ∀ state, outer state = levels (part state))
    (replaced : ∀ state inner, outer (replace state inner) = levels inner)
    (assigns : Assigns levels assignments program) :
    Assigns outer assignments (within part replace program) := by
  intro state
  rw [run_within, replaced, looked]
  exact assigns (part state)

/-- Assignments can be replaced by others that leave the same levels whenever there is an answer. -/
theorem assigns_of_answered {assignments' : List (LineNumber × PinState)}
    {program : Program σ ε α} (assigns : Assigns levels assignments program)
    (same : ∀ state value, (program.run state).answer = .ok value →
      lastAssigned assignments = lastAssigned assignments') :
    Assigns levels assignments' program := by
  intro state
  rw [assigns state]
  rcases answered : (program.run state).answer with error | value
  · rfl
  · funext line
    simp only [Levels.settle, Levels.assign, same state value answered]

end Assigns

end Program

end Pinwire

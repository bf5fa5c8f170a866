import Pinwire.Bench.MemoryChip
import Pinwire.Proofs.Line.Programs

/-!
# The staging buffer

The buffer of a request outlives every call, and calls of any kind pass their values through it.
This file shows that no call can tell what earlier ones left there: whatever the backend stores,
leaves out or refuses, a request behaves like lines that are held without a buffer, of which nothing
but their number is remembered.

The invariant is the length of the buffer. It is what the front is cut from, and what the number of
lines in a call is compared with.
-/

namespace Pinwire

/-- A call that reached the lines of a request. -/
inductive LineTransfer where
  | read (lines : List LineNumber) (slots : List Slot)
  | write (lines : List LineNumber) (slots : List Slot)
  deriving Repr, DecidableEq

/-- A world together with the calls that reached lines in it. -/
structure Transferred (σ : Type) where
  world : σ
  transfers : List LineTransfer

/-- The same backend, with a list of the calls that reach lines. -/
def LineBackend.noting {σ Chip Request : Type} (backend : LineBackend σ Chip Request) :
    LineBackend (Transferred σ) Chip Request where
  openChip path noted :=
    let (answer, world) := backend.openChip path noted.world
    (answer, { noted with world })
  requestLines chip consumer settings noted :=
    let (answer, world) := backend.requestLines chip consumer settings noted.world
    (answer, { noted with world })
  readLines request lines slots noted :=
    let (answer, world) := backend.readLines request lines slots noted.world
    (answer, ⟨world, noted.transfers ++ [.read lines slots]⟩)
  writeLines request lines slots noted :=
    let (answer, world) := backend.writeLines request lines slots noted.world
    (answer, ⟨world, noted.transfers ++ [.write lines slots]⟩)
  releaseRequest request noted :=
    { noted with world := backend.releaseRequest request noted.world }
  releaseChip chip noted := { noted with world := backend.releaseChip chip noted.world }

/-- Lines that are held without a buffer. -/
structure BareLines (Request : Type) where
  request : Request
  count : Nat

namespace BareLines

variable {σ Request Chip : Type}

/-- The states in slots, one for each line; the first line whose slot is empty is at fault. -/
def collect : List LineNumber → List Slot → Except LineError (List PinState)
  | [], _ => .ok []
  | _ :: lines, some state :: slots => (collect lines slots).map (state :: ·)
  | line :: _, _ => .error (.valueMissing line)

def tooMany (lines : List LineNumber) (count : Nat) : LineError :=
  .argumentMismatch ⟨"invalid GPIO line count: requested lines of", lines.length, count⟩

def uneven (lines : List LineNumber) (values : List PinState) : LineError :=
  .argumentMismatch ⟨"GPIO pin and value arrays lengths differ", lines.length, values.length⟩

/-- Reads lines into slots that are all empty. -/
def read (backend : LineBackend σ Chip Request) (bare : BareLines Request)
    (lines : List LineNumber) (world : σ) : Except Fault (List Slot) × σ :=
  let ((answer, filled), world) :=
    backend.readLines bare.request lines (List.replicate lines.length none) world
  (answer.map fun _ => filled, world)

def get (backend : LineBackend σ Chip Request) (bare : BareLines Request)
    (lines : List LineNumber) : Program σ LineError (List PinState) :=
  if bare.count < lines.length then .fail (tooMany lines bare.count)
  else do
    let filled ← .act .readFailed (read backend bare lines)
    .ofExcept (collect lines filled)

/-- Drives lines from slots that hold the values to drive and nothing else. -/
def set (backend : LineBackend σ Chip Request) (bare : BareLines Request)
    (lines : List LineNumber) (values : List PinState) : Program σ LineError Unit :=
  if lines.length ≠ values.length then .fail (uneven lines values)
  else if bare.count < lines.length then .fail (tooMany lines bare.count)
  else .act .writeFailed (backend.writeLines bare.request lines (values.map some))

theorem collect_cons_of_empty {line : LineNumber} {lines : List LineNumber} {slots : List Slot}
    (empty : slots[0]?.join = none) :
    collect (line :: lines) slots = .error (.valueMissing line) := by
  rcases slots with _ | ⟨_ | state, slots⟩
  · rfl
  · rfl
  · simp at empty

theorem collect_cons_of_stored {line : LineNumber} {lines : List LineNumber} {slots : List Slot}
    {state : PinState} (stored : slots[0]?.join = some state) :
    collect (line :: lines) slots = (collect lines slots.tail).map (state :: ·) := by
  rcases slots with _ | ⟨_ | first, slots⟩
  · simp at stored
  · simp at stored
  · simp only [List.getElem?_cons_zero, Option.join_some, Option.some.injEq] at stored
    rw [stored]
    rfl

/-- The states are collected if every line has one in its slot. -/
theorem collect_eq_ok_iff {lines : List LineNumber} {slots : List Slot} {states : List PinState} :
    collect lines slots = .ok states ↔
      states.length = lines.length ∧
        ∀ place < lines.length, slots[place]?.join = states[place]? := by
  induction lines generalizing slots states with
  | nil => simp [collect, eq_comm]
  | cons line lines ih =>
      rcases stored : slots[0]?.join with _ | state
      · rw [collect_cons_of_empty stored]
        constructor
        · intro impossible
          cases impossible
        · rintro ⟨sameLength, agree⟩
          have first := agree 0 (by simp)
          rw [stored, eq_comm, List.getElem?_eq_none_iff, sameLength] at first
          simp at first
      · rw [collect_cons_of_stored stored]
        constructor
        · intro collected
          rcases rest : collect lines slots.tail with error | others
          · rw [rest] at collected
            cases collected
          · rw [rest] at collected
            cases collected
            rcases ih.1 rest with ⟨sameLength, agree⟩
            refine ⟨by simp [sameLength], fun place inside => ?_⟩
            rcases place with _ | place
            · simpa using stored
            · simpa using agree place (by simpa using inside)
        · rintro ⟨sameLength, agree⟩
          rcases states with _ | ⟨first, others⟩
          · simp at sameLength
          · have sameFirst := agree 0 (by simp)
            rw [stored] at sameFirst
            simp only [List.getElem?_cons_zero, Option.some.injEq] at sameFirst
            have rest : collect lines slots.tail = .ok others := by
              refine ih.2 ⟨by simpa using sameLength, fun place inside => ?_⟩
              simpa using agree (place + 1) (by simpa using inside)
            rw [rest, sameFirst]
            rfl

/-- The line at fault is the one at the smallest place where no state is stored. -/
theorem collect_eq_error_iff {lines : List LineNumber} {slots : List Slot} {error : LineError} :
    collect lines slots = .error error ↔
      ∃ (place : Nat) (line : LineNumber), lines[place]? = some line ∧ error = .valueMissing line ∧
        slots[place]?.join = none ∧ ∀ earlier < place, slots[earlier]?.join ≠ none := by
  induction lines generalizing slots with
  | nil => simp [collect]
  | cons line lines ih =>
      rcases stored : slots[0]?.join with _ | state
      · rw [collect_cons_of_empty stored]
        constructor
        · intro failed
          cases failed
          exact ⟨0, line, rfl, rfl, stored, by simp⟩
        · rintro ⟨_ | place, missing, found, rfl, _, before⟩
          · simp only [List.getElem?_cons_zero, Option.some.injEq] at found
            rw [found]
          · exact absurd stored (before 0 (Nat.succ_pos place))
      · rw [collect_cons_of_stored stored]
        have failed_iff : (collect lines slots.tail).map (state :: ·) = .error error ↔
            collect lines slots.tail = .error error := by
          rcases collect lines slots.tail with fault | others <;> simp [Except.map]
        rw [failed_iff, ih]
        constructor
        · rintro ⟨place, missing, found, rfl, empty, before⟩
          refine ⟨place + 1, missing, by simpa using found, rfl, by simpa using empty, ?_⟩
          rintro (_ | earlier) smaller
          · simp [stored]
          · simpa using before earlier (by simpa using smaller)
        · rintro ⟨_ | place, missing, found, rfl, empty, before⟩
          · rw [stored] at empty
            cases empty
          · refine ⟨place, missing, by simpa using found, rfl, by simpa using empty, ?_⟩
            intro earlier smaller
            simpa using before (earlier + 1) (by simpa using smaller)

end BareLines

namespace LineRequest

variable {σ Chip Request : Type}

section Buffer

theorem length_overwrite (slots window : List Slot) :
    (overwrite slots window).length = slots.length := by
  fun_induction overwrite slots window with
  | case1 => rfl
  | case2 => rfl
  | case3 slot slots value window ih => simp [ih]

theorem take_overwrite {slots window : List Slot} (fits : window.length ≤ slots.length) :
    (overwrite slots window).take window.length = window := by
  fun_induction overwrite slots window with
  | case1 => simp_all
  | case2 => simp
  | case3 slot slots value window ih =>
      simp only [List.length_cons, List.take_succ_cons, List.cons.injEq, true_and]
      exact ih (by simpa using fits)

/-- Slots that were empty before hold what is collected from what the backend stored. -/
theorem collect_window (lines : List LineNumber) (filled : List Slot) :
    let window := overwrite (List.replicate lines.length none) filled
    BareLines.collect lines filled =
      match firstMissing? lines window with
      | some line => .error (.valueMissing line)
      | none => .ok (window.filterMap id) := by
  induction lines generalizing filled with
  | nil => rfl
  | cons line lines ih =>
      rcases filled with _ | ⟨_ | state, filled⟩
      · rfl
      · rfl
      · simp only [List.length_cons, List.replicate_succ, overwrite, BareLines.collect,
          firstMissing?, ih filled]
        split <;> rfl

theorem checkCount_eq (request : LineRequest Chip Request) (lines : List LineNumber) :
    request.checkCount lines =
      if request.lineCount < lines.length then .error (BareLines.tooMany lines request.lineCount)
      else .ok () := by
  by_cases many : request.lineCount < lines.length
  · simp only [checkCount, checkWithin, if_neg (Nat.not_le.2 many), if_pos many]
    rfl
  · simp only [checkCount, checkWithin, if_pos (Nat.not_lt.1 many), if_neg many]
    rfl

theorem checkEqual_eq (lines : List LineNumber) (values : List PinState) :
    (checkEqualLength "GPIO pin and value arrays lengths differ" lines.length
      values.length).mapError LineError.argumentMismatch =
      if lines.length ≠ values.length then .error (BareLines.uneven lines values) else .ok () := by
  by_cases even : lines.length = values.length
  · simp only [checkEqualLength, even, if_true, ne_eq, not_true_eq_false, if_false]
    rfl
  · simp only [checkEqualLength, even, if_false, ne_eq, not_false_eq_true, if_true]
    rfl

variable (backend : LineBackend σ Chip Request) {request : LineRequest Chip Request}
  {lines : List LineNumber}

/-- A read is asked for with empty slots, whatever the buffer holds. -/
theorem stageRead_of_fits (fits : lines.length ≤ request.lineCount) {world reached : σ}
    {answer : Except Fault Unit} {filled : List Slot}
    (read : backend.readLines request.request lines (List.replicate lines.length none) world =
      ((answer, filled), reached)) :
    let window := overwrite (List.replicate lines.length none) filled
    ∃ slots, slots.length = request.slots.length ∧
      stageRead backend lines (request, world) =
        (answer.map fun _ => window, ({ request with slots }, reached)) := by
  have front : (overwrite request.slots (List.replicate lines.length none)).take lines.length =
      List.replicate lines.length none := by
    have emptied : (List.replicate lines.length (none : Slot)).length ≤ request.slots.length := by
      rw [List.length_replicate]
      exact fits
    have cleared := take_overwrite emptied
    rwa [List.length_replicate] at cleared
  simp only [stageRead, front, read]
  exact ⟨_, by rw [length_overwrite, length_overwrite], rfl⟩

/-- A write is asked for with the values to drive, whatever the buffer holds. -/
theorem stageWrite_of_fits {values : List PinState} (even : lines.length = values.length)
    (fits : lines.length ≤ request.lineCount) {world reached : σ} {answer : Except Fault Unit}
    (written : backend.writeLines request.request lines (values.map some) world =
      (answer, reached)) :
    ∃ slots, slots.length = request.slots.length ∧
      stageWrite backend lines values (request, world) =
        (answer, ({ request with slots }, reached)) := by
  have front : (overwrite request.slots (values.map some)).take lines.length =
      values.map some := by
    have inside : (values.map some).length ≤ request.slots.length := by
      rw [List.length_map, ← even]
      exact fits
    have staged := take_overwrite inside
    rwa [List.length_map, ← even] at staged
  simp only [stageWrite, front, written]
  exact ⟨_, length_overwrite _ _, rfl⟩

end Buffer

/-- A request that holds the same lines as `bare`, and as many of them. -/
def Stages (bare : BareLines Request) (state : LineRequest Chip Request × σ) (world : σ) : Prop :=
  state.1.request = bare.request ∧ state.1.lineCount = bare.count ∧ state.2 = world

section Agrees

variable (backend : LineBackend σ Chip Request) {memory : Memory} {bare : BareLines Request}

theorem agrees_get (granted : ∀ count ≤ bare.count, memory.reserve count 1 = .ok ())
    (lines : List LineNumber) :
    Program.Agrees (Stages bare) (get backend memory lines) (BareLines.get backend bare lines) := by
  rintro ⟨request, world⟩ _ ⟨sameLines, sameCount, rfl⟩
  simp only at sameLines sameCount
  simp only [get, Program.run_current_bind, checkCount_eq, sameCount, BareLines.get]
  by_cases many : bare.count < lines.length
  · rw [if_pos many, if_pos many, Program.ofExcept_error_bind]
    exact ⟨rfl, ⟨sameLines, sameCount, rfl⟩, rfl⟩
  rw [if_neg many, if_neg many, Program.ofExcept_ok_bind]
  have fits : lines.length ≤ request.lineCount := by omega
  rcases filling : backend.readLines bare.request lines (List.replicate lines.length none) world
    with ⟨⟨answer, filled⟩, reached⟩
  have direct : BareLines.read backend bare lines world =
      (answer.map fun _ => filled, reached) := by
    simp only [BareLines.read, filling]
  rw [← sameLines] at filling
  -- The buffer may hold old states, but the slots that are read into are emptied first.
  rcases stageRead_of_fits backend fits filling with ⟨slots, sameLength, staged⟩
  have stages : Stages bare ({ request with slots }, reached) reached :=
    ⟨sameLines, sameLength.trans sameCount, rfl⟩
  rcases answer with fault | ⟨⟩
  · rw [Program.run_bind_of_error (Program.run_act_of_error _ staged),
      Program.run_bind_of_error (Program.run_act_of_error _ direct)]
    exact ⟨rfl, stages, rfl⟩
  rw [Program.run_bind_of_ok (Program.run_act_of_ok _ staged),
    Program.run_bind_of_ok (Program.run_act_of_ok _ direct), collect_window]
  dsimp only
  rcases firstMissing? lines (overwrite (List.replicate lines.length none) filled) with _ | line
  · dsimp only
    rw [granted lines.length (by omega)]
    exact ⟨rfl, stages, rfl⟩
  · exact ⟨rfl, stages, rfl⟩

theorem agrees_set (lines : List LineNumber) (values : List PinState) :
    Program.Agrees (Stages bare) (set backend lines values)
      (BareLines.set backend bare lines values) := by
  rintro ⟨request, world⟩ _ ⟨sameLines, sameCount, rfl⟩
  simp only at sameLines sameCount
  simp only [set, Program.run_current_bind, checkCount_eq, checkEqual_eq, sameCount, BareLines.set]
  by_cases uneven : lines.length ≠ values.length
  · rw [if_pos uneven, if_pos uneven, Program.ofExcept_error_bind]
    exact ⟨rfl, ⟨sameLines, sameCount, rfl⟩, rfl⟩
  rw [if_neg uneven, if_neg uneven, Program.ofExcept_ok_bind]
  by_cases many : bare.count < lines.length
  · rw [if_pos many, if_pos many, Program.ofExcept_error_bind]
    exact ⟨rfl, ⟨sameLines, sameCount, rfl⟩, rfl⟩
  rw [if_neg many, if_neg many, Program.ofExcept_ok_bind]
  have fits : lines.length ≤ request.lineCount := by omega
  rcases driving : backend.writeLines request.request lines (values.map some) world with
    ⟨answer, reached⟩
  rcases stageWrite_of_fits backend (Decidable.not_not.1 uneven) fits driving with
    ⟨slots, sameLength, staged⟩
  rw [sameLines] at driving
  have stages : Stages bare ({ request with slots }, reached) reached :=
    ⟨sameLines, sameLength.trans sameCount, rfl⟩
  rcases answer with fault | ⟨⟩
  · rw [Program.run_act_of_error _ staged, Program.run_act_of_error _ driving]
    exact ⟨rfl, stages, rfl⟩
  · rw [Program.run_act_of_ok _ staged, Program.run_act_of_ok _ driving]
    exact ⟨rfl, stages, rfl⟩

end Agrees

/-- A read or write of lines through a request. -/
inductive Use where
  | get (lines : List LineNumber)
  | set (lines : List LineNumber) (values : List PinState)
  deriving Repr, DecidableEq

namespace Use

def perform (backend : LineBackend σ Chip Request) (memory : Memory) :
    Use → Program (LineRequest Chip Request × σ) LineError Reply
  | get lines => Reply.states <$> LineRequest.get backend memory lines
  | set lines values => (fun _ => .nothing) <$> LineRequest.set backend lines values

def performBare (backend : LineBackend σ Chip Request) (bare : BareLines Request) :
    Use → Program σ LineError Reply
  | get lines => Reply.states <$> bare.get backend lines
  | set lines values => (fun _ => .nothing) <$> bare.set backend lines values

/-- The calls that a use makes to as many lines as `count`, whatever they answer. -/
def transfers (count : Nat) : Use → List LineTransfer
  | get lines =>
    if lines.length ≤ count then [.read lines (List.replicate lines.length none)] else []
  | set lines values =>
    if lines.length = values.length ∧ lines.length ≤ count then [.write lines (values.map some)]
    else []

theorem agrees_perform (backend : LineBackend σ Chip Request) {memory : Memory}
    {bare : BareLines Request}
    (granted : ∀ count ≤ bare.count, memory.reserve count 1 = .ok ()) (use : Use) :
    Program.Agrees (Stages bare) (use.perform backend memory) (use.performBare backend bare) := by
  cases use with
  | get lines => exact Program.agrees_map _ (agrees_get backend granted lines)
  | set lines values => exact Program.agrees_map _ (agrees_set backend lines values)

end Use

section Noting

variable (backend : LineBackend σ Chip Request) (memory : Memory)

/-- A request over a backend that notes calls, without the notes. -/
def unnoted (state : LineRequest Chip Request × Transferred σ) : LineRequest Chip Request × σ :=
  (state.1, state.2.world)

theorem mirrors_perform_noting (use : Use) :
    Program.Mirrors unnoted id (use.perform backend.noting memory)
      (use.perform backend memory) := by
  cases use with
  | get lines =>
      refine Program.mirrors_map (mirrors_get_of_stageRead (fun _ => rfl) fun state => ?_)
        fun _ => rfl
      simp only [stageRead, unnoted, LineBackend.noting, Except.map_id, id_eq]
  | set lines values =>
      refine Program.mirrors_map (mirrors_set_of_stageWrite (fun _ => rfl) fun state => ?_)
        fun _ => rfl
      simp only [stageWrite, unnoted, LineBackend.noting, Except.map_id, id_eq]

theorem transfers_performBare (bare : BareLines Request) (use : Use) (noted : Transferred σ) :
    ((use.performBare backend.noting bare).run noted).state.transfers =
      noted.transfers ++ use.transfers bare.count := by
  cases use with
  | get lines =>
      simp only [Use.performBare, Program.state_map, BareLines.get, Use.transfers]
      by_cases many : bare.count < lines.length
      · rw [if_pos many, if_neg (by omega), List.append_nil]
        rfl
      rw [if_neg many, if_pos (by omega)]
      rcases filling : backend.readLines bare.request lines (List.replicate lines.length none)
        noted.world with ⟨⟨answer, filled⟩, reached⟩
      have read : BareLines.read backend.noting bare lines noted = (answer.map fun _ => filled,
          ⟨reached, noted.transfers ++ [.read lines (List.replicate lines.length none)]⟩) := by
        simp only [BareLines.read, LineBackend.noting, filling]
      rcases answer with fault | ⟨⟩
      · rw [Program.run_bind_of_error (Program.run_act_of_error _ read)]
      · rw [Program.run_bind_of_ok (Program.run_act_of_ok _ read)]
        rfl
  | set lines values =>
      simp only [Use.performBare, Program.state_map, BareLines.set, Use.transfers]
      by_cases uneven : lines.length ≠ values.length
      · rw [if_pos uneven, if_neg (by omega), List.append_nil]
        rfl
      by_cases many : bare.count < lines.length
      · rw [if_neg uneven, if_pos many, if_neg (by omega), List.append_nil]
        rfl
      · rw [if_neg uneven, if_neg many, if_pos (by omega)]
        rfl

theorem transfers_attemptAll {ε : Type} (bare : BareLines Request) (uses : List Use)
    (noted : Transferred σ) :
    ((Program.attemptAll (uses.map (Use.performBare backend.noting bare)) :
        Program _ ε _).run noted).state.transfers =
      noted.transfers ++ uses.flatMap (Use.transfers bare.count) := by
  induction uses generalizing noted with
  | nil => exact (List.append_nil _).symm
  | cons use uses ih =>
      rw [List.map_cons, Program.run_attemptAll_cons]
      dsimp only
      rw [ih, transfers_performBare, List.append_assoc, List.flatMap_cons]

end Noting

theorem lineCount_acquire {backend : LineBackend σ Chip Request} {memory : Memory}
    {device consumer : String} {lines : List LineNumber} {configs : List LineConfig} {world : σ}
    {request : LineRequest Chip Request}
    (opened : ((acquire backend memory device consumer lines configs).run world).answer =
      .ok request) : request.lineCount = lines.length := by
  simp only [acquire, Program.answer_bind_eq_ok, Program.answer_undoing] at opened
  rcases opened with ⟨_, _, settings, _, _, _, chip, _, taken⟩
  simp only [takeLines, Program.answer_bind_eq_ok] at taken
  rcases taken with ⟨slots, provided, lines', _, _, _, answered⟩
  cases answered
  simp only [Memory.allocate] at provided
  rcases reserved : memory.reserve lines.length 1 with cause | ⟨⟩
  · rw [reserved] at provided
    cases provided
  · rw [reserved] at provided
    cases provided
    exact List.length_replicate

/-- A request behaves as if it had no buffer, however it is used and whatever the backend does.
1. Noting the calls that reach lines changes neither answers nor states nor journal.
2. The answers and the calls are those of lines that are held without a buffer.
3. A use that passes the checks of its lengths makes one call: a read with empty slots, or a write
   with the values to drive. A use that does not makes none.
4. The number of lines stays what it was when the request was opened.
5. Lines that are read all have a state in their slot, and these states are the answer.
6. Otherwise the line at fault is the first one that has none. -/
theorem staging_never_surfaces {ε : Type} (backend : LineBackend σ Chip Request) {memory : Memory}
    {device consumer : String} {lines : List LineNumber} {configs : List LineConfig} {start : σ}
    {request : LineRequest Chip Request}
    (opened : ((acquire backend memory device consumer lines configs).run start).answer =
      .ok request)
    (granted : ∀ count ≤ lines.length, memory.reserve count 1 = .ok ())
    (uses : List Use) (world : σ) :
    let bare : BareLines Request := ⟨request.request, lines.length⟩
    let staged := (Program.attemptAll (uses.map (Use.perform backend.noting memory)) :
      Program _ ε _).run (request, ⟨world, []⟩)
    let direct := (Program.attemptAll (uses.map (Use.performBare backend.noting bare)) :
      Program _ ε _).run ⟨world, []⟩
    (Program.attemptAll (uses.map (Use.perform backend memory))).run (request, world) =
      staged.view unnoted id ∧
    (staged.answer = direct.answer ∧ staged.state.2 = direct.state ∧
      staged.journal = direct.journal) ∧
    staged.state.2.transfers = uses.flatMap (Use.transfers lines.length) ∧
    staged.state.1.lineCount = lines.length ∧
    (∀ asked slots states, BareLines.collect asked slots = .ok states ↔
      states.length = asked.length ∧
        ∀ place < asked.length, slots[place]?.join = states[place]?) ∧
    ∀ asked slots error, BareLines.collect asked slots = .error error ↔
      ∃ (place : Nat) (line : LineNumber), asked[place]? = some line ∧
        error = .valueMissing line ∧ slots[place]?.join = none ∧
        ∀ earlier < place, slots[earlier]?.join ≠ none := by
  intro bare staged direct
  have stages : Stages bare (request, (⟨world, []⟩ : Transferred σ)) ⟨world, []⟩ :=
    ⟨rfl, lineCount_acquire opened, rfl⟩
  have agrees : Program.Agrees (Stages bare)
      (Program.attemptAll (uses.map (Use.perform backend.noting memory)) : Program _ ε _)
      (Program.attemptAll (uses.map (Use.performBare backend.noting bare))) :=
    Program.agrees_attemptAll (Use.agrees_perform backend.noting granted) uses
  rcases agrees _ _ stages with ⟨answered, ⟨_, sameCount, sameState⟩, noted⟩
  refine ⟨Program.mirrors_attemptAll (mirrors_perform_noting backend memory) uses
    (request, ⟨world, []⟩), ⟨answered, sameState, noted⟩, ?_, sameCount,
    fun asked slots states => BareLines.collect_eq_ok_iff,
    fun asked slots error => BareLines.collect_eq_error_iff⟩
  rw [show staged.state.2 = direct.state from sameState]
  exact transfers_attemptAll backend bare uses ⟨world, []⟩

/-- Line 5 gives no value. The value that line 4 was driven to before is left in the buffer at the
place where line 5 is read, and reading it fails all the same. -/
theorem staging_never_surfaces_from_silent_line :
    let backend := Bench.MemoryChip.backend
    let world : Bench.MemoryChip := { Bench.MemoryChip.idle with
      faults := { Bench.ChipFaults.none with silent := [5] } }
    let opening := (acquire backend .addressSpace "/dev/gpiochip0" "reader" [4, 5]
      [.output .inactive, .input]).run world
    let request : LineRequest Unit Unit := ⟨(), (), [none, none]⟩
    let uses : List Use := [.set [4] [.active], .get [5], .get [4], .get [4, 5, 4]]
    let staged := (Program.attemptAll (uses.map (Use.perform backend.noting .addressSpace)) :
      Program _ LineError _).run (request, ⟨opening.state, []⟩)
    opening.answer = .ok request ∧
      (∀ count ≤ 2, Memory.addressSpace.reserve count 1 = .ok ()) ∧
      staged.answer = .ok [.ok .nothing, .error (.valueMissing 5), .ok (.states [.active]),
        .error (BareLines.tooMany [4, 5, 4] 2)] ∧
      staged.state.2.transfers =
        [.write [4] [some .active], .read [5] [none], .read [4] [none]] ∧
      staged.state.1.lineCount = 2 := by
  intro backend world opening request uses staged
  have opened : opening.answer = .ok request := rfl
  have granted : ∀ count ≤ 2, Memory.addressSpace.reserve count 1 = .ok () := by
    intro count few
    rcases count with _ | _ | _ | count
    · rfl
    · rfl
    · rfl
    · omega
  rcases staging_never_surfaces (ε := LineError) backend opened granted uses opening.state with
    ⟨_, ⟨answered, _, _⟩, transferred, sameCount, _⟩
  exact ⟨opened, granted, answered, transferred, sameCount⟩

end LineRequest

end Pinwire

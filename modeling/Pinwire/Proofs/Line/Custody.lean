import Pinwire.Bench.MemoryChip
import Pinwire.Proofs.Line.Accounted

/-!
# What a session holds

A session has the chips and lines of its handles under custody. This file shows what each step of a
session does to them, whatever the backend answers: openings take a chip and lines of it or, if they
fail, give back what they had taken; other calls leave everything where it is; and a handle that is
given up gives back its lines first and its chip after them. It follows that nothing is ever lost or
given back twice.
-/

namespace Pinwire

namespace LineRequest

variable {σ Chip Request ε : Type}

/-- A program that opens a request either takes a chip and lines of it or is abandoned. -/
def Opens (wrap : LineError → ε)
    (program : Program (Accounted σ) ε (NumberedRequest Chip Request)) : Prop :=
  ∀ state,
    (∃ request, (program.run state).answer = .ok request ∧
      request.held = ⟨state.ledger.next .chip, state.ledger.next .lines⟩ ∧
      (program.run state).state.ledger =
        state.ledger ++ [.granted .chip request.held.chip, .granted .lines request.held.lines]) ∨
    ∃ error entries, (program.run state).answer = .error error ∧
      Abandoned wrap state.ledger error entries ∧
      (program.run state).state.ledger = state.ledger ++ entries

section Opens

variable {wrap : LineError → ε}

theorem opens_fail (error : ε) :
    Opens wrap (.fail error :
      Program (Accounted σ) ε (NumberedRequest Chip Request)) :=
  fun _ => .inr ⟨error, [], rfl, .early error, (List.append_nil _).symm⟩

theorem opens_bind {α : Type} {first : Program (Accounted σ) ε α}
    {next : α → Program (Accounted σ) ε (NumberedRequest Chip Request)}
    (kept : Program.Keeps Accounted.ledger first) (nextOpens : ∀ value, Opens wrap (next value)) :
    Opens wrap (first >>= next) := by
  intro state
  have firstKept := kept state
  rcases outcome : first.run state with ⟨error | value, reached, journal⟩
  · rw [outcome] at firstKept
    rw [Program.run_bind_of_error outcome]
    exact .inr ⟨error, [], rfl, .early error, by rw [List.append_nil]; exact firstKept⟩
  · rw [outcome] at firstKept
    have ended := nextOpens value reached
    rw [show reached.ledger = state.ledger from firstKept] at ended
    rw [Program.run_bind_of_ok outcome]
    exact ended

theorem opens_mapError {ε' : Type} (context : ε → ε')
    {program : Program (Accounted σ) ε (NumberedRequest Chip Request)}
    (opens : Opens wrap program) : Opens (context ∘ wrap) (.mapError context program) := by
  intro state
  rcases opens state with ⟨request, answered, numbered, listed⟩ |
    ⟨error, entries, failed, abandoned, listed⟩
  · refine .inl ⟨request, ?_, numbered, listed⟩
    simp only [Program.run, Program.mapError] at answered ⊢
    rw [answered]
    rfl
  · refine .inr ⟨context error, entries, ?_, ?_, listed⟩
    · simp only [Program.run, Program.mapError] at failed ⊢
      rw [failed]
      rfl
    · cases abandoned with
      | early error => exact .early _
      | chipRefused path fault => exact .chipRefused path fault
      | slotsRefused cause => exact .slotsRefused cause
      | linesRefused path fault => exact .linesRefused path fault

variable (backend : LineBackend σ Chip Request) (memory : Memory)

/-- Taking lines of an open chip either succeeds or is refused by the memory or the chip. -/
theorem run_takeLines (device consumer : String) (lines : List LineNumber)
    (settings : List (LineNumber × LineConfig)) (chip : Numbered Chip) (state : Accounted σ) :
    let outcome :=
      (takeLines backend.accounted memory device consumer lines settings chip).run state
    (∃ request, outcome.answer = .ok request ∧
      request.held = ⟨chip.number, state.ledger.next .lines⟩ ∧
      outcome.state.ledger = state.ledger ++ [.granted .lines request.held.lines]) ∨
    (∃ cause, outcome.answer = .error (.outOfMemory cause) ∧ outcome.state = state) ∨
    ∃ fault, outcome.answer = .error (.lineRequestFailed device fault) ∧
      outcome.state.ledger = state.ledger ++ [.refused .lines fault] := by
  rcases provided : memory.allocate lines.length 1 (none : Slot) with cause | slots
  · simp only [takeLines, provided]
    exact .inr (.inl ⟨cause, rfl, rfl⟩)
  have allocated : (Except.ok slots : Except AllocationError (List Slot)).mapError
      LineError.outOfMemory = .ok slots := rfl
  simp only [takeLines, provided, allocated, Program.ofExcept_ok_bind]
  rcases asked : backend.requestLines chip.value consumer settings state.world with
    ⟨fault | request, world⟩
  · have refused : (Program.act (LineError.lineRequestFailed device)
        (backend.accounted.requestLines chip consumer settings)).run state =
        ⟨.error (.lineRequestFailed device fault),
          ⟨world, state.ledger ++ [.refused .lines fault]⟩, []⟩ :=
      Program.run_act_of_error _ (by simp only [LineBackend.accounted, asked])
    rw [Program.run_bind_of_error refused]
    exact .inr (.inr ⟨fault, rfl, rfl⟩)
  · have granted : (Program.act (LineError.lineRequestFailed device)
        (backend.accounted.requestLines chip consumer settings)).run state =
        ⟨.ok ⟨request, state.ledger.next .lines⟩,
          ⟨world, state.ledger ++ [.granted .lines (state.ledger.next .lines)]⟩, []⟩ :=
      Program.run_act_of_ok _ (by simp only [LineBackend.accounted, asked])
    rw [Program.run_bind_of_ok granted]
    exact .inl ⟨_, rfl, rfl, rfl⟩

theorem opens_acquire (device consumer : String) (lines : List LineNumber)
    (configs : List LineConfig) :
    Opens id (acquire backend.accounted memory device consumer lines configs) := by
  refine opens_bind (Program.keeps_ofExcept _) fun _ =>
    opens_bind (Program.keeps_ofExcept _) fun settings =>
    opens_bind (Program.keeps_record _ _ _) fun _ state => ?_
  rcases opened : backend.openChip device state.world with ⟨fault | chip, world⟩
  · have refused : (Program.act (LineError.chipOpenFailed device)
        (backend.accounted.openChip device)).run state =
        ⟨.error (.chipOpenFailed device fault),
          ⟨world, state.ledger ++ [.refused .chip fault]⟩, []⟩ :=
      Program.run_act_of_error _ (by simp only [LineBackend.accounted, opened])
    rw [Program.run_bind_of_error refused]
    exact .inr ⟨_, _, rfl, .chipRefused device fault, rfl⟩
  · have taken : (Program.act (LineError.chipOpenFailed device)
        (backend.accounted.openChip device)).run state =
        ⟨.ok ⟨chip, state.ledger.next .chip⟩,
          ⟨world, state.ledger ++ [.granted .chip (state.ledger.next .chip)]⟩, []⟩ :=
      Program.run_act_of_ok _ (by simp only [LineBackend.accounted, opened])
    rw [Program.run_bind_of_ok taken]
    rcases ended : (takeLines backend.accounted memory device consumer lines settings
      ⟨chip, state.ledger.next .chip⟩).run
      ⟨world, state.ledger ++ [.granted .chip (state.ledger.next .chip)]⟩ with
      ⟨answer, reached, journal⟩
    have cases := run_takeLines backend memory device consumer lines settings
      ⟨chip, state.ledger.next .chip⟩
      ⟨world, state.ledger ++ [.granted .chip (state.ledger.next .chip)]⟩
    simp only [ended, Ledger.next_append, List.append_assoc] at cases
    rcases cases with ⟨request, rfl, numbered, listed⟩ | ⟨cause, rfl, rfl⟩ | ⟨fault, rfl, listed⟩
    · rw [Program.run_undoing_of_ok ended]
      have numbered' : request.held =
          ⟨state.ledger.next .chip, state.ledger.next .lines⟩ := by
        rw [numbered]
        rfl
      refine .inl ⟨request, rfl, numbered', ?_⟩
      rw [listed, numbered']
      rfl
    · rw [Program.run_undoing_of_error ended]
      exact .inr ⟨_, _, rfl, .slotsRefused cause, List.append_assoc _ _ _⟩
    · rw [Program.run_undoing_of_error ended]
      refine .inr ⟨_, _, rfl, .linesRefused device fault, ?_⟩
      simp only [LineBackend.accounted, listed, List.append_assoc]
      rfl

theorem opens_setup (settings : LineSettings) :
    Opens id (setup backend.accounted memory settings) :=
  opens_acquire backend memory _ _ _ _

theorem opens_ofOptions (options : List (String × String)) :
    Opens id (ofOptions backend.accounted memory options) :=
  opens_bind (LineSettings.keeps_ofOptions options) fun settings =>
    opens_setup backend memory settings

theorem opens_ofDescription (file : Option BusFile) (options : Option String) :
    Opens Failure.line (ofDescription backend.accounted memory file options) := by
  unfold ofDescription
  split
  · exact opens_mapError _ (opens_ofOptions backend memory _)
  · exact opens_mapError _ (opens_setup backend memory _)
  · exact opens_fail _

end Opens

/-- What is behind a handle, and the ledger. -/
def heldState (state : NumberedRequest Chip Request × Accounted σ) :
    Held × Ledger :=
  (state.1.held, state.2.ledger)

section Keeps

variable (backend : LineBackend σ Chip Request) (memory : Memory)

theorem keeps_get (lines : List LineNumber) :
    Program.Keeps heldState (get backend.accounted memory lines) :=
  keeps_get_of_stageRead fun _ => rfl

theorem keeps_set (lines : List LineNumber) (values : List PinState) :
    Program.Keeps heldState (set backend.accounted lines values) :=
  Program.keeps_bind Program.keeps_current fun _ =>
    Program.keeps_bind (Program.keeps_ofExcept _) fun _ =>
    Program.keeps_bind (Program.keeps_ofExcept _) fun _ =>
    Program.keeps_act _ fun _ => rfl

theorem keeps_bus : LineBus.Keeps heldState (bus backend.accounted memory) where
  get := keeps_get backend memory
  set states := keeps_set backend states.lines states.values

end Keeps

end LineRequest

/-- What a step is for: opening a request under a handle, using it, or giving it up. -/
inductive LineStep.Kind where
  | opens
  | uses
  | returns
  deriving Repr, DecidableEq

/-- What a step is for. -/
def LineStep.kind : LineStep → LineStep.Kind
  | acquire .. | setup .. | setupOptions .. | setupDescription .. => .opens
  | drive .. | countLines | call .. => .uses
  | close | drop => .returns

/-- What a step on a handle does to the things under custody. -/
inductive Custody.Transition (number : Nat) (custody : Custody) :
    LineStep.Kind → Except StepError Reply → Custody → Prop where
  | opened :
      Transition number custody .opens (.ok .nothing) ((custody.release number).grant number)
  | abandoned {error : StepError} {entries : Ledger}
      (failed : Abandoned (.failed ∘ .line) (custody.release number).ledger error entries) :
      Transition number custody .opens (.error error) ((custody.release number).note entries)
  | used (answer : Except StepError Reply) : Transition number custody .uses answer custody
  | returned {held : Held} (found : custody.handles.find? number = some held) :
      Transition number custody .returns (.ok .nothing) (custody.release number)
  | absent (absent : custody.handles.find? number = none) :
      Transition number custody .returns (.error .handleEmpty) custody

namespace Custody

variable {custody custody' : Custody} {number : Nat}

theorem find?_release (custody : Custody) (number : Nat) :
    (custody.release number).handles.find? number = none := by
  unfold release
  split
  · exact Handles.find?_erase _ _
  · assumption

theorem release_of_absent (absent : custody.handles.find? number = none) :
    custody.release number = custody := by
  simp only [release, absent]

theorem Transition.handles_of_abandoned {error : StepError}
    (changed : Transition number custody .opens (.error error) custody') :
    custody'.handles = (custody.release number).handles := by
  cases changed with
  | abandoned failed => rfl

/-- Whatever a step does, what was handed out stays accounted for. -/
theorem Balanced.transition {kind : LineStep.Kind} {answer : Except StepError Reply}
    (balanced : Balanced custody) (changed : Transition number custody kind answer custody') :
    Balanced custody' := by
  cases changed with
  | opened => exact (balanced.release number).grant (custody.find?_release number)
  | abandoned failed => exact (balanced.release number).abandoned failed
  | used answer => exact balanced
  | returned found => exact balanced.release number
  | absent absent => exact balanced

end Custody

namespace LineSession

variable {σ Chip Request : Type}

/-- What a session has under custody. -/
def custody (session : AccountedSession σ Chip Request) : Custody :=
  ⟨session.handles.mapValues LineRequest.held, session.world.ledger⟩

theorem find?_custody (session : AccountedSession σ Chip Request) (number : Nat) :
    session.custody.handles.find? number =
      (session.handles.find? number).map LineRequest.held :=
  Handles.find?_mapValues _ _ _

section Transitions

variable (backend : LineBackend σ Chip Request) (memory : Memory) (number : Nat)
  (session : AccountedSession σ Chip Request)

theorem custody_dropHandle :
    (dropHandle backend.accounted number session).custody = session.custody.release number := by
  simp only [dropHandle, custody, Custody.release, Handles.find?_mapValues]
  rcases session.handles.find? number with _ | request
  · rfl
  · simp only [Option.map_some, Handles.erase_mapValues, LineRequest.release,
      LineBackend.accounted, List.append_assoc]
    rfl

/-- Opening under a handle first gives back what it holds. -/
theorem transition_openAs
    {opening : Program (Accounted σ) Failure (NumberedRequest Chip Request)}
    (opens : LineRequest.Opens Failure.line opening) :
    let outcome := (openAs backend.accounted number opening).run session
    Custody.Transition number session.custody .opens outcome.answer outcome.state.custody := by
  have dropped := custody_dropHandle backend number session
  generalize cleared_eq : dropHandle backend.accounted number session = cleared at dropped
  simp only [openAs, Program.run_change_bind, cleared_eq]
  rcases outcome : (Program.mapError StepError.failed opening).run cleared.world with
    ⟨answer, reached, journal⟩
  have ran : (Program.within (·.world) (fun session world => { session with world })
      (Program.mapError StepError.failed opening)).run cleared =
      ⟨answer, { cleared with world := reached }, journal⟩ := by
    rw [Program.run_within, outcome]
  have ended := LineRequest.opens_mapError StepError.failed opens cleared.world
  rw [outcome] at ended
  rcases ended with ⟨request, rfl, numbered, listed⟩ | ⟨error, entries, rfl, abandoned, listed⟩ <;>
    dsimp only at listed
  · rw [Program.run_bind_of_ok ran, Program.run_change_bind]
    have granted : custody ⟨cleared.handles.insert number request, reached⟩ =
        (session.custody.release number).grant number := by
      rw [← dropped]
      simp only [custody, Custody.grant, ← Handles.insert_mapValues, numbered, listed]
    rw [Program.run_pure]
    simp only [granted]
    exact .opened
  · rw [Program.run_bind_of_error ran]
    have noted : custody { cleared with world := reached } =
        (session.custody.release number).note entries := by
      rw [← dropped]
      simp only [custody, Custody.note, listed]
    simp only [noted]
    refine .abandoned ?_
    rw [← dropped]
    exact abandoned

theorem custody_onRequest {α : Type} {program :
      Program (NumberedRequest Chip Request × Accounted σ) Failure α}
    (kept : Program.Keeps LineRequest.heldState program)
    (ordered : session.custody.handles.Ordered) :
    ((onRequest number program).run session).state.custody = session.custody := by
  simp only [onRequest, Program.run_current_bind]
  rcases found : session.handles.find? number with _ | request
  · rfl
  · have same := Program.keeps_mapError StepError.failed kept (request, session.world)
    simp only [LineRequest.heldState, Prod.mk.injEq] at same
    have there : session.custody.handles.find? number = some request.held := by
      rw [find?_custody, found, Option.map_some]
    have unchanged : (session.handles.mapValues LineRequest.held).insert number request.held =
        session.handles.mapValues LineRequest.held :=
      Handles.insert_of_find? ordered there
    simp only [Program.run_within, custody, ← Handles.insert_mapValues, same, unchanged]

theorem transition_returns (step : LineStep) (returns : step.kind = .returns) :
    let outcome := (LineSession.step backend.accounted memory number step).run session
    Custody.Transition number session.custody .returns outcome.answer outcome.state.custody := by
  intro outcome
  rcases found : session.handles.find? number with _ | request
  · have absent : session.custody.handles.find? number = none := by
      rw [find?_custody, found, Option.map_none]
    have nothing : outcome = ⟨.error .handleEmpty, session, []⟩ := by
      cases step <;> cases returns <;>
        simp only [outcome, LineSession.step, Program.run_current_bind, found] <;> rfl
    rw [nothing]
    exact .absent absent
  · have there : session.custody.handles.find? number = some request.held := by
      rw [find?_custody, found, Option.map_some]
    have gone : dropHandle backend.accounted number session =
        ⟨session.handles.erase number, request.release backend.accounted session.world⟩ := by
      simp only [dropHandle, found]
    have answered : outcome.answer = .ok .nothing ∧
        outcome.state = dropHandle backend.accounted number session := by
      cases step with
      | close =>
          simp only [outcome, LineSession.step, Program.run_current_bind, found, gone]
          exact ⟨rfl, rfl⟩
      | drop =>
          simp only [outcome, LineSession.step, Program.run_current_bind, found]
          exact ⟨rfl, rfl⟩
      | _ => cases returns
    rw [answered.1, answered.2, custody_dropHandle]
    exact .returned there

/-- What each step does to the things under custody, whatever the backend answers. -/
theorem transition_step (ordered : session.custody.handles.Ordered) (step : LineStep) :
    let outcome := (LineSession.step backend.accounted memory number step).run session
    Custody.Transition number session.custody step.kind outcome.answer outcome.state.custody := by
  intro outcome
  have used {α : Type} {program :
      Program (NumberedRequest Chip Request × Accounted σ) Failure α}
      (kept : Program.Keeps LineRequest.heldState program) :=
    custody_onRequest number session kept ordered
  cases step with
  | acquire device consumer lines configs =>
      exact transition_openAs _ _ _ (LineRequest.opens_mapError Failure.line
        (LineRequest.opens_acquire backend memory device consumer lines configs))
  | setup settings =>
      exact transition_openAs _ _ _ (LineRequest.opens_mapError Failure.line
        (LineRequest.opens_setup backend memory settings))
  | setupOptions options =>
      exact transition_openAs _ _ _ (LineRequest.opens_mapError Failure.line
        (LineRequest.opens_ofOptions backend memory options))
  | setupDescription file options =>
      exact transition_openAs _ _ _ (LineRequest.opens_bind (Program.keeps_ofExcept _) fun file =>
        LineRequest.opens_ofDescription backend memory file options)
  | drive lines states =>
      have same : outcome.state.custody = session.custody := by
        simp only [outcome, LineSession.step, Program.state_map]
        exact used (Program.keeps_mapError _ (LineRequest.keeps_set backend lines states))
      rw [same]
      exact .used _
  | countLines =>
      have same : outcome.state.custody = session.custody :=
        used (Program.keeps_map _ Program.keeps_current)
      rw [same]
      exact .used _
  | call call =>
      have same : outcome.state.custody = session.custody :=
        used (Program.keeps_mapError _
          (LineBus.keeps_perform (LineRequest.keeps_bus backend memory) call))
      rw [same]
      exact .used _
  | close => exact transition_returns _ _ _ _ _ rfl
  | drop => exact transition_returns _ _ _ _ _ rfl

end Transitions

section Runs

variable {ε : Type} (backend : LineBackend σ Chip Request) (memory : Memory)

/-- Whatever steps are carried out, what was handed out stays accounted for. -/
theorem balanced_carryOut (steps : List (Nat × LineStep))
    {session : AccountedSession σ Chip Request}
    (balanced : session.custody.Balanced) :
    ((carryOut backend.accounted memory steps : Program _ ε _).run
      session).state.custody.Balanced := by
  induction steps generalizing session with
  | nil => exact balanced
  | cons entry steps ih =>
      rw [carryOut, List.map_cons, Program.run_attemptAll_cons]
      exact ih (balanced.transition
        (transition_step backend memory entry.1 session balanced.ordered entry.2))

/-- Giving back everything at the end lists the lines and the chip of each handle in turn. -/
theorem ledger_finish (session : AccountedSession σ Chip Request) :
    (finish backend.accounted session).ledger = session.custody.finish.ledger := by
  rcases session with ⟨handles, world⟩
  simp only [finish, custody, Custody.finish]
  induction handles generalizing world with
  | nil => exact (List.append_nil _).symm
  | cons entry handles ih =>
      rw [List.foldl_cons, ih]
      simp only [LineRequest.release, LineBackend.accounted, List.append_assoc]
      rfl

/-- Nothing that a session is granted is ever lost or released twice, whatever its steps are and
whatever the backend answers.
1. Keeping a ledger changes neither answers nor states nor journal.
2. There are as many open chips and as many live requests as there are handles that hold something,
   and neither is released more than once.
3. The next step has one of five effects: an opening is granted a chip and lines of it; or it fails
   and releases exactly what it was granted; a call leaves everything where it is; a handle that is
   given up releases its lines and then its chip; an empty handle has nothing to release.
4. An opening that fails on an empty handle leaves both numbers as they were.
5. After everything has been given back at the end, nothing is left open. -/
theorem custody_never_leaks (steps : List (Nat × LineStep)) (world : σ) :
    let outcome := (carryOut backend.accounted memory steps : Program _ ε _).run (start ⟨world, []⟩)
    let session := outcome.state
    let ledger := session.world.ledger
    let next (number : Nat) (step : LineStep) :=
      (LineSession.step backend.accounted memory number step).run session
    (carryOut backend memory steps).run (start world) = outcome.view plain id ∧
    (∀ kind, (ledger.live kind).length = session.handles.length ∧
      (ledger.released kind ++ session.custody.handles.numbers kind).Nodup) ∧
    (∀ number step, Custody.Transition number session.custody step.kind (next number step).answer
      (next number step).state.custody) ∧
    (∀ number step error, step.kind = .opens → session.handles.find? number = none →
      (next number step).answer = .error error →
      ∀ kind, ((next number step).state.world.ledger.live kind).length =
        (ledger.live kind).length) ∧
    ∀ kind, (finish backend.accounted session).ledger.live kind = [] := by
  intro outcome session ledger next
  have balanced : session.custody.Balanced :=
    balanced_carryOut backend memory steps Custody.Balanced.initial
  have changed (number : Nat) (step : LineStep) :
      Custody.Transition number session.custody step.kind (next number step).answer
        (next number step).state.custody :=
    transition_step backend memory number session balanced.ordered step
  have length_live (kind : Resource) : (ledger.live kind).length = session.handles.length :=
    (balanced.length_live kind).trans (List.length_map _)
  refine ⟨mirrors_carryOut backend memory steps (start ⟨world, []⟩),
    fun kind => ⟨length_live kind, (balanced.account kind).nodup⟩, changed,
    fun number step error opens empty failed kind => ?_, fun kind => ?_⟩
  · have absent : session.custody.handles.find? number = none := by
      rw [find?_custody, empty, Option.map_none]
    have effect := changed number step
    rw [opens, failed] at effect
    have same : (next number step).state.custody.handles = session.custody.handles := by
      rw [effect.handles_of_abandoned, Custody.release_of_absent absent]
    have after := (balanced.transition (changed number step)).length_live kind
    rw [same] at after
    exact after.trans (balanced.length_live kind).symm
  · rw [ledger_finish]
    exact List.eq_nil_of_length_eq_zero (balanced.finish.length_live kind)

end Runs

/-- A chip that hands over single lines only. The opening of two lines under a second handle fails
and releases its chip again, and the first handle releases its own line and chip. -/
theorem custody_of_single_lines :
    let backend : LineBackend Bench.MemoryChip Unit Unit :=
      { Bench.MemoryChip.backend with
        requestLines := fun _ consumer settings chip =>
          if settings.length = 1 then Bench.MemoryChip.requestLines consumer settings chip
          else (.error "busy", chip) }
    let single := LineStep.acquire "/dev/gpiochip0" "reader" [4] [.input]
    let double := LineStep.acquire "/dev/gpiochip0" "writer" [5, 6] [.input, .input]
    let session := ((carryOut backend.accounted .addressSpace [(0, single)] :
      Program _ StepError _).run (start ⟨.idle, []⟩)).state
    let next (number : Nat) (step : LineStep) :=
      (LineSession.step backend.accounted .addressSpace number step).run session
    session.world.ledger = [.granted .chip 0, .granted .lines 0] ∧
      session.handles.find? 1 = none ∧
      (next 1 double).answer =
        .error (.failed (.line (.lineRequestFailed "/dev/gpiochip0" "busy"))) ∧
      (next 1 double).state.world.ledger =
        session.world.ledger ++ [.granted .chip 1, .refused .lines "busy", .released .chip 1] ∧
      (∀ kind, ((next 1 double).state.world.ledger.live kind).length =
        (session.world.ledger.live kind).length) ∧
      (next 0 .close).state.world.ledger =
        session.world.ledger ++ [.released .lines 0, .released .chip 0] := by
  intro backend single double session next
  have empty : session.handles.find? 1 = none := rfl
  have failed : (next 1 double).answer =
      .error (.failed (.line (.lineRequestFailed "/dev/gpiochip0" "busy"))) := rfl
  rcases custody_never_leaks backend .addressSpace [(0, single)] .idle with ⟨_, _, _, unchanged, _⟩
  exact ⟨rfl, empty, failed, rfl, unchanged 1 double _ rfl empty failed, rfl⟩

end LineSession

end Pinwire

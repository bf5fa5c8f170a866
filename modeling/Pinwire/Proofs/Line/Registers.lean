import Pinwire.Proofs.Line.Accounted
import Pinwire.Proofs.Line.Levels
import Pinwire.Proofs.Line.Opening
import Pinwire.Proofs.Line.Staging

/-!
# Lines as registers

On a backend that keeps a register for every line number, so does every session: whichever handles
lines are requested, driven and read through, in whatever order and however often they are named in
a call, what is read of a line is what was assigned to it last.

What a step assigns is known from the step alone. The invariant of a run is that the levels are
those at its start after the assignments of the steps that succeeded, in order.
-/

namespace Pinwire

/-- What a call assigns to lines if it succeeds. -/
def LineCall.assignments : LineCall → List (LineNumber × PinState)
  | set states => states.entries
  | setOne line state => [(line, state)]
  | assign items =>
    match Assignment.parse items with
    | .ok states => states.entries
    | .error _ => []
  | get _ | getOne _ | printStates _ => []

namespace LineRequest

/-- The first states of the lines that options ask for. -/
def optionStates (options : List (String × String)) : List (LineNumber × PinState) :=
  match ((LineSettings.ofOptions options : Program Unit _ _).run ()).answer with
  | .ok settings => initialStates settings.lines
  | .error _ => []

/-- The first states of the lines of the bus that a text of options, or else a bus file,
describes. -/
def describedStates (file : Option BusFile) (options : Option String) :
    List (LineNumber × PinState) :=
  match options, file.bind BusFile.lineSettings with
  | some text, _ => optionStates (OptionText.parse text)
  | none, some settings => initialStates settings.lines
  | none, none => []

end LineRequest

namespace LineStep

/-- What a step assigns to lines if it succeeds. -/
def assignments : LineStep → List (LineNumber × PinState)
  | acquire _ _ lines configs => initialStates (lines.zip configs)
  | setup settings => initialStates settings.lines
  | setupOptions options => LineRequest.optionStates options
  | setupDescription file options =>
    match LineSession.loadedFile Failure.busFile file with
    | .ok file => LineRequest.describedStates file options
    | .error _ => []
  | drive lines states => lines.zip states
  | call request => request.assignments
  | countLines | close | drop => []

end LineStep

namespace LineRequest

variable {σ Chip Request : Type} {backend : LineBackend σ Chip Request} {levels : σ → Levels}
  {memory : Memory}

section Opening

variable (registers : backend.Registers levels)

include registers

theorem assigns_takeLines {device consumer : String} {lines : List LineNumber}
    {settings : List (LineNumber × LineConfig)} {chip : Chip} (once : (settings.map (·.1)).Nodup) :
    Program.Assigns levels (initialStates settings)
      (takeLines backend memory device consumer lines settings chip) := by
  refine Program.assigns_bind (Program.keeps_ofExcept _) fun _ slots _ =>
    Program.assigns_bind_of_answers (Program.assigns_act _ fun world => ?_)
      (fun request => ?_) fun request world => ⟨_, rfl⟩
  · exact registers.requestLines chip consumer settings world once
  · exact Program.keeps_bind (Program.keeps_record _ _ _) fun _ => Program.keeps_pure _

theorem assigns_acquire (device consumer : String) (lines : List LineNumber)
    (configs : List LineConfig) :
    Program.Assigns levels (initialStates (lines.zip configs))
      (acquire backend memory device consumer lines configs) := by
  refine Program.assigns_bind (Program.keeps_ofExcept _) fun _ _ _ =>
    Program.assigns_bind (Program.keeps_ofExcept _) fun _ pairs paired => ?_
  rcases settings_eq_ok paired with ⟨rfl, once⟩
  refine Program.assigns_bind (Program.keeps_record _ _ _) fun _ _ _ =>
    Program.assigns_bind (Program.keeps_act _ (registers.openChip device)) fun _ chip _ => ?_
  exact Program.assigns_undoing (registers.releaseChip chip) (assigns_takeLines registers once)

omit registers in
theorem nodup_of_acquire {device consumer : String} {lines : List LineNumber}
    {configs : List LineConfig} {world : σ} {request : LineRequest Chip Request}
    (opened : ((acquire backend memory device consumer lines configs).run world).answer =
      .ok request) : ((lines.zip configs).map (·.1)).Nodup := by
  simp only [acquire, Program.answer_bind_eq_ok] at opened
  rcases opened with ⟨_, _, pairs, paired, _⟩
  rcases settings_eq_ok paired with ⟨rfl, once⟩
  exact once

theorem assigns_setup (settings : LineSettings) :
    Program.Assigns levels (initialStates settings.lines) (setup backend memory settings) := by
  let sorted := settings.lines.mergeSort fun earlier later => earlier.1 ≤ later.1
  have zipped : (sorted.map (·.1)).zip (sorted.map (·.2)) = sorted := by
    rw [List.zip_map']
    exact List.map_id sorted
  refine Program.assigns_of_answered (assigns_acquire registers _ _ _ _) ?_
  intro world request opened
  -- A line that is named twice would make the order matter, but then nothing is opened.
  have once := nodup_of_acquire opened
  rw [zipped] at once ⊢
  refine lastAssigned_of_perm ?_ ((List.mergeSort_perm _ _).map _)
  rw [initialStates_lines]
  exact once

theorem assigns_ofOptions (options : List (String × String)) :
    Program.Assigns levels (optionStates options) (ofOptions backend memory options) := by
  refine Program.assigns_bind (LineSettings.keeps_ofOptions options) fun world settings read => ?_
  have mirrors : Program.Mirrors (fun _ : σ => ()) id (LineSettings.ofOptions options)
      (LineSettings.ofOptions options) :=
    LineSettings.mirrors_ofOptions options
  have same : optionStates options = initialStates settings.lines := by
    rw [optionStates, mirrors world, Outcome.answer_view_id, read]
  rw [same]
  exact assigns_setup registers settings

theorem assigns_ofDescription (file : Option BusFile) (options : Option String) :
    Program.Assigns levels (describedStates file options)
      (ofDescription backend memory file options) := by
  rcases options with _ | text
  · rcases described : file.bind BusFile.lineSettings with _ | settings
    · simp only [ofDescription, describedStates, described]
      exact Program.assigns_fail _
    · simp only [ofDescription, describedStates, described]
      exact Program.assigns_mapError _ (assigns_setup registers settings)
  · exact Program.assigns_mapError _ (assigns_ofOptions registers _)

end Opening

/-- The levels of lines while a request is in use. -/
def levelsBehind (levels : σ → Levels) (state : LineRequest Chip Request × σ) : Levels :=
  levels state.2

section Calls

variable (registers : backend.Registers levels)

include registers

theorem keeps_get_levels (lines : List LineNumber) :
    Program.Keeps (levelsBehind levels) (get backend memory lines) :=
  keeps_get_of_stageRead fun state => registers.readLines state.1.request lines _ state.2

theorem assigns_set (lines : List LineNumber) (values : List PinState) :
    Program.Assigns (levelsBehind levels) (lines.zip values) (set backend lines values) := by
  have bareAssigns (bare : BareLines Request) :
      Program.Assigns levels (lines.zip values) (bare.set backend lines values) := by
    unfold BareLines.set
    split
    · exact Program.assigns_fail _
    · split
      · exact Program.assigns_fail _
      · refine Program.assigns_act _ fun world => ?_
        rw [← storedStates_map_some]
        exact registers.writeLines bare.request lines _ world
  rintro ⟨request, world⟩
  have stages : Stages ⟨request.request, request.lineCount⟩ (request, world) world :=
    ⟨rfl, rfl, rfl⟩
  -- The buffer makes no difference to what is written, so it is left out here.
  rcases agrees_set backend lines values _ _ stages with ⟨answered, ⟨_, _, reached⟩, _⟩
  rw [answered, levelsBehind, reached]
  exact bareAssigns _ world

theorem assigns_perform (call : LineCall) :
    Program.Assigns (levelsBehind levels) call.assignments
      (call.perform (bus backend memory)) := by
  have keepsGet (lines : List LineNumber) :
      Program.Keeps (levelsBehind levels) ((bus backend memory).get lines) :=
    keeps_get_levels registers lines
  have assignsSet (states : LineStates) :
      Program.Assigns (levelsBehind levels) states.entries ((bus backend memory).set states) := by
    have zipped : states.lines.zip states.values = states.entries := by
      rw [LineStates.lines, LineStates.values, List.zip_map']
      exact List.map_id states.entries
    rw [← zipped]
    exact assigns_set registers states.lines states.values
  cases call with
  | get lines =>
      exact Program.assigns_of_keeps
        (Program.keeps_map _ (Program.keeps_mapError _ (keepsGet lines)))
  | set states => exact Program.assigns_map _ (Program.assigns_mapError _ (assignsSet states))
  | getOne line =>
      exact Program.assigns_of_keeps
        (Program.keeps_map _ (Program.keeps_mapError _ (LineBus.keeps_getOne keepsGet line)))
  | setOne line state => exact Program.assigns_map _ (Program.assigns_mapError _ (assignsSet _))
  | printStates lines =>
      exact Program.assigns_of_keeps
        (Program.keeps_map _ (LineBus.keeps_printStates keepsGet lines))
  | assign items =>
      refine Program.assigns_map _ (Program.assigns_bind (Program.keeps_ofExcept _)
        fun _ states parsed => Program.assigns_bind (Program.keeps_record _ _ _) fun _ _ _ =>
        Program.assigns_mapError _ ?_)
      have same : (LineCall.assign items).assignments = states.entries := by
        rw [LineCall.assignments]
        rcases parse : Assignment.parse items with defect | found
        · rw [parse] at parsed
          cases parsed
        · rw [parse] at parsed
          cases parsed
          rfl
      rw [same]
      exact assignsSet states

omit registers in
/-- Reading lines succeeds only if the backend stores a state for every one of them. -/
theorem collect_of_get {lines : List LineNumber} {states : List PinState}
    {request : LineRequest Chip Request} {world : σ}
    (answered : ((get backend memory lines).run (request, world)).answer = .ok states) :
    ∃ filled, (backend.readLines request.request lines (List.replicate lines.length none)
        world).1 = (.ok (), filled) ∧ BareLines.collect lines filled = .ok states := by
  simp only [get, Program.run_current_bind, Program.answer_bind_eq_ok] at answered
  rcases answered with ⟨_, checked, window, read, answered⟩
  have fits : lines.length ≤ request.lineCount := by
    rw [checkCount_eq] at checked
    by_cases many : request.lineCount < lines.length
    · rw [if_pos many] at checked
      cases checked
    · exact Nat.not_lt.1 many
  change ((Program.act _ (stageRead backend lines)).run (request, world)).answer = _ at read
  rcases filling : backend.readLines request.request lines (List.replicate lines.length none) world
    with ⟨⟨answer, filled⟩, reached⟩
  rcases stageRead_of_fits backend fits filling with ⟨slots, _, staged⟩
  rcases answer with fault | ⟨⟩
  · rw [Program.run_act_of_error _ staged] at read
    cases read
  rw [Program.run_act_of_ok _ staged] at read
  cases read
  refine ⟨filled, rfl, ?_⟩
  rw [collect_window]
  rcases missing : firstMissing? lines (overwrite (List.replicate lines.length none) filled)
    with _ | line
  · simp only [missing, Program.answer_bind_eq_ok] at answered
    rcases answered with ⟨_, _, same⟩
    cases same
    rfl
  · simp only [missing] at answered
    cases answered

/-- The states that are read are the levels of the lines that are asked for. -/
theorem get_eq_levels {lines : List LineNumber} {states : List PinState}
    {request : LineRequest Chip Request} {world : σ}
    (answered : ((get backend memory lines).run (request, world)).answer = .ok states) :
    states = lines.map (levels world) := by
  rcases collect_of_get answered with ⟨filled, read, collected⟩
  rcases BareLines.collect_eq_ok_iff.1 collected with ⟨sameLength, agree⟩
  apply List.ext_getElem?
  intro place
  by_cases inside : place < lines.length
  · have asked : lines[place]? = some lines[place] := List.getElem?_eq_getElem inside
    have answers : place < states.length := by omega
    have found : states[place]? = some states[place] := List.getElem?_eq_getElem answers
    have stored := (agree place inside).trans found
    have empty : (List.replicate lines.length (none : Slot))[place]? = some none := by
      simp [inside]
    rw [List.getElem?_map, asked, found]
    exact congrArg some
      (registers.readStored request.request lines _ world filled place _ _ read asked empty stored)
  · rw [List.getElem?_eq_none (by omega), List.getElem?_eq_none (by simpa using inside)]

end Calls

end LineRequest

namespace LineSession

variable {σ Chip Request : Type} {backend : LineBackend σ Chip Request} {levels : σ → Levels}
  (memory : Memory)

/-- The levels of lines in a session. -/
def lineLevels (levels : σ → Levels) (session : LineSession σ Chip Request) : Levels :=
  levels session.world

/-- What steps with the given answers assigned to lines, in order. -/
def history : List (Nat × LineStep) → List (Except StepError Reply) →
    List (LineNumber × PinState)
  | (_, step) :: steps, .ok _ :: answers => step.assignments ++ history steps answers
  | _ :: steps, .error _ :: answers => history steps answers
  | _, _ => []

section Steps

variable (registers : backend.Registers levels) (number : Nat)

include registers

theorem levels_release (request : LineRequest Chip Request) (world : σ) :
    levels (request.release backend world) = levels world :=
  (registers.releaseChip _ _).trans (registers.releaseRequest _ _)

theorem lineLevels_dropHandle (session : LineSession σ Chip Request) :
    lineLevels levels (dropHandle backend number session) = lineLevels levels session := by
  simp only [dropHandle]
  split
  · exact levels_release registers _ _
  · rfl

theorem assigns_openAs {assignments : List (LineNumber × PinState)}
    {opening : Program σ Failure (LineRequest Chip Request)}
    (assigns : Program.Assigns levels assignments opening) :
    Program.Assigns (lineLevels levels) assignments (openAs backend number opening) := by
  refine Program.assigns_bind (Program.keeps_change (lineLevels_dropHandle registers number))
    fun _ _ _ => Program.assigns_bind_of_answers
      (Program.assigns_within (fun _ => rfl) (fun _ _ => rfl) (Program.assigns_mapError _ assigns))
      (fun request => ?_) fun request session => ⟨_, rfl⟩
  exact Program.keeps_bind (Program.keeps_change fun _ => rfl) fun _ => Program.keeps_pure _

omit registers in
theorem assigns_onRequest {α : Type} {assignments : List (LineNumber × PinState)}
    {program : Program (LineRequest Chip Request × σ) Failure α}
    (assigns : Program.Assigns (LineRequest.levelsBehind levels) assignments program) :
    Program.Assigns (lineLevels levels) assignments (onRequest number program) := by
  refine Program.assigns_bind Program.keeps_current fun _ session _ => ?_
  split
  · exact Program.assigns_fail _
  · exact Program.assigns_within (fun _ => rfl) (fun _ _ => rfl)
      (Program.assigns_mapError _ assigns)

/-- A step that succeeds leaves every line at the level that it assigns, and one that fails leaves
all levels as they were. -/
theorem assigns_step (step : LineStep) :
    Program.Assigns (lineLevels levels) step.assignments
      (LineSession.step backend memory number step) := by
  cases step with
  | acquire device consumer lines configs =>
      exact assigns_openAs registers number
        (Program.assigns_mapError _ (LineRequest.assigns_acquire registers _ _ _ _))
  | setup settings =>
      exact assigns_openAs registers number
        (Program.assigns_mapError _ (LineRequest.assigns_setup registers settings))
  | setupOptions options =>
      exact assigns_openAs registers number
        (Program.assigns_mapError _ (LineRequest.assigns_ofOptions registers options))
  | setupDescription file options =>
      refine assigns_openAs registers number
        (Program.assigns_bind (Program.keeps_ofExcept _) fun _ loaded answered => ?_)
      have content : loadedFile Failure.busFile file = .ok loaded := answered
      simp only [LineStep.assignments, content]
      exact LineRequest.assigns_ofDescription registers loaded options
  | drive lines states =>
      exact Program.assigns_map _ (assigns_onRequest number
        (Program.assigns_mapError _ (LineRequest.assigns_set registers lines states)))
  | countLines =>
      exact assigns_onRequest number
        (Program.assigns_of_keeps (Program.keeps_map _ Program.keeps_current))
  | call call =>
      exact assigns_onRequest number
        (Program.assigns_mapError _ (LineRequest.assigns_perform registers call))
  | close =>
      refine Program.assigns_bind Program.keeps_current fun _ session _ => ?_
      split
      · exact Program.assigns_fail _
      · rename_i request _
        have closed : Program.Keeps levels (request.close backend : Program σ StepError Unit) :=
          Program.keeps_bind (Program.keeps_record _ _ _) fun _ =>
            Program.keeps_change (levels_release registers request)
        exact Program.assigns_bind_of_answers
          (Program.assigns_within (fun _ => rfl) (fun _ _ => rfl) (Program.assigns_of_keeps closed))
          (fun _ => Program.keeps_pure _) fun _ _ => ⟨_, rfl⟩
  | drop =>
      refine Program.assigns_bind Program.keeps_current fun _ session _ => ?_
      split
      · exact Program.assigns_fail _
      · exact Program.assigns_of_keeps (Program.keeps_bind
          (Program.keeps_change (lineLevels_dropHandle registers number)) fun _ =>
          Program.keeps_pure _)

omit registers in
theorem answer_onRequest_eq_ok {α : Type}
    {program : Program (LineRequest Chip Request × σ) Failure α}
    {session : LineSession σ Chip Request} {value : α} :
    ((onRequest number program).run session).answer = .ok value ↔
      ∃ request, session.handles.find? number = some request ∧
        (program.run (request, session.world)).answer = .ok value := by
  rcases found : session.handles.find? number with _ | request
  · simp only [onRequest, Program.run_current_bind, found]
    constructor
    · intro impossible
      cases impossible
    · rintro ⟨request, impossible, _⟩
      cases impossible
  · simp only [onRequest, Program.run_current_bind, found, Program.run_within,
      Program.answer_mapError_eq_ok]
    simp

theorem reply_get {session : LineSession σ Chip Request} {lines : List LineNumber} {reply : Reply}
    (answered : ((LineSession.step backend memory number (.call (.get lines))).run session).answer =
      .ok reply) : reply = .states (lines.map (lineLevels levels session)) := by
  simp only [LineSession.step, LineCall.perform, answer_onRequest_eq_ok,
    Program.answer_mapError_eq_ok, Program.answer_map_eq_ok] at answered
  rcases answered with ⟨request, _, states, read, rfl⟩
  rw [LineRequest.get_eq_levels registers read]
  rfl

theorem reply_getOne {session : LineSession σ Chip Request} {line : LineNumber} {reply : Reply}
    (answered : ((LineSession.step backend memory number (.call (.getOne line))).run
      session).answer = .ok reply) : reply = .state (lineLevels levels session line) := by
  simp only [LineSession.step, LineCall.perform, answer_onRequest_eq_ok,
    Program.answer_mapError_eq_ok, Program.answer_map_eq_ok, LineBus.getOne,
    Program.answer_bind_eq_ok] at answered
  rcases answered with ⟨request, _, state, ⟨states, read, single⟩, rfl⟩
  rw [LineRequest.get_eq_levels registers read] at single
  cases single
  rfl

end Steps

section Runs

variable {ε : Type} (registers : backend.Registers levels)

include registers

theorem lineLevels_carryOut (steps : List (Nat × LineStep)) (session : LineSession σ Chip Request) :
    let outcome := (carryOut backend memory steps : Program _ ε _).run session
    ∃ answers, outcome.answer = .ok answers ∧ answers.length = steps.length ∧
      lineLevels levels outcome.state =
        (lineLevels levels session).assign (history steps answers) := by
  intro outcome
  induction steps generalizing session with
  | nil => exact ⟨[], rfl, rfl, rfl⟩
  | cons entry steps ih =>
      rcases entry with ⟨number, step⟩
      have settled := assigns_step memory registers number step session
      rcases ih ((LineSession.step backend memory number step).run session).state with
        ⟨answers, answered, sameLength, reached⟩
      simp only [outcome, carryOut, List.map_cons, Program.run_attemptAll_cons]
        at answered reached ⊢
      rw [answered, reached, settled]
      refine ⟨_, rfl, congrArg Nat.succ sameLength, ?_⟩
      rcases ((LineSession.step backend memory number step).run session).answer with error | reply
      · rfl
      · exact (Levels.assign_append _ _ _).symm

/-- Lines behave as registers, whichever handles they are used through.
1. After any steps, the level of a line is what the last successful step that assigned to it
   assigned, or what it was at the start: steps that drive lines assign the states they name, and
   steps that request lines the first states of their configurations.
2. Lines that are read next answer with their levels, in the order in which they are asked for.
3. A step that succeeds next sets the lines that it assigns to, the last state of each counting,
   and leaves all others alone.
4. A step that fails changes no level. -/
theorem lines_are_registers (steps : List (Nat × LineStep)) (session : LineSession σ Chip Request) :
    let outcome := (carryOut backend memory steps : Program _ ε _).run session
    ∃ answers, outcome.answer = .ok answers ∧ answers.length = steps.length ∧
      let current : Levels := fun line =>
        (lastAssigned (history steps answers) line).getD (levels session.world line)
      levels outcome.state.world = current ∧
      ∀ number step,
        let next := (LineSession.step backend memory number step).run outcome.state
        (∀ lines reply, step = .call (.get lines) → next.answer = .ok reply →
          reply = .states (lines.map current)) ∧
        (∀ line reply, step = .call (.getOne line) → next.answer = .ok reply →
          reply = .state (current line)) ∧
        (∀ reply, next.answer = .ok reply →
          (∀ line state, lastAssigned step.assignments line = some state →
            levels next.state.world line = state) ∧
          ∀ line, line ∉ step.assignments.map (·.1) →
            levels next.state.world line = current line) ∧
        ∀ error, next.answer = .error error → levels next.state.world = current := by
  intro outcome
  rcases lineLevels_carryOut (ε := ε) memory registers steps session with
    ⟨answers, answered, sameLength, reached⟩
  refine ⟨answers, answered, sameLength, ?_⟩
  intro current
  have currently : levels outcome.state.world = current := reached
  refine ⟨currently, ?_⟩
  intro number step next
  have settled : levels next.state.world =
      (levels outcome.state.world).settle step.assignments next.answer :=
    assigns_step memory registers number step outcome.state
  refine ⟨?_, ?_, ?_, ?_⟩
  · rintro lines reply rfl succeeded
    rw [reply_get memory registers number succeeded, lineLevels, currently]
  · rintro line reply rfl succeeded
    rw [reply_getOne memory registers number succeeded, lineLevels, currently]
  · intro reply succeeded
    rw [succeeded, currently] at settled
    refine ⟨?_, ?_⟩
    · intro line state assigned
      rw [settled, Levels.settle, Levels.assign, assigned, Option.getD_some]
    · intro line unnamed
      rw [settled, Levels.settle, Levels.assign_of_unnamed _ unnamed]
  · intro error failed
    rw [settled, failed, currently]
    rfl

end Runs

/-- Line 4 is driven through one handle and then requested again through another, which is refused
three lines and drives line 5 twice in one call. -/
theorem lines_of_two_handles :
    let steps : List (Nat × LineStep) :=
      [(0, .acquire "/dev/gpiochip0" "first" [5, 4] [.output .active, .output .inactive]),
        (0, .drive [4, 5] [.active, .inactive]),
        (1, .acquire "/dev/gpiochip0" "second" [7, 4] [.output .active, .input]),
        (1, .drive [4, 5, 7] [.active, .active, .inactive]),
        (1, .drive [5, 5] [.inactive, .active])]
    let session :=
      ((carryOut Bench.MemoryChip.backend .addressSpace steps : Program _ StepError _).run
        (start .idle)).state
    let next (number : Nat) (step : LineStep) :=
      (LineSession.step Bench.MemoryChip.backend .addressSpace number step).run session
    let assignments : List (LineNumber × PinState) :=
      [(5, .active), (4, .inactive), (4, .active), (5, .inactive), (7, .active), (4, .inactive),
        (5, .inactive), (5, .active)]
    let current : Levels := fun line => (lastAssigned assignments line).getD .inactive
    Bench.MemoryChip.backend.Registers Bench.MemoryChip.lineLevels ∧
      (next 0 (.call (.get [5, 4]))).answer = .ok (.states [.active, .inactive]) ∧
      [.active, .inactive] = [5, 4].map current ∧
      (next 0 (.drive [4] [])).answer = .error (.failed (.line (BareLines.uneven [4] []))) ∧
      (next 0 (.drive [4] [])).state.world.lineLevels = current := by
  intro steps session next assignments current
  have registers := Bench.MemoryChip.registers
  have read : (next 0 (.call (.get [5, 4]))).answer = .ok (.states [.active, .inactive]) := by
    decide +kernel
  have refused : (next 0 (.drive [4] [])).answer =
      .error (.failed (.line (BareLines.uneven [4] []))) := by
    decide +kernel
  have carried :
      ((carryOut Bench.MemoryChip.backend .addressSpace steps : Program _ StepError _).run
        (start .idle)).answer = .ok [.ok .nothing, .ok .nothing, .ok .nothing,
          .error (.failed (.line (BareLines.tooMany [4, 5, 7] 2))), .ok .nothing] := by
    decide +kernel
  rcases lines_are_registers (ε := StepError) .addressSpace registers steps (start .idle) with
    ⟨answers, answered, _, _, behaves⟩
  have sameAnswers := Except.ok.inj (carried.symm.trans answered)
  have assigned : history steps answers = assignments := by
    rw [← sameAnswers]
    rfl
  have level : (fun line => (lastAssigned (history steps answers) line).getD
      ((start Bench.MemoryChip.idle : LineSession _ Unit Unit).world.lineLevels line)) =
        current := by
    rw [assigned]
    rfl
  rw [level] at behaves
  have readBack := (behaves 0 (.call (.get [5, 4]))).1 [5, 4] _ rfl read
  have unchanged := (behaves 0 (.drive [4] [])).2.2.2 _ refused
  exact ⟨registers, read, Reply.states.inj readBack, refused, unchanged⟩

end LineSession

end Pinwire

import Pinwire.Proofs.Description
import Pinwire.Proofs.Handles
import Pinwire.Proofs.Spi.Opening
import Pinwire.Proofs.Spi.ThreeWire
import Pinwire.Spi.Session

/-!
# What the steps of a session ask of its host

Each step of a session in terms of the calls that it makes: an opening is the opening of the device
that is described, a call is messages on the descriptor of its handle, and giving a handle up is one
closing.
-/

namespace Pinwire

/-- Messages on one descriptor lead from one world to another. -/
inductive SpiHost.Messaged {σ : Type} (host : SpiHost σ) (descriptor : Int) : σ → σ → Prop where
  | nothing (world : σ) : Messaged host descriptor world world
  | message {world reached : σ} (parts : List Descriptor)
      (rest : Messaged host descriptor (host.message descriptor parts world).2 reached) :
      Messaged host descriptor world reached

section Messages

variable {σ : Type} (host : SpiHost σ)

theorem SpiDevice.messaged_sendAll (descriptor : Int) (output : List UInt8)
    (messages : List (List Chunk)) (input : List UInt8) (world : σ) :
    host.Messaged descriptor world
      ((Transfer.sendAll (sink host descriptor) output messages input).run world).state := by
  induction messages generalizing input world with
  | nil => exact .nothing world
  | cons chunks messages ih =>
      rcases answered : host.message descriptor (messageParts output chunks) world with
        ⟨fault | reply, reached⟩
      · rw [Transfer.run_sendAll_of_error (message_sink_of_error answered input)]
        refine .message (messageParts output chunks) ?_
        rw [answered]
        exact .nothing reached
      · rw [Transfer.run_sendAll_of_ok (message_sink_of_ok answered input)]
        refine .message (messageParts output chunks) ?_
        rw [answered]
        exact ih _ reached

theorem SpiDevice.messaged_transfer (memory : Memory) (device : SpiDevice)
    (output : Option (List UInt8)) (inLength : Nat) (chunked : Bool) (world : σ) :
    host.Messaged device.descriptor world
      ((device.transfer host memory output inLength chunked).run world).state := by
  rw [transfer]
  rcases reserved : memory.reserve inLength 1 with cause | ⟨⟩
  · rw [transfer_of_refused _ _ _ _ _ reserved]
    exact .nothing world
  · rw [transfer_of_granted _ _ _ _ _ reserved]
    exact messaged_sendAll host _ _ _ _ _

/-- All that a call does on a device is messages on its descriptor. -/
theorem SpiHolding.messaged_perform (memory : Memory) (holding : SpiHolding) (call : SpiCall)
    (world : σ) :
    host.Messaged holding.toDevice.descriptor world
      ((call.perform (holding.link host memory)).run world).state := by
  rcases asked : call.transaction? with defect | transaction
  · rw [SpiCall.run_perform_of_malformed asked]
    exact .nothing world
  rw [SpiCall.state_perform asked]
  cases holding with
  | device device => exact device.messaged_transfer host memory _ _ _ world
  | bus bus =>
      by_cases conflict : bus.halfDuplex = true ∧ transaction.BothWays
      · rw [link, SpiBus.perform_of_conflict conflict.1 conflict.2]
        exact .nothing world
      · rw [link, SpiBus.perform_of_admitted conflict]
        exact bus.device.messaged_transfer host memory _ _ _ world

end Messages

namespace SpiHolding

variable {σ : Type} (host : SpiHost σ)

/-- What opening what was described comes to: a description that is rejected leaves everything as it
is, and one that is settled is opened like a device. -/
inductive Opening (described : Except Failure SpiSettings) (process : SpiProcess σ) :
    Except Failure SpiHolding → SpiProcess σ → Prop where
  | rejected {failure : Failure} (rejected : described = .error failure) :
      Opening described process (.error failure) process
  | failed {settings : SpiSettings} {error : SpiError} {reached : SpiProcess σ}
      (settled : described = .ok settings)
      (opening : SpiDevice.Opening host settings process (.error error) reached) :
      Opening described process (.error (.spi error)) reached
  | opened {settings : SpiSettings} {holding : SpiHolding} {reached : SpiProcess σ}
      (settled : described = .ok settings)
      (opening : SpiDevice.Opening host settings process (.ok holding.toDevice) reached) :
      Opening described process (.ok holding) reached

/-- A program opens what was described. -/
def Opens (described : Except Failure SpiSettings)
    (program : Program (SpiProcess σ) Failure SpiHolding) : Prop :=
  ∀ process, Opening host described process (program.run process).answer (program.run process).state

section Opens

variable {described : Except Failure SpiSettings}
  {program : Program (SpiProcess σ) Failure SpiHolding}

theorem opens_of_refuses {failure : Failure} {journal : List Record}
    (refused : program.Refuses failure journal) : Opens host (.error failure) program := by
  intro process
  rw [refused process]
  exact .rejected rfl

theorem opens_of_same {other : Program (SpiProcess σ) Failure SpiHolding}
    (opens : Opens host described other)
    (same : ∀ process, (program.run process).answer = (other.run process).answer ∧
      (program.run process).state = (other.run process).state) :
    Opens host described program := by
  intro process
  rcases same process with ⟨answered, reached⟩
  rw [answered, reached]
  exact opens process

/-- A program that acquires a device and holds it in some way opens the device. -/
theorem opens_of_acquires {settings : SpiSettings} (hold : SpiDevice → SpiHolding)
    (holds : ∀ device, (hold device).toDevice = device) :
    Opens host (.ok settings) (.mapError .spi (hold <$> SpiDevice.acquire host settings)) := by
  intro process
  have opening : SpiDevice.Opening host settings process _ _ :=
    SpiDevice.opening_acquire host settings process
  rw [Program.run_mapError, Program.run_map]
  rcases acquired : (SpiDevice.acquire host settings).run process with
    ⟨error | device, reached, journal⟩
  · rw [acquired] at opening
    exact .failed rfl opening
  · rw [acquired] at opening
    refine .opened rfl ?_
    rw [holds]
    exact opening

/-- Settings that are read from options are opened like any others. -/
theorem opens_of_reading (options : List (String × String))
    {next : SpiSettings → Program (SpiProcess σ) Failure SpiHolding}
    (opens : ∀ settings, Opens host (.ok settings) (next settings)) :
    Opens host ((SpiSettings.reading options).answer.mapError .spi)
      (.mapError .spi (SpiSettings.ofOptions options) >>= next) := by
  rcases read : (SpiSettings.reading options).answer with error | settings
  · exact opens_of_refuses host
      (Program.refuses_bind (Program.refuses_mapError _ (SpiSettings.refuses_ofOptions read)))
  · refine opens_of_same host (opens settings) fun process => ?_
    have ran : (Program.mapError Failure.spi (SpiSettings.ofOptions options)).run process =
        ⟨.ok settings, process, (SpiSettings.reading options).journal⟩ := by
      rw [Program.run_mapError, SpiSettings.run_ofOptions_of_ok read]
      rfl
    rw [Program.run_bind_of_ok ran]
    exact ⟨rfl, rfl⟩

end Opens

theorem opens_acquire (settings : SpiSettings) :
    Opens host (.ok settings) (.mapError .spi (.device <$> SpiDevice.acquire host settings)) :=
  opens_of_acquires host .device fun _ => rfl

/-- A bus is a device that is held together with the duplex of its settings. -/
theorem opens_setup (settings : SpiSettings) :
    Opens host (.ok settings) (.mapError .spi (.bus <$> SpiBus.setup host settings)) := by
  have setup_eq : (.bus <$> SpiBus.setup host settings :
      Program (SpiProcess σ) SpiError SpiHolding) =
      (fun device => .bus ⟨device, settings.mode.isHalfDuplex⟩) <$>
        SpiDevice.acquire host settings := by
    rw [SpiBus.setup, bind_pure_comp, Functor.map_map]
  rw [setup_eq]
  exact opens_of_acquires host _ fun _ => rfl

theorem opens_acquireOptions (options : List (String × String)) :
    Opens host ((SpiSettings.reading options).answer.mapError .spi) (.mapError .spi do
      let settings ← SpiSettings.ofOptions options
      .device <$> SpiDevice.acquire host settings) := by
  rw [Program.mapError_bind]
  exact opens_of_reading host options (opens_acquire host)

theorem opens_setupOptions (options : List (String × String)) :
    Opens host ((SpiSettings.reading options).answer.mapError .spi)
      (.bus <$> .mapError .spi (SpiBus.ofOptions host options)) := by
  rw [Program.map_mapError, SpiBus.ofOptions, map_bind, Program.mapError_bind]
  exact opens_of_reading host options (opens_setup host)

/-- What is to be opened by a file, which may not have loaded, and a text of options. -/
def describedBy (file : Option (Except BusFileError BusFile)) (options : Option String) :
    Except Failure SpiSettings := do
  let file ← LineSession.loadedFile .busFile file
  SpiBus.described file options

theorem opens_setupDescription (file : Option (Except BusFileError BusFile))
    (options : Option String) :
    Opens host (describedBy file options) (do
      let file ← .ofExcept (LineSession.loadedFile .busFile file)
      .bus <$> SpiBus.ofDescription host file options) := by
  rw [describedBy]
  rcases LineSession.loadedFile Failure.busFile file with failure | file
  · exact opens_of_refuses host (Program.refuses_bind (Program.refuses_ofExcept rfl))
  rw [Program.ofExcept_ok_bind]
  change Opens host (SpiBus.described file options) _
  rcases described : SpiBus.described file options with failure | settings
  · rcases SpiBus.refuses_ofDescription described with ⟨journal, refused⟩
    exact opens_of_refuses host (Program.refuses_bind (refused host))
  · rcases SpiBus.run_ofDescription_of_settled described with ⟨noted, ran⟩
    refine opens_of_same host (opens_setup host settings) fun process => ?_
    rw [Program.run_map, ran, Program.run_mapError, Program.run_map]
    rcases (SpiBus.setup host settings).run process with ⟨error | bus, reached, journal⟩
    · exact ⟨rfl, rfl⟩
    · exact ⟨rfl, rfl⟩

end SpiHolding

namespace SpiStep

/-- What an opening step is to open. -/
def described? : SpiStep → Option (Except Failure SpiSettings)
  | acquire settings | setup settings => some (.ok settings)
  | acquireOptions options | setupOptions options =>
    some ((SpiSettings.reading options).answer.mapError .spi)
  | setupDescription file options => some (SpiHolding.describedBy file options)
  | processLimit | chunkLimit | call _ | close | drop => none

/-- A step that works on what is held under its handle. -/
def NeedsHandle : SpiStep → Prop
  | chunkLimit | call _ | close | drop => True
  | acquire _ | acquireOptions _ | setup _ | setupOptions _ | setupDescription _ _ | processLimit =>
    False

theorem described?_of_needsHandle {step : SpiStep} (needs : step.NeedsHandle) :
    step.described? = none := by
  cases step with
  | chunkLimit | call | close | drop => rfl
  | acquire | acquireOptions | setup | setupOptions | setupDescription | processLimit => cases needs

end SpiStep

namespace SpiSession

variable {σ : Type}

/-- The descriptors of the devices that a session holds. -/
def descriptors (session : SpiSession σ) : List Int :=
  session.handles.map fun entry => entry.2.toDevice.descriptor

/-- Carries out steps in order, each on its handle. -/
def carryOut {ε : Type} (host : SpiHost σ) (memory : Memory) (steps : List (Nat × SpiStep)) :
    Program (SpiSession σ) ε (List (Except StepError Reply)) :=
  .attemptAll (steps.map fun (number, step) => SpiSession.step host memory number step)

/-- What a step on a handle does, in terms of the calls that it makes on the host. -/
inductive Transition (host : SpiHost σ) (number : Nat) (session : SpiSession σ) :
    SpiStep → Except StepError Reply → SpiSession σ → Prop where
  /-- What the handle held before is given up in any case. -/
  | unopened {step : SpiStep} {described : Except Failure SpiSettings} {failure : Failure}
      {process : SpiProcess σ} (opens : step.described? = some described)
      (opening : SpiHolding.Opening host described (session.dropHandle host number).process
        (.error failure) process) :
      Transition host number session step (.error (.failed failure))
        { session.dropHandle host number with process }
  | opened {step : SpiStep} {described : Except Failure SpiSettings} {holding : SpiHolding}
      {process : SpiProcess σ} (opens : step.described? = some described)
      (opening : SpiHolding.Opening host described (session.dropHandle host number).process
        (.ok holding) process) :
      Transition host number session step (.ok .nothing)
        ⟨(session.dropHandle host number).handles.insert number holding, process⟩
  | limited {answer : Except SpiError Nat} {process : SpiProcess σ}
      (limited : SpiDevice.Limited host session.process answer process) :
      Transition host number session .processLimit
        ((answer.mapError fun error => .failed (.spi error)).map .number) { session with process }
  | known {holding : SpiHolding} (found : session.handles.find? number = some holding) :
      Transition host number session .chunkLimit (.ok (.number holding.toDevice.chunkLimit)) session
  /-- The handle stays, be the call carried out or not. -/
  | called {holding : SpiHolding} {call : SpiCall} {answer : Except StepError Reply} {world : σ}
      (found : session.handles.find? number = some holding)
      (messaged : host.Messaged holding.toDevice.descriptor session.process.2 world) :
      Transition host number session (.call call) answer
        { session with process := (session.process.1, world) }
  /-- The handle is gone, whatever the closing reports. -/
  | closed {holding : SpiHolding} {answer : Except Fault Unit} {world : σ}
      (found : session.handles.find? number = some holding)
      (closing : host.close holding.toDevice.descriptor session.process.2 = (answer, world)) :
      Transition host number session .close
        ((answer.mapError fun fault => .failed (.spi (.closeFailed fault))).map fun _ => .nothing)
        ⟨session.handles.erase number, (session.process.1, world)⟩
  | dropped {holding : SpiHolding} (found : session.handles.find? number = some holding) :
      Transition host number session .drop (.ok .nothing)
        ⟨session.handles.erase number,
          (session.process.1, (host.close holding.toDevice.descriptor session.process.2).2)⟩
  | absent {step : SpiStep} (needs : step.NeedsHandle)
      (absent : session.handles.find? number = none) :
      Transition host number session step (.error .handleEmpty) session

section Transitions

variable (host : SpiHost σ) (memory : Memory) (number : Nat) (session : SpiSession σ)

theorem transition_openAs {step : SpiStep} {described : Except Failure SpiSettings}
    {opening : Program (SpiProcess σ) Failure SpiHolding}
    (describes : step.described? = some described)
    (opens : SpiHolding.Opens host described opening) :
    let outcome := (openAs host number opening).run session
    Transition host number session step outcome.answer outcome.state := by
  simp only [openAs, Program.run_change_bind]
  have opened := opens (session.dropHandle host number).process
  rcases ran : opening.run (session.dropHandle host number).process with
    ⟨failure | holding, process, journal⟩
  · rw [ran] at opened
    have failed : (onProcess (.mapError StepError.failed opening)).run
        (session.dropHandle host number) =
        ⟨.error (.failed failure), { session.dropHandle host number with process }, journal⟩ := by
      rw [onProcess, Program.run_within, Program.run_mapError, ran]
      rfl
    rw [Program.run_bind_of_error failed]
    exact .unopened describes opened
  · rw [ran] at opened
    have answered : (onProcess (.mapError StepError.failed opening)).run
        (session.dropHandle host number) =
        ⟨.ok holding, { session.dropHandle host number with process }, journal⟩ := by
      rw [onProcess, Program.run_within, Program.run_mapError, ran]
      rfl
    rw [Program.run_bind_of_ok answered, Program.run_change_bind]
    exact .opened describes opened

section Handles

variable {number session} {holding : SpiHolding}

theorem run_holdingOf_of_found (found : session.handles.find? number = some holding) :
    (holdingOf number).run session = ⟨.ok holding, session, []⟩ := by
  rw [holdingOf, Program.run_current_bind, found]
  rfl

theorem run_holdingOf_of_absent (absent : session.handles.find? number = none) :
    (holdingOf number).run session = ⟨.error .handleEmpty, session, []⟩ := by
  rw [holdingOf, Program.run_current_bind, absent]
  rfl

theorem dropHandle_of_found (found : session.handles.find? number = some holding) :
    session.dropHandle host number = ⟨session.handles.erase number,
      (session.process.1, (host.close holding.toDevice.descriptor session.process.2).2)⟩ := by
  simp only [dropHandle, found]
  rfl

theorem dropHandle_of_absent (absent : session.handles.find? number = none) :
    session.dropHandle host number = session := by
  simp only [dropHandle, absent]

theorem mem_descriptors (found : session.handles.find? number = some holding) :
    holding.toDevice.descriptor ∈ session.descriptors :=
  List.mem_map.2 ⟨_, Handles.mem_of_find? found, rfl⟩

end Handles

theorem transition_close (positive : ∀ descriptor ∈ session.descriptors, 0 < descriptor) :
    let outcome := (SpiSession.step host memory number .close).run session
    Transition host number session .close outcome.answer outcome.state := by
  intro outcome
  rcases found : session.handles.find? number with _ | holding
  · have nothing : outcome = ⟨.error .handleEmpty, session, []⟩ :=
      Program.run_bind_of_error (run_holdingOf_of_absent found)
    rw [nothing]
    exact .absent trivial found
  · have real : ¬holding.toDevice.descriptor ≤ 0 := by
      have := positive _ (mem_descriptors found)
      omega
    rcases closing : host.close holding.toDevice.descriptor session.process.2 with ⟨answer, world⟩
    have closed : (holding.toDevice.close host).run session.process.2 =
        ⟨answer.mapError .closeFailed, world,
          [⟨.debug, SpiDevice.source, "linux_spi: Closing device"⟩]⟩ := by
      rw [SpiDevice.close, SpiDevice.closeDescriptor, if_neg real]
      simp only [Program.run, Program.act, Program.record, bind, Program.andThen, closing]
      rfl
    have ran : (onProcess (SpiProcess.onHost (Program.mapError
        (fun error => StepError.failed (.spi error)) (holding.toDevice.close host)))).run
        { session with handles := session.handles.erase number } =
        ⟨(answer.mapError SpiError.closeFailed).mapError fun error => .failed (.spi error),
          ⟨session.handles.erase number, (session.process.1, world)⟩,
          [⟨.debug, SpiDevice.source, "linux_spi: Closing device"⟩]⟩ := by
      rw [onProcess, SpiProcess.onHost, Program.run_within, Program.run_within,
        Program.run_mapError, closed]
    simp only [outcome, SpiSession.step]
    rw [Program.run_bind_of_ok (run_holdingOf_of_found found), Program.run_change_bind]
    have transition : Transition host number session .close _ _ := .closed found closing
    rcases answer with fault | ⟨⟩
    · rw [Program.run_bind_of_error ran]
      exact transition
    · rw [Program.run_bind_of_ok ran]
      exact transition

/-- What each step does, whatever the host answers. -/
theorem transition_step (positive : ∀ descriptor ∈ session.descriptors, 0 < descriptor)
    (step : SpiStep) :
    let outcome := (SpiSession.step host memory number step).run session
    Transition host number session step outcome.answer outcome.state := by
  intro outcome
  cases step with
  | acquire settings =>
      have opens := SpiHolding.opens_acquire host settings
      rw [← Program.map_mapError] at opens
      exact transition_openAs host number session rfl opens
  | acquireOptions options =>
      exact transition_openAs host number session rfl
        (SpiHolding.opens_acquireOptions host options)
  | setup settings =>
      have opens := SpiHolding.opens_setup host settings
      rw [← Program.map_mapError] at opens
      exact transition_openAs host number session rfl opens
  | setupOptions options =>
      exact transition_openAs host number session rfl (SpiHolding.opens_setupOptions host options)
  | setupDescription file options =>
      exact transition_openAs host number session rfl
        (SpiHolding.opens_setupDescription host file options)
  | processLimit =>
      simp only [outcome, SpiSession.step]
      rw [Program.run_map, onProcess, Program.run_within, Program.run_mapError]
      exact .limited (SpiDevice.limited_processLimit host session.process)
  | chunkLimit =>
      simp only [outcome, SpiSession.step]
      rcases found : session.handles.find? number with _ | holding
      · rw [Program.run_bind_of_error (run_holdingOf_of_absent found)]
        exact .absent trivial found
      · rw [Program.run_bind_of_ok (run_holdingOf_of_found found)]
        exact .known found
  | call call =>
      simp only [outcome, SpiSession.step]
      rcases found : session.handles.find? number with _ | holding
      · rw [Program.run_bind_of_error (run_holdingOf_of_absent found)]
        exact .absent trivial found
      · rw [Program.run_bind_of_ok (run_holdingOf_of_found found), onProcess, SpiProcess.onHost,
          Program.run_within, Program.run_within, Program.run_mapError]
        exact .called found (holding.messaged_perform host memory call session.process.2)
  | close => exact transition_close host memory number session positive
  | drop =>
      simp only [outcome, SpiSession.step]
      rcases found : session.handles.find? number with _ | holding
      · rw [Program.run_bind_of_error (run_holdingOf_of_absent found)]
        exact .absent trivial found
      · rw [Program.run_bind_of_ok (run_holdingOf_of_found found), Program.run_change_bind,
          dropHandle_of_found host found]
        exact .dropped found

end Transitions

section Effects

variable {host : SpiHost σ} {number : Nat} {session reached : SpiSession σ} {step : SpiStep}
  {answer : Except StepError Reply}

/-- An opening with settings under an empty handle is the opening of their device. -/
theorem Transition.of_settled_opening
    (changed : Transition host number session step answer reached) {settings : SpiSettings}
    (opens : step.described? = some (.ok settings)) (empty : session.handles.find? number = none) :
    (∃ error process, SpiDevice.Opening host settings session.process (.error error) process ∧
      answer = .error (.failed (.spi error)) ∧ reached = { session with process }) ∨
    ∃ holding process,
      SpiDevice.Opening host settings session.process (.ok holding.toDevice) process ∧
      answer = .ok .nothing ∧ reached = ⟨session.handles.insert number holding, process⟩ := by
  cases changed with
  | unopened opens' opening =>
      cases opens.symm.trans opens'
      rw [dropHandle_of_absent host empty] at opening ⊢
      cases opening with
      | rejected rejected => cases rejected
      | failed settled opening =>
          cases settled
          exact .inl ⟨_, _, opening, rfl, rfl⟩
  | opened opens' opening =>
      cases opens.symm.trans opens'
      rw [dropHandle_of_absent host empty] at opening ⊢
      cases opening with
      | opened settled opening =>
          cases settled
          exact .inr ⟨_, _, opening, rfl, rfl⟩
  | absent needs absent =>
      rw [SpiStep.described?_of_needsHandle needs] at opens
      cases opens
  | limited | known | called | closed | dropped => cases opens

/-- A device without a name is refused before anything is asked of the host. -/
theorem Transition.of_unnamed (changed : Transition host number session step answer reached)
    {settings : SpiSettings} (opens : step.described? = some (.ok settings))
    (nameless : settings.device = "") (empty : session.handles.find? number = none) :
    answer = .error (.failed (.spi .deviceUnnamed)) ∧ reached = session := by
  rcases changed.of_settled_opening opens empty with ⟨error, process, opening, rfl, rfl⟩ |
    ⟨holding, process, opening, rfl, rfl⟩
  · cases opening with
    | unnamed nameless => exact ⟨rfl, rfl⟩
    | unlimited named | unopened named | refused named => exact absurd nameless named
  · exact absurd nameless opening.named_of_opened

/-- A device whose limit cannot be had is refused before its node is opened. -/
theorem Transition.of_unreadable (changed : Transition host number session step answer reached)
    {settings : SpiSettings} (opens : step.described? = some (.ok settings))
    (named : settings.device ≠ "") (empty : session.handles.find? number = none)
    (unknown : session.process.1 = .unresolved)
    (unreadable : ∀ text size, (host.readBufferSize session.process.2).1 = .ok text →
      ChunkLimit.parse text ≠ .ok size) :
    (∃ error, answer = .error (.failed (.spi error))) ∧
      reached = { session with
        process := (.unresolved, (host.readBufferSize session.process.2).2) } := by
  rcases changed.of_settled_opening opens empty with ⟨error, process, opening, rfl, rfl⟩ |
    ⟨holding, process, opening, rfl, rfl⟩
  · rcases opening.of_unreadable named unknown unreadable with ⟨_, rfl⟩
    exact ⟨⟨error, rfl⟩, rfl⟩
  · rcases (opening.of_unreadable named unknown unreadable).1 with ⟨error, impossible⟩
    cases impossible

/-- A closing is one call, and it gives the handle up whatever it reports. -/
theorem Transition.of_close {holding : SpiHolding}
    (changed : Transition host number session .close answer reached)
    (found : session.handles.find? number = some holding) :
    let closing := host.close holding.toDevice.descriptor session.process.2
    answer = ((closing.1.mapError fun fault => .failed (.spi (.closeFailed fault))).map
        fun _ => .nothing) ∧
      reached = ⟨session.handles.erase number, (session.process.1, closing.2)⟩ := by
  cases changed with
  | closed found' closing =>
      cases found.symm.trans found'
      simp only [closing, and_self]
  | absent needs absent => cases found.symm.trans absent
  | unopened opens | opened opens => cases opens

end Effects

end SpiSession

end Pinwire

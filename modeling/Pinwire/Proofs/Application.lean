import Pinwire.Application
import Pinwire.Bench.BoardLines
import Pinwire.Bench.BoardSpi
import Pinwire.Proofs.Description

/-!
# Malformed input

A run that is given malformed input should fail before it touches anything. Options, bytes in
hexadecimal and files are looked at before a bus is opened, so a run that finds one of them
malformed refuses: it fails in the same way whatever chips and host there are. Assignments to lines,
however, are looked at only when the bus is open, and the lines are driven by then.
-/

namespace Pinwire

namespace Job

/-- The options of a line bus that a job is given. -/
def lineOptions : Job → Option String
  | readLines options _ | driveLines options _ => options
  | spiRead .. | spiWrite .. | spiExchange .. => none

/-- The options of an SPI bus that a job is given. -/
def spiOptions : Job → Option String
  | spiRead options _ | spiWrite options _ _ _ | spiExchange options _ _ _ => options
  | readLines .. | driveLines .. => none

/-- The text in which a job is given the bytes to transmit. -/
def dataText : Job → Option String
  | spiWrite _ data none _ => data
  | spiExchange _ data _ _ => some data
  | spiWrite _ _ (some _) _ | spiRead .. | readLines .. | driveLines .. => none

def dataFile : Job → Option String
  | spiWrite _ _ file _ => file
  | spiRead .. | spiExchange .. | readLines .. | driveLines .. => none

/-- The bytes that a job transmits, if it transmits any. -/
def bytes? (readFile : String → Except Fault (List UInt8)) :
    Job → Option (Except Failure (List UInt8))
  | spiWrite _ _ (some path) _ => some ((readFile path).mapError (.dataUnread path))
  | spiWrite _ (some text) none _ => some (Application.bytesOfText text)
  | spiWrite _ none none _ => some (.error .dataMissing)
  | spiExchange _ data _ _ => some (Application.bytesOfText data)
  | spiRead .. | readLines .. | driveLines .. => none

/-- Something that a job is given apart from assignments cannot be used. -/
inductive Malformed (readFile : String → Except Fault (List UInt8)) (job : Job) : Prop where
  | lineOptions {text : String} {error : LineError} (given : job.lineOptions = some text)
      (rejected : (LineSettings.reading (OptionText.parse text)).answer = .error error)
  | spiOptions {text : String} {error : SpiError} (given : job.spiOptions = some text)
      (rejected : (SpiSettings.reading (OptionText.parse text)).answer = .error error)
  | dataText {text : String} {defect : Text.HexDump.Defect} (given : job.dataText = some text)
      (rejected : Text.HexDump.parse text = .error defect)
  | dataFile {path : String} {fault : Fault} (given : job.dataFile = some path)
      (unread : readFile path = .error fault)

end Job

namespace Application

section Refusals

theorem refuses_onProcess {σ ε α : Type} {program : Program (SpiProcess σ) ε α} {error : ε}
    {journal : List Record} (refused : program.Refuses error journal) :
    (onProcess program).Refuses error journal :=
  Program.refuses_within (fun _ => rfl) refused

theorem refuses_onWorld {σ ε α : Type} {program : Program σ ε α} {error : ε}
    {journal : List Record} (refused : program.Refuses error journal) :
    (onWorld program).Refuses error journal :=
  refuses_onProcess (Program.refuses_within (fun _ => rfl) refused)

variable (memory : Memory) (readFile : String → Except Fault (List UInt8)) {file : Option BusFile}
  {options : Option String} {failure : Failure}

theorem refuses_withLines (rejected : LineRequest.described file options = .error failure) :
    ∃ journal, ∀ {σ Chip Request : Type} (chips : LineBackend σ Chip Request) (host : SpiHost σ)
      (use : LineBus (LineRequest Chip Request × σ) LineError →
        Program (LineRequest Chip Request × σ) (CommandError LineError) String),
      (withLines ⟨memory, chips, host, readFile⟩ file options use).Refuses failure journal := by
  rcases LineRequest.refuses_ofDescription rejected with ⟨journal, refused⟩
  exact ⟨journal, fun chips host use =>
    Program.refuses_bind (refuses_onWorld (refused chips memory))⟩

theorem refuses_withSpi (rejected : SpiBus.described file options = .error failure) :
    ∃ journal, ∀ {σ Chip Request : Type} (chips : LineBackend σ Chip Request) (host : SpiHost σ)
      (use : SpiLink σ SpiError → Program σ (CommandError SpiError) String),
      (withSpi ⟨memory, chips, host, readFile⟩ file options use).Refuses failure journal := by
  rcases SpiBus.refuses_ofDescription rejected with ⟨journal, refused⟩
  exact ⟨journal, fun chips host use => Program.refuses_bind (refuses_onProcess (refused host))⟩

theorem bytes?_spiWrite {σ Chip Request : Type} (chips : LineBackend σ Chip Request)
    (host : SpiHost σ) (options data dataFile : Option String) (chunked : Bool) :
    (Job.spiWrite options data dataFile chunked).bytes? readFile =
      some (bytesToWrite ⟨memory, chips, host, readFile⟩ data dataFile) := by
  cases data <;> cases dataFile <;> rfl

/-- A job that cannot have the bytes that it transmits fails before the bus is opened. -/
theorem refuses_perform_of_bytes {job : Job} (file : Option BusFile)
    (lacking : job.bytes? readFile = some (.error failure)) :
    ∀ {σ Chip Request : Type} (chips : LineBackend σ Chip Request) (host : SpiHost σ),
      (perform ⟨memory, chips, host, readFile⟩ file job).Refuses failure [] := by
  intro σ Chip Request chips host
  cases job with
  | spiWrite options data dataFile chunked =>
      rw [bytes?_spiWrite memory readFile chips host] at lacking
      exact Program.refuses_bind (Program.refuses_ofExcept (Option.some.inj lacking))
  | spiExchange options data inLength chunked =>
      exact Program.refuses_bind (Program.refuses_ofExcept (Option.some.inj lacking))
  | spiRead | readLines | driveLines => cases lacking

theorem refuses_perform_of_lineOptions {job : Job} {text : String} {error : LineError}
    (given : job.lineOptions = some text)
    (rejected : (LineSettings.reading (OptionText.parse text)).answer = .error error)
    (file : Option BusFile) :
    ∃ journal, ∀ {σ Chip Request : Type} (chips : LineBackend σ Chip Request) (host : SpiHost σ),
      (perform ⟨memory, chips, host, readFile⟩ file job).Refuses (.line error) journal := by
  have described : LineRequest.described file (some text) = .error (.line error) := by
    simp only [LineRequest.described, rejected]
    rfl
  rcases refuses_withLines memory readFile described with ⟨journal, refused⟩
  refine ⟨journal, fun chips host => ?_⟩
  cases job with
  | readLines options lines =>
      cases given
      rw [perform]
      exact refused chips host _
  | driveLines options items =>
      cases given
      rw [perform]
      exact refused chips host _
  | spiRead | spiWrite | spiExchange => cases given

/-- The bytes to transmit are had before the options are looked at. -/
theorem refuses_perform_of_spiOptions {job : Job} {text : String} {error : SpiError}
    (given : job.spiOptions = some text)
    (rejected : (SpiSettings.reading (OptionText.parse text)).answer = .error error)
    (file : Option BusFile) :
    ∃ failure journal, ∀ {σ Chip Request : Type} (chips : LineBackend σ Chip Request)
      (host : SpiHost σ),
      (perform ⟨memory, chips, host, readFile⟩ file job).Refuses failure journal := by
  obtain ⟨failure, described⟩ : ∃ failure, SpiBus.described file (some text) = .error failure := by
    rcases sound : SpiBus.settingsOfFile file with error' | fromFile
    · exact ⟨.busFile error', by simp only [SpiBus.described, sound]; rfl⟩
    · exact ⟨.spi error, by simp only [SpiBus.described, sound, rejected]; rfl⟩
  rcases refuses_withSpi memory readFile described with ⟨journal, refused⟩
  -- Without bytes, or with bytes that are fine, the options are what the run fails of; with bytes
  -- that are not, it does not come to the options.
  rcases had : job.bytes? readFile with _ | ⟨failure' | bytes⟩
  · refine ⟨failure, journal, fun chips host => ?_⟩
    cases job with
    | spiRead options count =>
        cases given
        rw [perform]
        exact refused chips host _
    | spiWrite options data dataFile chunked =>
        rw [bytes?_spiWrite memory readFile chips host] at had
        cases had
    | spiExchange => cases had
    | readLines | driveLines => cases given
  · exact ⟨failure', [], refuses_perform_of_bytes memory readFile file had⟩
  · refine ⟨failure, journal, fun chips host => ?_⟩
    cases job with
    | spiWrite options data dataFile chunked =>
        cases given
        rw [bytes?_spiWrite memory readFile chips host] at had
        rw [perform, Option.some.inj had, Program.ofExcept_ok_bind]
        exact refused chips host _
    | spiExchange options data inLength chunked =>
        cases given
        rw [perform, show bytesOfText data = .ok bytes from Option.some.inj had,
          Program.ofExcept_ok_bind]
        exact refused chips host _
    | spiRead => cases had
    | readLines | driveLines => cases given

theorem refuses_perform {job : Job} (malformed : job.Malformed readFile) (file : Option BusFile) :
    ∃ failure journal, ∀ {σ Chip Request : Type} (chips : LineBackend σ Chip Request)
      (host : SpiHost σ),
      (perform ⟨memory, chips, host, readFile⟩ file job).Refuses failure journal := by
  cases malformed with
  | lineOptions given rejected =>
      exact ⟨_, refuses_perform_of_lineOptions memory readFile given rejected file⟩
  | spiOptions given rejected =>
      exact refuses_perform_of_spiOptions memory readFile given rejected file
  | @dataText text defect given rejected =>
      have lacking : job.bytes? readFile = some (.error (.bytes defect)) := by
        have refused : bytesOfText text = .error (.bytes defect) := by
          rw [bytesOfText, rejected]
          rfl
        cases job with
        | spiWrite options data dataFile chunked =>
            rcases dataFile with _ | path
            · simp only [Job.dataText] at given
              rw [given, Job.bytes?, refused]
            · cases given
        | spiExchange options data inLength chunked =>
            simp only [Job.dataText, Option.some.injEq] at given
            rw [Job.bytes?, given, refused]
        | spiRead | readLines | driveLines => cases given
      exact ⟨_, [], refuses_perform_of_bytes memory readFile file lacking⟩
  | @dataFile path fault given unread =>
      have lacking : job.bytes? readFile = some (.error (.dataUnread path fault)) := by
        cases job with
        | spiWrite options data dataFile chunked =>
            simp only [Job.dataFile] at given
            rw [given, Job.bytes?, unread]
            rfl
        | spiExchange | spiRead | readLines | driveLines => cases given
      exact ⟨_, [], refuses_perform_of_bytes memory readFile file lacking⟩

section Invocations

variable {invocation : Invocation}

/-- A bus file that cannot be used is found before anything else. -/
theorem refuses_invoke_of_unusable {path : String} {error : BusFileError}
    (named : invocation.config = some path)
    (unusable : BusFile.load path (readFile path) = .error error) :
    ∀ {σ Chip Request : Type} (chips : LineBackend σ Chip Request) (host : SpiHost σ),
      (invoke ⟨memory, chips, host, readFile⟩ invocation).Refuses (.busFile error) [] := by
  intro σ Chip Request chips host
  rw [invoke, named]
  refine Program.refuses_bind (Program.refuses_ofExcept ?_)
  simp only [loadConfig, unusable]
  rfl

theorem refuses_invoke (malformed : invocation.job.Malformed readFile) :
    ∃ failure journal, ∀ {σ Chip Request : Type} (chips : LineBackend σ Chip Request)
      (host : SpiHost σ),
      (invoke ⟨memory, chips, host, readFile⟩ invocation).Refuses failure journal := by
  rcases named : invocation.config with _ | path
  · rcases refuses_perform memory readFile malformed none with ⟨failure, journal, refused⟩
    refine ⟨failure, journal, fun chips host => ?_⟩
    rw [invoke, named]
    exact refused chips host
  · rcases loaded : BusFile.load path (readFile path) with error | file
    · exact ⟨.busFile error, [], refuses_invoke_of_unusable memory readFile named loaded⟩
    · rcases refuses_perform memory readFile malformed (some file) with ⟨failure, journal, refused⟩
      refine ⟨failure, journal, fun chips host => ?_⟩
      have found : loadConfig ⟨memory, chips, host, readFile⟩ (some path) = .ok (some file) := by
        simp only [loadConfig, loaded]
        rfl
      rw [invoke, named, found]
      exact refused chips host

end Invocations

end Refusals

section Assignments

variable {σ Chip Request : Type}

theorem run_onRequest_of_error {α : Type} {backend : LineBackend σ Chip Request}
    {request reached : LineRequest Chip Request} {world after : σ} {failure : Failure}
    {program : Program (LineRequest Chip Request × σ) Failure α} {journal : List Record}
    (failed : program.run (request, world) = ⟨.error failure, (reached, after), journal⟩) :
    (onRequest backend request program).run world =
      ⟨.error failure, reached.release backend after, journal⟩ := by
  simp only [Program.run, onRequest] at failed ⊢
  rw [failed]

theorem run_onWorld {ε α : Type} (program : Program σ ε α) (state : RunState σ) :
    (onWorld program).run state =
      let outcome := program.run state.process.2
      ⟨outcome.answer, ⟨(state.process.1, outcome.state), state.printed⟩, outcome.journal⟩ :=
  rfl

variable (surroundings : Surroundings σ Chip Request) (file : Option BusFile)
  (options : Option String)

/-- What comes of malformed assignments in a world: the bus is opened, unless that fails, and it is
given back. -/
def refusedAssignments (defect : Assignment.Defect) (world : σ) : Outcome σ Failure Unit :=
  let opening := (LineRequest.ofDescription surroundings.chips surroundings.memory file options).run
    world
  match opening.answer with
  | .error failure => ⟨.error failure, opening.state, opening.journal⟩
  | .ok request =>
    ⟨.error (.assignment defect), request.release surroundings.chips opening.state, opening.journal⟩

/-- Assignments are looked at when the bus is open. -/
theorem run_perform_of_malformed_assignments {items : List String} {defect : Assignment.Defect}
    (rejected : Assignment.parse items = .error defect) (state : RunState σ) :
    (perform surroundings file (.driveLines options items)).run state =
      let refused := refusedAssignments surroundings file options defect state.process.2
      ⟨refused.answer, ⟨(state.process.1, refused.state), state.printed⟩, refused.journal⟩ := by
  rw [perform, withLines]
  have opened := run_onWorld
    (LineRequest.ofDescription surroundings.chips surroundings.memory file options) state
  rcases opening : (LineRequest.ofDescription surroundings.chips surroundings.memory file
    options).run state.process.2 with ⟨failure | request, world, journal⟩
  · rw [opening] at opened
    rw [Program.run_bind_of_error opened]
    simp only [refusedAssignments, opening]
  · rw [opening] at opened
    have refused : ((LineRequest.bus surroundings.chips surroundings.memory).assign items).run
        (request, world) = ⟨.error (.assignment defect), (request, world), []⟩ := by
      rw [LineBus.assign, rejected]
      rfl
    have used : (Program.mapError Failure.ofLineCommand ((fun _ => "") <$>
        (LineRequest.bus surroundings.chips surroundings.memory).assign items)).run
        (request, world) = ⟨.error (.assignment defect), (request, world), []⟩ := by
      rw [Program.run_mapError, Program.run_map, refused]
      rfl
    have givenBack := run_onWorld (onRequest surroundings.chips request (.mapError .ofLineCommand
      ((fun _ => "") <$> (LineRequest.bus surroundings.chips surroundings.memory).assign items)))
      ⟨(state.process.1, world), state.printed⟩
    rw [run_onRequest_of_error used] at givenBack
    rw [Program.run_bind_of_ok opened, Program.run_bind_of_error givenBack]
    simp only [refusedAssignments, opening, List.append_nil]

theorem refusedAssignments_fails (defect : Assignment.Defect) (world : σ) :
    ∃ failure, (refusedAssignments surroundings file options defect world).answer =
      .error failure := by
  simp only [refusedAssignments]
  split
  · exact ⟨_, rfl⟩
  · exact ⟨_, rfl⟩

end Assignments

section Runs

variable {σ Chip Request : Type}

theorem run_of_failure {surroundings : Surroundings σ Chip Request} {arguments : List String}
    {world : σ} {invocation : Invocation} {failure : Failure} {reached : RunState σ}
    {journal : List Record} (filterText : Option String)
    (parsed : Invocation.parse arguments = .ok invocation)
    (failed : (invoke surroundings invocation).run ⟨(.unresolved, world), ""⟩ =
      ⟨.error failure, reached, journal⟩) :
    let filter := match filterText with
      | some text => Filter.parse text
      | none => Filter.ofVerbosity invocation.verbosity
    run surroundings filterText arguments world =
      ⟨.failed failure, reached.printed, (journal.filter filter.shows).map Record.onConsole,
        reached.process.2⟩ := by
  cases filterText with
  | none => simp only [run, parsed, failed]
  | some text => simp only [run, parsed, failed]

/-- Malformed input ends a run with an error and nothing printed, and whether it touches anything
depends on the kind of the input.
1. Options that are rejected, bytes in hexadecimal that are malformed, a data file or a bus file
   that cannot be used: the world stays as it is, and the run is the same for all chips and hosts.
2. Assignments that are malformed: the bus is opened and given back. -/
theorem malformed_input_is_refused (memory : Memory)
    (readFile : String → Except Fault (List UInt8)) (filterText : Option String)
    (arguments : List String) (world : σ) {invocation : Invocation}
    (parsed : Invocation.parse arguments = .ok invocation) :
    ((invocation.job.Malformed readFile ∨ ∃ path error, invocation.config = some path ∧
        BusFile.load path (readFile path) = .error error) →
      ∃ failure shown, ∀ {Chip Request : Type} (chips : LineBackend σ Chip Request)
        (host : SpiHost σ), run ⟨memory, chips, host, readFile⟩ filterText arguments world =
          ⟨.failed failure, "", shown, world⟩) ∧
    ∀ {Chip Request : Type} (chips : LineBackend σ Chip Request) (host : SpiHost σ)
      (options : Option String) (items : List String) (defect : Assignment.Defect)
      (file : Option BusFile),
      let surroundings : Surroundings σ Chip Request := ⟨memory, chips, host, readFile⟩
      let refused := refusedAssignments surroundings file options defect world
      invocation.job = .driveLines options items → Assignment.parse items = .error defect →
      loadConfig surroundings invocation.config = .ok file →
        ∃ failure shown, refused.answer = .error failure ∧
          run surroundings filterText arguments world =
            ⟨.failed failure, "", shown, refused.state⟩ := by
  constructor
  · intro malformed
    have refuses : ∃ failure journal, ∀ {Chip Request : Type} (chips : LineBackend σ Chip Request)
        (host : SpiHost σ),
        (invoke ⟨memory, chips, host, readFile⟩ invocation).Refuses failure journal := by
      rcases malformed with malformed | ⟨path, error, named, unusable⟩
      · rcases refuses_invoke memory readFile malformed with ⟨failure, journal, refused⟩
        exact ⟨failure, journal, refused⟩
      · exact ⟨_, _, refuses_invoke_of_unusable memory readFile named unusable⟩
    rcases refuses with ⟨failure, journal, refused⟩
    exact ⟨failure, _, fun chips host => run_of_failure filterText parsed (refused chips host _)⟩
  · intro Chip Request chips host options items defect file surroundings refused job rejected loaded
    rcases refusedAssignments_fails surroundings file options defect world with ⟨failure, failed⟩
    have ran : (invoke surroundings invocation).run ⟨(.unresolved, world), ""⟩ =
        ⟨.error failure, ⟨(.unresolved, refused.state), ""⟩, refused.journal⟩ := by
      rw [invoke, loaded, Program.ofExcept_ok_bind, job,
        run_perform_of_malformed_assignments surroundings file options rejected, ← failed]
    exact ⟨failure, _, failed, run_of_failure filterText parsed ran⟩

/-- A board without files: an odd number of digits to transmit leaves it as it is, and an assignment
without a state gives back what it took. -/
theorem refused_runs_of_board :
    let surroundings : Surroundings Bench.Board String Bench.Board.HeldLines :=
      ⟨.addressSpace, Bench.Board.backend, Bench.Board.host, fun _ => .error "not found"⟩
    let exchange := run surroundings none ["spi", "xfer", "--dev", "dev=/dev/spidev0.0", "abc"]
      .fresh
    let drive := run surroundings none ["gpio", "set", "--dev", "dev=/dev/gpiochip0,out=17", "17"]
      .fresh
    (∃ failure shown, exchange = ⟨.failed failure, "", shown, .fresh⟩) ∧
      ∃ failure shown, drive = ⟨.failed failure, "", shown,
        (refusedAssignments surroundings none (some "dev=/dev/gpiochip0,out=17") (.unassigned "17")
          .fresh).state⟩ := by
  intro surroundings exchange drive
  have parsedExchange : Invocation.parse ["spi", "xfer", "--dev", "dev=/dev/spidev0.0", "abc"] =
      .ok ⟨.spiExchange (some "dev=/dev/spidev0.0") "abc" 0 false, 0, none⟩ := by decide +kernel
  have parsedDrive : Invocation.parse
      ["gpio", "set", "--dev", "dev=/dev/gpiochip0,out=17", "17"] =
      .ok ⟨.driveLines (some "dev=/dev/gpiochip0,out=17") ["17"], 0, none⟩ := by decide +kernel
  have odd : Text.HexDump.parse "abc" = .error (.oddCount "abc") := by decide +kernel
  have unassigned : Assignment.parse ["17"] = .error (.unassigned "17") := rfl
  constructor
  · rcases (malformed_input_is_refused surroundings.memory surroundings.readFile none _
      Bench.Board.fresh parsedExchange).1 (.inl (.dataText rfl odd)) with ⟨failure, shown, refused⟩
    exact ⟨failure, shown, refused surroundings.chips surroundings.host⟩
  · rcases (malformed_input_is_refused surroundings.memory surroundings.readFile none _
      Bench.Board.fresh parsedDrive).2 surroundings.chips surroundings.host _ _ _ none rfl
      unassigned rfl with ⟨failure, shown, _, refused⟩
    exact ⟨failure, shown, refused⟩

/-- An assignment without a state, on a line that the options drive: the run fails, but the line has
been requested and its level has changed. -/
theorem assignments_refused_too_late :
    let surroundings : Surroundings Bench.Board String Bench.Board.HeldLines :=
      ⟨.addressSpace, Bench.Board.backend, Bench.Board.host, fun _ => .error "not found"⟩
    let drive := run surroundings none
      ["gpio", "set", "--dev", "dev=/dev/gpiochip0,out=17:active", "17"] .fresh
    Assignment.parse ["17"] = .error (.unassigned "17") ∧
      drive.ending = .failed (.assignment (.unassigned "17")) ∧
      drive.world.events = ["open /dev/gpiochip0 r", "open /dev/gpiochip0 r",
        "request linbus 17:out=1", "close /dev/gpiochip0", "close request",
        "close /dev/gpiochip0"] ∧
      Bench.Board.fresh.level 17 = .inactive ∧ drive.world.level 17 = .active := by
  intro surroundings drive
  refine ⟨rfl, ?_⟩
  decide +kernel

end Runs

end Application

end Pinwire

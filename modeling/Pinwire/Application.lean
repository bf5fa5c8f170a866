import Pinwire.Buses
import Pinwire.CommandLine.Invocation
import Pinwire.Journal.Console
import Pinwire.Journal.Filter

/-!
# The application

One run of the program: the arguments are read, the bus file is loaded, what can be refused without
a bus is refused, the bus is opened, the job is carried out on it, and the bus is closed. A run that
fails gives back everything it holds. What was printed before a failure stays printed.
-/

namespace Pinwire

/-- What a run of the program finds around it. -/
structure Surroundings (σ Chip Request : Type) where
  memory : Memory
  chips : LineBackend σ Chip Request
  host : SpiHost σ
  /-- The bytes of a file. -/
  readFile : String → Except Fault (List UInt8)

/-- The state of a run: the process, and the text printed so far. -/
structure RunState (σ : Type) where
  process : SpiProcess σ
  printed : String

namespace Application

variable {σ Chip Request : Type}

/-- Runs a program on the process of a run. -/
def onProcess {ε α : Type} (program : Program (SpiProcess σ) ε α) : Program (RunState σ) ε α :=
  .within (·.process) (fun state process => { state with process }) program

/-- Runs a program on the world of a run. -/
def onWorld {ε α : Type} (program : Program σ ε α) : Program (RunState σ) ε α :=
  onProcess (SpiProcess.onHost program)

def print {ε : Type} (text : String) : Program (RunState σ) ε Unit :=
  .change fun state => { state with printed := state.printed ++ text }

/-- Runs a program on a line request and answers with the request as well; a request on which the
program fails is given back. -/
def onRequest {α : Type} (backend : LineBackend σ Chip Request) (request : LineRequest Chip Request)
    (program : Program (LineRequest Chip Request × σ) Failure α) :
    Program σ Failure (α × LineRequest Chip Request) := fun world =>
  let ⟨answer, (request, reached), journal⟩ := program.run (request, world)
  match answer with
  | .ok value => ⟨.ok (value, request), reached, journal⟩
  | .error failure => ⟨.error failure, request.release backend reached, journal⟩

/-- Carries out a job on lines: opens the bus, uses it, prints what it has to say, and closes it. -/
def withLines (surroundings : Surroundings σ Chip Request) (file : Option BusFile)
    (options : Option String)
    (use : LineBus (LineRequest Chip Request × σ) LineError →
      Program (LineRequest Chip Request × σ) (CommandError LineError) String) :
    Program (RunState σ) Failure Unit := do
  let backend := surroundings.chips
  let request ← onWorld (LineRequest.ofDescription backend surroundings.memory file options)
  let bus := LineRequest.bus backend surroundings.memory
  let (text, request) ←
    onWorld (onRequest backend request (.mapError .ofLineCommand (use bus)))
  print text
  onWorld (request.close backend)

/-- Carries out a job on an SPI bus: opens it, uses it, prints what it has to say, and closes it. -/
def withSpi (surroundings : Surroundings σ Chip Request) (file : Option BusFile)
    (options : Option String)
    (use : SpiLink σ SpiError → Program σ (CommandError SpiError) String) :
    Program (RunState σ) Failure Unit := do
  let host := surroundings.host
  let bus ← onProcess (SpiBus.ofDescription host file options)
  let text ← onWorld (.undoing (bus.device.drop host)
    (.mapError .ofSpiCommand (use (bus.link host surroundings.memory))))
  print text
  onWorld (.mapError .spi (bus.device.close host))

def bytesOfText (text : String) : Except Failure (List UInt8) :=
  (Text.HexDump.parse text).mapError .bytes

def bytesToWrite (surroundings : Surroundings σ Chip Request) (data file : Option String) :
    Except Failure (List UInt8) :=
  match data, file with
  | _, some path => (surroundings.readFile path).mapError (.dataUnread path)
  | some text, none => bytesOfText text
  | none, none => .error .dataMissing

def perform (surroundings : Surroundings σ Chip Request) (file : Option BusFile) :
    Job → Program (RunState σ) Failure Unit
  | .readLines options lines =>
    withLines surroundings file options fun bus => bus.printStates lines
  | .driveLines options assignments =>
    withLines surroundings file options fun bus => (fun _ => "") <$> bus.assign assignments
  | .spiRead options count => withSpi surroundings file options fun link => link.printRead count
  | .spiWrite options data dataFile chunked => do
    let bytes ← .ofExcept (bytesToWrite surroundings data dataFile)
    withSpi surroundings file options fun link =>
      (fun _ => "") <$> link.writeBytes bytes chunked
  | .spiExchange options data inLength chunked => do
    let bytes ← .ofExcept (bytesOfText data)
    withSpi surroundings file options fun link => link.printExchange bytes inLength chunked

/-- Loads the bus file that an invocation names, if it names one. -/
def loadConfig (surroundings : Surroundings σ Chip Request) :
    Option String → Except Failure (Option BusFile)
  | none => .ok none
  | some path => ((BusFile.load path (surroundings.readFile path)).mapError .busFile).map some

def invoke (surroundings : Surroundings σ Chip Request) (invocation : Invocation) :
    Program (RunState σ) Failure Unit := do
  let file ← .ofExcept (loadConfig surroundings invocation.config)
  perform surroundings file invocation.job

end Application

/-- How a run ended. -/
inductive Ending where
  | finished
  | failed (failure : Failure)
  | misused (error : CommandLine.UsageError)
  deriving Repr, DecidableEq

namespace Ending

def exitStatus : Ending → Nat
  | finished => 0
  | failed _ => 1
  | misused error => error.exitStatus

end Ending

/-- What a run leaves behind. -/
structure RunReport (σ : Type) where
  ending : Ending
  printed : String
  /-- The journal records that the filter shows, as a console shows them. -/
  journal : List Record
  world : σ

namespace Application

variable {σ Chip Request : Type}

/-- Runs the program with some arguments from a state of the world. A filter text, if there is one,
replaces the filter that goes with the verbosity. -/
def run (surroundings : Surroundings σ Chip Request) (filterText : Option String)
    (arguments : List String) (world : σ) : RunReport σ :=
  match Invocation.parse arguments with
  | .error error => ⟨.misused error, error.printed, [], world⟩
  | .ok invocation =>
    let filter := match filterText with
      | some text => Filter.parse text
      | none => Filter.ofVerbosity invocation.verbosity
    let start : RunState σ := ⟨(ChunkLimit.unresolved, world), ""⟩
    let outcome := (invoke surroundings invocation).run start
    let ending := match outcome.answer with
      | .ok _ => Ending.finished
      | .error failure => Ending.failed failure
    let shown := (outcome.journal.filter filter.shows).map Record.onConsole
    ⟨ending, outcome.state.printed, shown, outcome.state.process.2⟩

end Application

end Pinwire

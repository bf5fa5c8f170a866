import Pinwire.Line.Backend
import Pinwire.Line.Settings
import Pinwire.Program
import Pinwire.Text.Decimal

/-!
# Line requests

A request owns an open chip, the lines requested from it, and a staging buffer with one slot for
each line. Lines are addressed by number in every call, not by their place in the request. Giving a
request back releases the lines first and the chip after them; a request that could not be completed
gives back whatever it had acquired.
-/

namespace Pinwire

/-- Lines held on an open chip, with the buffer their values pass through. -/
structure LineRequest (Chip Request : Type) where
  request : Request
  chip : Chip
  slots : List Slot
  deriving Repr

namespace LineRequest

variable {σ Chip Request : Type}

/-- The component that works on requests, as the journal names it. -/
def source : String := "linbus_linux_gpio::device"

/-- Pairs lines with their configurations; a line that was already paired is an error. -/
def settingsAfter :
    List LineNumber → List (LineNumber × LineConfig) →
      Except LineError (List (LineNumber × LineConfig))
  | _, [] => .ok []
  | seen, (line, config) :: rest =>
    if line ∈ seen then .error (.lineRepeated line)
    else (settingsAfter (line :: seen) rest).map fun settings => (line, config) :: settings

/-- The lines of a request with their configurations, each line once. -/
def settings (memory : Memory) (lines : List LineNumber) (configs : List LineConfig) :
    Except LineError (List (LineNumber × LineConfig)) := do
  (memory.reserve lines.length 8).mapError .outOfMemory
  settingsAfter [] (lines.zip configs)

def renderLines (lines : List LineNumber) : String :=
  String.ofList (Text.bracketed (fun line => Text.Decimal.render line.toNat) lines)

/-- Takes lines of an open chip, with a buffer for their values. -/
def takeLines (backend : LineBackend σ Chip Request) (memory : Memory) (device consumer : String)
    (lines : List LineNumber) (settings : List (LineNumber × LineConfig)) (chip : Chip) :
    Program σ LineError (LineRequest Chip Request) := do
  let slots ← .ofExcept ((memory.allocate lines.length 1 none).mapError .outOfMemory)
  let request ← .act (.lineRequestFailed device) (backend.requestLines chip consumer settings)
  .record .info source
    s!"linux_gpio: Requested lines {renderLines lines} on {device} as '{consumer}'"
  pure ⟨request, chip, slots⟩

def acquire (backend : LineBackend σ Chip Request) (memory : Memory) (device consumer : String)
    (lines : List LineNumber) (configs : List LineConfig) :
    Program σ LineError (LineRequest Chip Request) := do
  .ofExcept ((checkEqualLength "GPIO pin and configuration arrays lengths differ"
    lines.length configs.length).mapError .argumentMismatch)
  let settings ← .ofExcept (settings memory lines configs)
  .record .debug source s!"linux_gpio: Opening {device} for {lines.length} line(s)"
  let chip ← .act (.chipOpenFailed device) (backend.openChip device)
  .undoing (backend.releaseChip chip)
    (takeLines backend memory device consumer lines settings chip)

def lineCount (request : LineRequest Chip Request) : Nat :=
  request.slots.length

/-- The buffer with its first slots taken from `window`; its length stays what it was. -/
def overwrite : List Slot → List Slot → List Slot
  | [], _ => []
  | slots, [] => slots
  | _ :: slots, value :: window => value :: overwrite slots window

def firstMissing? : List LineNumber → List Slot → Option LineNumber
  | line :: _, none :: _ => some line
  | _ :: lines, some _ :: slots => firstMissing? lines slots
  | _, _ => none

def checkCount (request : LineRequest Chip Request) (lines : List LineNumber) :
    Except LineError Unit :=
  (checkWithin "invalid GPIO line count: requested lines of" lines.length
    request.lineCount).mapError .argumentMismatch

/-- Reads lines into the front of the buffer, which is emptied before. What a chip does not store
there stays empty, and what it stores beyond is lost. -/
def stageRead (backend : LineBackend σ Chip Request) (lines : List LineNumber)
    (state : LineRequest Chip Request × σ) :
    Except Fault (List Slot) × (LineRequest Chip Request × σ) :=
  let (request, world) := state
  let cleared := overwrite request.slots (List.replicate lines.length none)
  let front := cleared.take lines.length
  let ((answer, filled), world) := backend.readLines request.request lines front world
  let window := overwrite front filled
  (answer.map fun _ => window, ({ request with slots := overwrite cleared window }, world))

/-- Drives lines from the front of the buffer, where the values to drive are put before. -/
def stageWrite (backend : LineBackend σ Chip Request) (lines : List LineNumber)
    (values : List PinState) (state : LineRequest Chip Request × σ) :
    Except Fault Unit × (LineRequest Chip Request × σ) :=
  let (request, world) := state
  let staged := overwrite request.slots (values.map some)
  let (answer, world) :=
    backend.writeLines request.request lines (staged.take lines.length) world
  (answer, ({ request with slots := staged }, world))

/-- The states of some lines, in the order they are asked for. -/
def get (backend : LineBackend σ Chip Request) (memory : Memory) (lines : List LineNumber) :
    Program (LineRequest Chip Request × σ) LineError (List PinState) := do
  let (request, _) ← .current
  .ofExcept (request.checkCount lines)
  let window ← .act .readFailed (stageRead backend lines)
  match firstMissing? lines window with
  | some line => .fail (.valueMissing line)
  | none =>
    .ofExcept ((memory.reserve lines.length 1).mapError .outOfMemory)
    pure (window.filterMap id)

/-- Drives some lines to the states at the same places. -/
def set (backend : LineBackend σ Chip Request) (lines : List LineNumber)
    (values : List PinState) : Program (LineRequest Chip Request × σ) LineError Unit := do
  let (request, _) ← .current
  .ofExcept ((checkEqualLength "GPIO pin and value arrays lengths differ"
    lines.length values.length).mapError .argumentMismatch)
  .ofExcept (request.checkCount lines)
  .act .writeFailed (stageWrite backend lines values)

/-- Gives back the lines of a request and then its chip. -/
def release (backend : LineBackend σ Chip Request) (request : LineRequest Chip Request)
    (world : σ) : σ :=
  backend.releaseChip request.chip (backend.releaseRequest request.request world)

/-- Gives a request back and notes it in the journal. -/
def close {ε : Type} (backend : LineBackend σ Chip Request) (request : LineRequest Chip Request) :
    Program σ ε Unit := do
  .record .debug source s!"linux_gpio: Releasing {request.lineCount} line(s)"
  .change (release backend request)

/-- Requests the lines of settings, in ascending order of their numbers. -/
def setup (backend : LineBackend σ Chip Request) (memory : Memory) (settings : LineSettings) :
    Program σ LineError (LineRequest Chip Request) :=
  let lines := settings.lines.mergeSort fun earlier later => earlier.1 ≤ later.1
  acquire backend memory settings.device settings.consumer (lines.map (·.1)) (lines.map (·.2))

end LineRequest

end Pinwire

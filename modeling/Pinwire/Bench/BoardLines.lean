import Pinwire.Bench.Board
import Pinwire.Line.Backend

/-!
# The chips of a board

Chips are opened by the paths of their nodes. A request opens the chip once more for the time that
it takes, holds its lines until it is given back, and sets driven lines to their first state. The
logical state of a line is its electrical level, turned round for a line that is active low.
-/

namespace Pinwire.Bench.Board

/-- Lines that are held, with the chip they belong to. -/
structure HeldLines where
  path : String
  settings : List (LineNumber × LineConfig)
  deriving Repr, DecidableEq

def lineLimit : Nat := 64

def level (board : Board) (line : LineNumber) : PinState :=
  (board.levels.get? line).getD .inactive

/-- Turns a state round for a line that is active low: from logical to electrical and back. -/
def throughPolarity (config : LineConfig) (state : PinState) : PinState :=
  if config.isActiveLow then state.inverted else state

def stateDigit (state : PinState) : String :=
  if state.isActive then "1" else "0"

def chipPathStart : List Char := (nodeDirectory ++ "gpiochip").toList

/-- Whether a path is that of a chip that the board has. After the usual start the path of a chip
has nothing but digits. -/
def hasChip (board : Board) (path : String) : Bool :=
  chipPathStart.isPrefixOf path.toList &&
    (path.toList.drop chipPathStart.length).all Char.isDigit && board.hasNode path

/-- Opens a chip. A path that is not that of a chip is refused before any call. -/
def openChip (path : String) (board : Board) : Except Fault String × Board :=
  if board.hasChip path then
    followed ((board.note s!"open {path} r").attempt .openNode) fun _ board => (.ok path, board)
  else (.error (SystemError.fault 2), board)

/-- A line of a request as events write it. -/
def settingText (setting : LineNumber × LineConfig) : String :=
  let (line, config) := setting
  let direction := if config.isOutput then "out" else "in"
  let polarity := if config.isActiveLow then ":low" else ""
  let initial := if config.isOutput then "=" ++ stateDigit config.initial else ""
  s!"{lineText line}:{direction}{polarity}{initial}"

/-- Inserts a setting into settings in ascending order of lines. -/
def insertSetting (setting : LineNumber × LineConfig) :
    List (LineNumber × LineConfig) → List (LineNumber × LineConfig)
  | [] => [setting]
  | first :: rest =>
    if setting.1 < first.1 then setting :: first :: rest
    else first :: insertSetting setting rest

/-- Drives the level of a line to a logical state. -/
def driveLine (board : Board) (setting : LineNumber × LineConfig) (state : PinState) : Board :=
  { board with levels := board.levels.insert setting.1 (throughPolarity setting.2 state) }

/-- Hands over lines: they are held from now on, and driven lines take on their first state. -/
def holdLines (path : String) (settings : List (LineNumber × LineConfig)) (board : Board) :
    Except Fault HeldLines × Board :=
  if settings.any fun setting => lineLimit ≤ setting.1.toNat then
    (.error (SystemError.fault 22), board)
  else if settings.any fun setting => setting.1 ∈ board.held then
    (.error (SystemError.fault 16), board)
  else
    let driven := settings.filter fun setting => setting.2.isOutput
    let board := driven.foldl (fun board setting => board.driveLine setting setting.2.initial) board
    (.ok ⟨path, settings⟩, { board with held := board.held ++ settings.map (·.1) })

/-- The part of a consumer's name that a request hands on: a null character ends it. -/
def handedName (consumer : String) : String :=
  String.ofList (consumer.toList.takeWhile fun character => character ≠ '\x00')

/-- Requests lines of a chip that has been opened for it. -/
def requestOpened (path consumer : String) (settings : List (LineNumber × LineConfig))
    (board : Board) : Except Fault HeldLines × Board :=
  followed (board.attempt .lineInfo) fun _ board =>
    let event := s!"request {handedName consumer}" ++ spaced (settings.map settingText)
    followed ((board.note event).attempt .request) fun _ board => holdLines path settings board

def requestLines (path consumer : String) (settings : List (LineNumber × LineConfig))
    (board : Board) : Except Fault HeldLines × Board :=
  let settings := settings.foldr insertSetting []
  followed ((board.note s!"open {path} r").attempt .openNode) fun _ board =>
    let (answer, board) := requestOpened path consumer settings board
    (answer, (closed path board).2)

/-- The settings of a request that some lines select; no lines select all of them. -/
def selected (held : HeldLines) (lines : List LineNumber) : List (LineNumber × LineConfig) :=
  if lines.isEmpty then held.settings
  else held.settings.filter fun setting => setting.1 ∈ lines

/-- The state that a request reads of a line; a line outside the request is inactive. -/
def readLine (board : Board) (held : HeldLines) (line : LineNumber) : PinState :=
  match held.settings.find? fun setting => setting.1 = line with
  | some setting => throughPolarity setting.2 (board.level line)
  | none => .inactive

def readLines (held : HeldLines) (lines : List LineNumber) (slots : List Slot) (board : Board) :
    (Except Fault Unit × List Slot) × Board :=
  let wanted := selected held lines
  let words := wanted.map fun setting => lineText setting.1
  match (board.note s!"get{spaced words}").attempt .getLines with
  | (.error fault, board) => ((.error fault, slots), board)
  | (.ok _, board) =>
    if wanted.isEmpty then ((.error (SystemError.fault 22), slots), board)
    else ((.ok (), lines.map fun line => some (board.readLine held line)), board)

/-- The states that a write gives to the lines of a request. A write that names no lines is about
all of them and makes them inactive. -/
def assigned (held : HeldLines) (lines : List LineNumber) (slots : List Slot) :
    List ((LineNumber × LineConfig) × PinState) :=
  if lines.isEmpty then held.settings.map fun setting => (setting, .inactive)
  else
    held.settings.filterMap fun setting =>
      (lastAssigned (storedStates lines slots) setting.1).map fun state => (setting, state)

/-- Drives lines of a request. A write that is about none of them is refused before any call. -/
def writeLines (held : HeldLines) (lines : List LineNumber) (slots : List Slot) (board : Board) :
    Except Fault Unit × Board :=
  let wanted := assigned held lines slots
  let words := wanted.map fun (setting, state) => s!"{lineText setting.1}={stateDigit state}"
  if wanted.isEmpty then (.error (SystemError.fault 22), board)
  else followed ((board.note s!"set{spaced words}").attempt .setLines) fun _ board =>
    if wanted.any fun (setting, _) => !setting.2.isOutput then
      (.error (SystemError.fault 1), board)
    else
      (.ok (), wanted.foldl (fun board (setting, state) => board.driveLine setting state) board)

def releaseRequest (held : HeldLines) (board : Board) : Board :=
  let lines := held.settings.map (·.1)
  let board := (closed "request" board).2
  { board with held := board.held.filter fun line => line ∉ lines }

/-- The chips of a board as a backend of line requests. -/
def backend : LineBackend Board String HeldLines where
  openChip := openChip
  requestLines := requestLines
  readLines := readLines
  writeLines := writeLines
  releaseRequest := releaseRequest
  releaseChip path board := (closed path board).2

end Pinwire.Bench.Board

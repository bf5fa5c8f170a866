import Pinwire.Bench.Directory
import Pinwire.Line.States
import Pinwire.Text.Decimal
import Pinwire.Text.Hex

/-!
# Boards

A board stands in for the operating system and the hardware under it: device nodes, the electrical
levels of 64 lines, the size of the SPI driver's buffer, and the files of a directory. It keeps a
list of the calls that reach its devices, each noted before it is decided whether the call fails,
and any kind of call can be told to fail after a number of successes.
-/

namespace Pinwire.Bench

/-- A kind of call that can be told to fail. -/
inductive Syscall where
  | bufferSize
  | openNode
  | setMode
  | setSpeed
  | setWordSize
  | message
  | close
  | lineInfo
  | request
  | getLines
  | setLines
  deriving Repr, DecidableEq

namespace Syscall

/-- Whether a call gives a setting to an SPI device. -/
def givesSetting : Syscall → Bool
  | setMode | setSpeed | setWordSize => true
  | _ => false

/-- How the failure of a call with an error number is reported. The calls that give settings tell
errors apart by their names and report a number without a name as zero. -/
def fault (call : Syscall) (code : Nat) : Fault :=
  if call.givesSetting && (SystemError.name? code).isNone then SystemError.fault 0
  else SystemError.fault code

end Syscall

/-- A kind of call that fails once `skip` more calls of it have gone through. -/
structure Injection where
  call : Syscall
  code : Nat
  skip : Nat
  deriving Repr, DecidableEq

/-- What is open under a descriptor. -/
inductive OpenFile where
  /-- A device node of the board. -/
  | node (path : String)
  /-- A file that is no device of the board. -/
  | other
  deriving Repr, DecidableEq

/-- A board. -/
structure Board where
  /-- What the SPI driver publishes as the size of its buffer, if the driver is there. -/
  bufferSize : Option (List UInt8)
  /-- The names of the device nodes. -/
  nodes : List String
  injections : List Injection
  /-- The electrical levels of lines; a line without one is low. -/
  levels : LineStates
  /-- The lines that live requests hold. -/
  held : List LineNumber
  openFiles : List (Int × OpenFile)
  nextDescriptor : Int
  /-- The files of the directory that processes run in. -/
  files : Directory
  /-- The calls so far, in order. -/
  events : List String

namespace Board

/-- What the path of a device node starts with. -/
def nodeDirectory : String := "/dev/"

/-- A board as it comes: two SPI devices and two chips, and all levels low. -/
def fresh : Board where
  bufferSize := some "32\n".toUTF8.toList
  nodes := ["spidev0.0", "spidev0.1", "gpiochip0", "gpiochip1"]
  injections := []
  levels := .empty
  held := []
  openFiles := []
  nextDescriptor := 3
  files := []
  events := []

def note (board : Board) (event : String) : Board :=
  { board with events := board.events ++ [event] }

def attempt (call : Syscall) (board : Board) : Except Fault Unit × Board :=
  match board.injections.find? fun injection => injection.call = call with
  | none => (.ok (), board)
  | some injection =>
    if injection.skip = 0 then (.error (call.fault injection.code), board)
    else
      let counted := board.injections.map fun injection =>
        if injection.call = call then { injection with skip := injection.skip - 1 } else injection
      (.ok (), { board with injections := counted })

/-- Continues a call on the board unless it has failed. -/
def followed {α β : Type} (result : Except Fault α × Board)
    (next : α → Board → Except Fault β × Board) : Except Fault β × Board :=
  match result with
  | (.ok value, board) => next value board
  | (.error fault, board) => (.error fault, board)

/-- Whether a path names a device node that the board has. -/
def hasNode (board : Board) (path : String) : Bool :=
  board.nodes.any fun name => nodeDirectory ++ name == path

def closed (name : String) (board : Board) : Except Fault Unit × Board :=
  (board.note s!"close {name}").attempt .close

/-- Words, each after a blank. -/
def spaced (words : List String) : String :=
  String.join (words.map fun word => " " ++ word)

def lineText (line : LineNumber) : String :=
  String.ofList (Text.Decimal.render line.toNat)

/-- The board after a process has ended: nothing of it is open or held any more. -/
def afterProcess (board : Board) : Board :=
  { board with held := [], openFiles := [] }

end Board

end Pinwire.Bench

import Pinwire.Bench.Board
import Pinwire.Bench.Loopback
import Pinwire.BusFile
import Pinwire.Spi.Host

/-!
# The SPI devices of a board

Device nodes are opened by path and known by descriptors from then on. Settings and messages are
control calls with numbers of their own. Whatever is transmitted comes back complemented.
-/

namespace Pinwire.Bench.Board

/-- Whether a path belongs to the board, be there a node or not. -/
def isNodePath (path : String) : Bool :=
  ["spidev", "gpiochip"].any fun kind => (nodeDirectory ++ kind).toList.isPrefixOf path.toList

def openAs (file : OpenFile) (board : Board) : Except Fault Int × Board :=
  (.ok board.nextDescriptor,
    { board with
      openFiles := board.openFiles ++ [(board.nextDescriptor, file)]
      nextDescriptor := board.nextDescriptor + 1 })

def openDevice (path : String) (board : Board) : Except Fault Int × Board :=
  followed ((board.note s!"open {path} rw").attempt .openNode) fun _ board =>
    if board.hasNode path then board.openAs (.node path)
    else (.error (SystemError.fault 2), board)

def openNode (path : String) (board : Board) : Except Fault Int × Board :=
  if path.contains '\x00' then (.error Directory.unnameable, board)
  else if isNodePath path then board.openDevice path
  else
    match board.files.read path with
    | .ok _ => board.openAs .other
    | .error fault => (.error fault, board)

def contentOf (board : Board) (path : String) : Except Fault (List UInt8) :=
  board.files.read path

def fileOf? (board : Board) (descriptor : Int) : Option OpenFile :=
  (board.openFiles.find? fun entry => entry.1 = descriptor).map (·.2)

def control (call : Syscall) (event : String) (descriptor : Int) (board : Board) :
    Except Fault Unit × Board :=
  match board.fileOf? descriptor with
  | some (.node _) => (board.note event).attempt call
  | some .other => (.error (SystemError.fault 25), board)
  | none => (.error (SystemError.fault 9), board)

/-- A number in hexadecimal, marked as such unless it is zero. -/
def hexText (number : Nat) : String :=
  String.ofList (if number = 0 then ['0'] else Text.Hex.renderMarked number)

/-- The number of the control call for a message of some parts: it encodes the size of its argument,
32 bytes for each part. -/
def messageNumber (parts : Nat) : Nat :=
  0x40000000 + parts * 32 * 0x10000 + 0x6b00

/-- A part of a message as events write it. -/
def partText (part : Descriptor) : String :=
  let transmit := match part.transmit with
    | some bytes => s!" tx={String.ofList (bytes.flatMap Text.Hex.renderByte)}"
    | none => ""
  let receive := if part.receiveOffset.isSome then " rx" else ""
  s!"[{part.length}{transmit}{receive}]"

/-- What comes back for a part of a message. -/
def replyTo (part : Descriptor) : List UInt8 :=
  match part.transmit with
  | some bytes => bytes.map fun byte => echo (some byte)
  | none => List.replicate part.length.toNat (echo none)

def message (descriptor : Int) (parts : List Descriptor) (board : Board) :
    Except Fault (List (List UInt8)) × Board :=
  let event := s!"ioctl {hexText (messageNumber parts.length)} message" ++
    spaced (parts.map partText)
  followed (board.control .message event descriptor) fun _ board => (.ok (parts.map replyTo), board)

def close (descriptor : Int) (board : Board) : Except Fault Unit × Board :=
  let remaining := { board with
    openFiles := board.openFiles.filter fun entry => entry.1 ≠ descriptor }
  match board.fileOf? descriptor with
  | some (.node path) => closed path remaining
  | some .other => (.ok (), remaining)
  | none => (.error (SystemError.fault 9), board)

/-- Reads what the driver publishes as the size of its buffer. -/
def readBufferSize (board : Board) : Except Fault String × Board :=
  followed ((board.note "read bufsiz").attempt .bufferSize) fun _ board =>
    match board.bufferSize with
    | none => (.error (SystemError.fault 2), board)
    | some bytes =>
      match BusFile.textOfBytes? bytes with
      | none => (.error BusFile.notText, board)
      | some text => (.ok text, board)

def host : SpiHost Board where
  readBufferSize := readBufferSize
  openNode := openNode
  setMode descriptor mode :=
    control .setMode s!"ioctl 0x40046b05 mode {hexText mode.toNat}" descriptor
  setSpeed descriptor speed := control .setSpeed s!"ioctl 0x40046b04 speed {speed}" descriptor
  setWordSize descriptor bits := control .setWordSize s!"ioctl 0x40016b03 bits {bits}" descriptor
  message := message
  close := close

end Pinwire.Bench.Board

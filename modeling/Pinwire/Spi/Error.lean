import Pinwire.ErrorKind
import Pinwire.Memory
import Pinwire.Spi.Mode
import Pinwire.Text.Quoted

/-!
# Errors of the SPI bus

Everything that can go wrong between a description of an SPI device and the bytes it answers, with
the texts in which it is reported.
-/

namespace Pinwire

/-- Why an operation on an SPI device failed. -/
inductive SpiError where
  /-- The device node could not be opened. -/
  | openFailed (path : String) (fault : Fault)
  /-- The node did not take the mode word. -/
  | modeRefused (path : String) (mode : UInt32) (fault : Fault)
  /-- The node did not take the clock speed. -/
  | speedRefused (path : String) (speed : UInt32) (fault : Fault)
  /-- The node did not take the word size. -/
  | wordSizeRefused (path : String) (bits : UInt8) (fault : Fault)
  /-- The size of the driver's buffer could not be read. -/
  | bufferSizeUnread (path : String) (fault : Fault)
  /-- The size of the driver's buffer is no usable number. -/
  | bufferSizeInvalid (text : String)
  /-- The receive buffer could not be provided. -/
  | outOfMemory (cause : AllocationError)
  /-- A message was not carried out. -/
  | transferFailed (fault : Fault)
  /-- The node reported an error when it was closed. -/
  | closeFailed (fault : Fault)
  /-- Both directions were asked for on a bus with one wire for both. -/
  | halfDuplexConflict (outLength inLength : Nat)
  /-- A description of the device has a part that makes no sense. -/
  | invalidParameter (reason : String)
  /-- A description of the device names no node. -/
  | deviceUnnamed
  deriving Repr, DecidableEq

namespace SpiError

def invalidValue (key value : String) : SpiError :=
  invalidParameter s!"Invalid {key} value: {value}"

def message : SpiError → String
  | openFailed path fault => s!"Failed to open {path}: {fault}"
  | modeRefused path mode fault =>
    s!"Failed to set SPI mode of {path} to " ++
      s!"{String.ofList (Text.Hex.renderMarked mode.toNat)}: {fault}"
  | speedRefused path speed fault => s!"Failed to set SPI speed of {path} to {speed} Hz: {fault}"
  | wordSizeRefused path bits fault => s!"Failed to set SPI word size of {path} to {bits}: {fault}"
  | bufferSizeUnread path fault => s!"Failed to read spidev bufsiz from {path}: {fault}"
  | bufferSizeInvalid text => s!"Failed to parse spidev bufsiz: {Text.Quoted.render text}"
  | outOfMemory cause => s!"Failed to allocate SPI receive buffer: {cause.message}"
  | transferFailed fault => s!"Failed to perform SPI transfer: {fault}"
  | closeFailed fault => s!"Failed to close SPI device: {fault}"
  | halfDuplexConflict outLength inLength =>
    s!"Half-duplex SPI cannot transmit {outLength} and receive {inLength} bytes at once"
  | invalidParameter reason => s!"Invalid parameter: {reason}"
  | deviceUnnamed => "No device specified. Use dev=/dev/spidevX.Y"

def kind : SpiError → ErrorKind
  | openFailed _ _ => .deviceOpen
  | modeRefused _ _ _ | speedRefused _ _ _ | wordSizeRefused _ _ _ | bufferSizeUnread _ _
  | bufferSizeInvalid _ | invalidParameter _ | deviceUnnamed => .configuration
  | outOfMemory _ => .outOfMemory
  | transferFailed _ | closeFailed _ => .io
  | halfDuplexConflict _ _ => .argumentMismatch

/-- The text of the error underneath, where there is one. -/
def cause? : SpiError → Option String
  | openFailed _ fault | modeRefused _ _ fault | speedRefused _ _ fault | wordSizeRefused _ _ fault
  | bufferSizeUnread _ fault | transferFailed fault | closeFailed fault => some fault
  | outOfMemory cause => some cause.message
  | _ => none

/-- The form in which a failed run reports an error, with every part of it spelled out. -/
def details : SpiError → String
  | openFailed path fault =>
    s!"OpenFailed \x7b path: {Text.Quoted.render path}, source: {Text.Quoted.render fault} \x7d"
  | modeRefused path mode fault =>
    s!"SetModeFailed \x7b path: {Text.Quoted.render path}, mode: {mode}, " ++
      s!"source: {Text.Quoted.render fault} \x7d"
  | speedRefused path speed fault =>
    s!"SetSpeedFailed \x7b path: {Text.Quoted.render path}, speed: {speed}, " ++
      s!"source: {Text.Quoted.render fault} \x7d"
  | wordSizeRefused path bits fault =>
    s!"SetBitsPerWordFailed \x7b path: {Text.Quoted.render path}, bits: {bits}, " ++
      s!"source: {Text.Quoted.render fault} \x7d"
  | bufferSizeUnread path fault =>
    s!"BufferSizeReadFailed \x7b path: {Text.Quoted.render path}, " ++
      s!"source: {Text.Quoted.render fault} \x7d"
  | bufferSizeInvalid text => s!"InvalidBufferSize({Text.Quoted.render text})"
  | outOfMemory cause => s!"OutOfMemory({Text.Quoted.render cause.message})"
  | transferFailed fault => s!"TransferFailed({Text.Quoted.render fault})"
  | closeFailed fault => s!"CloseFailed({Text.Quoted.render fault})"
  | halfDuplexConflict outLength inLength =>
    s!"HalfDuplexConflict \x7b out_len: {outLength}, in_len: {inLength} \x7d"
  | invalidParameter reason => s!"InvalidParameter({Text.Quoted.render reason})"
  | deviceUnnamed => "NoDevice"

end SpiError

end Pinwire

import Pinwire.ErrorKind
import Pinwire.Line.Config
import Pinwire.Memory
import Pinwire.Text.Quoted

/-!
# Errors of the line bus

Everything that can go wrong between a description of some lines and their values, with the texts
in which it is reported.
-/

namespace Pinwire

/-- Why an operation on lines failed. -/
inductive LineError where
  /-- Two lengths that a caller chose do not go together. -/
  | argumentMismatch (mismatch : LengthMismatch)
  /-- The lines of a request contradict each other. -/
  | invalidConfig (reason : String)
  /-- The chip could not be opened. -/
  | chipOpenFailed (path : String) (fault : Fault)
  /-- The chip did not hand over the lines. -/
  | lineRequestFailed (path : String) (fault : Fault)
  /-- The buffer of line values could not be provided. -/
  | outOfMemory (cause : AllocationError)
  /-- The lines could not be read. -/
  | readFailed (fault : Fault)
  /-- Reading succeeded, but a line was left without a value. -/
  | valueMissing (line : LineNumber)
  /-- The lines could not be driven. -/
  | writeFailed (fault : Fault)
  /-- A description of the bus has a part that makes no sense. -/
  | invalidParameter (reason : String)
  /-- A description of the bus names no chip. -/
  | chipUnnamed
  deriving Repr, DecidableEq

namespace LineError

def lineRepeated (line : LineNumber) : LineError :=
  invalidConfig s!"line {line} configured more than once"

def invalidValue (key value : String) : LineError :=
  invalidParameter s!"Invalid {key} value: {value}"

def message : LineError → String
  | argumentMismatch mismatch => s!"GPIO argument mismatch: {mismatch.message}"
  | invalidConfig reason => s!"GPIO configuration failed: {reason}"
  | chipOpenFailed path fault => s!"Failed to open GPIO chip '{path}': {fault}"
  | lineRequestFailed path fault => s!"Failed to request GPIO lines on '{path}': {fault}"
  | outOfMemory cause => s!"Failed to allocate GPIO value buffer: {cause.message}"
  | readFailed fault => s!"Failed to read GPIO pin value(s): {fault}"
  | valueMissing line => s!"Failed to read GPIO pin value(s): no valid value for line {line}"
  | writeFailed fault => s!"Failed to write GPIO pin value(s): {fault}"
  | invalidParameter reason => s!"Invalid parameter: {reason}"
  | chipUnnamed => "No GPIO chip specified. Use dev=/dev/gpiochipN or gpiochip=N"

def kind : LineError → ErrorKind
  | argumentMismatch _ => .argumentMismatch
  | invalidConfig _ | invalidParameter _ | chipUnnamed => .configuration
  | chipOpenFailed _ _ | lineRequestFailed _ _ => .deviceOpen
  | outOfMemory _ => .outOfMemory
  | readFailed _ | valueMissing _ | writeFailed _ => .io

/-- The text of the error underneath, where there is one. -/
def cause? : LineError → Option String
  | argumentMismatch mismatch => some mismatch.message
  | outOfMemory cause => some cause.message
  | chipOpenFailed _ fault | lineRequestFailed _ fault | readFailed fault | writeFailed fault =>
    some fault
  | _ => none

/-- The form in which a failed run reports an error, with every part of it spelled out. -/
def details : LineError → String
  | argumentMismatch ⟨what, left, right⟩ =>
    s!"ArgumentMismatch(LengthMismatch \x7b what: {Text.Quoted.render what}, left: {left}, " ++
      s!"right: {right} \x7d)"
  | invalidConfig reason => s!"InvalidConfig({Text.Quoted.render reason})"
  | chipOpenFailed path fault =>
    s!"ChipOpenFailed \x7b path: {Text.Quoted.render path}, source: {Text.Quoted.render fault} \x7d"
  | lineRequestFailed path fault =>
    s!"LineRequestFailed \x7b path: {Text.Quoted.render path}, " ++
      s!"source: {Text.Quoted.render fault} \x7d"
  | outOfMemory cause => s!"OutOfMemory({Text.Quoted.render cause.message})"
  | readFailed fault => s!"GetValueFailed({Text.Quoted.render fault})"
  | valueMissing line => s!"InvalidValue \x7b line: {line} \x7d"
  | writeFailed fault => s!"SetValueFailed({Text.Quoted.render fault})"
  | invalidParameter reason => s!"InvalidParameter({Text.Quoted.render reason})"
  | chipUnnamed => "NoDevice"

end LineError

end Pinwire

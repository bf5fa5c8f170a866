import Pinwire.BusFile
import Pinwire.Command

/-!
# Failures

Everything that can end a run of the program early, and how a failed run reports it.
-/

namespace Pinwire

/-- Why a run of the program failed. -/
inductive Failure where
  | line (error : LineError)
  | spi (error : SpiError)
  | busFile (error : BusFileError)
  | assignment (defect : Assignment.Defect)
  | bytes (defect : Text.HexDump.Defect)
  /-- Neither options nor a bus file describe a line bus. -/
  | lineBusUndescribed
  /-- Neither options nor a bus file describe an SPI bus. -/
  | spiBusUndescribed
  /-- The file with the bytes to transmit could not be read. -/
  | dataUnread (path : String) (fault : Fault)
  /-- Neither a text nor a file has the bytes to transmit. -/
  | dataMissing
  deriving Repr, DecidableEq

namespace Failure

def ofLineCommand : CommandError LineError → Failure
  | .bus error => line error
  | .assignment defect => assignment defect
  | .bytes defect => bytes defect

/-- The failure of a command on an SPI bus. -/
def ofSpiCommand : CommandError SpiError → Failure
  | .bus error => spi error
  | .assignment defect => assignment defect
  | .bytes defect => bytes defect

def message : Failure → String
  | line error => error.message
  | spi error => error.message
  | busFile error => error.message
  | assignment defect => defect.message
  | bytes defect => defect.message
  | lineBusUndescribed =>
    "No GPIO bus configured. Use --dev dev=/dev/gpiochipN,out=N,... or a [gpio] section in --config"
  | spiBusUndescribed =>
    "No SPI bus configured. Use --dev dev=/dev/spidevX.Y,... or a [spi] section in --config"
  | dataUnread path fault => s!"Failed to read {path}: {fault}"
  | dataMissing => "No data to write"

/-- The form in which a failed run reports a failure: with every part spelled out where it has
parts, and as a quoted text otherwise. -/
def details : Failure → String
  | line error => error.details
  | spi error => error.details
  | busFile error => error.details
  | assignment (.invalidState text) => s!"ParsePinStateError({Text.Quoted.render text})"
  | failure => Text.Quoted.render failure.message

def report (failure : Failure) : String :=
  s!"Error: {failure.details}"

end Failure

end Pinwire

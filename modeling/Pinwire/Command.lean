import Pinwire.Assignment
import Pinwire.Line.Bus
import Pinwire.Spi.Bus
import Pinwire.Text.HexDump

/-!
# Commands on buses

What a user asks of a bus in texts: lines to read, assignments to lines, bytes in hexadecimal. Each
command answers with the text it prints. A malformed text is refused before the bus is touched.
-/

namespace Pinwire

/-- Why a command failed: the bus did, or the user's text is malformed. -/
inductive CommandError (ε : Type) where
  | bus (error : ε)
  | assignment (defect : Assignment.Defect)
  | bytes (defect : Text.HexDump.Defect)
  deriving Repr, DecidableEq

namespace LineBus

variable {σ ε : Type}

/-- The component that runs commands on lines, as the journal names it. -/
def commandSource : String := "linbus::commands::gpio"

/-- The row that shows the state of a line. -/
def stateRow (line : LineNumber) (state : PinState) : String :=
  s!"{String.ofList (Text.Decimal.render line.toNat)}={state.name}\n"

/-- Reads lines and prints a row for each, in the order they are asked for. -/
def printStates (bus : LineBus σ ε) (lines : List LineNumber) :
    Program σ (CommandError ε) String := do
  let states ← .mapError .bus (bus.get lines)
  pure (String.join (List.zipWith stateRow lines states))

def renderStates (states : LineStates) : String :=
  let entries := states.entries.map fun (line, state) =>
    Text.Decimal.render line.toNat ++ [':', ' '] ++ state.details.toList
  "\x7b" ++ String.ofList (Text.joinWith [',', ' '] entries) ++ "\x7d"

/-- Drives lines as items of the form `LINE=VALUE` say. -/
def assign (bus : LineBus σ ε) (items : List String) : Program σ (CommandError ε) Unit := do
  let states ← .ofExcept ((Assignment.parse items).mapError .assignment)
  .record .debug commandSource s!"gpio: setting {renderStates states}"
  .mapError .bus (bus.set states)

end LineBus

namespace SpiLink

variable {σ ε : Type}

/-- The component that runs commands on an SPI bus, as the journal names it. -/
def commandSource : String := "linbus::commands::spi"

def printRead (link : SpiLink σ ε) (count : Nat) : Program σ (CommandError ε) String := do
  let bytes ← .mapError .bus (link.read count)
  pure (Text.HexDump.render bytes ++ "\n")

/-- Transmits some bytes and notes how many they were. -/
def writeBytes (link : SpiLink σ ε) (bytes : List UInt8) (chunked : Bool) :
    Program σ (CommandError ε) Unit := do
  .mapError .bus (link.write bytes chunked)
  .record .info commandSource s!"spi: wrote {bytes.length} bytes"

/-- Transmits some bytes while receiving others, and prints what was received, if anything. -/
def printExchange (link : SpiLink σ ε) (bytes : List UInt8) (inLength : Nat) (chunked : Bool) :
    Program σ (CommandError ε) String := do
  let received ← .mapError .bus (link.transaction (some bytes) inLength chunked)
  pure (if received.isEmpty then "" else Text.HexDump.render received ++ "\n")

def readBytes (text : String) : Program σ (CommandError ε) (List UInt8) :=
  .ofExcept ((Text.HexDump.parse text).mapError .bytes)

end SpiLink

end Pinwire

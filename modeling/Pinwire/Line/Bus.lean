import Pinwire.Line.Request
import Pinwire.Line.States

/-!
# Line buses

What a program that uses lines needs of them, whatever is behind: reading some lines and driving
some lines, both by number. Reading or driving a single line follows from these.
-/

namespace Pinwire

/-- Lines that can be read and driven, over the state `σ` and with errors `ε`. -/
structure LineBus (σ ε : Type) where
  /-- The states of some lines, in the order they are asked for. -/
  get : List LineNumber → Program σ ε (List PinState)
  /-- Drives lines to states. -/
  set : LineStates → Program σ ε Unit
  /-- The bus's error for lengths that do not go together. -/
  mismatch : LengthMismatch → ε

namespace LineBus

variable {σ ε : Type}

/-- The state of one line; a bus that does not answer with one state is at fault. -/
def getOne (bus : LineBus σ ε) (line : LineNumber) : Program σ ε PinState := do
  let states ← bus.get [line]
  match states with
  | [state] => pure state
  | _ =>
    .fail (bus.mismatch ⟨"GPIO states returned for one requested line", states.length, 1⟩)

def setOne (bus : LineBus σ ε) (line : LineNumber) (state : PinState) : Program σ ε Unit :=
  bus.set (LineStates.empty.insert line state)

end LineBus

namespace LineRequest

variable {σ Chip Request : Type}

/-- A request as a bus; driving addresses the lines in ascending order. -/
def bus (backend : LineBackend σ Chip Request) (memory : Memory) :
    LineBus (LineRequest Chip Request × σ) LineError where
  get := get backend memory
  set states := set backend states.lines states.values
  mismatch := .argumentMismatch

end LineRequest

end Pinwire

import Pinwire.ErrorKind
import Pinwire.Line.Config

/-!
# Backends of line requests

What a chip driver offers: opening a chip, requesting some of its lines as a unit, reading and
writing subsets of a request, and giving everything back. Every call acts on the state of the
backend's world and may fail.
-/

namespace Pinwire

/-- A place for a line's value, empty until one is stored. -/
abbrev Slot := Option PinState

/-- The states that slots hold, each with its line; an empty slot says nothing of its line. -/
def storedStates (lines : List LineNumber) (slots : List Slot) : List (LineNumber × PinState) :=
  (lines.zip slots).filterMap fun (line, slot) => slot.map fun state => (line, state)

/-- A driver of chips over the world `σ`. -/
structure LineBackend (σ Chip Request : Type) where
  /-- Opens the chip of a path. -/
  openChip : String → σ → Except Fault Chip × σ
  /-- Requests lines of a chip in the name of a consumer. -/
  requestLines : Chip → String → List (LineNumber × LineConfig) → σ → Except Fault Request × σ
  /-- Reads lines of a request into slots, one slot for each line. -/
  readLines : Request → List LineNumber → List Slot → σ → (Except Fault Unit × List Slot) × σ
  /-- Drives lines of a request from slots, one slot for each line. -/
  writeLines : Request → List LineNumber → List Slot → σ → Except Fault Unit × σ
  /-- Gives the lines of a request back. -/
  releaseRequest : Request → σ → σ
  /-- Closes a chip. -/
  releaseChip : Chip → σ → σ

end Pinwire

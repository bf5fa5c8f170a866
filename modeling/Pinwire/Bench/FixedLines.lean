import Pinwire.Line.Bus

/-!
# Lines with a fixed answer

A line bus that answers every reading with the same states, whatever is asked for, and keeps a list
of the calls made to it.
-/

namespace Pinwire.Bench

/-- A call that reached a bus with a fixed answer. -/
inductive LineEvent where
  | get (lines : List LineNumber)
  | set (states : LineStates)

/-- The error of a bus that has none but mismatched lengths. -/
structure LengthError where
  mismatch : LengthMismatch
  deriving Repr, DecidableEq

/-- A bus that answers every reading with `reply`; its state are the calls so far. -/
def fixedLines (reply : List PinState) : LineBus (List LineEvent) LengthError where
  get lines := do
    .change fun events => events ++ [.get lines]
    pure reply
  set states := .change fun events => events ++ [.set states]
  mismatch := LengthError.mk

end Pinwire.Bench

import Pinwire.Spi.Bus

/-!
# Links with patterned answers

A link that answers every transaction with bytes that count upwards from a base, and keeps a list of
the transactions. It can be told to fail.
-/

namespace Pinwire.Bench

/-- A transaction that reached a link. -/
structure Transaction where
  output : Option (List UInt8)
  inLength : Nat
  chunked : Bool
  deriving Repr, DecidableEq

/-- The state of a link with patterned answers. -/
structure PatternLink where
  failing : Bool
  transactions : List Transaction
  deriving Repr, DecidableEq

namespace PatternLink

/-- The failure of a link that was told to fail. -/
def failure : Fault := "bus failure"

def answer (base : UInt8) (transaction : Transaction) (state : PatternLink) :
    Except Fault (List UInt8) × PatternLink :=
  let bytes := (List.range transaction.inLength).map fun place => base + UInt8.ofNat place
  (if state.failing then .error failure else .ok bytes,
    { state with transactions := state.transactions ++ [transaction] })

/-- The link whose answers count upwards from `base`. -/
def link (base : UInt8) : SpiLink PatternLink Fault where
  transaction output inLength chunked := .act id (answer base ⟨output, inLength, chunked⟩)

end PatternLink

end Pinwire.Bench

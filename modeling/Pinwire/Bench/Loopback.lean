import Pinwire.Spi.Transfer

/-!
# Loopback

A wire that answers each transmitted byte with its complement, and `A5` where nothing is
transmitted. It keeps the messages it carried out and the bytes that went over it, and can be told
to fail from some message on.
-/

namespace Pinwire.Bench

/-- What the far end of the wire answers while a byte, or nothing, is transmitted. -/
def echo : Option UInt8 → UInt8
  | some byte => byte ^^^ 0xFF
  | none => 0xA5

/-- The state of a loopback. -/
structure Loopback where
  /-- How many messages succeed before every further one fails, and how. -/
  failure : Option (Nat × Fault)
  messages : List (List Chunk)
  sent : List UInt8
  deriving Repr, DecidableEq

namespace Loopback

/-- What is transmitted in each place of a chunk. -/
def transmitted (output : List UInt8) (chunk : Chunk) : List (Option UInt8) :=
  match chunk.transmitOffset with
  | some offset => (Transfer.window offset chunk.length output).map some
  | none => List.replicate chunk.length none

/-- Stores the answer to a chunk in the receive buffer. -/
def receive (output : List UInt8) (input : List UInt8) (chunk : Chunk) : List UInt8 :=
  match chunk.receiveOffset with
  | some offset => Transfer.store offset ((transmitted output chunk).map echo) input
  | none => input

def carry (chunks : List Chunk) (output input : List UInt8) (loopback : Loopback) :
    (Except Fault Unit × List UInt8) × Loopback :=
  let due := loopback.failure.filter fun (count, _) => count ≤ loopback.messages.length
  match due with
  | some (_, fault) => ((.error fault, input), loopback)
  | none =>
    let bytes := (chunks.flatMap (transmitted output)).filterMap id
    ((.ok (), chunks.foldl (receive output) input),
      { loopback with
        messages := loopback.messages ++ [chunks]
        sent := loopback.sent ++ bytes })

/-- The answer to a chunk fits the receive buffer. -/
theorem length_receive (output input : List UInt8) (chunk : Chunk) :
    (receive output input chunk).length = input.length := by
  unfold receive
  split
  · exact Transfer.length_store _ _ _
  · rfl

/-- A message does not change the length of the receive buffer. -/
theorem length_carry (chunks : List Chunk) (output input : List UInt8) (loopback : Loopback) :
    (carry chunks output input loopback).1.2.length = input.length := by
  simp only [carry]
  split
  · rfl
  · induction chunks generalizing input with
    | nil => rfl
    | cons chunk chunks ih =>
      exact (ih (receive output input chunk)).trans (length_receive _ _ _)

def sink : MessageSink Loopback where
  message := carry
  keepsLength := length_carry

end Loopback

end Pinwire.Bench

import Pinwire.Program
import Pinwire.Spi.Chunk
import Pinwire.Spi.Error
import Pinwire.Text.Decimal

/-!
# Transfers

A transfer of any length is handed, message by message, to whatever carries messages out. The first
message that fails ends the transfer with that failure, and what was received before it is lost.
Absent output is the same as empty output.
-/

namespace Pinwire

/-- Something that carries out messages, over the state `σ`. A message brings its chunks, all bytes
of the transmit leg and the receive buffer so far, and leaves the receive buffer after it, which
keeps its length. -/
structure MessageSink (σ : Type) where
  message : List Chunk → List UInt8 → List UInt8 → σ → (Except Fault Unit × List UInt8) × σ
  keepsLength : ∀ chunks output input state,
    (message chunks output input state).1.2.length = input.length

namespace Transfer

/-- The budget of a message when nothing has to be split: what a chunk's length field can hold. -/
def unchunkedBudget : Nat := Bounds.unsigned32

/-- The component that carries out transfers, as the journal names it. -/
def source : String := "linbus_linux_spi::transfer"

/-- Stores bytes in a buffer from an offset on; the buffer keeps its length. -/
def store : Nat → List UInt8 → List UInt8 → List UInt8
  | _, [], buffer => buffer
  | _, _, [] => []
  | 0, byte :: bytes, _ :: buffer => byte :: store 0 bytes buffer
  | offset + 1, bytes, byte :: buffer => byte :: store offset bytes buffer

/-- Storing bytes does not change the length of the buffer. -/
theorem length_store (offset : Nat) (bytes buffer : List UInt8) :
    (store offset bytes buffer).length = buffer.length := by
  fun_induction store offset bytes buffer with
  | case1 => rfl
  | case2 => rfl
  | case3 byte bytes first buffer ih => simp [ih]
  | case4 offset bytes byte buffer nonempty ih => simp [ih]

def window (offset length : Nat) (buffer : List UInt8) : List UInt8 :=
  (buffer.drop offset).take length

/-- Notes a message in the journal: how many chunks it has and how long they are. -/
def noteMessage {σ : Type} (chunks : List Chunk) : Program σ SpiError Unit :=
  let lengths := Text.bracketed (fun chunk : Chunk => Text.Decimal.render chunk.length) chunks
  .record .trace source
    s!"linux_spi: message with {chunks.length} chunk(s): {String.ofList lengths}"

/-- Carries out one message, from one receive buffer to the next. -/
def sendMessage {σ : Type} (sink : MessageSink σ) (output : List UInt8) (chunks : List Chunk)
    (input : List UInt8) : Program σ SpiError (List UInt8) :=
  .act .transferFailed fun state =>
    let ((answer, input), state) := sink.message chunks output input state
    (answer.map fun _ => input, state)

/-- Carries out what a cursor has left, message by message, from one receive buffer to the next. -/
def carryOut {σ : Type} (sink : MessageSink σ) (output : List UInt8) (budget : Nat)
    (positive : 0 < budget) (cursor : Cursor) (input : List UInt8) :
    Program σ SpiError (List UInt8) :=
  if cursor.isDone = false then do
    let message := cursor.nextMessage budget
    noteMessage message.1
    let input ← sendMessage sink output message.1 input
    carryOut sink output budget positive message.2 input
  else
    pure input
termination_by cursor.remaining
decreasing_by
  rename_i notDone
  exact Cursor.remaining_nextMessage_lt notDone positive

end Transfer

/-- Transmits some bytes and receives `inLength` bytes in messages within a budget; a budget of
zero counts as one. -/
def transfer {σ : Type} (memory : Memory) (sink : MessageSink σ) (output : Option (List UInt8))
    (inLength budget : Nat) : Program σ SpiError (List UInt8) := do
  let output := output.getD []
  if output.isEmpty && inLength = 0 then
    pure []
  else
    let input ← .ofExcept ((memory.allocate inLength 1 0).mapError .outOfMemory)
    Transfer.carryOut sink output (max budget 1) (Nat.le_max_right budget 1)
      (Cursor.start output.length inLength) input

end Pinwire

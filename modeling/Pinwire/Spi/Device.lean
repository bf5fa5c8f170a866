import Pinwire.Spi.ChunkLimit
import Pinwire.Spi.Host
import Pinwire.Spi.Node
import Pinwire.Spi.Transfer

/-!
# SPI devices

A device is an open node that has taken its settings, together with the chunk limit that was in
force when it was opened. Its transfers are split into messages within that limit when the caller
asks for it, and within the reach of a length field otherwise.
-/

namespace Pinwire

/-- An open SPI device. -/
structure SpiDevice where
  descriptor : Int
  chunkLimit : Nat
  deriving Repr, DecidableEq

/-- The state of a process that uses SPI devices: the chunk limit it knows, and its host's world. -/
abbrev SpiProcess (σ : Type) := ChunkLimit × σ

namespace SpiProcess

def onHost {σ ε α : Type} (program : Program σ ε α) : Program (SpiProcess σ) ε α :=
  .within (·.2) (fun (limit, _) world => (limit, world)) program

end SpiProcess

namespace SpiDevice

variable {σ : Type}

/-- The component that works on devices, as the journal names it. -/
def source : String := "linbus_linux_spi::device"

/-- The chunk limit of the process, read from the host when it is not known. -/
def processLimit (host : SpiHost σ) : Program (SpiProcess σ) SpiError Nat :=
  ChunkLimit.resolve (.act (.bufferSizeUnread ChunkLimit.parameterPath) host.readBufferSize)

/-- An open descriptor as a node that takes settings. -/
def setupNode (host : SpiHost σ) (descriptor : Int) : SetupNode σ where
  setMode := host.setMode descriptor
  setSpeed := host.setSpeed descriptor
  setWordSize := host.setWordSize descriptor
  giveUp world := (host.close descriptor world).2

def openNode (host : SpiHost σ) (settings : SpiSettings) : Program σ SpiError Int := do
  .record .debug source s!"linux_spi: Opening device {settings.device}"
  let descriptor ← .act (.openFailed settings.device) (host.openNode settings.device)
  (setupNode host descriptor).configure settings
  let mode := String.ofList (Text.Hex.renderMarked settings.mode.kernelWord.toNat)
  let kilohertz := settings.speedHz / 1000
  .record .info source
    s!"linux_spi: Opened {settings.device} (mode={mode}, speed={kilohertz} kHz)"
  pure descriptor

def acquire (host : SpiHost σ) (settings : SpiSettings) :
    Program (SpiProcess σ) SpiError SpiDevice := do
  if settings.device = "" then
    .fail .deviceUnnamed
  else
    let chunkLimit ← processLimit host
    let descriptor ← SpiProcess.onHost (openNode host settings)
    pure ⟨descriptor, chunkLimit⟩

/-- The part of a message that stands for a chunk. -/
def describe (output : List UInt8) (chunk : Chunk) : Descriptor where
  length := UInt32.ofNat chunk.length
  transmit := chunk.transmitOffset.map fun offset => Transfer.window offset chunk.length output
  receiveOffset := chunk.receiveOffset

/-- The parts of the message for some chunks; a message has room for two. -/
def messageParts (output : List UInt8) (chunks : List Chunk) : List Descriptor :=
  (chunks.take Cursor.largestMessage).map (describe output)

/-- Stores the reply to a part at its place in the receive buffer, as far as the part is long. -/
def storeReply (part : Descriptor) (reply input : List UInt8) : List UInt8 :=
  match part.receiveOffset with
  | some offset => Transfer.store offset (reply.take part.length.toNat) input
  | none => input

/-- Stores the replies to the parts of a message; a part without a reply leaves its place as it
is. -/
def storeReplies : List Descriptor → List (List UInt8) → List UInt8 → List UInt8
  | [], _, input => input
  | part :: parts, replies, input =>
    storeReplies parts replies.tail (storeReply part (replies.headD []) input)

theorem length_storeReply (part : Descriptor) (reply input : List UInt8) :
    (storeReply part reply input).length = input.length := by
  unfold storeReply
  split
  · exact Transfer.length_store _ _ _
  · rfl

/-- Storing the replies does not change the length of the receive buffer. -/
theorem length_storeReplies (parts : List Descriptor) (replies : List (List UInt8))
    (input : List UInt8) : (storeReplies parts replies input).length = input.length := by
  induction parts generalizing replies input with
  | nil => rfl
  | cons part parts ih => rw [storeReplies, ih, length_storeReply]

/-- The messages of an open descriptor. -/
def sink (host : SpiHost σ) (descriptor : Int) : MessageSink σ where
  message chunks output input world :=
    let parts := messageParts output chunks
    let (answer, world) := host.message descriptor parts world
    match answer with
    | .ok replies => ((.ok (), storeReplies parts replies input), world)
    | .error fault => ((.error fault, input), world)
  keepsLength chunks output input world := by
    dsimp only
    split
    · exact length_storeReplies _ _ _
    · rfl

/-- Transmits some bytes and receives `inLength` bytes. -/
def transfer (host : SpiHost σ) (memory : Memory) (device : SpiDevice)
    (output : Option (List UInt8)) (inLength : Nat) (chunked : Bool) :
    Program σ SpiError (List UInt8) :=
  Pinwire.transfer memory (sink host device.descriptor) output inLength
    (if chunked then device.chunkLimit else Transfer.unchunkedBudget)

/-- Closes a descriptor; one that stands for no open file is left alone. -/
def closeDescriptor (host : SpiHost σ) (descriptor : Int) : Program σ SpiError Unit :=
  if descriptor ≤ 0 then pure () else .act .closeFailed (host.close descriptor)

/-- Closes a device and notes it in the journal. -/
def close (host : SpiHost σ) (device : SpiDevice) : Program σ SpiError Unit := do
  .record .debug source "linux_spi: Closing device"
  closeDescriptor host device.descriptor

def drop (host : SpiHost σ) (device : SpiDevice) (world : σ) : σ :=
  (host.close device.descriptor world).2

end SpiDevice

end Pinwire

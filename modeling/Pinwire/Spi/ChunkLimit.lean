import Pinwire.Program
import Pinwire.Spi.Error
import Pinwire.Text.Blank
import Pinwire.Text.Decimal

/-!
# The chunk limit

The driver refuses a message that is longer than its buffer. The size of the buffer is read when it
is first needed and kept from then on; a reading that fails is not kept, so the next need reads
again.
-/

namespace Pinwire

/-- The limit on the length of a message, once it is known. -/
structure ChunkLimit where
  resolved : Option Nat
  deriving Repr, DecidableEq

namespace ChunkLimit

/-- Where the driver publishes the size of its buffer. -/
def parameterPath : String := "/sys/module/spidev/parameters/bufsiz"

/-- The component that reads the limit, as the journal names it. -/
def source : String := "linbus_linux_spi::chunk"

def unresolved : ChunkLimit := ⟨none⟩

/-- The size in a text, from one to the largest signed 32-bit number. -/
def parse (text : String) : Except SpiError Nat :=
  let trimmed := Text.trim text.toList
  match Text.Decimal.signed? Bounds.smallest64 Bounds.signed64 trimmed with
  | none => .error (.bufferSizeInvalid (String.ofList trimmed))
  | some size =>
    if 0 < size ∧ size ≤ Bounds.signed32 then .ok size.toNat
    else .error (.bufferSizeInvalid (String.ofList trimmed))

/-- The size that a reader's text gives, noted in the journal. -/
def readSize {σ : Type} (reader : Program σ SpiError String) : Program σ SpiError Nat := do
  let text ← reader
  let size ← .ofExcept (parse text)
  .record .debug source s!"linux_spi: Max kernel buffer size: {size} bytes"
  pure size

/-- The limit: the one that is known, or else the one that the reader's text gives. -/
def resolve {σ : Type} (reader : Program σ SpiError String) :
    Program (ChunkLimit × σ) SpiError Nat := do
  let (limit, _) ← .current
  match limit.resolved with
  | some size => pure size
  | none =>
    let size ← .within (·.2) (fun (limit, _) world => (limit, world)) (readSize reader)
    .change fun (_, world) => (⟨some size⟩, world)
    pure size

end ChunkLimit

end Pinwire

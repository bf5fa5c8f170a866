import Pinwire.Spi.Device

/-!
# SPI buses

What a program that uses an SPI bus needs of it, whatever is behind: transactions that transmit and
receive at once. Reading and writing follow from these. A bus on a device refuses to do both at once
when both directions share one wire.
-/

namespace Pinwire

/-- A bus with transactions, over the state `σ` and with errors `ε`. -/
structure SpiLink (σ ε : Type) where
  /-- Transmits some bytes and receives a number of bytes, in driver-sized pieces on demand. -/
  transaction : Option (List UInt8) → Nat → Bool → Program σ ε (List UInt8)

namespace SpiLink

variable {σ ε : Type}

def read (link : SpiLink σ ε) (count : Nat) : Program σ ε (List UInt8) :=
  link.transaction none count false

def write (link : SpiLink σ ε) (bytes : List UInt8) (chunked : Bool) : Program σ ε Unit := do
  let _ ← link.transaction (some bytes) 0 chunked

def writeByte (link : SpiLink σ ε) (byte : UInt8) : Program σ ε Unit :=
  link.write [byte] false

end SpiLink

/-- A device used as a bus. -/
structure SpiBus where
  device : SpiDevice
  halfDuplex : Bool
  deriving Repr, DecidableEq

namespace SpiBus

variable {σ : Type}

/-- Refuses to transmit and receive at once on a shared wire. -/
def checkHalfDuplex (halfDuplex : Bool) (outLength inLength : Nat) : Except SpiError Unit :=
  if halfDuplex ∧ 0 < outLength ∧ 0 < inLength then .error (.halfDuplexConflict outLength inLength)
  else .ok ()

/-- Opens the device that settings describe as a bus. -/
def setup (host : SpiHost σ) (settings : SpiSettings) :
    Program (SpiProcess σ) SpiError SpiBus := do
  let device ← SpiDevice.acquire host settings
  pure ⟨device, settings.mode.isHalfDuplex⟩

def link (host : SpiHost σ) (memory : Memory) (bus : SpiBus) : SpiLink σ SpiError where
  transaction output inLength chunked := do
    .ofExcept (checkHalfDuplex bus.halfDuplex (output.getD []).length inLength)
    bus.device.transfer host memory output inLength chunked

end SpiBus

end Pinwire

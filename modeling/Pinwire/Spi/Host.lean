import Pinwire.ErrorKind

/-!
# Hosts of SPI devices

What an operating system offers to a user of SPI devices: reading the size of the driver's buffer,
opening a node, giving it settings, carrying out messages on it and closing it. An open node is
known by its descriptor. Every call acts on the state of the host's world and may fail.
-/

namespace Pinwire

/-- One part of a message as the kernel is given it. -/
structure Descriptor where
  length : UInt32
  /-- The bytes to transmit, if the part transmits. -/
  transmit : Option (List UInt8)
  /-- Where in the receive buffer the received bytes go, if the part receives. -/
  receiveOffset : Option Nat
  deriving Repr, DecidableEq

/-- An operating system with SPI devices, over the world `σ`. -/
structure SpiHost (σ : Type) where
  /-- The text in which the driver publishes the size of its buffer. -/
  readBufferSize : σ → Except Fault String × σ
  /-- Opens a node for reading and writing. -/
  openNode : String → σ → Except Fault Int × σ
  setMode : Int → UInt32 → σ → Except Fault Unit × σ
  setSpeed : Int → UInt32 → σ → Except Fault Unit × σ
  setWordSize : Int → UInt8 → σ → Except Fault Unit × σ
  /-- Carries out a message and answers with the received bytes of each part. -/
  message : Int → List Descriptor → σ → Except Fault (List (List UInt8)) × σ
  /-- Closes a descriptor, which is gone afterwards in any case. -/
  close : Int → σ → Except Fault Unit × σ

end Pinwire

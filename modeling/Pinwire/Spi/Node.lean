import Pinwire.Program
import Pinwire.Spi.Settings

/-!
# Configuring a device node

A freshly opened node is given its mode word, its clock speed and its word size, in this order. A
node that refuses one of them is given up before the failure is reported; one that takes all three
is handed on.
-/

namespace Pinwire

/-- A node that takes settings, over the state `σ`. -/
structure SetupNode (σ : Type) where
  setMode : UInt32 → σ → Except Fault Unit × σ
  setSpeed : UInt32 → σ → Except Fault Unit × σ
  setWordSize : UInt8 → σ → Except Fault Unit × σ
  /-- What giving the node up does. -/
  giveUp : σ → σ

namespace SetupNode

def wordSize : UInt8 := 8

def applySettings {σ : Type} (node : SetupNode σ) (settings : SpiSettings) :
    Program σ SpiError Unit := do
  let mode := settings.mode.kernelWord
  .act (.modeRefused settings.device mode) (node.setMode mode)
  .act (.speedRefused settings.device settings.speedHz) (node.setSpeed settings.speedHz)
  .act (.wordSizeRefused settings.device wordSize) (node.setWordSize wordSize)

/-- Gives the settings to a node, or gives the node up. -/
def configure {σ : Type} (node : SetupNode σ) (settings : SpiSettings) : Program σ SpiError Unit :=
  .undoing node.giveUp (node.applySettings settings)

end SetupNode

end Pinwire

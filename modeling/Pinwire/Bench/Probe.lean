import Pinwire.Spi.ChunkLimit
import Pinwire.Spi.Node
import Pinwire.Text.Decimal

/-!
# Probes

A node that keeps a list of the settings it is given and can be told to refuse one of them, and a
reader of the driver's buffer size that counts how often it is asked.
-/

namespace Pinwire.Bench

/-- A setting that a node can refuse. -/
inductive Setting where
  | mode
  | speed
  | wordSize
  deriving Repr, DecidableEq

/-- What a node refuses, and with which failure. -/
structure Refusal where
  setting : Setting
  fault : Fault
  deriving Repr, DecidableEq

namespace Probe

def take (refusal : Option Refusal) (setting : Setting) (note : String) (events : List String) :
    Except Fault Unit × List String :=
  let events := events ++ [note]
  match refusal with
  | some refusal => (if refusal.setting = setting then .error refusal.fault else .ok (), events)
  | none => (.ok (), events)

/-- A node whose state are the settings it was given and whether it was given up. -/
def node (refusal : Option Refusal) : SetupNode (List String) where
  setMode mode := take refusal .mode s!"mode={mode}"
  setSpeed speed := take refusal .speed s!"speed={speed}"
  setWordSize bits := take refusal .wordSize s!"bits={bits}"
  giveUp events := events ++ ["closed"]

/-- A reader of a given text or failure; its state is how often it was asked. -/
def reader (text : Except SpiError String) : Program Nat SpiError String := do
  .change (· + 1)
  .ofExcept text

end Probe

end Pinwire.Bench

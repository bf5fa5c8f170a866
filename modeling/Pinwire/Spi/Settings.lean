import Pinwire.Program
import Pinwire.Spi.Error
import Pinwire.Text.Decimal

/-!
# Settings of an SPI device

Which node to open, at which clock speed and in which mode. Settings can be read from a list of
keys and values: `dev` names the node, `spispeed` gives the speed in kilohertz, `mode` the clock
mode, `lsb` and `3wire` are switches. A key that has no meaning is noted in the journal and passed
over.
-/

namespace Pinwire

/-- What an SPI device is opened with. -/
structure SpiSettings where
  device : String
  speedHz : UInt32
  mode : SpiMode
  deriving Repr, DecidableEq

namespace SpiSettings

def defaultSpeedHz : UInt32 := 2000000

def unset : SpiSettings := ⟨"", defaultSpeedHz, .ofClock .mode0⟩

/-- The component that options are read by, as the journal names it. -/
def optionSource : String := "linbus_linux_spi::device"

/-- The words for the two positions of a switch, in any case of ASCII letters. -/
def switch? (text : String) : Option Bool :=
  match text.toLower with
  | "1" | "yes" | "true" | "on" => some true
  | "0" | "no" | "false" | "off" => some false
  | _ => none

/-- A speed in hertz from its number of kilohertz; one that a word cannot hold is refused. -/
def speedOfKilohertz? (text : String) : Option UInt32 :=
  (Text.Decimal.unsigned? (Bounds.unsigned32) text.toList).bind fun kilohertz =>
    if kilohertz * 1000 ≤ Bounds.unsigned32 then some (UInt32.ofNat (kilohertz * 1000)) else none

def apply {σ : Type} (settings : SpiSettings) (key value : String) :
    Program σ SpiError SpiSettings :=
  match key with
  | "dev" => pure { settings with device := value }
  | "spispeed" =>
    match speedOfKilohertz? value with
    | some speedHz => pure { settings with speedHz }
    | none => .fail (.invalidValue key value)
  | "mode" =>
    match Text.Decimal.byte? value.toList with
    | none => .fail (.invalidValue key value)
    | some number =>
      match ClockMode.ofNumber? number with
      | some clock => pure { settings with mode.clock := clock }
      | none => .fail (.invalidParameter (ClockMode.invalidMessage number))
  | "lsb" =>
    match switch? value with
    | some lsb => pure { settings with mode.bitOrder := if lsb then .lsbFirst else .msbFirst }
    | none => .fail (.invalidValue key value)
  | "3wire" =>
    match switch? value with
    | some shared => pure { settings with mode.duplex := if shared then .half else .full }
    | none => .fail (.invalidValue key value)
  | _ => do
    .record .warn optionSource s!"linux_spi: Unknown option: {key}={value}"
    pure settings

def applyAll {σ : Type} :
    SpiSettings → List (String × String) → Program σ SpiError SpiSettings
  | settings, [] => pure settings
  | settings, (key, value) :: options => do
    let settings ← settings.apply key value
    settings.applyAll options

def settle (settings : SpiSettings) : Except SpiError SpiSettings :=
  if settings.device = "" then .error .deviceUnnamed else .ok settings

/-- Reads settings from options; of an option given twice the last one counts. -/
def ofOptions {σ : Type} (options : List (String × String)) : Program σ SpiError SpiSettings := do
  let settings ← unset.applyAll options
  .ofExcept settings.settle

end SpiSettings

end Pinwire

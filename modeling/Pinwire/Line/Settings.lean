import Pinwire.Line.Error
import Pinwire.Program
import Pinwire.Text.Decimal

/-!
# Settings of a line bus

Which chip to open, under which name to request its lines, and which lines with which
configurations. Settings can be read from a list of keys and values: `dev` or `gpiochip` names the
chip, `consumer` the user of the lines, and every `out` and `in` adds a line, written as its number
and flags after colons. A key that has no meaning is noted in the journal and passed over.
-/

namespace Pinwire

/-- What a line bus is opened with. -/
structure LineSettings where
  device : String
  consumer : String
  lines : List (LineNumber × LineConfig)
  deriving Repr, DecidableEq

namespace LineSettings

/-- The name under which lines are requested when none is given. -/
def defaultConsumer : String := "linbus"

def unset : LineSettings := ⟨"", defaultConsumer, []⟩

/-- The component that options are read by, as the journal names it. -/
def optionSource : String := "linbus_linux_gpio::config"

end LineSettings

namespace LineOption

/-- Applies one flag of a line option; the flags of a driven line also set its first state. -/
def applyFlag? (direction : Direction) (config : LineConfig) (flag : String) : Option LineConfig :=
  match flag with
  | "low" => some config.activeLow
  | "high" => some config.activeHigh
  | "active" | "1" =>
    if direction = .output then some { config with initial := .active } else none
  | "inactive" | "0" =>
    if direction = .output then some { config with initial := .inactive } else none
  | _ => none

/-- Applies flags in order; the first one that is not admitted decides the error. -/
def applyFlags (key value : String) (direction : Direction) :
    LineConfig → List (List Char) → Except LineError LineConfig
  | config, [] => .ok config
  | config, flag :: flags =>
    match applyFlag? direction config (String.ofList flag) with
    | some config => applyFlags key value direction config flags
    | none =>
      .error (.invalidParameter s!"Unknown flag '{String.ofList flag}' in {key}={value}")

def start : Direction → LineConfig
  | .output => .output .inactive
  | .input => .input

/-- A line from its number and flags, separated by colons. -/
def parse (key value : String) (direction : Direction) :
    Except LineError (LineNumber × LineConfig) :=
  match Text.splitAll ':' value.toList with
  | [] => .error (.invalidValue key value)
  | number :: flags =>
    match Text.Decimal.word? number with
    | none => .error (.invalidValue key value)
    | some line =>
      (applyFlags key value direction (start direction) flags).map fun config => (line, config)

end LineOption

namespace LineSettings

/-- Settings under construction, with the chip number that was named apart from the device. -/
structure Draft where
  settings : LineSettings
  chip : Option UInt32
  deriving Repr, DecidableEq

namespace Draft

def empty : Draft := ⟨.unset, none⟩

def addLine (draft : Draft) (line : LineNumber × LineConfig) : Draft :=
  { draft with settings.lines := draft.settings.lines ++ [line] }

def apply {σ : Type} (draft : Draft) (key value : String) : Program σ LineError Draft :=
  match key with
  | "dev" => pure { draft with settings.device := value }
  | "gpiochip" =>
    match Text.Decimal.word? value.toList with
    | some chip => pure { draft with chip := some chip }
    | none => .fail (.invalidValue "gpiochip" value)
  | "consumer" => pure { draft with settings.consumer := value }
  | "out" => draft.addLine <$> .ofExcept (LineOption.parse key value .output)
  | "in" => draft.addLine <$> .ofExcept (LineOption.parse key value .input)
  | _ => do
    .record .warn optionSource s!"linux_gpio: Unknown option: {key}={value}"
    pure draft

def applyAll {σ : Type} : Draft → List (String × String) → Program σ LineError Draft
  | draft, [] => pure draft
  | draft, (key, value) :: options => do
    let draft ← draft.apply key value
    draft.applyAll options

/-- Settles on a chip: the device or the chip number, exactly one of which has to be given. -/
def settle (draft : Draft) : Except LineError LineSettings :=
  match draft.chip with
  | none => if draft.settings.device = "" then .error .chipUnnamed else .ok draft.settings
  | some chip =>
    if draft.settings.device = "" then
      .ok { draft.settings with device := s!"/dev/gpiochip{chip}" }
    else
      .error (.invalidParameter "Only one of 'dev' or 'gpiochip' can be specified")

end Draft

/-- Reads settings from options; of an option given twice the last one counts. -/
def ofOptions {σ : Type} (options : List (String × String)) : Program σ LineError LineSettings := do
  let draft ← Draft.empty.applyAll options
  .ofExcept draft.settle

end LineSettings

end Pinwire

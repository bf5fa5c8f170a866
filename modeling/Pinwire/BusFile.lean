import Pinwire.Line.Settings
import Pinwire.Spi.Settings
import Pinwire.Toml.Document

/-!
# Bus files

A bus file describes a line bus and an SPI bus in two sections of a TOML document. A section holds
nothing but the fields that it is known for. Where a section is expected an array may stand as well;
its elements are then the fields in their usual order.
-/

namespace Pinwire

/-- A line as a bus file describes it. -/
structure LineEntry where
  line : LineNumber
  direction : Direction
  initial : PinState
  activeLow : Bool
  deriving Repr, DecidableEq

/-- The section of a bus file on lines. -/
structure LineSection where
  device : String
  consumer : Option String
  lines : List LineEntry
  deriving Repr, DecidableEq

/-- The section of a bus file on SPI. -/
structure SpiSection where
  device : String
  speedHz : UInt32
  mode : UInt8
  lsbFirst : Bool
  halfDuplex : Bool
  deriving Repr, DecidableEq

/-- A bus file. -/
structure BusFile where
  lines : Option LineSection
  spi : Option SpiSection
  deriving Repr, DecidableEq

/-- Why a bus file could not be used. -/
inductive BusFileError where
  /-- The file could not be read as text. -/
  | unread (path : String) (fault : Fault)
  /-- The text is no TOML document, or not one that describes buses. -/
  | malformed (path : String)
  /-- The file describes a bus that cannot exist. -/
  | invalid (reason : String)
  deriving Repr, DecidableEq

namespace BusFileError

def message : BusFileError → String
  | unread path fault => s!"Failed to read {path}: {fault}"
  | malformed path => s!"Failed to parse {path}"
  | invalid reason => s!"Invalid bus configuration: {reason}"

/-- The form in which a failed run reports an error. -/
def details : BusFileError → String
  | unread path fault =>
    s!"Io \x7b path: {Text.Quoted.render path}, source: {Text.Quoted.render fault} \x7d"
  | malformed path => s!"Parse \x7b path: {Text.Quoted.render path} \x7d"
  | invalid reason => s!"Invalid({Text.Quoted.render reason})"

end BusFileError

/-- The values of a section under the names of its fields. -/
structure Fields where
  /-- Whether the values were given by position, without names. -/
  positional : Bool
  entries : List (String × Toml.Value)

namespace Fields

/-- The fields of a section that knows the given names; a section given as an array names its
elements in order and passes over those beyond the last name. -/
def ofValue? (names : List String) : Toml.Value → Option Fields
  | .table entries =>
    if entries.all fun entry => names.contains entry.1 then some ⟨false, entries⟩ else none
  | .array elements => some ⟨true, names.zip elements⟩
  | _ => none

def find? (fields : Fields) (name : String) : Option Toml.Value :=
  (fields.entries.find? fun entry => entry.1 == name).map (·.2)

def required (fields : Fields) (name : String) (decode : Toml.Value → Option α) : Option α :=
  (fields.find? name).bind decode

/-- A field that has a value of its own accord when it is not there. -/
def withDefault (fields : Fields) (name : String) (default : α) (decode : Toml.Value → Option α) :
    Option α :=
  match fields.find? name with
  | some value => decode value
  | none => some default

/-- A field that need not be there, unless fields are given by position. -/
def optional (fields : Fields) (name : String) (decode : Toml.Value → Option α) :
    Option (Option α) :=
  match fields.find? name with
  | some value => (decode value).map some
  | none => if fields.positional then none else some none

end Fields

namespace BusFile

def text? : Toml.Value → Option String
  | .text text => some text
  | _ => none

def boolean? : Toml.Value → Option Bool
  | .boolean value => some value
  | _ => none

/-- A number from zero to `limit`. -/
def number? (limit : Nat) : Toml.Value → Option Nat
  | .integer number => if 0 ≤ number ∧ number ≤ limit then some number.toNat else none
  | _ => none

def word? (value : Toml.Value) : Option UInt32 :=
  (number? (Bounds.unsigned32) value).map UInt32.ofNat

def byte? (value : Toml.Value) : Option UInt8 :=
  (number? 255 value).map UInt8.ofNat

/-- One of some words, written as a text or as the only key of a table that says no more. -/
def choice? (choices : List (String × α)) : Toml.Value → Option α
  | .text word => (choices.find? fun choice => choice.1 == word).map (·.2)
  | .table [(word, value)] =>
    if value.isEmptyContainer then (choices.find? fun choice => choice.1 == word).map (·.2)
    else none
  | _ => none

def lineEntry? (value : Toml.Value) : Option LineEntry := do
  let fields ← Fields.ofValue? ["line", "direction", "initial", "active_low"] value
  let line ← fields.required "line" word?
  let direction ←
    fields.required "direction" (choice? [("in", Direction.input), ("out", Direction.output)])
  let initial ← fields.withDefault "initial" PinState.inactive
    (choice? [("inactive", PinState.inactive), ("active", PinState.active)])
  let activeLow ← fields.withDefault "active_low" false boolean?
  pure ⟨line, direction, initial, activeLow⟩

def lineEntries? : Toml.Value → Option (List LineEntry)
  | .array elements => elements.mapM lineEntry?
  | _ => none

def lineSection? (value : Toml.Value) : Option LineSection := do
  let fields ← Fields.ofValue? ["device", "consumer", "line"] value
  let device ← fields.required "device" text?
  let consumer ← fields.optional "consumer" text?
  let lines ← fields.withDefault "line" [] lineEntries?
  pure ⟨device, consumer, lines⟩

def spiSection? (value : Toml.Value) : Option SpiSection := do
  let fields ←
    Fields.ofValue? ["device", "speed_hz", "mode", "lsb_first", "half_duplex"] value
  let device ← fields.required "device" text?
  let speedHz ← fields.withDefault "speed_hz" SpiSettings.defaultSpeedHz word?
  let mode ← fields.withDefault "mode" 0 byte?
  let lsbFirst ← fields.withDefault "lsb_first" false boolean?
  let halfDuplex ← fields.withDefault "half_duplex" false boolean?
  pure ⟨device, speedHz, mode, lsbFirst, halfDuplex⟩

def parse? (text : String) : Option BusFile := do
  let entries ← Toml.parse text
  let fields ← Fields.ofValue? ["gpio", "spi"] (.table entries)
  let lines ← fields.optional "gpio" lineSection?
  let spi ← fields.optional "spi" spiSection?
  pure ⟨lines, spi⟩

/-- What is said of a file whose bytes are no text. -/
def notText : Fault := "stream did not contain valid UTF-8"

def textOfBytes? (bytes : List UInt8) : Option String :=
  String.fromUTF8? ⟨bytes.toArray⟩

/-- The bus file at a path, from the bytes found there. -/
def load (path : String) (content : Except Fault (List UInt8)) : Except BusFileError BusFile :=
  match content with
  | .error fault => .error (.unread path fault)
  | .ok bytes =>
    match textOfBytes? bytes with
    | none => .error (.unread path notText)
    | some text =>
      match parse? text with
      | none => .error (.malformed path)
      | some file => .ok file

end BusFile

namespace LineEntry

/-- The configuration of a line; the first state matters only for a driven one. -/
def config (entry : LineEntry) : LineConfig :=
  let config := match entry.direction with
    | .output => LineConfig.output entry.initial
    | .input => LineConfig.input
  if entry.activeLow then config.activeLow else config

end LineEntry

namespace BusFile

/-- The settings of the line bus, if the file describes one. -/
def lineSettings (file : BusFile) : Option LineSettings :=
  file.lines.map fun part =>
    { device := part.device
      consumer := part.consumer.getD LineSettings.defaultConsumer
      lines := part.lines.map fun entry => (entry.line, entry.config) }

def settingsOfSection (part : SpiSection) : Except BusFileError SpiSettings :=
  match ClockMode.ofNumber? part.mode with
  | none => .error (.invalid (ClockMode.invalidMessage part.mode))
  | some clock =>
    .ok { device := part.device
          speedHz := part.speedHz
          mode := ⟨clock, if part.lsbFirst then .lsbFirst else .msbFirst,
            if part.halfDuplex then .half else .full⟩ }

/-- The settings of the SPI bus, if the file describes one. -/
def spiSettings (file : BusFile) : Except BusFileError (Option SpiSettings) :=
  match file.spi with
  | none => .ok none
  | some part => (settingsOfSection part).map some

end BusFile

end Pinwire

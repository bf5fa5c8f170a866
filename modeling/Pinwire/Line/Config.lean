import Pinwire.Flags

/-!
# Lines: states and configurations

A line is a digital pin that a chip numbers. Its logical state is active or inactive; its
configuration says whether it is driven or read, which electrical level counts as active and, for a
driven line, the state it starts in. A configuration has a one-byte form with one bit per setting.
-/

namespace Pinwire

/-- The number of a line on its chip. -/
abbrev LineNumber := UInt32

/-- The bits of the byte form of a line configuration. -/
def lineFlags : FlagTable 8 where
  masks := [("STATE_ACTIVE", 1), ("DIR_OUT", 2), ("ACTIVE_LOW", 4)]

/-- The logical state of a line. -/
inductive PinState where
  | inactive
  | active
  deriving Repr, DecidableEq

namespace PinState

/-- The bit of a byte that carries a state. -/
def byteMask : UInt8 := 1

def ofBool : Bool → PinState
  | true => active
  | false => inactive

def isActive : PinState → Bool
  | active => true
  | inactive => false

/-- The state that a byte carries; the other bits do not matter. -/
def ofByte (byte : UInt8) : PinState :=
  ofBool (byte &&& byteMask != 0)

/-- The byte that carries a state and nothing else. -/
def toByte : PinState → UInt8
  | active => byteMask
  | inactive => 0

def name : PinState → String
  | inactive => "inactive"
  | active => "active"

/-- The form in which the journal and failure reports spell a state. -/
def details : PinState → String
  | inactive => "Inactive"
  | active => "Active"

/-- The words for a state, in any case of ASCII letters. -/
def ofName? (text : String) : Option PinState :=
  match text.toLower with
  | "1" | "active" | "on" => some active
  | "0" | "inactive" | "off" => some inactive
  | _ => none

def inverted : PinState → PinState
  | inactive => active
  | active => inactive

/-- What is said of a text that is no word for a state. -/
def invalidMessage (text : String) : String :=
  s!"invalid pin state '{text}' (expected 1, 0, active or inactive)"

end PinState

/-- Whether a line is read or driven. -/
inductive Direction where
  | input
  | output
  deriving Repr, DecidableEq

/-- Which electrical level of a line counts as active. -/
inductive Polarity where
  | activeHigh
  | activeLow
  deriving Repr, DecidableEq

/-- How a line is requested. -/
structure LineConfig where
  direction : Direction
  polarity : Polarity
  /-- The state that a driven line starts in. -/
  initial : PinState
  deriving Repr, DecidableEq

namespace LineConfig

def input : LineConfig := ⟨.input, .activeHigh, .inactive⟩

/-- A line that is driven, from a given state on. -/
def output (initial : PinState) : LineConfig := ⟨.output, .activeHigh, initial⟩

/-- The same line with the low level as the active one. -/
def activeLow (config : LineConfig) : LineConfig := { config with polarity := .activeLow }

/-- The same line with the high level as the active one. -/
def activeHigh (config : LineConfig) : LineConfig := { config with polarity := .activeHigh }

def isOutput (config : LineConfig) : Bool := config.direction = .output

/-- Whether the low level of a line is the active one. -/
def isActiveLow (config : LineConfig) : Bool := config.polarity = .activeLow

/-- The configuration that a byte describes; unknown bits do not matter. -/
def ofByte (byte : UInt8) : LineConfig where
  direction := if byte &&& 2 != 0 then .output else .input
  polarity := if byte &&& 4 != 0 then .activeLow else .activeHigh
  initial := .ofBool (byte &&& 1 != 0)

def toByte (config : LineConfig) : UInt8 :=
  (if config.initial.isActive then 1 else 0) ||| (if config.isOutput then 2 else 0) |||
    (if config.isActiveLow then 4 else 0)

end LineConfig

end Pinwire

import Pinwire.Flags

/-!
# SPI modes

How the wires of an SPI bus are used: the clock mode (idle level and sampling edge), the order in
which the bits of a byte travel, and whether both directions have a wire of their own. A mode has a
one-byte form, and a word form that the kernel is given.
-/

namespace Pinwire

/-- The bits of the byte form of an SPI mode. -/
def spiModeFlags : FlagTable 8 where
  masks := [("MODE_MASK", 3), ("LSB_FIRST", 4), ("HALF_DUPLEX", 8)]

/-- The bits of the mode word that the kernel is given. -/
def kernelModeFlags : FlagTable 32 where
  masks := [("CPHA", 0x01), ("CPOL", 0x02), ("CS_HIGH", 0x04), ("LSB_FIRST", 0x08),
    ("THREE_WIRE", 0x10)]

/-- The four combinations of clock polarity and clock phase. -/
inductive ClockMode where
  | mode0
  | mode1
  | mode2
  | mode3
  deriving Repr, DecidableEq

namespace ClockMode

def number : ClockMode → UInt8
  | mode0 => 0
  | mode1 => 1
  | mode2 => 2
  | mode3 => 3

/-- The clock mode in the low two bits of a byte. -/
def ofByte (byte : UInt8) : ClockMode :=
  match byte &&& 3 with
  | 1 => mode1
  | 2 => mode2
  | 3 => mode3
  | _ => mode0

/-- The clock mode of a number up to three. -/
def ofNumber? (number : UInt8) : Option ClockMode :=
  if 3 < number then none else some (ofByte number)

def polarity (mode : ClockMode) : UInt8 := (mode.number >>> 1) &&& 1

def phase (mode : ClockMode) : UInt8 := mode.number &&& 1

/-- What is said of a number that is no clock mode. -/
def invalidMessage (number : UInt8) : String :=
  s!"SPI mode {number} (must be 0-3)"

end ClockMode

/-- Which bit of a byte travels first. -/
inductive BitOrder where
  | msbFirst
  | lsbFirst
  deriving Repr, DecidableEq

/-- Whether both directions have a wire of their own. -/
inductive Duplex where
  | full
  | half
  deriving Repr, DecidableEq

/-- How the wires of an SPI bus are used. -/
structure SpiMode where
  clock : ClockMode
  bitOrder : BitOrder
  duplex : Duplex
  deriving Repr, DecidableEq

namespace SpiMode

/-- A clock mode with the most significant bit first and both directions apart. -/
def ofClock (clock : ClockMode) : SpiMode := ⟨clock, .msbFirst, .full⟩

/-- The same mode with the least significant bit first. -/
def lsbFirst (mode : SpiMode) : SpiMode := { mode with bitOrder := .lsbFirst }

/-- The same mode with one wire for both directions. -/
def halfDuplex (mode : SpiMode) : SpiMode := { mode with duplex := .half }

def isHalfDuplex (mode : SpiMode) : Bool := mode.duplex = .half

/-- The mode that a byte describes; unknown bits do not matter. -/
def ofByte (byte : UInt8) : SpiMode where
  clock := .ofByte byte
  bitOrder := if byte &&& 4 != 0 then .lsbFirst else .msbFirst
  duplex := if byte &&& 8 != 0 then .half else .full

def toByte (mode : SpiMode) : UInt8 :=
  mode.clock.number ||| (if mode.bitOrder = .lsbFirst then 4 else 0) |||
    (if mode.isHalfDuplex then 8 else 0)

/-- The mode word that the kernel is given; the chip-select line is always active high. -/
def kernelWord (mode : SpiMode) : UInt32 :=
  0x04 ||| (if mode.clock.phase != 0 then 0x01 else 0) |||
    (if mode.clock.polarity != 0 then 0x02 else 0) |||
    (if mode.bitOrder = .lsbFirst then 0x08 else 0) |||
    (if mode.duplex = .half then 0x10 else 0)

end SpiMode

end Pinwire

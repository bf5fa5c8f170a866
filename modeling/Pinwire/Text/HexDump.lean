import Pinwire.Text.Blank
import Pinwire.Text.Hex
import Pinwire.Text.Split

/-!
# Bytes as hexadecimal text

Bytes are written two digits each, with blanks between them and sixteen to a row. They are read
from any arrangement of digits: marks `0x` in front, blanks, colons and underscores are passed
over, and what remains has to be pairs of digits.
-/

namespace Pinwire.Text.HexDump

/-- Why a text holds no bytes. -/
inductive Defect where
  /-- A character that is neither a digit nor passed over. -/
  | invalidDigit (character : Char) (text : String)
  /-- A digit without a partner. -/
  | oddCount (text : String)
  deriving Repr, DecidableEq

namespace Defect

def message : Defect → String
  | invalidDigit character text =>
    s!"Invalid hex digit '{String.singleton character}' in '{text}'"
  | oddCount text => s!"Odd number of hex digits in '{text}'"

end Defect

/-- The text without the marks `0x` it starts with. -/
def dropMarks : List Char → List Char
  | '0' :: 'x' :: rest => dropMarks rest
  | text => text

def isFiller (character : Char) : Bool :=
  isBlank character || character == ':' || character == '_'

def digitsOf (text : List Char) : List Char :=
  (dropMarks (trim text)).filter fun character => !isFiller character

/-- The bytes of pairs of digits; `none` for a character that is no digit or has no partner. -/
def pairs? : List Char → Option (List UInt8)
  | [] => some []
  | [_] => none
  | high :: low :: rest =>
    match Hex.digitValue? high, Hex.digitValue? low with
    | some highValue, some lowValue =>
      (pairs? rest).map fun bytes => UInt8.ofNat (16 * highValue + lowValue) :: bytes
    | _, _ => none

def parse (text : String) : Except Defect (List UInt8) :=
  let digits := digitsOf text.toList
  match digits.find? fun character => !Hex.isDigit character with
  | some character => .error (.invalidDigit character text)
  | none =>
    match pairs? digits with
    | some bytes => .ok bytes
    | none => .error (.oddCount text)

/-- The bytes of one row, with blanks between them. -/
def renderRow (row : List UInt8) : List Char :=
  joinWith [' '] (row.map Hex.renderByte)

/-- The rows of a list: sixteen elements each, apart from a possibly shorter last one. -/
def rows (bytes : List α) : List (List α) :=
  if bytes.isEmpty then []
  else bytes.take 16 :: rows (bytes.drop 16)
termination_by bytes.length
decreasing_by
  rename_i notEmpty
  have positive : 0 < bytes.length := List.length_pos_iff.2 (by simpa using notEmpty)
  rw [List.length_drop]
  omega

/-- The text that shows some bytes, sixteen to a row. -/
def render (bytes : List UInt8) : String :=
  String.ofList (joinWith ['\n'] ((rows bytes).map renderRow))

end Pinwire.Text.HexDump

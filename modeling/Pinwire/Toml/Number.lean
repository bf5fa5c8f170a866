import Pinwire.Bounds
import Pinwire.Text.Decimal
import Pinwire.Text.Hex
import Pinwire.Toml.Value

/-!
# TOML numbers

Integers in four bases, within the range of signed 64-bit words, and numbers with a fraction or an
exponent. An underscore may stand between two digits. A number whose size is beyond the largest
double-precision number is refused when it is positive.
-/

namespace Pinwire.Toml

/-- Takes the digits after a first one, with single underscores between digits, and leaves the
rest. -/
def moreDigits (isDigit : Char → Bool) : List Char → List Char × List Char
  | '_' :: character :: rest =>
    if isDigit character then
      let (digits, rest) := moreDigits isDigit rest
      (character :: digits, rest)
    else ([], '_' :: character :: rest)
  | character :: rest =>
    if isDigit character then
      let (digits, rest) := moreDigits isDigit rest
      (character :: digits, rest)
    else ([], character :: rest)
  | [] => ([], [])

def digits (isDigit : Char → Bool) : Reader (List Char)
  | character :: rest =>
    if isDigit character then
      let (others, rest) := moreDigits isDigit rest
      some (character :: others, rest)
    else none
  | [] => none

def isDecimal (character : Char) : Bool :=
  (Text.Decimal.digitValue? character).isSome

/-- Takes a sign, if there is one, and says whether it is a minus. -/
def sign : List Char → Bool × List Char
  | '+' :: rest => (false, rest)
  | '-' :: rest => (true, rest)
  | text => (false, text)

/-- Takes a decimal integer of any size: its sign and its digits, without leading zeros. -/
def decimalInteger : Reader (Bool × List Char) := fun text =>
  let (negative, rest) := sign text
  match rest with
  | '0' :: rest => some ((negative, ['0']), rest)
  | _ => (digits isDecimal rest).map fun (row, rest) => ((negative, row), rest)

def valueIn (base : Nat) (row : List Char) : Nat :=
  row.foldl (fun value digit => base * value + (Text.Hex.digitValue? digit).getD 0) 0

def isDigitOf (base : Nat) (character : Char) : Bool :=
  (Text.Hex.digitValue? character).any (· < base)

/-- Takes the digits of an integer in another base than ten. -/
def basedInteger (base : Nat) : Reader Int := fun text => do
  let (row, rest) ← digits (isDigitOf base) text
  let value := valueIn base row
  if value ≤ Bounds.signed64 then some ((value : Int), rest) else none

def integer : Reader Int := fun text =>
  match text with
  | '0' :: 'x' :: rest => basedInteger 16 rest
  | '0' :: 'o' :: rest => basedInteger 8 rest
  | '0' :: 'b' :: rest => basedInteger 2 rest
  | _ => do
    let ((negative, row), rest) ← decimalInteger text
    let size := (valueIn 10 row : Int)
    let value := if negative then -size else size
    if Bounds.smallest64 ≤ value ∧ value ≤ Bounds.signed64 then some (value, rest) else none

/-- Takes a fraction: a point and the digits after it. -/
def fraction : Reader (List Char)
  | '.' :: rest => digits isDecimal rest
  | _ => none

def exponent : Reader Int
  | 'e' :: rest | 'E' :: rest =>
    let (negative, rest) := sign rest
    (digits isDecimal rest).map fun (row, rest) =>
      let size := (valueIn 10 row : Int)
      (if negative then -size else size, rest)
  | _ => none

/-- Whether `value` times ten to the power `scale` rounds to infinity: it is at least the middle
between the largest double-precision number and the next power of two. -/
def isInfinite (value : Nat) (scale : Int) : Bool :=
  let middle := Nat.pow 2 1024 - Nat.pow 2 970
  let length := (Text.Decimal.render value).length
  if value = 0 || (length : Int) + scale < 300 then false
  else if 400 < (length : Int) + scale then true
  else if 0 ≤ scale then middle ≤ value * Nat.pow 10 scale.toNat
  else middle * Nat.pow 10 (-scale).toNat ≤ value

/-- Takes a number written in digits with a fraction, an exponent or both. -/
def writtenFractional : Reader Unit := fun text => do
  let ((negative, whole), rest) ← decimalInteger text
  let (part, rest) ← fraction.optional rest
  let (power, rest) ← exponent.optional rest
  if part.isNone && power.isNone then none
  else
    let places := part.getD []
    let scale := power.getD 0 - places.length
    if !negative && isInfinite (valueIn 10 (whole ++ places)) scale then none
    else some ((), rest)

/-- Takes one of the numbers that are written as words. -/
def namedFractional : Reader Unit := fun text =>
  let (_, rest) := sign text
  (Reader.exactly "inf".toList).either (Reader.exactly "nan".toList) rest

def fractional : Reader Unit :=
  writtenFractional.either namedFractional

end Pinwire.Toml

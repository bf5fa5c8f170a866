import Pinwire.Bounds

/-!
# Decimal numbers

Reading and writing decimal numbers. A number is read from one or more ASCII digits, after an
optional sign, and has to lie within the bounds that its reader names: a longer digit string never
wraps round into the accepted range. Leading zeros are allowed.
-/

namespace Pinwire.Text.Decimal

def digitValue? (character : Char) : Option Nat :=
  if '0' ≤ character ∧ character ≤ '9' then some (character.toNat - '0'.toNat) else none

/-- The value of a row of digits that follow digits of the value `high`. -/
def valueAfter? (high : Nat) : List Char → Option Nat
  | [] => some high
  | character :: rest =>
    (digitValue? character).bind fun digit => valueAfter? (10 * high + digit) rest

/-- The value of a row of digits, of which there is at least one. -/
def value? : List Char → Option Nat
  | [] => none
  | character :: rest => valueAfter? 0 (character :: rest)

/-- A number from zero to `limit`: digits after an optional plus sign. -/
def unsigned? (limit : Nat) (text : List Char) : Option Nat :=
  let digits := match text with
    | '+' :: rest => rest
    | _ => text
  (value? digits).filter (· ≤ limit)

/-- A number from `lowest` to `highest`: digits after an optional sign. -/
def signed? (lowest highest : Int) (text : List Char) : Option Int :=
  let number : Option Int := match text with
    | '-' :: rest => (value? rest).map fun value => -(value : Int)
    | '+' :: rest => (value? rest).map fun value => (value : Int)
    | _ => (value? text).map fun value => (value : Int)
  number.filter fun value => lowest ≤ value ∧ value ≤ highest

def digit (value : Nat) : Char :=
  Char.ofNat ('0'.toNat + value)

/-- The digits of a number, without leading zeros. -/
def render (value : Nat) : List Char :=
  if value < 10 then [digit value] else render (value / 10) ++ [digit (value % 10)]

def byte? (text : List Char) : Option UInt8 :=
  (unsigned? 255 text).map UInt8.ofNat

def word? (text : List Char) : Option UInt32 :=
  (unsigned? (Bounds.unsigned32) text).map UInt32.ofNat

end Pinwire.Text.Decimal

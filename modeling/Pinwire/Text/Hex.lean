/-!
# Hexadecimal digits

Hexadecimal digits are read in both cases and written in lower case.
-/

namespace Pinwire.Text.Hex

/-- The value of an ASCII hexadecimal digit of either case. -/
def digitValue? (character : Char) : Option Nat :=
  if '0' ≤ character ∧ character ≤ '9' then some (character.toNat - '0'.toNat)
  else if 'a' ≤ character ∧ character ≤ 'f' then some (character.toNat - 'a'.toNat + 10)
  else if 'A' ≤ character ∧ character ≤ 'F' then some (character.toNat - 'A'.toNat + 10)
  else none

def isDigit (character : Char) : Bool :=
  (digitValue? character).isSome

def digit (value : Nat) : Char :=
  if value < 10 then Char.ofNat ('0'.toNat + value) else Char.ofNat ('a'.toNat + (value - 10))

/-- The digits of a number, without leading zeros. -/
def render (value : Nat) : List Char :=
  if value < 16 then [digit value] else render (value / 16) ++ [digit (value % 16)]

def renderByte (byte : UInt8) : List Char :=
  [digit (byte.toNat / 16), digit (byte.toNat % 16)]

/-- The digits of a number after the mark `0x`. -/
def renderMarked (value : Nat) : List Char :=
  '0' :: 'x' :: render value

end Pinwire.Text.Hex

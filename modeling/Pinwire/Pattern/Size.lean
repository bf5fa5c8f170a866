import Pinwire.Pattern.Basic

/-!
# The sizes of patterns

A pattern is carried out by two machines, one that reads a text forwards and one that reads it
backwards. The size of a machine is counted in bytes from the states that it needs: a character
needs one for each byte of its encoding, and a counted repetition needs its part again for each
time. Neither machine may grow beyond a limit.
-/

namespace Pinwire

namespace Pattern

def stateSize : Nat := 32

/-- The size of a set of characters in a machine. A set with members beyond ASCII is counted like
the set of all characters, which needs `broad`. -/
def setSize (broad : Nat) (members : CharSet) : Nat :=
  match members.ranges with
  | [(first, last)] =>
    if first = last then stateSize * (Char.ofNat first).utf8Size
    else if members.isAscii then 2 * stateSize + 8 else broad
  | ranges => if members.isAscii then 2 * stateSize + 8 * ranges.length else broad

/-- The size of a repetition of a part of a size. -/
def timesSize (part : Pattern) (partSize least : Nat) : Option Nat → Nat
  | none =>
    if least = 0 then partSize + (if part.mayBeEmpty then 112 else 40) else least * partSize + 40
  | some most =>
    if least = 0 ∧ most = 1 then partSize + 72
    else if least = most then least * partSize
    else least * partSize + stateSize + (most - least) * (partSize + 40)

/-- The size of an alternative inside a choice; the state of a choice is shared with the choices
inside it. -/
def alternativeSize (pattern : Pattern) (size : Nat) : Nat :=
  match pattern with
  | choice _ _ => size - 2 * stateSize
  | _ => size + 4

/-- The size of a machine for a pattern, given what it needs for a broad set of characters and for
remembering a place. -/
def sizeWith (broad memory : Nat) : Pattern → Nat
  | nothing | place _ => stateSize
  | oneOf members => setSize broad members
  | repeated least most part => timesSize part (sizeWith broad memory part) least most
  | captured part => sizeWith broad memory part + memory
  | sequence first second => sizeWith broad memory first + sizeWith broad memory second
  | choice first second =>
    2 * stateSize + alternativeSize first (sizeWith broad memory first) +
      alternativeSize second (sizeWith broad memory second)

/-- The size of the states that every machine has. -/
def frameSize : Nat := 208

def forwardSize (pattern : Pattern) : Nat :=
  frameSize + pattern.sizeWith 424 (2 * stateSize)

/-- The size of the machine that reads backwards, which remembers no places. -/
def backwardSize (pattern : Pattern) : Nat :=
  frameSize + pattern.sizeWith 1000 0

def largestSize : Nat := 10 * 1024 * 1024

def fits (pattern : Pattern) : Bool :=
  pattern.forwardSize ≤ largestSize && pattern.backwardSize ≤ largestSize

end Pattern

end Pinwire

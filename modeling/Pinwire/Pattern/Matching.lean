import Pinwire.Pattern.Basic

/-!
# Matching patterns

A text of `n` characters has `n + 1` places, and a set of them is a bit vector. What a pattern does
in a text is a relation between the places where a match can begin and those where it can end; a
sequence of patterns composes their relations, and a repetition is a power.
-/

namespace Pinwire

namespace Anchor

/-- Whether a character is part of an ASCII word. -/
def isWordCharacter (character : Char) : Bool :=
  character.isAlphanum || character = '_'

/-- Whether a place between a word or none and a word or none is such an edge. -/
def edgeHolds (wordBefore wordAfter : Bool) : WordEdge → Bool
  | .boundary => wordBefore != wordAfter
  | .inner => wordBefore == wordAfter
  | .start => !wordBefore && wordAfter
  | .finish => wordBefore && !wordAfter
  | .noneBefore => !wordBefore
  | .noneAfter => !wordAfter

/-- Whether the place between two characters meets a condition; at an end of the text one of them is
missing. Of the words of all scripts only those in ASCII characters are seen. -/
def holds (before after : Option Char) : Anchor → Bool
  | textStart => before.isNone
  | textEnd => after.isNone
  | lineStart => before.all (· = '\n')
  | lineEnd => after.all (· = '\n')
  | rowStart => before.all fun character =>
    character = '\n' || (character = '\r' && after.all (· ≠ '\n'))
  | rowEnd => after.all fun character =>
    character = '\r' || (character = '\n' && before.all (· ≠ '\r'))
  | word edge => edgeHolds (before.any isWordCharacter) (after.any isWordCharacter) edge
  | scriptWord edge => edgeHolds (before.any isWordCharacter) (after.any isWordCharacter) edge

/-- Which of the places from a character on meet a condition. -/
def placesFrom (anchor : Anchor) (before : Option Char) : List Char → List Bool
  | [] => [anchor.holds before none]
  | character :: rest =>
    anchor.holds before (some character) :: anchor.placesFrom (some character) rest

end Anchor

/-- A relation between the places of a text: for each place the set of those that it leads to. -/
abbrev Reach (size : Nat) := List (BitVec size)

namespace Reach

variable {size : Nat}

/-- The relation of each place with itself, where a condition holds. -/
def stayWhere (conditions : List Bool) : Reach size :=
  conditions.zipIdx.map fun (holds, place) => if holds then .twoPow size place else 0

def stay (size : Nat) : Reach size :=
  (List.range size).map (.twoPow size)

/-- The relation of each place with the next one, where a condition holds. The last place has no
next one. -/
def advanceWhere (conditions : List Bool) : Reach size :=
  (conditions.zipIdx.map fun (holds, place) => if holds then .twoPow size (place + 1) else 0) ++ [0]

/-- The places that some places lead to, where the rows are about the places from an index on. -/
def imageFrom (places : BitVec size) (index : Nat) : Reach size → BitVec size
  | [] => 0
  | row :: rows => (if places.getLsbD index then row else 0) ||| imageFrom places (index + 1) rows

def andThen (first second : Reach size) : Reach size :=
  first.map fun places => second.imageFrom places 0

def orElse (first second : Reach size) : Reach size :=
  List.zipWith (· ||| ·) first second

/-- A relation a number of times, one after another. -/
def power (reach : Reach size) (count : Nat) : Reach size :=
  if count = 0 then stay size
  else if count = 1 then reach
  else
    let half := reach.power (count / 2)
    let even := half.andThen half
    if count % 2 = 0 then even else even.andThen reach
termination_by count
decreasing_by omega

/-- A relation as often as it has been doubled some times. One that is the same after itself stays
the same. -/
def doubled (reach : Reach size) : Nat → Reach size
  | 0 => reach
  | doublings + 1 =>
    let twice := reach.andThen reach
    if twice = reach then reach else twice.doubled doublings

/-- A relation from the least number of times to the most. Without a most number the further steps
are doubled as often as there are places, which is enough: a step that leads somewhere leads to a
later place. -/
def between (reach : Reach size) (least : Nat) (most : Option Nat) : Reach size :=
  let optional := (stay size).orElse reach
  let further := match most with
    | some most => optional.power (most - least)
    | none => optional.doubled size
  if least = 0 then further else (reach.power least).andThen further

end Reach

namespace Pattern

def reach (text : List Char) : Pattern → Reach (text.length + 1)
  | nothing => .stay _
  | oneOf members => .advanceWhere (text.map members.contains)
  | place anchor => .stayWhere (anchor.placesFrom none text)
  | repeated least most part => (reach text part).between least most
  | captured part => reach text part
  | sequence first second => (reach text first).andThen (reach text second)
  | choice first second => (reach text first).orElse (reach text second)

/-- Whether a text has a part that the pattern describes. -/
def occursIn (pattern : Pattern) (text : List Char) : Bool :=
  (pattern.reach text).any (· ≠ 0)

end Pattern

end Pinwire

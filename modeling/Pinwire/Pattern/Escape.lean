import Pinwire.Pattern.Basic
import Pinwire.Pattern.Modes
import Pinwire.Text.Decimal
import Pinwire.Text.Hex

/-!
# Escapes in pattern texts

After a backslash a character that means something means itself, and a letter means something: a
control character, a character by its number, a named set, or a place.
-/

namespace Pinwire.Pattern

/-- A character that a pattern text names. -/
structure Letter where
  character : Char
  /-- Whether it was named by two hexadecimal digits, and so may stand for a byte. -/
  isByte : Bool
  deriving Repr, DecidableEq

/-- What an escape stands for. -/
inductive Escape where
  | single (letter : Letter)
  | among (members : CharSet)
  | place (anchor : Anchor)
  deriving Repr, DecidableEq

namespace Escape

def digits : CharSet := .range '0' '9'

def wordCharacters : CharSet := .ofRanges [('0', '9'), ('A', 'Z'), ('_', '_'), ('a', 'z')]

def blanks : CharSet := .ofRanges [('\t', '\r'), (' ', ' ')]

def hexValue (digits : List Char) : Nat :=
  digits.foldl (fun value digit => 16 * value + (Text.Hex.digitValue? digit).getD 0) 0

/-- The character of a number, if there is one. -/
def character? (number : Nat) : Option Char :=
  if number.isValidChar then some (Char.ofNat number) else none

/-- Reads as many hexadecimal digits as there have to be. -/
def readHexDigits (modes : Modes) : Nat → List Char → Option (List Char × List Char)
  | 0, text => some ([], text)
  | count + 1, text =>
    match modes.skip text with
    | [] => none
    | character :: rest =>
      if Text.Hex.isDigit character then
        (readHexDigits modes count rest).map fun (digits, left) => (character :: digits, left)
      else none

/-- Reads the number of a character: some digits, or any number of them in braces. -/
def readNumbered (modes : Modes) (count : Nat) (text : List Char) : Option (Letter × List Char) :=
  match modes.skip text with
  | '\x7b' :: rest =>
    match modes.scan Text.Hex.isDigit false rest with
    | (digits, '\x7d' :: left) =>
      if digits.isEmpty then none
      else (character? (hexValue digits)).map fun character => (⟨character, false⟩, left)
    | _ => none
  | rest => do
    let (digits, left) ← readHexDigits modes count rest
    let character ← character? (hexValue digits)
    pure (⟨character, count = 2⟩, left)

/-- The condition on a place that a word in braces names. -/
def edge? (name : List Char) : Option WordEdge :=
  match String.ofList name with
  | "start" => some .start
  | "end" => some .finish
  | "start-half" => some .noneBefore
  | "end-half" => some .noneAfter
  | _ => none

/-- Whether a character can stand in the name of a condition. -/
def isEdgeLetter (character : Char) : Bool :=
  character.isAlpha || character = '-'

/-- Reads the word in braces that may follow a condition on words. Braces that hold something else
are left for a count. -/
def readEdge (modes : Modes) (text : List Char) : Option (WordEdge × List Char) :=
  match text with
  | '\x7b' :: rest =>
    match modes.skip rest with
    | [] => none
    | first :: _ =>
      if isEdgeLetter first then
        match modes.scan isEdgeLetter false rest with
        | (name, '\x7d' :: left) => (edge? name).map fun edge => (edge, left)
        | _ => none
      else some (.boundary, text)
  | _ => some (.boundary, text)

/-- A condition on words, in the scripts that the modes mean. -/
def wordAnchor (modes : Modes) (edge : WordEdge) : Escape :=
  Escape.place (if modes.allScripts then .scriptWord edge else .word edge)

/-- The letter for a named set: only the sets of ASCII characters are known. -/
def named? (modes : Modes) (letter : Char) : Option CharSet :=
  if modes.allScripts then none
  else match letter with
    | 'd' => some digits
    | 's' => some blanks
    | 'w' => some wordCharacters
    | _ => none

/-- The character that a letter after a backslash stands for. -/
def control? (letter : Char) : Option Char :=
  match letter with
  | 'a' => some '\x07'
  | 'f' => some '\x0c'
  | 't' => some '\t'
  | 'n' => some '\n'
  | 'r' => some '\r'
  | 'v' => some '\x0b'
  | _ => none

def meansItself (character : Char) : Bool :=
  character.toNat < 0x80 && !character.isAlphanum && character ≠ '<' && character ≠ '>'

def read (modes : Modes) : List Char → Option (Escape × List Char)
  | [] => none
  | character :: rest =>
    let numbered (count : Nat) := (readNumbered modes count rest).map fun (letter, left) =>
      (Escape.single letter, left)
    if meansItself character then some (.single ⟨character, false⟩, rest)
    else match character with
      | 'x' => numbered 2
      | 'u' => numbered 4
      | 'U' => numbered 8
      | 'A' => some (.place .textStart, rest)
      | 'z' => some (.place .textEnd, rest)
      | 'b' => (readEdge modes rest).map fun (edge, left) => (wordAnchor modes edge, left)
      | 'B' => some (wordAnchor modes .inner, rest)
      | '<' => some (wordAnchor modes .start, rest)
      | '>' => some (wordAnchor modes .finish, rest)
      | _ =>
        match control? character, named? modes character with
        | some meant, _ => some (.single ⟨meant, false⟩, rest)
        | none, some members => some (.among members, rest)
        | none, none => none

end Escape

namespace Letter

/-- The character that is meant. Where ASCII characters are meant, two digits name a byte, and one
beyond ASCII is no character. -/
def meant? (modes : Modes) (letter : Letter) : Option Char :=
  if !modes.allScripts && letter.isByte && 0x80 ≤ letter.character.toNat then none
  else some letter.character

/-- The pattern for a character. The cases of letters are known for ASCII only. -/
def pattern? (modes : Modes) (letter : Letter) : Option Pattern :=
  if modes.ignoresCase && modes.allScripts then none
  else (letter.meant? modes).map fun character =>
    let members := CharSet.single character
    .oneOf (if modes.ignoresCase then members.withOtherCase else members)

/-- The character as a member of a set; where ASCII characters are meant, it is one of them. -/
def member? (modes : Modes) (letter : Letter) : Option Char :=
  if modes.allScripts || letter.character.toNat < 0x80 then some letter.character else none

end Letter

end Pinwire.Pattern

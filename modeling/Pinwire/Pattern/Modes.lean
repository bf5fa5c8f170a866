import Pinwire.Text.Blank

/-!
# Modes of pattern texts

A pattern text can switch modes on and off. They decide what its parts mean, and in spaced mode
blanks and comments may stand between the parts.
-/

namespace Pinwire.Pattern

/-- What the parts of a pattern text mean. -/
structure Modes where
  /-- Letters stand for both of their cases. -/
  ignoresCase : Bool
  /-- The marks for the ends of a text stand for the ends of a line. -/
  byLine : Bool
  /-- The dot stands for a line end too. -/
  dotIsAny : Bool
  /-- Carriage returns end lines, too. -/
  byRow : Bool
  /-- Characters of all scripts are meant, and not ASCII characters only. -/
  allScripts : Bool
  /-- Blanks and comments stand between parts and mean nothing. -/
  spaced : Bool
  deriving Repr, DecidableEq

namespace Modes

def initial : Modes := ⟨false, false, false, false, true, false⟩

/-- The modes after one has been switched by its letter. The letter for the preference between
longer and shorter matches is known but changes nothing about whether there is one. -/
def switch? (modes : Modes) (isOn : Bool) (letter : Char) : Option Modes :=
  match letter with
  | 'i' => some { modes with ignoresCase := isOn }
  | 'm' => some { modes with byLine := isOn }
  | 's' => some { modes with dotIsAny := isOn }
  | 'R' => some { modes with byRow := isOn }
  | 'u' => some { modes with allScripts := isOn }
  | 'x' => some { modes with spaced := isOn }
  | 'U' => some modes
  | _ => none

/-- Reads switches up to the character that ends them, which is handed on. The letters before a
minus are switched on and those after it off; there is one minus at most, a letter follows it, and
no letter occurs twice. -/
def readSwitches (modes : Modes) (seen : List Char) : List Char → Option (Modes × List Char)
  | [] => none
  | character :: rest =>
    if character = ':' ∨ character = ')' then
      if seen.head? = some '-' then none else some (modes, character :: rest)
    else if character ∈ seen then none
    else if character = '-' then readSwitches modes ('-' :: seen) rest
    else
      match modes.switch? ('-' ∉ seen) character with
      | some switched => readSwitches switched (character :: seen) rest
      | none => none

/-- The text after blanks and comments; a comment goes from a number sign to the end of its line. -/
def skipBlanks (inComment : Bool) : List Char → List Char
  | [] => []
  | character :: rest =>
    if inComment then skipBlanks (character ≠ '\n') rest
    else if character = '#' then skipBlanks true rest
    else if Text.isBlank character then skipBlanks false rest
    else character :: rest

def skip (modes : Modes) (text : List Char) : List Char :=
  if modes.spaced then skipBlanks false text else text

/-- The characters of a class up to the first other one, and the text from that one on. In spaced
mode blanks and comments may stand between them. -/
def scan (modes : Modes) (belongs : Char → Bool) (inComment : Bool) :
    List Char → List Char × List Char
  | [] => ([], [])
  | character :: rest =>
    if inComment then scan modes belongs (character ≠ '\n') rest
    else if belongs character then
      let (taken, left) := scan modes belongs false rest
      (character :: taken, left)
    else if modes.spaced && character = '#' then scan modes belongs true rest
    else if modes.spaced && Text.isBlank character then scan modes belongs false rest
    else ([], character :: rest)

end Modes

end Pinwire.Pattern

import Pinwire.Toml.Value

/-!
# What TOML passes over

Blanks, line ends and comments, and the characters that a document may contain at all: no controls
apart from the tab, and no delete character.
-/

namespace Pinwire.Toml

def isBlank (character : Char) : Bool :=
  character == ' ' || character == '\t'

def isLineChar (character : Char) : Bool :=
  character == '\t' || (' ' ≤ character && character ≤ '~') || 0x80 ≤ character.toNat

def skipBlanks (text : List Char) : List Char :=
  text.dropWhile isBlank

/-- Takes a line end, of one or two characters. -/
def lineEnd : Reader Unit
  | '\n' :: rest => some ((), rest)
  | '\r' :: '\n' :: rest => some ((), rest)
  | _ => none

/-- The text without a comment it may start with. -/
def skipComment : List Char → List Char
  | '#' :: rest => rest.dropWhile isLineChar
  | text => text

/-- Takes the end of a line or of the whole text, after blanks and a comment. -/
def lineRest : Reader Unit := fun text =>
  match skipComment (skipBlanks text) with
  | [] => some ((), [])
  | rest => lineEnd rest

/-- Takes one blank, line end or comment. -/
def gap : Reader Unit
  | ' ' :: rest | '\t' :: rest => some ((), rest)
  | '#' :: rest => some ((), rest.dropWhile isLineChar)
  | text => lineEnd text

/-- The text without the blanks, line ends and comments it starts with. -/
def skipGaps (text : List Char) : List Char :=
  match gap.many text with
  | some (_, rest) => rest
  | none => text

end Pinwire.Toml

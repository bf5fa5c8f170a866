/-!
# Plain text

A text without what a terminal takes for a command. Commands are control characters and the
sequences that the escape character begins: short ones, control sequences with parameters, device
control strings, and strings that give a title or are for an application. Of the control characters
only those that move within white space remain.
-/

namespace Pinwire.Text.Plain

/-- Where in a command a text stands. -/
inductive Phase where
  /-- In none. -/
  | outside
  /-- After the escape character. -/
  | escape
  /-- In a short sequence that has not reached its last character. -/
  | short
  /-- In a control sequence. -/
  | control
  /-- At the start of a device control string. -/
  | deviceStart
  /-- In the parameters of a device control string. -/
  | deviceParameters
  /-- After the parameters of a device control string. -/
  | deviceFinal
  /-- In a string that only a control character ends. -/
  | string
  /-- In a string that a bell ends as well. -/
  | title
  deriving Repr, DecidableEq

def isSpacing (code : Nat) : Bool :=
  code = 0x09 || code = 0x0A || code = 0x0C || code = 0x0D

def between (first last code : Nat) : Bool :=
  first ≤ code && code ≤ last

/-- The phase after an ASCII character that is no control character. -/
def Phase.afterVisible (phase : Phase) (code : Nat) : Phase :=
  match phase with
  | .outside => .outside
  | .escape =>
    if between 0x20 0x2F code then .short
    else if code = 0x50 then .deviceStart
    else if code = 0x5B then .control
    else if code = 0x5D then .title
    else if code = 0x58 || code = 0x5E || code = 0x5F then .string
    else .outside
  | .short => if between 0x20 0x2F code then .short else .outside
  | .control => if between 0x40 0x7E code then .outside else .control
  | .deviceStart =>
    if between 0x20 0x2F code then .deviceFinal
    else if between 0x30 0x3F code && code ≠ 0x3A then .deviceParameters
    else .string
  | .deviceParameters =>
    if between 0x20 0x2F code then .deviceFinal
    else if between 0x30 0x3B code && code ≠ 0x3A then .deviceParameters
    else .string
  | .deviceFinal => if between 0x20 0x2F code then .deviceFinal else .string
  | .string => .string
  | .title => .title

/-- Whether white space breaks off the command of a phase. -/
def Phase.isBroken : Phase → Bool
  | .outside | .escape | .short | .control => true
  | _ => false

/-- Whether the encoding of a character holds the byte that ends a string. -/
def endsString (character : Char) : Bool :=
  (String.singleton character).toUTF8.toList.contains 0x9C

/-- The phase after a character, and whether the character belongs to the plain text. -/
def Phase.after (phase : Phase) (character : Char) : Phase × Bool :=
  let code := character.toNat
  if code = 0x1B then (.escape, false)
  else if code = 0x18 || code = 0x1A then (.outside, false)
  else if code = 0x07 && phase = .title then (.outside, false)
  else if isSpacing code && phase.isBroken then (.outside, true)
  else if code < 0x20 || code = 0x7F then (phase, false)
  else if code < 0x80 then (phase.afterVisible code, phase = .outside)
  else if phase = .string && endsString character then (.outside, false)
  else (phase, phase = .outside)

/-- The plain text of a text that begins in a phase. -/
def stripFrom : Phase → List Char → List Char
  | _, [] => []
  | phase, character :: rest =>
    match phase.after character with
    | (next, true) => character :: stripFrom next rest
    | (next, false) => stripFrom next rest

def strip (text : List Char) : List Char :=
  stripFrom .outside text

end Pinwire.Text.Plain

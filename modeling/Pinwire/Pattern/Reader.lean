import Pinwire.Pattern.Bracket
import Pinwire.Pattern.Size
import Pinwire.Text.Letter

/-!
# Reading patterns

A pattern text is read from left to right. What has been read of every open group is kept: the
alternatives before the one that is being read, and the parts of that one. The modes that are
switched inside a group last until it is closed.
-/

namespace Pinwire.Pattern

/-- A part of a pattern text. -/
structure Part where
  pattern : Pattern
  /-- How deeply groups, repetitions, sequences, choices and sets are nested in the part. -/
  depth : Nat
  /-- Whether the part does no more than switch modes. -/
  isSwitch : Bool
  deriving Repr, DecidableEq

namespace Part

def flat (pattern : Pattern) : Part := ⟨pattern, 0, false⟩

def deepest (parts : List Part) : Nat :=
  (parts.map (·.depth)).foldl max 0

def inSequence (parts : List Part) : Part :=
  match parts with
  | [part] => part
  | _ =>
    ⟨parts.foldr (fun part rest => part.pattern.followedBy rest) .nothing,
      if parts.isEmpty then 0 else deepest parts + 1, false⟩

def inChoice (first : Part) (others : List Part) : Part :=
  match others with
  | [] => first
  | _ =>
    ⟨(others.foldl (fun pattern part => pattern.orElse part.pattern) first.pattern),
      deepest (first :: others) + 1, false⟩

def repeated (part : Part) (least : Nat) (most : Option Nat) : Part :=
  ⟨part.pattern.times least most, part.depth + 1, false⟩

def grouped (part : Part) (isCaptured : Bool) : Part :=
  ⟨if isCaptured then .captured part.pattern else part.pattern, part.depth + 1, false⟩

end Part

/-- What has been read of a group, or of the text outside all groups. -/
structure Group where
  /-- Whether the place of the group in a text is to be remembered. -/
  isCaptured : Bool
  /-- The modes around the group. -/
  around : Modes
  /-- The alternatives before the one that is being read, the last one first. -/
  alternatives : List Part
  /-- The parts of the alternative that is being read, the last one first. -/
  parts : List Part
  deriving Repr, DecidableEq

namespace Group

def opened (isCaptured : Bool) (around : Modes) : Group := ⟨isCaptured, around, [], []⟩

def add (group : Group) (part : Part) : Group :=
  { group with parts := part :: group.parts }

def next (group : Group) : Group :=
  { group with
    alternatives := Part.inSequence group.parts.reverse :: group.alternatives
    parts := [] }

/-- All that has been read of a group, as one part. -/
def content (group : Group) : Part :=
  match group.next.alternatives.reverse with
  | [] => .flat .nothing
  | first :: others => Part.inChoice first others

/-- A group whose last part is repeated; there has to be one that can be. -/
def repeatLast? (group : Group) (least : Nat) (most : Option Nat) : Option Group :=
  match group.parts with
  | last :: earlier =>
    if last.isSwitch then none else some { group with parts := last.repeated least most :: earlier }
  | [] => none

end Group

/-- How far the reading of a pattern text has got. -/
structure Reading where
  modes : Modes
  /-- The innermost open group. -/
  group : Group
  /-- The groups around it, the inner ones first. -/
  outer : List Group
  /-- The names of groups. -/
  names : List (List Char)
  deriving Repr, DecidableEq

namespace Reading

def start : Reading := ⟨.initial, .opened false .initial, [], []⟩

def add (reading : Reading) (part : Part) : Reading :=
  { reading with group := reading.group.add part }

def addFlat (reading : Reading) (pattern : Pattern) : Reading :=
  reading.add (.flat pattern)

/-- The reading after the opening of a group in which some modes hold. -/
def openGroup (reading : Reading) (isCaptured : Bool) (modes : Modes) : Reading :=
  { reading with
    modes
    group := .opened isCaptured reading.modes
    outer := reading.group :: reading.outer }

/-- The reading after the closing of a group, if one is open. -/
def closeGroup? (reading : Reading) : Option Reading :=
  match reading.outer with
  | [] => none
  | around :: outer =>
    let closed := reading.group.content.grouped reading.group.isCaptured
    some { reading with modes := reading.group.around, group := around.add closed, outer }

/-- Whether a character can stand in the name of a group; the first one is a letter or `_`. -/
def isNameCharacter (isFirst : Bool) (character : Char) : Bool :=
  if isFirst then character = '_' || Text.isLetter character
  else character ∈ ['_', '.', '[', ']'] || Text.isLetter character || Text.isNumeral character

/-- Reads the name of a group up to its closing angle bracket. A name is given once. -/
def openNamed (reading : Reading) (text : List Char) : Option (Reading × List Char) :=
  match text.takeWhile (· ≠ '>'), text.dropWhile (· ≠ '>') with
  | first :: name, '>' :: left =>
    if isNameCharacter true first && name.all (isNameCharacter false) &&
        (first :: name) ∉ reading.names then
      let reading := reading.openGroup true reading.modes
      some ({ reading with names := (first :: name) :: reading.names }, left)
    else none
  | _, _ => none

/-- Reads switches of modes, for the rest of the group around them or for a group of their own. -/
def readSwitches (reading : Reading) (text : List Char) : Option (Reading × List Char) :=
  match reading.modes.readSwitches [] text with
  | some (modes, ':' :: left) => some (reading.openGroup false modes, left)
  | some (modes, _ :: left) =>
    if text.head? = some ')' then none
    else some ({ reading with modes }.add ⟨.nothing, 0, true⟩, left)
  | _ => none

/-- Reads what follows an opening parenthesis. Conditions on the text around a place are unknown. -/
def readOpening (reading : Reading) (text : List Char) : Option (Reading × List Char) :=
  match reading.modes.skip text with
  | '?' :: '=' :: _ | '?' :: '!' :: _ | '?' :: '<' :: '=' :: _ | '?' :: '<' :: '!' :: _ => none
  | '?' :: 'P' :: '<' :: rest | '?' :: '<' :: rest => reading.openNamed rest
  | '?' :: rest => reading.readSwitches rest
  | rest => some (reading.openGroup true reading.modes, rest)

/-- Reads a number of repetitions, with blanks around it. -/
def readNumber (modes : Modes) (text : List Char) : Option (Nat × List Char) :=
  let (digits, left) := modes.scan Char.isDigit false (Text.trimStart text)
  (Text.Decimal.value? digits).bind fun number =>
    if number ≤ Bounds.unsigned32 then some (number, Text.trimStart left) else none

/-- Reads the numbers of repetitions between braces, after the opening one. -/
def readCounts (modes : Modes) (text : List Char) : Option (Nat × Option Nat × List Char) := do
  let (least, rest) ← readNumber modes (modes.skip text)
  match rest with
  | '\x7d' :: left => pure (least, some least, left)
  | ',' :: rest =>
    match modes.skip rest with
    | '\x7d' :: left => pure (least, none, left)
    | rest =>
      let (most, rest) ← readNumber modes rest
      match rest with
      | '\x7d' :: left => if least ≤ most then pure (least, some most, left) else none
      | _ => none
  | _ => none

/-- The text after the mark for a repetition that is to be short, if there is one. -/
def afterPreference (text : List Char) : List Char :=
  match text with
  | '?' :: rest => rest
  | _ => text

def repeatLast? (reading : Reading) (least : Nat) (most : Option Nat) (left : List Char) :
    Option (Reading × List Char) :=
  (reading.group.repeatLast? least most).map fun group =>
    ({ reading with group }, afterPreference left)

def dot? (modes : Modes) : Option Pattern :=
  if !modes.allScripts then none
  else
    let lineEnds : CharSet := if modes.dotIsAny then .empty
      else if modes.byRow then .ofRanges [('\n', '\n'), ('\r', '\r')]
      else .single '\n'
    some (.oneOf lineEnds.complement)

def startAnchor (modes : Modes) : Anchor :=
  if !modes.byLine then .textStart else if modes.byRow then .rowStart else .lineStart

def endAnchor (modes : Modes) : Anchor :=
  if !modes.byLine then .textEnd else if modes.byRow then .rowEnd else .lineEnd

def ofEscape? (modes : Modes) : Escape → Option Pattern
  | .single letter => letter.pattern? modes
  | .among members => some (.oneOf members)
  | .place anchor => some (.place anchor)

/-- Reads the part of a text that begins with a character. -/
def readPart (reading : Reading) (character : Char) (rest : List Char) :
    Option (Reading × List Char) :=
  let modes := reading.modes
  match character with
  | '(' => reading.readOpening rest
  | ')' => reading.closeGroup?.map fun reading => (reading, rest)
  | '|' => some ({ reading with group := reading.group.next }, rest)
  | '[' => (Bracket.read modes rest).map fun (members, depth, left) =>
    (reading.add ⟨.oneOf members, depth, false⟩, left)
  | '?' => reading.repeatLast? 0 (some 1) rest
  | '*' => reading.repeatLast? 0 none rest
  | '+' => reading.repeatLast? 1 none rest
  | '\x7b' => (readCounts modes rest).bind fun (least, most, left) =>
    reading.repeatLast? least most (modes.skip left)
  | '\\' => (Escape.read modes rest).bind fun (escape, left) =>
    (ofEscape? modes escape).map fun pattern => (reading.addFlat pattern, left)
  | '.' => (dot? modes).map fun pattern => (reading.addFlat pattern, rest)
  | '^' => some (reading.addFlat (.place (startAnchor modes)), rest)
  | '$' => some (reading.addFlat (.place (endAnchor modes)), rest)
  | _ => ((⟨character, false⟩ : Letter).pattern? modes).map fun pattern =>
    (reading.addFlat pattern, rest)

/-- Reads a text to its end, at which no group may be open. Each step takes a character or more, so
that `steps` may be the length of the text. -/
def readFrom : Nat → Reading → List Char → Option Part
  | 0, _, _ => none
  | steps + 1, reading, text =>
    match reading.modes.skip text with
    | [] => if reading.outer.isEmpty then some reading.group.content else none
    | character :: rest =>
      match reading.readPart character rest with
      | some (reading, left) => readFrom steps reading left
      | none => none

end Reading

/-- How deeply the parts of a pattern text may be nested. -/
def deepestNesting : Nat := 250

/-- A pattern from its text. It keeps to limits of nesting and size, and tells ASCII letters from
other characters only. -/
def parse? (text : List Char) : Option Pattern :=
  match Reading.readFrom (text.length + 1) .start text with
  | some part =>
    if part.depth ≤ deepestNesting && !part.pattern.needsScripts && part.pattern.fits then
      some part.pattern
    else none
  | none => none

end Pinwire.Pattern

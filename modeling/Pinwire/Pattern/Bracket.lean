import Pinwire.Pattern.Escape

/-!
# Sets in brackets

A set of characters is written in brackets: characters, ranges, named sets and further sets in
brackets, which may be joined by operators. Operators stand between what is listed before and after
them and are carried out from left to right.
-/

namespace Pinwire.Pattern

/-- The members of a set that is being read. -/
structure Members where
  set : CharSet
  /-- Whether the set is known to have with each letter the other case of it. -/
  hasBothCases : Bool
  deriving Repr, DecidableEq

namespace Members

def none : Members := ⟨.empty, true⟩

/-- Some members of which the cases are not known. -/
def ofSet (set : CharSet) : Members := ⟨set, set.isEmpty⟩

def push (members : Members) (set : CharSet) : Members := ⟨members.set.union set, false⟩

def union (members others : Members) : Members :=
  if others.set.isEmpty || members.set = others.set then members
  else ⟨members.set.union others.set, members.hasBothCases && others.hasBothCases⟩

def intersection (members others : Members) : Members :=
  if members.set.isEmpty then members
  else if others.set.isEmpty then none
  else ⟨members.set.intersection others.set, members.hasBothCases && others.hasBothCases⟩

def difference (members others : Members) : Members :=
  if members.set.isEmpty || others.set.isEmpty then members
  else ⟨members.set.difference others.set, members.hasBothCases && others.hasBothCases⟩

/-- The members of one of the sets but not of both. -/
def exclusive (members others : Members) : Members :=
  (members.union others).difference (members.intersection others)

/-- The members with the other cases of letters, if the modes ask for them. The cases of letters
are known for ASCII only. -/
def inBothCases? (modes : Modes) (members : Members) : Option Members :=
  if !modes.ignoresCase then some members
  else if modes.allScripts then
    if members.hasBothCases || members.set.isEmpty then some { members with hasBothCases := true }
    else Option.none
  else some ⟨members.set.withOtherCase, true⟩

/-- The characters that are no members. Where ASCII characters are meant there is no such set,
because it would not be one of ASCII characters. -/
def complement? (modes : Modes) (members : Members) : Option Members :=
  if modes.allScripts then
    some ⟨members.set.complement, members.hasBothCases || members.set.isEmpty⟩
  else Option.none

/-- The members of a set after its cases and its negation have been seen to. -/
def finish? (modes : Modes) (isNegated : Bool) (members : Members) : Option Members :=
  (members.inBothCases? modes).bind fun members =>
    if isNegated then members.complement? modes else some members

end Members

/-- What joins the sets on its sides. -/
inductive SetOperator where
  | intersection
  | difference
  | exclusive
  deriving Repr, DecidableEq

/-- The members of two sets that an operator joins. -/
def SetOperator.apply (operator : SetOperator) (members others : Members) : Members :=
  match operator with
  | intersection => members.intersection others
  | difference => members.difference others
  | exclusive => members.exclusive others

/-- A set in brackets that is being read. -/
structure Bracket where
  isNegated : Bool
  /-- What an operator has before it, with its nesting depth. -/
  pending : Option (SetOperator × Members × Nat)
  /-- What has been listed since the last operator. -/
  members : Members
  /-- How many items have been listed since then. -/
  count : Nat
  /-- The deepest nesting among these items. -/
  depth : Nat
  deriving Repr, DecidableEq

namespace Bracket

def add (bracket : Bracket) (members : Members) (depth : Nat) : Bracket :=
  { bracket with members, count := bracket.count + 1, depth := max bracket.depth depth }

def addRange (bracket : Bracket) (set : CharSet) : Bracket :=
  bracket.add (bracket.members.push set) 0

def addSet (bracket : Bracket) (members : Members) (depth : Nat) : Bracket :=
  bracket.add (bracket.members.union members) depth

/-- The nesting depth of what has been listed since the last operator. -/
def listDepth (bracket : Bracket) : Nat :=
  if 2 ≤ bracket.count then bracket.depth + 1 else bracket.depth

/-- The members of a bracket up to now, after the operator that waits has been carried out. -/
def soFar? (modes : Modes) (bracket : Bracket) : Option (Members × Nat) :=
  match bracket.pending with
  | none => some (bracket.members, bracket.listDepth)
  | some (operator, before, depth) => do
    let after ← bracket.members.inBothCases? modes
    let before ← before.inBothCases? modes
    pure (Members.none.union (operator.apply before after), max depth bracket.listDepth + 1)

def addOperator? (modes : Modes) (bracket : Bracket) (operator : SetOperator) : Option Bracket :=
  (bracket.soFar? modes).map fun (members, depth) =>
    ⟨bracket.isNegated, some (operator, members, depth), .none, 0, 0⟩

/-- The set of a bracket that has been closed, and its nesting depth. -/
def close? (modes : Modes) (bracket : Bracket) : Option (Members × Nat) := do
  let (members, depth) ← bracket.soFar? modes
  let members ← members.finish? modes bracket.isNegated
  pure (members, depth + 1)

/-- The minuses that a set begins with, which mean themselves. -/
def skipMinuses (modes : Modes) (text : List Char) : List Char × List Char :=
  modes.scan (· = '-') false text

/-- A bracket from what follows its opening. Minuses and a closing bracket mean themselves if they
come first. -/
def opened (modes : Modes) (text : List Char) : Bracket × List Char :=
  let (isNegated, text) := match modes.skip text with
    | '^' :: rest => (true, modes.skip rest)
    | rest => (false, rest)
  let (minuses, text) := skipMinuses modes text
  let start : Bracket := ⟨isNegated, none, .none, 0, 0⟩
  let listed := minuses.foldl (fun bracket minus => bracket.addRange (.single minus)) start
  match minuses, text with
  | [], ']' :: rest => (listed.addRange (.single ']'), rest)
  | _, _ => (listed, text)

/-- The characters of a class of ASCII characters. -/
def namedRanges? (name : List Char) : Option (List (Char × Char)) :=
  match String.ofList name with
  | "alnum" => some [('0', '9'), ('A', 'Z'), ('a', 'z')]
  | "alpha" => some [('A', 'Z'), ('a', 'z')]
  | "ascii" => some [('\x00', '\x7f')]
  | "blank" => some [('\t', '\t'), (' ', ' ')]
  | "cntrl" => some [('\x00', '\x1f'), ('\x7f', '\x7f')]
  | "digit" => some [('0', '9')]
  | "graph" => some [('!', '~')]
  | "lower" => some [('a', 'z')]
  | "print" => some [(' ', '~')]
  | "punct" => some [('!', '/'), (':', '@'), ('[', '\x60'), ('\x7b', '~')]
  | "space" => some [('\t', '\r'), (' ', ' ')]
  | "upper" => some [('A', 'Z')]
  | "word" => some [('0', '9'), ('A', 'Z'), ('_', '_'), ('a', 'z')]
  | "xdigit" => some [('0', '9'), ('A', 'F'), ('a', 'f')]
  | _ => none

/-- The class of ASCII characters between colons after an opening bracket: whether it is negated,
its characters, and the text after it. -/
def namedClass? (text : List Char) : Option (Bool × CharSet × List Char) :=
  match text with
  | ':' :: rest =>
    let (isNegated, rest) := match rest with
      | '^' :: rest => (true, rest)
      | _ => (false, rest)
    match rest.dropWhile (· ≠ ':') with
    | ':' :: ']' :: left =>
      (namedRanges? (rest.takeWhile (· ≠ ':'))).map fun ranges =>
        (isNegated, CharSet.ofRanges ranges, left)
    | _ => none
  | _ => none

/-- The character after a minus; in spaced mode after blanks and a single number sign as well. -/
def afterMinus? (modes : Modes) (text : List Char) : Option Char :=
  if modes.spaced then
    match text.dropWhile Text.isBlank with
    | '#' :: rest => (rest.dropWhile Text.isBlank).head?
    | rest => rest.head?
  else text.head?

/-- Reads a character or what an escape stands for. -/
def readItem (modes : Modes) : List Char → Option (Escape × List Char)
  | [] => none
  | '\\' :: rest => Escape.read modes rest
  | character :: rest => some (.single ⟨character, false⟩, rest)

/-- The character that an end of a range has to be. -/
def rangeEnd? (modes : Modes) : Escape → Option Char
  | .single letter => letter.member? modes
  | _ => none

/-- Reads an item or a range and adds it to a bracket. -/
def readRange (modes : Modes) (bracket : Bracket) (text : List Char) :
    Option (Bracket × List Char) := do
  let (first, rest) ← readItem modes text
  let rest := modes.skip rest
  let isRange := match rest with
    | '-' :: after => afterMinus? modes after ≠ some ']' && afterMinus? modes after ≠ some '-'
    | _ => false
  if isRange then
    let (last, left) ← readItem modes (modes.skip (rest.drop 1))
    let low ← rangeEnd? modes first
    let high ← rangeEnd? modes last
    if low ≤ high then pure (bracket.addRange (.range low high), left) else none
  else
    match first with
    | .single letter =>
      let member ← letter.member? modes
      pure (bracket.addRange (.single member), rest)
    | .among set => pure (bracket.addSet (.ofSet set) 0, rest)
    | .place _ => none

/-- Adds a class of ASCII characters to a bracket. -/
def addClass? (modes : Modes) (bracket : Bracket) (isNegated : Bool) (set : CharSet) :
    Option Bracket :=
  ((Members.ofSet set).finish? modes isNegated).map fun members => bracket.addSet members 0

/-- Reads a set after its opening bracket, with the brackets around the one that is being read. The
answer is the set, its nesting depth and the text after it. Each step takes a character or more, so
that `steps` may be the length of the text. -/
def readFrom (modes : Modes) :
    Nat → List Bracket → Bracket → List Char → Option (CharSet × Nat × List Char)
  | 0, _, _, _ => none
  | steps + 1, outer, bracket, text =>
    match modes.skip text with
    | [] => none
    | '[' :: rest =>
      match namedClass? rest with
      | some (isNegated, set, left) =>
        match bracket.addClass? modes isNegated set with
        | some bracket => readFrom modes steps outer bracket left
        | none => none
      | none =>
        let (inner, left) := opened modes rest
        readFrom modes steps (bracket :: outer) inner left
    | ']' :: rest =>
      match bracket.close? modes, outer with
      | some (members, depth), [] => some (members.set, depth, rest)
      | some (members, depth), around :: outer =>
        readFrom modes steps outer (around.addSet members depth) rest
      | none, _ => none
    | text =>
      let operator := match text with
        | '&' :: '&' :: _ => some SetOperator.intersection
        | '-' :: '-' :: _ => some SetOperator.difference
        | '~' :: '~' :: _ => some SetOperator.exclusive
        | _ => none
      match operator with
      | some operator =>
        match bracket.addOperator? modes operator with
        | some bracket => readFrom modes steps outer bracket (text.drop 2)
        | none => none
      | none =>
        match readRange modes bracket text with
        | some (bracket, left) => readFrom modes steps outer bracket left
        | none => none

def read (modes : Modes) (text : List Char) : Option (CharSet × Nat × List Char) :=
  let (bracket, left) := opened modes text
  readFrom modes (text.length + 1) [] bracket left

end Bracket

end Pinwire.Pattern

import Pinwire.Pattern.CharSet

/-!
# Patterns

A pattern describes texts: a character of a set, a place between characters, and sequences, choices
and repetitions of patterns.
-/

namespace Pinwire

/-- How a place stands to the words beside it. -/
inductive WordEdge where
  /-- A word lies on one side only. -/
  | boundary
  /-- A word lies on both sides or on none. -/
  | inner
  /-- A word starts. -/
  | start
  /-- A word ends. -/
  | finish
  /-- No word lies before. -/
  | noneBefore
  /-- No word lies after. -/
  | noneAfter
  deriving Repr, DecidableEq

/-- A condition on a place between characters. -/
inductive Anchor where
  | textStart
  | textEnd
  /-- The start of the text, or after a line feed. -/
  | lineStart
  /-- The end of the text, or before a line feed. -/
  | lineEnd
  /-- The start of the text, or after a carriage return, a line feed or both. -/
  | rowStart
  /-- The end of the text, or before a carriage return, a line feed or both. -/
  | rowEnd
  /-- A condition on words of ASCII letters, digits and underscores. -/
  | word (edge : WordEdge)
  /-- A condition on words in any script. -/
  | scriptWord (edge : WordEdge)
  deriving Repr, DecidableEq

/-- A description of texts. -/
inductive Pattern where
  /-- The empty text. -/
  | nothing
  /-- One character of a set. -/
  | oneOf (members : CharSet)
  /-- A place that meets a condition. -/
  | place (anchor : Anchor)
  /-- A number of texts one after another, from the least to the most if there is a most. -/
  | repeated (least : Nat) (most : Option Nat) (part : Pattern)
  /-- A part whose place in a text is to be remembered. -/
  | captured (part : Pattern)
  | sequence (first second : Pattern)
  | choice (first second : Pattern)
  deriving Repr, DecidableEq

namespace Pattern

/-- Whether a pattern describes nothing longer than the empty text. -/
def isWidthless : Pattern → Bool
  | nothing | place _ => true
  | oneOf _ => false
  | repeated _ _ part | captured part => part.isWidthless
  | sequence first second | choice first second => first.isWidthless && second.isWidthless

def mayBeEmpty : Pattern → Bool
  | nothing | place _ => true
  | oneOf _ => false
  | repeated least _ part => least = 0 || part.mayBeEmpty
  | captured part => part.mayBeEmpty
  | sequence first second => first.mayBeEmpty && second.mayBeEmpty
  | choice first second => first.mayBeEmpty || second.mayBeEmpty

/-- Whether a pattern has to tell the letters of all scripts apart from other characters. -/
def needsScripts : Pattern → Bool
  | nothing | oneOf _ => false
  | place anchor => match anchor with
    | .scriptWord _ => true
    | _ => false
  | repeated _ _ part | captured part => part.needsScripts
  | sequence first second | choice first second => first.needsScripts || second.needsScripts

def followedBy (first second : Pattern) : Pattern :=
  match first, second with
  | nothing, _ => second
  | _, nothing => first
  | _, _ => sequence first second

/-- A pattern or another one; two sets of characters are one set together. -/
def orElse (first second : Pattern) : Pattern :=
  match first, second with
  | oneOf members, oneOf others => oneOf (members.union others)
  | _, _ => choice first second

/-- A repetition of a pattern. It makes no difference how often nothing but the empty text is
repeated, as long as it is; no repetition at all is the empty text, and a single one the pattern. -/
def times (least : Nat) (most : Option Nat) (part : Pattern) : Pattern :=
  let least := if part.isWidthless then min least 1 else least
  let most := if part.isWidthless then some (min (most.getD 1) 1) else most
  if most = some 0 then nothing
  else if least = 1 ∧ most = some 1 then part
  else repeated least most part

end Pattern

end Pinwire

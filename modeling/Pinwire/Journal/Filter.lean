import Pinwire.Journal
import Pinwire.Pattern.Matching
import Pinwire.Pattern.Reader

/-!
# Journal filters

A filter says which records are shown. Its text is a list of directives with commas between them: a
level for everything, the name of a component, or `name=level`. A component's records follow the
directive with the longest name that their source starts with. After a slash a filter may have a
pattern that has to occur in a shown record; a text that is no pattern demands nothing.
-/

namespace Pinwire

/-- The records of some components down to a level; without a level none of them. -/
structure Directive where
  /-- What the source of a record starts with; without a name every record is meant. -/
  name : Option String
  level : Option Level
  deriving Repr, DecidableEq

/-- Which records are shown. -/
structure Filter where
  /-- The directives, those with longer names later. -/
  directives : List Directive
  /-- What has to occur in the text of a record. -/
  contained : Option Pattern
  deriving Repr, DecidableEq

namespace Directive

/-- The level that a word names, in any case of ASCII letters; one of the words means none. -/
def levelOf? (word : String) : Option (Option Level) :=
  match word.toLower with
  | "off" => some none
  | "error" => some (some .error)
  | "warn" => some (some .warn)
  | "info" => some (some .info)
  | "debug" => some (some .debug)
  | "trace" => some (some .trace)
  | _ => none

/-- A directive from its text. One that has too many parts or an unknown level is passed over. -/
def parse? (text : List Char) : Option Directive :=
  match (Text.splitAll '=' text).map String.ofList with
  | [word] =>
    match levelOf? word with
    | some level => some ⟨none, level⟩
    | none => some ⟨some word, some .trace⟩
  | [name, word] =>
    let word := String.ofList (Text.trim word.toList)
    if word.isEmpty then some ⟨some name, some .trace⟩
    else (levelOf? word).map fun level => ⟨some name, level⟩
  | _ => none

def concerns (directive : Directive) (source : String) : Bool :=
  match directive.name with
  | none => true
  | some name => name.toList.isPrefixOf source.toList

def nameSize (directive : Directive) : Nat :=
  match directive.name with
  | none => 0
  | some name => name.utf8ByteSize

/-- Adds a directive to directives, in place of one with the same name. -/
def addTo (directives : List Directive) (directive : Directive) : List Directive :=
  if directives.any fun earlier => earlier.name == directive.name then
    directives.map fun earlier => if earlier.name == directive.name then directive else earlier
  else directives ++ [directive]

end Directive

namespace Filter

/-- The directives of a list of them, in which empty parts do not count. -/
def directivesOf (text : List Char) : List Directive :=
  let parts := (Text.splitAll ',' text).map Text.trim
  ((parts.filter fun part => !part.isEmpty).filterMap Directive.parse?).foldl Directive.addTo []

/-- A filter from its directives; without any it shows errors only. -/
def ofDirectives (directives : List Directive) (contained : Option Pattern) : Filter :=
  if directives.isEmpty then ⟨[⟨none, some .error⟩], contained⟩
  else ⟨directives.mergeSort fun earlier later => earlier.nameSize ≤ later.nameSize, contained⟩

/-- A filter from its text. One with several slashes says nothing. -/
def parse (text : String) : Filter :=
  match Text.splitAll '/' text.toList with
  | [list] => ofDirectives (directivesOf list) none
  | [list, pattern] => ofDirectives (directivesOf list) (Pattern.parse? pattern)
  | _ => ofDirectives [] none

def shows (filter : Filter) (record : Record) : Bool :=
  let level := (filter.directives.reverse.find? fun directive =>
    directive.concerns record.source).bind (·.level)
  level.any (fun level => record.level.rank ≤ level.rank) &&
    filter.contained.all fun pattern => pattern.occursIn record.text.toList

/-- The filter for a verbosity when no text is given: one step more for each count. -/
def ofVerbosity (verbosity : Nat) : Filter :=
  let level := match verbosity with
    | 0 => Level.info
    | 1 => Level.debug
    | _ => Level.trace
  ⟨[⟨none, some level⟩], none⟩

end Filter

end Pinwire

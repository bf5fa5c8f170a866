import Pinwire.Text.Split

/-!
# Journal records

What the program notes about its work while it runs: a level, the component that notes it and a
text. Levels are ordered by severity, the most severe first.
-/

namespace Pinwire

/-- How severe a journal record is. -/
inductive Level where
  | error
  | warn
  | info
  | debug
  | trace
  deriving Repr, DecidableEq

namespace Level

/-- The place of a level in the order of severity, from one for the most severe. -/
def rank : Level → Nat
  | error => 1
  | warn => 2
  | info => 3
  | debug => 4
  | trace => 5

/-- The name of a level in a printed record. -/
def label : Level → String
  | error => "ERROR"
  | warn => "WARN"
  | info => "INFO"
  | debug => "DEBUG"
  | trace => "TRACE"

end Level

/-- One journal record. -/
structure Record where
  level : Level
  /-- The path of the component that made the record; filters select by it. -/
  source : String
  text : String
  deriving Repr, DecidableEq

namespace Record

/-- A record as a printed row: its level and its text. -/
def render (record : Record) : String :=
  record.level.label ++ " " ++ record.text

end Record

end Pinwire

/-!
# TOML values

What a TOML document can say. Numbers with a fraction or an exponent and points in time are values
that a document may contain, but nothing that this library describes has one, so only their kind is
kept.
-/

namespace Pinwire.Toml

/-- A TOML value. -/
inductive Value where
  | text (text : String)
  | integer (number : Int)
  | fractional
  | boolean (value : Bool)
  | moment
  | array (elements : List Value)
  | table (entries : List (String × Value))

namespace Value

/-- Whether a value is an array or a table without anything in it. -/
def isEmptyContainer : Value → Bool
  | array elements => elements.isEmpty
  | table entries => entries.isEmpty
  | _ => false

end Value

/-- A reader takes what it understands from the front of a text and leaves the rest. -/
abbrev Reader (α : Type) := List Char → Option (α × List Char)

namespace Reader

def exactly (expected : List Char) : Reader Unit := fun text =>
  if expected.isPrefixOf text then some ((), text.drop expected.length) else none

/-- The first of two readers that understands the text. -/
def either (first second : Reader α) : Reader α := fun text =>
  (first text).or (second text)

/-- What the reader takes, if it understands the text. -/
def optional (reader : Reader α) : Reader (Option α) := fun text =>
  match reader text with
  | some (value, rest) => some (some value, rest)
  | none => some (none, text)

/-- Takes as many items as there are, at most `count`. -/
def repeated (reader : Reader α) : Nat → Reader (List α)
  | 0, text => some ([], text)
  | count + 1, text =>
    match reader text with
    | none => some ([], text)
    | some (value, rest) =>
      (repeated reader count rest).map fun (values, rest) => (value :: values, rest)

/-- Takes every item there is; each takes at least one character. -/
def many (reader : Reader α) : Reader (List α) := fun text =>
  repeated reader text.length text

/-- Takes items with separators between them, as many as there are. A separator that no item
follows is left. -/
def separated (separator : Reader Unit) (reader : Reader α) : Reader (List α) := fun text =>
  match reader text with
  | none => some ([], text)
  | some (first, rest) =>
    let next : Reader α := fun text => (separator text).bind fun (_, rest) => reader rest
    (many next rest).map fun (others, rest) => (first :: others, rest)

end Reader

end Pinwire.Toml

import Pinwire.Toml.Moment
import Pinwire.Toml.Quoted
import Pinwire.Toml.Tree

/-!
# TOML documents

A document is a row of statements, each on a line of its own: headers, repeated headers and values
under key paths. Reading the statements and putting together what they say are separate steps.
-/

namespace Pinwire.Toml

/-- How deep arrays and tables within values may nest, and how long a key path may be. -/
def nestingLimit : Nat := 79

def isBareKeyChar (character : Char) : Bool :=
  character.isAlphanum || character == '_' || character == '-'

def keyPart : Reader String := fun text =>
  match text with
  | '"' :: _ | '\'' :: _ => lineString (text.headD '"') text
  | _ =>
    let row := text.takeWhile isBareKeyChar
    if row.isEmpty then none else some (String.ofList row, text.drop row.length)

/-- Takes a key path: parts with dots between them, and blanks around each part. -/
def keyPath : Reader (List String) := fun text => do
  let part : Reader String := fun text =>
    (keyPart (skipBlanks text)).map fun (key, rest) => (key, skipBlanks rest)
  let (path, rest) ← Reader.separated (Reader.exactly ['.']) part text
  if path.isEmpty || nestingLimit < path.length then none else some (path, rest)

/-- A value under a key path, whose last part is apart. -/
structure Binding where
  path : List String
  key : String
  value : Value

def binding (value : Reader Value) : Reader Binding := fun text => do
  let (path, rest) ← keyPath text
  let (_, rest) ← Reader.exactly ['='] rest
  let (value, rest) ← value (skipBlanks rest)
  pure (⟨path.dropLast, path.getLastD "", value⟩, rest)

def tableOfBindings? (bindings : List Binding) : Option Value :=
  let entries := bindings.foldlM
    (fun entries binding => addValue binding.path binding.key binding.value .headed entries) []
  entries.map fun entries => .table (finishEntries entries)

/-- Takes an array of elements; after the last one a comma may stand. -/
def arrayOf (element : Reader Value) : Reader Value := fun text => do
  let (_, rest) ← Reader.exactly ['['] text
  let item : Reader Value := fun text =>
    (element (skipGaps text)).map fun (value, rest) => (value, skipGaps rest)
  let comma := Reader.exactly [',']
  let (elements, rest) ← Reader.separated comma item rest
  let rest := if elements.isEmpty then rest else ((comma rest).map (·.2)).getD rest
  let (_, rest) ← Reader.exactly [']'] (skipGaps rest)
  pure (.array elements, rest)

def lineTableOf (element : Reader Value) : Reader Value := fun text => do
  let (_, rest) ← Reader.exactly ['\x7b'] text
  let item : Reader Binding := fun text =>
    (binding element text).map fun (binding, rest) => (binding, skipBlanks rest)
  let (bindings, rest) ← Reader.separated (Reader.exactly [',']) item rest
  let (_, rest) ← Reader.exactly ['\x7d'] (skipBlanks rest)
  let table ← tableOfBindings? bindings
  pure (table, rest)

def numeric : Reader Value := fun text =>
  ((moment text).map fun (_, rest) => (.moment, rest)).or
    (((fractional text).map fun (_, rest) => (.fractional, rest)).or
      ((integer text).map fun (number, rest) => (.integer number, rest)))

/-- Takes a value with at most `depth` arrays and tables nested in each other. -/
def value : Nat → Reader Value
  | depth, text =>
    match text with
    | '"' :: _ | '\'' :: _ => (string text).map fun (text, rest) => (.text text, rest)
    | 't' :: _ =>
      (Reader.exactly "true".toList text).map fun (_, rest) => (.boolean true, rest)
    | 'f' :: _ =>
      (Reader.exactly "false".toList text).map fun (_, rest) => (.boolean false, rest)
    | '[' :: _ =>
      match depth with
      | 0 => none
      | depth + 1 => arrayOf (value depth) text
    | '\x7b' :: _ =>
      match depth with
      | 0 => none
      | depth + 1 => lineTableOf (value depth) text
    | _ => numeric text

/-- One line of a document. -/
inductive Statement where
  | header (path : List String) (key : String)
  | repeatedHeader (path : List String) (key : String)
  | binding (binding : Binding)

/-- Takes the key path of a header between its brackets. -/
def headerPath (opening closing : List Char) : Reader (List String × String) := fun text => do
  let (_, rest) ← Reader.exactly opening text
  let (path, rest) ← keyPath rest
  let (_, rest) ← Reader.exactly closing rest
  pure ((path.dropLast, path.getLastD ""), rest)

def statement : Reader Statement := fun text =>
  match text with
  | '[' :: '[' :: _ =>
    (headerPath ['[', '['] [']', ']'] text).map fun ((path, key), rest) =>
      (.repeatedHeader path key, rest)
  | '[' :: _ =>
    (headerPath ['['] [']'] text).map fun ((path, key), rest) => (.header path key, rest)
  | _ => (binding (value nestingLimit) text).map fun (binding, rest) => (.binding binding, rest)

/-- Takes a line: a statement, or nothing. -/
def line : Reader (Option Statement) := fun text =>
  match skipBlanks text with
  | [] => none
  | '#' :: rest => (lineRest ('#' :: rest)).map fun (_, rest) => (none, rest)
  | '\n' :: rest => (lineRest ('\n' :: rest)).map fun (_, rest) => (none, rest)
  | '\r' :: rest => (lineRest ('\r' :: rest)).map fun (_, rest) => (none, rest)
  | text => do
    let (statement, rest) ← statement text
    let (_, rest) ← lineRest rest
    pure (some statement, rest)

/-- The statements of a text, which may start with a byte order mark. -/
def statements? (text : List Char) : Option (List Statement) :=
  let text := match text with
    | '\ufeff' :: rest => rest
    | _ => text
  match line.many text with
  | some (lines, rest) => if (skipBlanks rest).isEmpty then some (lines.filterMap id) else none
  | none => none

/-- A document in the making, and the table that values are added to. -/
structure Draft where
  entries : Entries
  place : List String

namespace Draft

def add (draft : Draft) : Statement → Option Draft
  | .header path key =>
    (changeAt false path (fun _ => addHeader key) .headed draft.entries).map fun entries =>
      ⟨entries, path ++ [key]⟩
  | .repeatedHeader path key =>
    (changeAt false path (fun _ => addRepeatedHeader key) .headed draft.entries).map fun entries =>
      ⟨entries, path ++ [key]⟩
  | .binding ⟨path, key, value⟩ =>
    (changeAt false draft.place (addValue path key value) .headed draft.entries).map
      fun entries => { draft with entries }

end Draft

/-- What a document says: the entries of its outermost table. -/
def parse (text : String) : Option (List (String × Value)) := do
  let statements ← statements? text.toList
  let draft ← statements.foldlM Draft.add ⟨[], []⟩
  pure (finishEntries draft.entries)

end Pinwire.Toml

import Pinwire.Toml.Value

/-!
# Tables in the making

A document says what a table holds in several places: under the table's own header, under headers of
tables within it, and through dotted keys. What is known of a table so far is kept together with how
it came about, because that decides who may still add to it: a table with a header of its own is not
extended through dotted keys, a table that came about through dotted keys gets no header, and
nothing is said twice.
-/

namespace Pinwire.Toml

/-- How a table came about. -/
inductive Origin where
  /-- It lies on the way to a table with a header. -/
  | implied
  /-- It lies on the way of a dotted key. -/
  | dotted
  /-- It has a header, or is the outermost table. -/
  | headed
  deriving Repr, DecidableEq

/-- What a key stands for, so far. -/
inductive Entry where
  | value (value : Value)
  | table (origin : Origin) (entries : List (String × Entry))
  /-- Tables under a repeated header, the latest first. -/
  | tables (elements : List (List (String × Entry)))

/-- What a table holds so far. -/
abbrev Entries := List (String × Entry)

namespace Entries

def find? (entries : Entries) (key : String) : Option Entry :=
  (List.find? (fun entry => entry.1 == key) entries).map (·.2)

/-- The table with a key standing for something else than before. -/
def replace (entries : Entries) (key : String) (entry : Entry) : Entries :=
  entries.map fun old => if old.1 == key then (key, entry) else old

def add (entries : Entries) (key : String) (entry : Entry) : Entries :=
  entries ++ [(key, entry)]

end Entries

/-- Changes the table at the end of a path. Tables that are missing on the way are made, through
dotted keys or through a header; a repeated header stands for its latest table. -/
def changeAt (throughDots : Bool) :
    List String → (Origin → Entries → Option Entries) → Origin → Entries → Option Entries
  | [], change, origin, entries => change origin entries
  | key :: path, change, _, entries =>
    match entries.find? key with
    | none =>
      let origin := if throughDots then Origin.dotted else Origin.implied
      (changeAt throughDots path change origin []).map fun inner =>
        entries.add key (.table origin inner)
    | some (.value _) => none
    | some (.table origin inner) =>
      if throughDots && origin = .headed then none
      else (changeAt throughDots path change origin inner).map fun inner =>
        entries.replace key (.table origin inner)
    | some (.tables []) => none
    | some (.tables (latest :: earlier)) =>
      (changeAt throughDots path change .headed latest).map fun latest =>
        entries.replace key (.tables (latest :: earlier))

/-- Adds a key to a table. A dotted key ends in a table that came about through dots, a key without
dots in one that did not. -/
def addKey (dotted : Bool) (key : String) (value : Value) (origin : Origin) (entries : Entries) :
    Option Entries :=
  if (origin == .dotted) != dotted then none
  else match entries.find? key with
    | some _ => none
    | none => some (entries.add key (.value value))

/-- Adds a value under a key path, whose last part is given apart. -/
def addValue (path : List String) (key : String) (value : Value) (origin : Origin)
    (entries : Entries) : Option Entries :=
  changeAt true path (addKey (!path.isEmpty) key value) origin entries

def addHeader (key : String) (entries : Entries) : Option Entries :=
  match entries.find? key with
  | none => some (entries.add key (.table .headed []))
  | some (.table .implied inner) => some (entries.replace key (.table .headed inner))
  | some _ => none

def addRepeatedHeader (key : String) (entries : Entries) : Option Entries :=
  match entries.find? key with
  | none => some (entries.add key (.tables [[]]))
  | some (.tables elements) => some (entries.replace key (.tables ([] :: elements)))
  | some _ => none

mutual

def Entry.finish : Entry → Value
  | .value value => value
  | .table _ entries => .table (finishEntries entries)
  | .tables elements => .array (finishTables elements).reverse

/-- What the keys of a table stand for in the end. -/
def finishEntries : List (String × Entry) → List (String × Value)
  | [] => []
  | (key, entry) :: rest => (key, entry.finish) :: finishEntries rest

/-- The tables under a repeated header in the end. -/
def finishTables : List (List (String × Entry)) → List Value
  | [] => []
  | entries :: rest => .table (finishEntries entries) :: finishTables rest

end

end Pinwire.Toml

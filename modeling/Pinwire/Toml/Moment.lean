import Pinwire.Toml.Number

/-!
# TOML points in time

Dates, times of day, and both together with an optional offset. A date has to be one that the
calendar has.
-/

namespace Pinwire.Toml

/-- Takes a number of exactly `count` digits that lies within bounds. -/
def fixedNumber (count lowest highest : Nat) : Reader Nat := fun text =>
  let row := text.take count
  if row.length = count && row.all isDecimal then
    let value := valueIn 10 row
    if lowest ≤ value && value ≤ highest then some (value, text.drop count) else none
  else none

def isLeapYear (year : Nat) : Bool :=
  year % 4 == 0 && (year % 100 != 0 || year % 400 == 0)

def daysOfMonth (year month : Nat) : Nat :=
  if month = 2 then (if isLeapYear year then 29 else 28)
  else if month = 4 ∨ month = 6 ∨ month = 9 ∨ month = 11 then 30
  else 31

def date : Reader Unit := fun text => do
  let (year, rest) ← fixedNumber 4 0 9999 text
  let (_, rest) ← Reader.exactly ['-'] rest
  let (month, rest) ← fixedNumber 2 1 12 rest
  let (_, rest) ← Reader.exactly ['-'] rest
  let (_, rest) ← fixedNumber 2 1 (daysOfMonth year month) rest
  pure ((), rest)

def hoursAndMinutes : Reader Unit := fun text => do
  let (_, rest) ← fixedNumber 2 0 23 text
  let (_, rest) ← Reader.exactly [':'] rest
  let (_, rest) ← fixedNumber 2 0 59 rest
  pure ((), rest)

def secondFraction : Reader Unit
  | '.' :: rest =>
    let row := rest.takeWhile isDecimal
    if row.isEmpty then none else some ((), rest.drop row.length)
  | _ => none

/-- Takes a time of day; a minute may have a leap second. -/
def timeOfDay : Reader Unit := fun text => do
  let (_, rest) ← hoursAndMinutes text
  let (_, rest) ← Reader.exactly [':'] rest
  let (_, rest) ← fixedNumber 2 0 60 rest
  let (_, rest) ← secondFraction.optional rest
  pure ((), rest)

def offset : Reader Unit
  | 'Z' :: rest | 'z' :: rest => some ((), rest)
  | '+' :: rest | '-' :: rest => hoursAndMinutes rest
  | _ => none

/-- Takes what follows a date when it has a time of day. -/
def timeAfterDate : Reader Unit
  | 'T' :: rest | 't' :: rest | ' ' :: rest => do
    let (_, rest) ← timeOfDay rest
    let (_, rest) ← offset.optional rest
    pure ((), rest)
  | _ => none

def moment : Reader Unit := fun text =>
  match date text with
  | some (_, rest) => (timeAfterDate.optional rest).map fun (_, rest) => ((), rest)
  | none => timeOfDay text

end Pinwire.Toml

import Pinwire.Line.States
import Pinwire.Text.Blank
import Pinwire.Text.Decimal
import Pinwire.Text.Split

/-!
# Assignments of states to lines

Items of the form `LINE=VALUE`, as a user writes them. All items have to be well formed and to name
different lines; the first item that is not decides the defect.
-/

namespace Pinwire.Assignment

/-- Why items do not assign states to lines. -/
inductive Defect where
  /-- An item without an equals sign. -/
  | unassigned (item : String)
  /-- An item whose line is no number. -/
  | invalidLine (item : String)
  /-- An item whose value is no word for a state. -/
  | invalidState (text : String)
  /-- A line that an earlier item assigns as well. -/
  | repeated (line : LineNumber)
  deriving Repr, DecidableEq

namespace Defect

def message : Defect → String
  | unassigned item => s!"Expected LINE=VALUE, got '{item}'"
  | invalidLine item => s!"Invalid line number in '{item}'"
  | invalidState text => PinState.invalidMessage text
  | repeated line => s!"Line {line} assigned more than once"

end Defect

def parseItem (item : String) : Except Defect (LineNumber × PinState) :=
  match Text.splitFirst '=' item.toList with
  | none => .error (.unassigned item)
  | some (lineText, valueText) =>
    match Text.Decimal.word? (Text.trim lineText) with
    | none => .error (.invalidLine item)
    | some line =>
      let valueText := String.ofList (Text.trim valueText)
      match PinState.ofName? valueText with
      | none => .error (.invalidState valueText)
      | some state => .ok (line, state)

/-- Adds the assignments of items to those of earlier ones. -/
def parseAfter : LineStates → List String → Except Defect LineStates
  | states, [] => .ok states
  | states, item :: items =>
    match parseItem item with
    | .error defect => .error defect
    | .ok (line, state) =>
      if (states.get? line).isSome then .error (.repeated line)
      else parseAfter (states.insert line state) items

def parse (items : List String) : Except Defect LineStates :=
  parseAfter .empty items

end Pinwire.Assignment

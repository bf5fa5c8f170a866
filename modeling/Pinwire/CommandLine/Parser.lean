import Pinwire.CommandLine.Grammar
import Pinwire.Text.Decimal
import Pinwire.Text.Split

/-!
# Reading command lines

Arguments are read from left to right. An option that brings a value takes the rest of its own
argument, or else the next argument; the values of an operand are taken together when something else
follows. A value is checked when it is complete, so of two faults it is not always the leftmost one
that is reported: an option that does not exist is reported at once, while a value before it may
still be waiting to be checked. The level of a command is read to its end before the levels around
it are.
-/

namespace Pinwire.CommandLine

/-- A value that was checked. -/
inductive Value where
  | text (text : String)
  | number (number : Nat)
  deriving Repr, DecidableEq

namespace ValueKind

def check (kind : ValueKind) (text : String) : Except UsageError Value :=
  match kind with
  | .text => .ok (.text text)
  | .path => if text.isEmpty then .error .valueMissing else .ok (.text text)
  | .word =>
    match Text.Decimal.signed? 0 (Bounds.unsigned32) text.toList with
    | some number => .ok (.number number.toNat)
    | none => .error .valueRefused
  | .size =>
    match Text.Decimal.unsigned? (Bounds.unsigned64) text.toList with
    | some number => .ok (.number number)
    | none => .error .valueRefused

end ValueKind

/-- What was given at one level: the counts of counters, and the values of everything else under
their names. -/
structure Given where
  counts : List (String × Nat)
  values : List (String × List Value)
  deriving Repr, DecidableEq

namespace Given

def nothing : Given := ⟨[], []⟩

def has (given : Given) (name : String) : Bool :=
  given.values.any (fun entry => entry.1 == name) || given.counts.any fun entry => entry.1 == name

def isNothing (given : Given) : Bool :=
  given.counts.isEmpty && given.values.isEmpty

def count (given : Given) (name : String) : Nat :=
  ((given.counts.find? fun entry => entry.1 == name).map (·.2)).getD 0

def valuesOf (given : Given) (name : String) : List Value :=
  ((given.values.find? fun entry => entry.1 == name).map (·.2)).getD []

def largestCount : Nat := 255

def increment (given : Given) (name : String) : Given :=
  let count := min largestCount (given.count name + 1)
  { given with counts := (name, count) :: given.counts.filter fun entry => entry.1 != name }

def add (given : Given) (name : String) (values : List Value) : Given :=
  let all := given.valuesOf name ++ values
  { given with values := (name, all) :: given.values.filter fun entry => entry.1 != name }

end Given

/-- Values that are not checked yet, and what they are given for. -/
inductive Pending where
  | none
  /-- An option that brings a value, and the value if it has come already. -/
  | option (name : String) (kind : ValueKind) (value : Option String)
  | operand (operand : OperandSpec) (values : List String)
  deriving Repr, DecidableEq

/-- How far a level has been read. -/
structure Progress where
  given : Given
  pending : Pending
  /-- Whether the next argument may be a value of what is pending, and not a command. -/
  accepting : Bool
  /-- The operands that have not had their values. -/
  operands : List OperandSpec
  /-- Whether only operands may follow. -/
  operandsOnly : Bool
  deriving Repr, DecidableEq

namespace Progress

def start (level : LevelSpec) : Progress :=
  ⟨.nothing, .none, false, level.operands, false⟩

/-- Checks what an option brought; an option is given only once. -/
def giveOption (given : Given) (name : String) (kind : ValueKind) (value : Option String) :
    Except UsageError Given :=
  match value with
  | none => .error .valueMissing
  | some text =>
    if given.has name then .error .conflict
    else (kind.check text).map fun value => given.add name [value]

def settle (progress : Progress) : Except UsageError Progress :=
  match progress.pending with
  | .none => .ok progress
  | .option name kind value =>
    (giveOption progress.given name kind value).map fun given =>
      { progress with given, pending := .none }
  | .operand operand values =>
    (values.mapM operand.kind.check).map fun values =>
      { progress with given := progress.given.add operand.name values, pending := .none }

def takeFlag (progress : Progress) (option : OptionSpec) : Except UsageError Progress := do
  let progress ← progress.settle
  match option.kind with
  | .help => .error .helpAsked
  | .version => .error .versionAsked
  | .counter =>
    .ok { progress with given := progress.given.increment option.long, accepting := false }
  | .switch =>
    if progress.given.has option.long then .error .conflict
    else .ok { progress with given := progress.given.add option.long [], accepting := false }
  | .valued _ => .ok progress

/-- Takes an option that brings a value, together with the value. -/
def takeAttached (progress : Progress) (option : OptionSpec) (kind : ValueKind) (value : String) :
    Except UsageError Progress := do
  let progress ← progress.settle
  let given ← giveOption progress.given option.long kind (some value)
  pure { progress with given, accepting := false }

/-- Takes an option that brings a value, which is still to come. -/
def awaitValue (progress : Progress) (option : OptionSpec) (kind : ValueKind) :
    Except UsageError Progress := do
  let progress ← progress.settle
  pure { progress with pending := .option option.long kind none, accepting := true }

/-- Takes an argument that starts with two dashes; `body` is what follows them. -/
def takeLong (level : LevelSpec) (progress : Progress) (body : List Char) :
    Except UsageError Progress :=
  let (name, value) := match Text.splitFirst '=' body with
    | some (name, value) => (name, some (String.ofList value))
    | none => (body, none)
  match level.options.find? fun option => option.long.toList == name with
  | none => .error .argumentUnknown
  | some option =>
    match option.kind, value with
    | .valued kind, some value => progress.takeAttached option kind value
    | .valued kind, none => progress.awaitValue option kind
    | _, some _ => .error .valueUnexpected
    | _, none => progress.takeFlag option

/-- Takes the short options of an argument. An option that brings a value takes the rest. -/
def takeShort (level : LevelSpec) : Progress → List Char → Except UsageError Progress
  | progress, [] => .ok progress
  | progress, letter :: rest =>
    match level.options.find? fun option => option.short == some letter with
    | none => .error .argumentUnknown
    | some option =>
      match option.kind, rest with
      | .valued kind, [] => progress.awaitValue option kind
      | .valued kind, '=' :: value => progress.takeAttached option kind (String.ofList value)
      | .valued kind, value => progress.takeAttached option kind (String.ofList value)
      | _, rest => (progress.takeFlag option).bind fun progress => takeShort level progress rest

/-- Takes an argument as a value of an operand. -/
def takeOperand (spec : CommandSpec) (progress : Progress) (argument : String) :
    Except UsageError Progress :=
  match progress.operands with
  | [] =>
    let namesCommand := (spec.member? argument).isSome || argument == CommandSpec.helpName
    if spec.isGroup && !(progress.operandsOnly && namesCommand) then .error .commandUnknown
    else .error .argumentUnknown
  | operand :: others =>
    let joined : Option (List String) := match progress.pending with
      | .operand earlier values => if operand.many && earlier = operand then some values else none
      | _ => none
    match joined with
    | some values =>
      .ok { progress with pending := .operand operand (values ++ [argument]), accepting := true }
    | none => do
      let progress ← progress.settle
      pure { progress with
        pending := .operand operand [argument]
        accepting := operand.many
        operands := if operand.many then progress.operands else others }

/-- Takes an argument that does not name a command. -/
def take (spec : CommandSpec) (progress : Progress) (argument : String) :
    Except UsageError Progress :=
  if progress.operandsOnly then progress.takeOperand spec argument
  else match argument.toList with
    | ['-', '-'] => .ok { progress with operandsOnly := true }
    | '-' :: '-' :: body => takeLong spec.level progress body
    | '-' :: letter :: rest => takeShort spec.level progress (letter :: rest)
    | _ =>
      match progress.pending, progress.accepting with
      | .option name kind none, true =>
        .ok { progress with pending := .option name kind (some argument), accepting := false }
      | _, _ => progress.takeOperand spec argument

end Progress

/-- Checks what has to be given with a command; what excludes something else comes first. -/
def checkRequirements (given : Given) (requirements : List Requirement) : Except UsageError Unit :=
  let conflicting := requirements.any fun
    | .apart name other => given.has name && given.has other
    | _ => false
  let missing := requirements.any fun
    | .present name => !given.has name
    | .presentUnless name other => !given.has name && !given.has other
    | .apart _ _ => false
  if conflicting then .error .conflict
  else if missing then .error .argumentMissing
  else .ok ()

def finish (spec : CommandSpec) (progress : Progress) : Except UsageError Given := do
  let progress ← progress.settle
  if spec.isGroup then
    .error (if progress.given.isNothing then .nothingGiven else .commandMissing)
  else
    checkRequirements progress.given spec.level.requirements
    pure progress.given

/-- What was given at the levels of a command line, from the outermost to the command. -/
structure Reading where
  path : List String
  levels : List Given
  deriving Repr, DecidableEq

/-- The command that an argument names, if it can name one here. -/
def commandNamed? (spec : CommandSpec) (progress : Progress) (argument : String) :
    Option CommandSpec :=
  if progress.operandsOnly || progress.accepting then none else spec.member? argument

/-- Whether an argument asks for the explanation of a group's commands. -/
def asksHelp (spec : CommandSpec) (progress : Progress) (argument : String) : Bool :=
  !progress.operandsOnly && !progress.accepting && spec.isGroup && argument == CommandSpec.helpName

/-- Reads arguments at the level of a command or group. -/
def readLevel : CommandSpec → Progress → List String → Except UsageError Reading
  | spec, progress, [] => (finish spec progress).map fun given => ⟨[], [given]⟩
  | spec, progress, argument :: rest =>
    if asksHelp spec progress argument then
      .error (if spec.explains rest then .helpAsked else .commandUnknown)
    else
      match commandNamed? spec progress argument with
      | some member => do
        let inner ← readLevel member (.start member.level) rest
        let progress ← progress.settle
        pure ⟨member.name :: inner.path, progress.given :: inner.levels⟩
      | none => do
        let progress ← progress.take spec argument
        readLevel spec progress rest

def read (spec : CommandSpec) (arguments : List String) : Except UsageError Reading :=
  readLevel spec (.start spec.level) arguments

namespace Reading

/-- The count of a counter at the deepest level that has one. -/
def count (reading : Reading) (name : String) : Nat :=
  ((reading.levels.reverse.find? fun given => given.has name).map (·.count name)).getD 0

/-- The values of a name at the deepest level that has some. -/
def valuesOf (reading : Reading) (name : String) : List Value :=
  ((reading.levels.reverse.find? fun given => given.has name).map (·.valuesOf name)).getD []

def text? (reading : Reading) (name : String) : Option String :=
  match reading.valuesOf name with
  | .text text :: _ => some text
  | _ => none

def number? (reading : Reading) (name : String) : Option Nat :=
  match reading.valuesOf name with
  | .number number :: _ => some number
  | _ => none

def texts (reading : Reading) (name : String) : List String :=
  (reading.valuesOf name).filterMap fun
    | .text text => some text
    | .number _ => none

def numbers (reading : Reading) (name : String) : List Nat :=
  (reading.valuesOf name).filterMap fun
    | .number number => some number
    | .text _ => none

def isOn (reading : Reading) (name : String) : Bool :=
  reading.levels.any fun given => given.has name

end Reading

end Pinwire.CommandLine

/-!
# Grammars of command lines

A command line names a command, through groups of commands, and gives it options and operands. A
grammar says which there are. Options may stand anywhere at the level they belong to; those of a
group stand before the name of the command.
-/

namespace Pinwire.CommandLine

/-- What a value on the command line has to be. -/
inductive ValueKind where
  /-- Any text. -/
  | text
  /-- A text that is not empty. -/
  | path
  /-- A number that a 32-bit word holds. -/
  | word
  /-- A number that a 64-bit word holds. -/
  | size
  deriving Repr, DecidableEq

/-- What an option does. -/
inductive OptionKind where
  /-- It counts how often it is given. -/
  | counter
  /-- It is given or not. -/
  | switch
  /-- It brings a value. -/
  | valued (kind : ValueKind)
  /-- It asks for help. -/
  | help
  /-- It asks for the version of the program. -/
  | version
  deriving Repr, DecidableEq

/-- An option, with the long and the short form of its name. -/
structure OptionSpec where
  long : String
  short : Option Char
  kind : OptionKind
  deriving Repr, DecidableEq

/-- An operand: a value without an option name. -/
structure OperandSpec where
  name : String
  kind : ValueKind
  /-- Whether it stands for any number of values. -/
  many : Bool
  deriving Repr, DecidableEq

/-- What has to be given with a command. -/
inductive Requirement where
  /-- The first name has to be given. -/
  | present (name : String)
  /-- The first name has to be given unless the second one is. -/
  | presentUnless (name other : String)
  /-- The two names must not both be given. -/
  | apart (name other : String)
  deriving Repr, DecidableEq

/-- What may stand at one level of a command line. -/
structure LevelSpec where
  options : List OptionSpec
  operands : List OperandSpec
  requirements : List Requirement
  deriving Repr, DecidableEq

/-- A command or a group of commands. -/
inductive CommandSpec where
  | command (name : String) (level : LevelSpec)
  | group (name : String) (level : LevelSpec) (members : List CommandSpec)

namespace CommandSpec

def name : CommandSpec → String
  | command name _ => name
  | group name _ _ => name

/-- What may stand at the level of a command or a group. -/
def level : CommandSpec → LevelSpec
  | command _ level => level
  | group _ level _ => level

def members : CommandSpec → List CommandSpec
  | command _ _ => []
  | group _ _ members => members

def member? (spec : CommandSpec) (name : String) : Option CommandSpec :=
  spec.members.find? fun member => member.name == name

/-- The name of the command that explains the members of a group. -/
def helpName : String := "help"

def isGroup (spec : CommandSpec) : Bool := !spec.members.isEmpty

/-- Whether the words after the help command lead to something that can be explained. -/
def explains : CommandSpec → List String → Bool
  | _, [] => true
  | spec, word :: words =>
    match spec.member? word with
    | some member => member.explains words
    | none => spec.isGroup && word == helpName && words.isEmpty

end CommandSpec

/-- Why a command line is not carried out. -/
inductive UsageError where
  | helpAsked
  | versionAsked
  /-- A group was named with nothing after it. -/
  | nothingGiven
  | commandMissing
  | commandUnknown
  | argumentUnknown
  /-- A value is not what it has to be. -/
  | valueRefused
  /-- A value is missing or empty. -/
  | valueMissing
  | argumentMissing
  /-- Two things were given that exclude each other. -/
  | conflict
  /-- A value was attached to an option that brings none. -/
  | valueUnexpected
  deriving Repr, DecidableEq

namespace UsageError

/-- What is said about a command line that is not carried out. -/
def message : UsageError → String
  | helpAsked => "usage: linbus [-v] [-c FILE] (gpio (get|set) | spi (read|write|xfer)) ..."
  | versionAsked => "linbus 0.1.0"
  | nothingGiven => "error: a command is missing after a group"
  | commandMissing => "error: a command is missing"
  | commandUnknown => "error: there is no such command"
  | argumentUnknown => "error: there is no such argument"
  | valueRefused => "error: a value is not what it has to be"
  | valueMissing => "error: a value is missing"
  | argumentMissing => "error: an argument is missing"
  | conflict => "error: two arguments exclude each other"
  | valueUnexpected => "error: an option that takes no value was given one"

/-- What goes to the standard output: only what was asked for. -/
def printed : UsageError → String
  | helpAsked => helpAsked.message ++ "\n"
  | versionAsked => versionAsked.message ++ "\n"
  | _ => ""

/-- The exit status: asking for help or for the version is no failure. -/
def exitStatus : UsageError → Nat
  | helpAsked | versionAsked => 0
  | _ => 2

end UsageError

end Pinwire.CommandLine

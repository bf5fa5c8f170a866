import Pinwire.SystemError
import Pinwire.Text.Split

/-!
# The directory of a run

A process runs in a directory with some files. Beside them it finds the directories that every
system has, and in the one for devices some that stand for no hardware. A path is followed part by
part from the working directory or, after a slash, from the root; an empty part and a dot stay where
they are.
-/

namespace Pinwire.Bench

/-- The files of a directory, with their bytes. -/
abbrev Directory := List (String × List UInt8)

namespace Directory

/-- Where a path leads. -/
inductive Place where
  /-- The working directory. -/
  | working
  /-- A directory of whose content nothing is known. -/
  | elsewhere
  | root
  /-- The directory of devices. -/
  | devices
  /-- Something to read from. -/
  | file (content : List UInt8)
  deriving Repr, DecidableEq

/-- The devices that every system has and that hold nothing. -/
def emptyDevices : List String := ["null", "zero", "full"]

/-- The directories that every system has, beside the one for devices. -/
def commonDirectories : List String :=
  ["bin", "etc", "home", "lib", "proc", "root", "run", "sbin", "sys", "tmp", "usr", "var"]

/-- The longest name that a part of a path can have, in bytes. -/
def longestName : Nat := 255

/-- The longest path, in bytes. -/
def longestPath : Nat := 4095

/-- What is said of a path with a null character, which no file can have in its name. -/
def unnameable : Fault := "file name contained an unexpected NUL byte"

def Place.parent : Place → Place
  | .working | .elsewhere => .elsewhere
  | .root | .devices => .root
  | .file content => .file content

def entry? (files : Directory) (name : String) : Place → Option Place
  | .working => (files.find? fun file => file.1 == name).map fun file => .file file.2
  | .root =>
    if name = "dev" then some .devices
    else if name ∈ commonDirectories then some .elsewhere
    else none
  | .devices => if name ∈ emptyDevices then some (.file []) else none
  | _ => none

/-- Follows one part of a path from a place. -/
def follow (files : Directory) (place : Place) (name : String) : Except Fault Place :=
  match place with
  | .file _ => .error (SystemError.fault 20)
  | _ =>
    if name = "" ∨ name = "." then .ok place
    else if name = ".." then .ok place.parent
    else if longestName < name.utf8ByteSize then .error (SystemError.fault 36)
    else match entry? files name place with
      | some next => .ok next
      | none => .error (SystemError.fault 2)

def find (files : Directory) (path : String) : Except Fault Place :=
  if path = "" then .error (SystemError.fault 2)
  else if longestPath < path.utf8ByteSize then .error (SystemError.fault 36)
  else
    let start := if path.startsWith "/" then Place.root else Place.working
    ((Text.splitAll '/' path.toList).map String.ofList).foldlM (follow files) start

/-- The bytes of the file at a path. A directory is no file. -/
def read (files : Directory) (path : String) : Except Fault (List UInt8) :=
  match find files path with
  | .error fault => .error fault
  | .ok (.file content) => .ok content
  | .ok _ => .error (SystemError.fault 21)

end Directory

end Pinwire.Bench

/-!
# Kinds of errors

The classes that errors of both buses fall into, so that a caller can react to a class of failure
without looking at the details.
-/

namespace Pinwire

/-- A class of failures. -/
inductive ErrorKind where
  | deviceOpen
  | configuration
  | argumentMismatch
  | io
  | outOfMemory
  deriving Repr, DecidableEq

namespace ErrorKind

def message : ErrorKind → String
  | deviceOpen => "device open error"
  | configuration => "configuration error"
  | argumentMismatch => "argument mismatch"
  | io => "I/O error"
  | outOfMemory => "out of memory"

end ErrorKind

/-- The text in which the surroundings report why a call failed. -/
abbrev Fault := String

end Pinwire

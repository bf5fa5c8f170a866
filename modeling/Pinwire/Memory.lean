import Pinwire.Bounds

/-!
# Lengths and memory

The two length rules that every call with caller-sized buffers obeys, and a memory that may refuse
to provide a buffer. A buffer larger than the address arithmetic can express is refused by every
memory.
-/

namespace Pinwire

/-- Two lengths that do not go together, and what they are lengths of. -/
structure LengthMismatch where
  what : String
  left : Nat
  right : Nat
  deriving Repr, DecidableEq

namespace LengthMismatch

def message (mismatch : LengthMismatch) : String :=
  s!"{mismatch.what}: {mismatch.left} and {mismatch.right}"

end LengthMismatch

def checkEqualLength (what : String) (left right : Nat) : Except LengthMismatch Unit :=
  if left = right then .ok () else .error ⟨what, left, right⟩

def checkWithin (what : String) (requested capacity : Nat) : Except LengthMismatch Unit :=
  if requested ≤ capacity then .ok () else .error ⟨what, requested, capacity⟩

/-- Why a buffer could not be provided. -/
inductive AllocationError where
  /-- Its size in bytes is beyond what address arithmetic can express. -/
  | capacityExceeded
  /-- The memory refused it. -/
  | refused
  deriving Repr, DecidableEq

namespace AllocationError

def message : AllocationError → String
  | capacityExceeded =>
    "memory allocation failed because the computed capacity exceeded the collection's maximum"
  | refused => "memory allocation failed because the memory allocator returned an error"

end AllocationError

/-- A memory, described by the byte sizes of the buffers it provides. -/
structure Memory where
  grants : Nat → Bool

namespace Memory

def largestBuffer : Nat := Bounds.signed64

/-- Asks for a buffer of `count` elements of `width` bytes each; an empty one needs no memory. -/
def reserve (memory : Memory) (count width : Nat) : Except AllocationError Unit :=
  if count * width = 0 then .ok ()
  else if largestBuffer < count * width then .error .capacityExceeded
  else if memory.grants (count * width) then .ok ()
  else .error .refused

/-- A buffer of `count` copies of `fill`, each `width` bytes wide. -/
def allocate (memory : Memory) (count width : Nat) (fill : α) : Except AllocationError (List α) :=
  (memory.reserve count width).map fun _ => List.replicate count fill

/-- A memory that provides whatever fits the usual 47 bits of user address space. -/
def addressSpace : Memory where
  grants size := size < 0x800000000000

end Memory

end Pinwire

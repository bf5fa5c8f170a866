/-!
# Sets of characters

A set of characters is a list of ranges of code points in ascending order, with at least one code
point between two ranges, so that equal sets have equal lists.
-/

namespace Pinwire

/-- A set of characters. -/
structure CharSet where
  /-- The first and the last code point of each range. -/
  ranges : List (Nat × Nat)
  deriving Repr, DecidableEq

namespace CharSet

def empty : CharSet := ⟨[]⟩

def range (first last : Char) : CharSet := ⟨[(first.toNat, last.toNat)]⟩

def single (character : Char) : CharSet := range character character

/-- Whether a code point lies in one of some ranges. -/
def covers (ranges : List (Nat × Nat)) (code : Nat) : Bool :=
  ranges.any fun (first, last) => first ≤ code && code ≤ last

def contains (set : CharSet) (character : Char) : Bool :=
  covers set.ranges character.toNat

def isEmpty (set : CharSet) : Bool := set.ranges.isEmpty

def isAscii (set : CharSet) : Bool :=
  set.ranges.all fun (_, last) => last < 0x80

/-- Adds a range to ranges and joins it with those that it meets. -/
def insert (first last : Nat) : List (Nat × Nat) → List (Nat × Nat)
  | [] => [(first, last)]
  | (low, high) :: rest =>
    if last + 1 < low then (first, last) :: (low, high) :: rest
    else if high + 1 < first then (low, high) :: insert first last rest
    else insert (min low first) (max high last) rest

def union (set other : CharSet) : CharSet :=
  ⟨other.ranges.foldl (fun ranges (first, last) => insert first last ranges) set.ranges⟩

def lastCode : Nat := 0x10FFFF

/-- The gaps between ranges, from a code point on. -/
def gapsFrom (start : Nat) : List (Nat × Nat) → List (Nat × Nat)
  | [] => if start ≤ lastCode then [(start, lastCode)] else []
  | (first, last) :: rest =>
    if start < first then (start, first - 1) :: gapsFrom (last + 1) rest
    else gapsFrom (last + 1) rest

def complement (set : CharSet) : CharSet := ⟨gapsFrom 0 set.ranges⟩

def intersection (set other : CharSet) : CharSet :=
  (set.complement.union other.complement).complement

def difference (set other : CharSet) : CharSet :=
  set.intersection other.complement

/-- The part of a range that lies within bounds. -/
def clipped (low high : Nat) (range : Nat × Nat) : Option (Nat × Nat) :=
  let first := max low range.1
  let last := min high range.2
  if first ≤ last then some (first, last) else none

/-- The set with the other case of its ASCII letters. -/
def withOtherCase (set : CharSet) : CharSet :=
  let lowered := (set.ranges.filterMap (clipped 0x41 0x5A)).map fun (first, last) =>
    (first + 0x20, last + 0x20)
  let raised := (set.ranges.filterMap (clipped 0x61 0x7A)).map fun (first, last) =>
    (first - 0x20, last - 0x20)
  (set.union ⟨lowered⟩).union ⟨raised⟩

/-- The set of some ranges in any order. -/
def ofRanges (ranges : List (Char × Char)) : CharSet :=
  ranges.foldl (fun set (first, last) => set.union (range first last)) empty

end CharSet

end Pinwire

/-!
# Named bits of a word

A table names the bits of a word that have a meaning. Bits outside every named mask are unknown:
they are refused by `ofBits?` and dropped by `truncate`.
-/

namespace Pinwire

/-- The named masks of a word, in the order they are listed. -/
structure FlagTable (width : Nat) where
  masks : List (String × BitVec width)

namespace FlagTable

variable {width : Nat} (table : FlagTable width)

def known : BitVec width :=
  table.masks.foldl (fun bits mask => bits ||| mask.2) 0

def truncate (bits : BitVec width) : BitVec width :=
  bits &&& table.known

/-- The word itself, if all its bits are known. -/
def ofBits? (bits : BitVec width) : Option (BitVec width) :=
  if table.truncate bits = bits then some bits else none

/-- The names of the masks that lie wholly within a word. -/
def namesIn (bits : BitVec width) : List String :=
  (table.masks.filter fun mask => mask.2 &&& bits = mask.2).map (·.1)

def complement (bits : BitVec width) : BitVec width :=
  table.known &&& ~~~bits

def hasAll (bits : BitVec width) : Bool :=
  bits &&& table.known = table.known

/-- The mask of a name, in the case it is listed. -/
def byName? (name : String) : Option (BitVec width) :=
  (table.masks.find? fun mask => mask.1 = name).map (·.2)

end FlagTable

end Pinwire

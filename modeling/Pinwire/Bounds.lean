/-!
# Bounds of machine words

The largest numbers that words of the usual widths hold.
-/

namespace Pinwire.Bounds

def unsigned32 : Nat := 4294967295

def unsigned64 : Nat := 18446744073709551615

def signed32 : Nat := 2147483647

def signed64 : Nat := 9223372036854775807

def smallest64 : Int := -9223372036854775808

end Pinwire.Bounds

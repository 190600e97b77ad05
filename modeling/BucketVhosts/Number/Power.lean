/-!
# Powers

The powers that numbers are scaled by, and the range of machine integers.
-/
namespace BucketVhosts

/-- A power of two. -/
def twoTo (n : Nat) : Nat := Nat.pow 2 n

/-- A power of ten. -/
def tenTo (n : Nat) : Nat := Nat.pow 10 n

/-- The least signed integer of 64 bits. -/
def leastWord : Int := -9223372036854775808

/-- Whether an integer is a signed integer of 64 bits. -/
def isWord (n : Int) : Bool :=
  leastWord ≤ n && n < 9223372036854775808

end BucketVhosts

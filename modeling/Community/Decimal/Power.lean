/-!
# Powers of the two bases

Binary numbers are scaled with powers of two, decimals with powers of ten.
-/

namespace Community.Decimal

/-- Two to the power of `n`. -/
def twoTo (n : Nat) : Nat :=
  Nat.pow 2 n

/-- Ten to the power of `n`. -/
def tenTo (n : Nat) : Nat :=
  Nat.pow 10 n

end Community.Decimal

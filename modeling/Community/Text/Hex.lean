/-!
# Numbers in base sixteen

The digits of base sixteen, written in lower case and read in either.
-/

namespace Community.Text

/-- The digits of `n` in base sixteen, lower case. -/
def hex (n : Nat) : List Char :=
  Nat.toDigits 16 n

/-- The value of a digit in base sixteen. -/
def hexValue? (c : Char) : Option Nat :=
  if c.isDigit then some (c.toNat - '0'.toNat)
  else if 'a' ≤ c ∧ c ≤ 'f' then some (c.toNat - 'a'.toNat + 10)
  else if 'A' ≤ c ∧ c ≤ 'F' then some (c.toNat - 'A'.toNat + 10)
  else none

end Community.Text

import Community.Decimal.Shortest
import Community.Text.Integer

/-!
# The binary number nearest to a decimal

A decimal read with full precision stands for the 64-bit float nearest to it; of two that are
equally near, the one with the even significand. The quotient is taken in exact arithmetic,
on the grid of the binade that the decimal lies in, and rounded once.
-/

namespace Community.Decimal

open Community.Text

/-- The quotient `num / den` rounded to the nearest integer; a half goes to
the even neighbour. -/
def roundQuotient (num den : Nat) : Nat :=
  let q := num / den
  let r := num % den
  if den < 2 * r ∨ (2 * r = den ∧ q % 2 = 1) then q + 1 else q

/-- The fraction `num / den` divided by `2 ^ e`. -/
def overTwo (num den : Nat) (e : Int) : Nat × Nat :=
  if 0 ≤ e then (num, den * twoTo e.toNat) else (num * twoTo (-e).toNat, den)

/-- The exponent of the grid on which a positive fraction has 53 binary digits, but not below
the finest grid of all. -/
def gridExponent (num den : Nat) : Int :=
  let e := Int.ofNat num.log2 - Int.ofNat den.log2 - 53
  let (n, d) := overTwo num den e
  max (-1074) (if n < twoTo 53 * d then e else e + 1)

/-- The bits of infinity. -/
def infinityBits : Nat :=
  2047 * twoTo 52

/-- The bits of the float nearest to a positive fraction. The sum carries into the exponent
where rounding up leaves the binade. -/
def nearestBits (num den : Nat) : Nat :=
  let e := gridExponent num den
  let (n, d) := overTwo num den e
  min infinityBits (Int.toNat (e + 1074) * twoTo 52 + roundQuotient n d)

/-- The float that bits stand for. -/
def ofBits (bits : Nat) : Float :=
  Float.ofBits bits.toUInt64

/-- The float nearest to `digits · 10 ^ exponent`; it is infinite if the decimal is too
large. Outside of the range of floats no power is computed. -/
def nearest (digits : List Char) (exponent : Int) : Float :=
  let ds := digits.dropWhile (· == '0')
  let point := exponent + ds.length
  if ds.isEmpty ∨ point < -330 then ofBits 0
  else if 310 < point then ofBits infinityBits
  else
    let (num, den) := overTen (ofDigits ds) 1 (-exponent)
    ofBits (nearestBits num den)

/-- The float nearest to a positional decimal with a power of ten. -/
def nearestScaled (negative : Bool) (whole fraction : List Char) (power : Int) : Float :=
  let x := nearest (whole ++ fraction) (power - fraction.length)
  if negative then -x else x

end Community.Decimal

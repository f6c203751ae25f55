import Community.Decimal.Power
import Community.Text.Integer

/-!
# Decimal numerals and the numbers they stand for

A numeral is a sign, a whole part, a fraction and an exponent, as written. Without fraction
and exponent it is an integer as long as it fits in 64 bits; otherwise it is a float, found
from the leading digits that fit in 64 bits by one multiplication or division with a power
of ten. That is the value within one unit in the last place, and exact for the short
numerals of ordinary data.
-/

namespace Community.Decimal

open Community.Text

/-- A numeral as written: the digits of its whole part and fraction, and its exponent. -/
structure Numeral where
  negative : Bool
  whole : List Char
  fraction : Option (List Char)
  /-- Whether the exponent is negative, and its digits. -/
  exponent : Option (Bool × List Char)
  deriving DecidableEq, Repr

/-- What a numeral stands for. -/
inductive Number
  | int (n : Int)
  | float (x : Float)

/-- A significand of 64 bits and a decimal exponent. -/
structure Scaled where
  significand : Nat
  exponent : Int

/-- The next digit of the whole part: it is kept while the significand fits,
afterwards only counted. -/
def Scaled.pushWhole (s : Scaled) (c : Char) : Scaled :=
  let next := 10 * s.significand + digitValue c
  if s.exponent = 0 ∧ next ≤ word64Max then ⟨next, 0⟩ else ⟨s.significand, s.exponent + 1⟩

/-- The digits of the fraction, up to the first one that does not fit. -/
def Scaled.pushFraction (s : Scaled) : List Char → Scaled
  | [] => s
  | c :: cs =>
    let next := 10 * s.significand + digitValue c
    if next ≤ word64Max then Scaled.pushFraction ⟨next, s.exponent - 1⟩ cs else s

/-- The significand times a power of ten, with one rounding for each step of `10 ^ 308`.
Nothing if the result is too large. -/
def Scaled.toFloat? (s : Scaled) : Option Float :=
  go (s.exponent.natAbs / 308 + 2) s.significand.toUInt64.toFloat s.exponent
where
  /-- Divides by `10 ^ 308` until one power of ten is left. -/
  go : Nat → Float → Int → Option Float
    | 0, f, _ => some f
    | fuel + 1, f, e =>
      if e.natAbs ≤ 308 then
        let power := Float.ofScientific 1 false e.natAbs
        if 0 ≤ e then
          let product := f * power
          if product.isInf then none else some product
        else some (f / power)
      else if f == 0.0 then some f
      else if 0 ≤ e then none
      else go fuel (f / Float.ofScientific 1 false 308) (e + 308)

/-- A float with the sign of its numeral. -/
def signed (negative : Bool) (x : Float) : Float :=
  if negative then -x else x

/-- An integer of 64 bits; a negative zero, or a number that is too small, is a float. -/
def integer (negative : Bool) (n : Nat) : Number :=
  if negative then
    if n = 0 ∨ twoTo 63 < n then .float (-(n.toUInt64.toFloat)) else .int (-n)
  else .int n

/-- The number that a numeral stands for, unless it is too large for a float. -/
def Numeral.value? (t : Numeral) : Option Number :=
  let whole := t.whole.foldl Scaled.pushWhole ⟨0, 0⟩
  let all := match t.fraction with
    | none => whole
    | some ds => whole.pushFraction ds
  match t.fraction, t.exponent with
  | none, none =>
    if whole.exponent = 0 then some (integer t.negative whole.significand)
    else whole.toFloat?.map fun x => .float (signed t.negative x)
  | _, none => all.toFloat?.map fun x => .float (signed t.negative x)
  | _, some (small, ds) =>
    let e := ofDigits ds
    if int32Max < (e : Int) then
      if all.significand ≠ 0 ∧ !small then none else some (.float (signed t.negative 0.0))
    else
      let total : Int := if small then all.exponent - (e : Int) else all.exponent + (e : Int)
      (Scaled.toFloat? ⟨all.significand, total⟩).map fun x => .float (signed t.negative x)

end Community.Decimal

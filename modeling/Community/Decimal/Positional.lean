import Community.Decimal.Nearest

/-!
# Floats in positional notation

A float as a plain decimal: the shortest digits that read back, without an exponent, and
without a fraction where it is whole. In text, a float is a decimal with an optional
exponent, or one of the names of infinity and of the value that is no number.
-/

namespace Community.Decimal

open Community.Text

/-- The digits of a decimal with the point in its place. -/
def plainDigits (d : Form) : List Char :=
  let ds := digitsOf d.digits
  let point := pointOf ds d.exponent
  if 0 ≤ d.exponent then ds ++ List.replicate d.exponent.toNat '0'
  else if 0 < point then ds.take point.toNat ++ '.' :: ds.drop point.toNat
  else ['0', '.'] ++ List.replicate (-point).toNat '0' ++ ds

/-- A minus sign in front of what is negative. -/
def withSign (negative : Bool) (cs : List Char) : String :=
  String.ofList (if negative then '-' :: cs else cs)

/-- The text of a float. -/
def plainText (x : Float) : String :=
  match parts x with
  | .notANumber => "NaN"
  | .infinite negative => withSign negative ['i', 'n', 'f']
  | .finite negative 0 _ _ => withSign negative ['0']
  | .finite negative m q bottom => withSign negative (plainDigits (shortest m q bottom))

/-- The natural number of at most 64 bits that is nearest to a float, a half going up.
Negative numbers count as zero, as does what is no number. -/
def nearestWord (x : Float) : Nat :=
  match parts x with
  | .notANumber => 0
  | .infinite negative => if negative then 0 else word64Max
  | .finite negative m q _ =>
    if negative then 0
    else if 0 ≤ q then saturate (m * twoTo q.toNat)
    else (m + twoTo ((-q).toNat - 1)) / twoTo (-q).toNat

/-! ## Reading -/

/-- Splits off the decimal digits at the start of a text. -/
def takeDigits (cs : List Char) : List Char × List Char :=
  (cs.takeWhile Char.isDigit, cs.dropWhile Char.isDigit)

/-- A number of any size in decimal digits after an optional sign, with
at least one digit. -/
def power? : List Char → Option Int
  | '+' :: ds => digits ds
  | '-' :: ds => (digits ds).map (- ·)
  | ds => digits ds
where
  digits (ds : List Char) : Option Int :=
    if ds.isEmpty ∨ !ds.all Char.isDigit then none else some (ofDigits ds)

/-- Reads a decimal without its sign: digits with an optional point somewhere among them, and
an optional exponent. -/
def unsigned? (negative : Bool) (cs : List Char) : Option Float :=
  let (whole, rest) := takeDigits cs
  let (fraction, rest) := match rest with
    | '.' :: rest => takeDigits rest
    | rest => ([], rest)
  if whole.isEmpty ∧ fraction.isEmpty then none
  else match rest with
    | [] => some (nearestScaled negative whole fraction 0)
    | mark :: power =>
      if mark = 'e' ∨ mark = 'E' then
        (power? power).map (nearestScaled negative whole fraction)
      else none

/-- The float that a name stands for. -/
def named? (negative : Bool) (cs : List Char) : Option Float :=
  let sign (x : Float) := if negative then -x else x
  match String.ofList (cs.map Char.toLower) with
  | "inf" | "infinity" => some (sign (ofBits infinityBits))
  | "nan" => some (sign (ofBits (infinityBits + twoTo 51)))
  | _ => none

/-- Reads a float: an optional sign, then a decimal or a name. -/
def readFloat? (s : String) : Option Float :=
  match s.toList with
  | '+' :: cs => body false cs
  | '-' :: cs => body true cs
  | cs => body false cs
where
  body (negative : Bool) (cs : List Char) : Option Float :=
    (named? negative cs).or (unsigned? negative cs)

end Community.Decimal

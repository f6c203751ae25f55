import Community.Decimal.Power

/-!
# The shortest decimal of a binary number

A finite 64-bit float stands for `m · 2 ^ q`, and every real number nearer to it than to its
neighbours reads back as the same float. `shortest` picks, among the decimals in that
interval, one with the fewest digits, and of two such the nearer one. The search looks at one
digit, then two, up to seventeen: on each decimal grid only the two points next to the value
can be in the interval first.
-/

namespace Community.Decimal

/-- The decimal `digits · 10 ^ exponent`. -/
structure Form where
  digits : Nat
  exponent : Int
  deriving DecidableEq, Repr

/-- A positive binary number as the fraction `num / den`, with the distances to the ends of
the interval that rounds to it, over the same denominator. -/
structure Binary where
  num : Nat
  den : Nat
  below : Nat
  above : Nat
  /-- The ends belong to the interval: ties go to an even significand. -/
  closed : Bool

/-- The number with significand `m` and exponent `q`. At the bottom of a binade the lower
neighbour is half as far away. -/
def Binary.of (m : Nat) (q : Int) (bottom : Bool) : Binary :=
  let unit := if 0 ≤ q then twoTo q.toNat else 1
  { num := 4 * m * unit
    den := if 0 ≤ q then 4 else 4 * twoTo (-q).toNat
    below := if bottom then unit else 2 * unit
    above := 2 * unit
    closed := m % 2 == 0 }

/-- The fraction `num / den` divided by `10 ^ s`. -/
def overTen (num den : Nat) (s : Int) : Nat × Nat :=
  if 0 ≤ s then (num, den * tenTo s.toNat) else (num * tenTo (-s).toNat, den)

/-- The exponent `e` with `10 ^ e ≤ num / den < 10 ^ (e + 1)`, searched
downwards from `e`. -/
def leadingExponent (num den : Nat) : Nat → Int → Int
  | 0, e => e
  | fuel + 1, e =>
    let (n, d) := overTen num den e
    if d ≤ n then e else leadingExponent num den fuel (e - 1)

/-- Whether `digits · 10 ^ s` rounds to `b`. -/
def Binary.holds (b : Binary) (digits : Nat) (s : Int) : Bool :=
  let p := if 0 ≤ s then digits * tenTo s.toNat else digits
  let scale := if 0 ≤ s then 1 else tenTo (-s).toNat
  let x := p * b.den
  let lo := (b.num - b.below) * scale
  let hi := (b.num + b.above) * scale
  if b.closed then lo ≤ x && x ≤ hi else lo < x && x < hi

/-- The point of the grid with step `10 ^ s` that rounds to `b`, if one of the two
next to `b` does. -/
def Binary.onGrid (b : Binary) (s : Int) : Option Nat :=
  let (n, d) := overTen b.num b.den s
  let lower := n / d
  let nearUpper := d < 2 * (n % d) || (2 * (n % d) == d && lower % 2 == 1)
  let first := if nearUpper then lower + 1 else lower
  let second := if nearUpper then lower else lower + 1
  if b.holds first s then some first
  else if b.holds second s then some second
  else none

/-- The first grid with a hit, from the coarsest on. -/
def Binary.search (b : Binary) (top : Int) : Nat → Nat → Form
  | 0, n => ⟨(b.onGrid (top - n)).getD 0, top - n⟩
  | fuel + 1, n =>
    match b.onGrid (top - n) with
    | some digits => ⟨digits, top - n⟩
    | none => b.search top fuel (n + 1)

/-- Trailing zeros moved from the digits to the exponent. -/
def Form.reduced (d : Form) : Nat → Form
  | 0 => d
  | fuel + 1 =>
    if d.digits ≠ 0 ∧ d.digits % 10 = 0 then
      Form.reduced ⟨d.digits / 10, d.exponent + 1⟩ fuel
    else d

/-- The shortest decimal that reads back as `m · 2 ^ q`. -/
def shortest (m : Nat) (q : Int) (bottom : Bool) : Form :=
  let b := Binary.of m q bottom
  (b.search (leadingExponent b.num b.den 650 309) 17 0).reduced 20

/-- What a float stands for. -/
inductive Parts
  | notANumber
  | infinite (negative : Bool)
  | finite (negative : Bool) (m : Nat) (q : Int) (bottom : Bool)

/-- The sign, significand and exponent that the 64 bits of a float hold. -/
def parts (x : Float) : Parts :=
  let bits := x.toBits.toNat
  let negative := bits / twoTo 63 == 1
  let exponent := bits / twoTo 52 % 2048
  let fraction := bits % twoTo 52
  if exponent = 2047 then (if fraction = 0 then .infinite negative else .notANumber)
  else if exponent = 0 then .finite negative fraction (-1074) false
  else .finite negative (twoTo 52 + fraction) (Int.ofNat exponent - 1075)
    (fraction == 0 && exponent != 1)

/-- The decimal digits of a natural number. -/
def digitsOf (n : Nat) : List Char :=
  Nat.toDigits 10 n

/-- Where the point stands when `digits` are read as `0.digits · 10 ^ point`. -/
def pointOf (digits : List Char) (exponent : Int) : Int :=
  exponent + digits.length

/-- A decimal is written positionally from `0.00001` up to below `10 ^ 16`, always with a
fraction; outside that range with one digit before the point and a signed exponent. -/
def layout (d : Form) : List Char :=
  let ds := digitsOf d.digits
  let point := pointOf ds d.exponent
  if 0 ≤ d.exponent ∧ point ≤ 16 then
    ds ++ List.replicate d.exponent.toNat '0' ++ ['.', '0']
  else if 0 < point ∧ point ≤ 16 then
    ds.take point.toNat ++ '.' :: ds.drop point.toNat
  else if -5 < point ∧ point ≤ 0 then
    ['0', '.'] ++ List.replicate (-point).toNat '0' ++ ds
  else
    let e := point - 1
    ds.take 1 ++ (if ds.length = 1 then [] else '.' :: ds.drop 1)
      ++ ['e', if e < 0 then '-' else '+'] ++ digitsOf e.natAbs

/-- The text of a finite float; `none` for the values that have no decimal. -/
def text? (x : Float) : Option (List Char) :=
  match parts x with
  | .notANumber => none
  | .infinite _ => none
  | .finite negative 0 _ _ => some ((if negative then ['-'] else []) ++ ['0', '.', '0'])
  | .finite negative m q bottom =>
    some ((if negative then ['-'] else []) ++ layout (shortest m q bottom))

end Community.Decimal

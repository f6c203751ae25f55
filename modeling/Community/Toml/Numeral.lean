import Community.Decimal.Positional
import Community.Text.Hex
import Community.Toml.Basic

/-!
# Unquoted values

Numbers, truth values and moments stand without quotes: a run of letters, digits, signs,
underscores, points and colons that is read as a whole. Integers have 64 bits and may be
written in base two, eight, ten or sixteen; a float has a fraction or an exponent. Between
two digits one underscore may stand.
-/

namespace Community.Toml

open Text Decimal

/-- Whether `c` may belong to an unquoted value. -/
def isBare (c : Char) : Bool :=
  c.isAlphanum || c == '+' || c == '-' || c == '_' || c == '.' || c == ':'

/-! ## Integers -/

/-- The digits of a run in which single underscores may stand between neighbours. There is
at least one digit. -/
def digits? (isDigit : Char → Bool) : List Char → Option (List Char)
  | [] => none
  | [c] => if isDigit c then some [c] else none
  | c :: '_' :: cs => if isDigit c then (digits? isDigit cs).map (c :: ·) else none
  | c :: cs => if isDigit c then (digits? isDigit cs).map (c :: ·) else none

/-- The digits of a whole number in base ten: no zero leads unless it stands alone. -/
def whole? (cs : List Char) : Option (List Char) :=
  (digits? Char.isDigit cs).bind fun ds =>
    if ds.head? = some '0' ∧ 1 < ds.length then none else some ds

/-- An integer, unless 64 bits cannot hold it. -/
def int64? (n : Int) : Option Toml :=
  if int64Min ≤ n ∧ n ≤ int64Max then some (.int n) else none

/-- An integer in a base other than ten; it has no sign. -/
def based? (base : Nat) (cs : List Char) : Option Toml :=
  let value? (c : Char) := (hexValue? c).filter (· < base)
  (digits? (fun c => (value? c).isSome) cs).bind fun ds =>
    int64? (ds.foldl (fun n c => base * n + (value? c).getD 0) 0 : Nat)

/-! ## Floats -/

/-- The power of ten after the mark of an exponent. -/
def exponent? : List Char → Option Int
  | '+' :: ds => (digits? Char.isDigit ds).map fun ds => (ofDigits ds : Int)
  | '-' :: ds => (digits? Char.isDigit ds).map fun ds => -(ofDigits ds : Int)
  | ds => (digits? Char.isDigit ds).map fun ds => (ofDigits ds : Int)

/-- Whether `c` marks an exponent. -/
def isMark (c : Char) : Bool :=
  c == 'e' || c == 'E'

/-- A float, unless it is too large. -/
def float? (negative : Bool) (whole fraction : List Char) (power : Int) : Option Toml :=
  let x := nearestScaled negative whole fraction power
  if x.isInf ∧ !negative then none else some (.float x)

/-- A number in base ten without its sign. -/
def number? (negative : Bool) (cs : List Char) : Option Toml := do
  let whole ← whole? (cs.takeWhile fun c => c.isDigit || c == '_')
  match cs.dropWhile fun c => c.isDigit || c == '_' with
  | [] => int64? (if negative then -(ofDigits whole : Int) else ofDigits whole)
  | '.' :: rest =>
    let fraction ← digits? Char.isDigit (rest.takeWhile (!isMark ·))
    match rest.dropWhile (!isMark ·) with
    | [] => float? negative whole fraction 0
    | _ :: power => float? negative whole fraction (← exponent? power)
  | mark :: power =>
    if isMark mark then float? negative whole [] (← exponent? power) else none

/-- A number with its sign, or the name of a float that has no digits. -/
def signed? (negative : Bool) (cs : List Char) : Option Toml :=
  if cs = ['i', 'n', 'f'] ∨ cs = ['n', 'a', 'n'] then (named? negative cs).map .float
  else number? negative cs

/-! ## Moments -/

/-- The number that exactly two digits write, if it lies between `least` and `most`. -/
def pair? (least most : Nat) (a b : Char) : Option Nat :=
  if a.isDigit ∧ b.isDigit ∧ least ≤ ofDigits [a, b] ∧ ofDigits [a, b] ≤ most then
    some (ofDigits [a, b])
  else none

/-- The days of a month. -/
def monthLength (year month : Nat) : Nat :=
  if month = 2 then
    if year % 4 = 0 ∧ (year % 100 ≠ 0 ∨ year % 400 = 0) then 29 else 28
  else if month = 4 ∨ month = 6 ∨ month = 9 ∨ month = 11 then 30
  else 31

/-- The day at the start of a text. -/
def date? : List Char → Option (Date × List Char)
  | a :: b :: c :: d :: '-' :: e :: f :: '-' :: g :: h :: rest => do
    let century ← pair? 0 99 a b
    let year := 100 * century + (← pair? 0 99 c d)
    let month ← pair? 1 12 e f
    let day ← pair? 1 (monthLength year month) g h
    return (⟨year, month, day⟩, rest)
  | _ => none

/-- The nanoseconds that the digits of a fraction write; digits after the
ninth do not count. -/
def nanoseconds (ds : List Char) : Nat :=
  ofDigits ((ds ++ List.replicate 9 '0').take 9)

/-- The time of day at the start of a text. -/
def clock? : List Char → Option (Clock × List Char)
  | a :: b :: ':' :: c :: d :: ':' :: e :: f :: rest => do
    let hour ← pair? 0 23 a b
    let minute ← pair? 0 59 c d
    let second ← pair? 0 60 e f
    match rest with
    | '.' :: cs =>
      let (ds, rest) := takeDigits cs
      if ds.isEmpty then none else return (⟨hour, minute, second, nanoseconds ds⟩, rest)
    | rest => return (⟨hour, minute, second, 0⟩, rest)
  | _ => none

/-- The offset that a text writes; nothing is no offset. -/
def offset? : List Char → Option (Option Offset)
  | [] => some none
  | ['Z'] | ['z'] => some (some .universal)
  | [sign, a, b, ':', c, d] => do
    let n := 60 * (← pair? 0 23 a b) + (← pair? 0 59 c d)
    if sign = '+' then return some (.minutes n)
    else if sign = '-' then return some (.minutes (-n))
    else none
  | _ => none

/-- A moment: a day, a time of day, or a day and a time of day with an optional offset. -/
def moment? (cs : List Char) : Option Moment :=
  match date? cs with
  | some (date, []) => some ⟨some date, none, none⟩
  | some (date, mark :: rest) =>
    if mark = 'T' ∨ mark = 't' ∨ mark = ' ' then do
      let (clock, rest) ← clock? rest
      return ⟨some date, some clock, ← offset? rest⟩
    else none
  | none =>
    match clock? cs with
    | some (clock, []) => some ⟨none, some clock, none⟩
    | _ => none

/-! ## Runs -/

/-- Splits off the unquoted value at the start of a text. A blank belongs to it between a day
and a time of day. -/
def takeBare (cs : List Char) : List Char × List Char :=
  let run := cs.takeWhile isBare
  match cs.dropWhile isBare with
  | ' ' :: rest =>
    if (date? run).any (·.2.isEmpty) ∧ rest.head?.any Char.isDigit then
      (run ++ ' ' :: rest.takeWhile isBare, rest.dropWhile isBare)
    else (run, ' ' :: rest)
  | rest => (run, rest)

/-- The value of an unquoted run. -/
def bare? (cs : List Char) : Option Toml :=
  match cs with
  | ['t', 'r', 'u', 'e'] => some (.bool true)
  | ['f', 'a', 'l', 's', 'e'] => some (.bool false)
  | '0' :: 'x' :: ds => based? 16 ds
  | '0' :: 'o' :: ds => based? 8 ds
  | '0' :: 'b' :: ds => based? 2 ds
  | '+' :: cs => signed? false cs
  | '-' :: cs => signed? true cs
  | cs => ((moment? cs).map .moment).or (signed? false cs)

end Community.Toml

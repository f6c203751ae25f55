import Community.Text.Blank

/-!
# Labels in ASCII

A label with characters beyond ASCII is written in ASCII as its ASCII characters, a hyphen,
and digits that say which other characters are to be inserted and where. The inserted
characters come in ascending order; each is told by one number, the steps from the insertion
before it. A number is written with digits of base thirty-six of which the last is below a
threshold, and the thresholds follow a bias that adapts to the numbers written so far.
-/

namespace Community.Domain.Punycode

open Text

/-! ## Digits -/

/-- The digit with a value below thirty-six: the letters come first. -/
def digitChar (d : Nat) : Char :=
  if d < 26 then Char.ofNat ('a'.toNat + d) else Char.ofNat ('0'.toNat + (d - 26))

/-- The value of a digit. -/
def digitValue? (c : Char) : Option Nat :=
  if 'a' ≤ c ∧ c ≤ 'z' then some (c.toNat - 'a'.toNat)
  else if c.isDigit then some (c.toNat - '0'.toNat + 26)
  else none

/-- The threshold of the digit at the place `k`, which is a multiple of thirty-six. -/
def threshold (bias k : Nat) : Nat :=
  if k ≤ bias then 1 else if bias + 26 ≤ k then 26 else k - bias

/-- A threshold is positive; so every digit of a number takes it nearer to its end. -/
theorem threshold_pos (bias k : Nat) : 1 ≤ threshold bias k := by
  unfold threshold
  split
  · omega
  · split <;> omega

/-! ## The bias -/

/-- The bias for a difference, as `k` plus what is left when the difference
has been made small. -/
def biasOf (delta k : Nat) : Nat :=
  if 455 < delta then biasOf (delta / 35) (k + 36) else k + 36 * delta / (delta + 38)
termination_by delta

/-- The bias after an insertion: how many steps it took, how many characters there are now,
and whether it was the first. -/
def adapt (steps count : Nat) (first : Bool) : Nat :=
  let delta := if first then steps / 700 else steps / 2
  biasOf (delta + delta / count) 0

/-! ## Writing -/

/-- The digits of a number, from the place `k` on. -/
def digits (bias k n : Nat) : List Char :=
  let t := threshold bias k
  if n < t then [digitChar n]
  else digitChar (t + (n - t) % (36 - t)) :: digits bias (k + 36) ((n - t) / (36 - t))
termination_by n
decreasing_by
  have := threshold_pos bias k
  exact Nat.lt_of_le_of_lt (Nat.div_le_self _ _) (by omega)

/-- A label being written: the digits so far, the steps since the last insertion, the bias,
and how many characters are inserted or ASCII. -/
structure Writing where
  out : List Char
  steps : Nat
  bias : Nat
  count : Nat

/-- Passes one character of the label while the characters with the number `m` are inserted.
`basic` is the number of ASCII characters. -/
def Writing.pass (basic m : Nat) (w : Writing) (c : Char) : Writing :=
  if c.toNat < m then { w with steps := w.steps + 1 }
  else if c.toNat = m then
    ⟨w.out ++ digits w.bias 36 w.steps, 0,
      adapt w.steps (w.count + 1) (w.count == basic), w.count + 1⟩
  else w

/-- Inserts characters in ascending order. `next` is the least number that may come. -/
def Writing.insertAll (label : List Char) (basic : Nat) : List Nat → Nat → Writing → Writing
  | [], _, w => w
  | m :: rest, next, w =>
    let w := label.foldl (pass basic m)
      { w with steps := w.steps + (m - next) * (w.count + 1) }
    insertAll label basic rest (m + 1) { w with steps := w.steps + 1 }

/-- A sorted list without repetitions. -/
def distinct : List Nat → List Nat
  | a :: b :: rest => if a = b then distinct (b :: rest) else a :: distinct (b :: rest)
  | short => short

/-- The ASCII form of a label, without the mark that says it is one. -/
def encode (label : List Char) : List Char :=
  let ascii := label.filter fun c => c.toNat < 0x80
  let others := (label.filter fun c => 0x80 ≤ c.toNat).map Char.toNat
  let points := distinct (others.mergeSort fun a b => a ≤ b)
  ascii ++ (if ascii.isEmpty then [] else ['-'])
    ++ (Writing.insertAll label ascii.length points 0x80 ⟨[], 0, 72, ascii.length⟩).out

/-! ## Reading -/

/-- Reads a number from the place `k` on and adds it, with the given weight, to `sum`. -/
def number? (bias k weight sum : Nat) : List Char → Option (Nat × List Char)
  | [] => none
  | c :: rest =>
    match digitValue? c with
    | none => none
    | some d =>
      let t := threshold bias k
      if d < t then some (sum + d * weight, rest)
      else number? bias (k + 36) (weight * (36 - t)) (sum + d * weight) rest

/-- A number takes at least one digit. -/
theorem length_lt_of_number? {bias k weight sum n : Nat} {cs rest : List Char}
    (h : number? bias k weight sum cs = some (n, rest)) : rest.length < cs.length := by
  induction cs generalizing k weight sum with
  | nil => simp [number?] at h
  | cons c cs ih =>
    simp only [number?] at h
    split at h
    · simp at h
    · split at h
      · simp only [Option.some.injEq, Prod.mk.injEq] at h
        simp [← h.2]
      · have := ih h
        simp only [List.length_cons]
        omega

/-- Inserts the characters that the digits tell into those read so far. `next` is the least
number that may come, and `place` where it would be inserted: after an insertion that is
not at the start. -/
def insertions? (bias next place : Nat) (read : List Char) (cs : List Char) :
    Option (List Char) :=
  match hn : number? bias 36 1 0 cs with
  | none => if cs.isEmpty then some read else none
  | some (steps, rest) =>
    have : rest.length < cs.length := length_lt_of_number? hn
    let count := read.length + 1
    let n := next + (place + steps) / count
    let i := (place + steps) % count
    if n.isValidChar then
      insertions? (adapt steps count (place == 0)) n (i + 1)
        (read.take i ++ Char.ofNat n :: read.drop i) rest
    else none
termination_by cs.length

/-- The parts before and after the last hyphen; without a hyphen, or with one only at the
start, there is nothing before it. -/
def cutAtHyphen (cs : List Char) : List Char × List Char :=
  let back := cs.reverse
  let front := ((back.dropWhile (· != '-')).drop 1).reverse
  if front.isEmpty then ([], cs) else (front, (back.takeWhile (· != '-')).reverse)

/-- The label that an ASCII form stands for. -/
def decode? (cs : List Char) : Option (List Char) :=
  let (ascii, rest) := cutAtHyphen cs
  insertions? 72 0x80 0 ascii rest

end Community.Domain.Punycode

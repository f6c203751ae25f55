import Community.Text.Hex

/-!
# Tables of characters

A large table is written as text: rows of numbers in base sixteen, with blanks between the
numbers of a row and commas between rows. Two kinds of table are common. The rows of a
character set hold one character, or the first and the last of a range. The rows of a list of
shifts say how evenly spaced characters move together.
-/

namespace Community.Text

/-! ## Rows -/

/-- A table as far as it was read, the latest first: the finished rows, the finished numbers
of the open row, and the number whose digits are being read. -/
structure TableReading where
  rows : List (List Nat)
  row : List Nat
  number : Option Nat

namespace TableReading

/-- The open number is finished. -/
def endNumber (r : TableReading) : TableReading :=
  ⟨r.rows, r.number.toList ++ r.row, none⟩

/-- The open row is finished. -/
def endRow (r : TableReading) : TableReading :=
  ⟨r.endNumber.row.reverse :: r.rows, [], none⟩

/-- Reads one more character. -/
def next (r : TableReading) (c : Char) : TableReading :=
  match hexValue? c with
  | some d => { r with number := some (16 * r.number.getD 0 + d) }
  | none => if c = ',' then r.endRow else r.endNumber

end TableReading

/-- The rows of a table. -/
def tableRows (s : String) : List (List Nat) :=
  (s.toList.foldl TableReading.next ⟨[], [], none⟩).endRow.rows.reverse

/-! ## Sets -/

/-- A set of characters, as ranges of their numbers. -/
structure CharSet where
  ranges : Array (Nat × Nat)

namespace CharSet

/-- The range that a row stands for. -/
def range? : List Nat → Option (Nat × Nat)
  | [n] => some (n, n)
  | [first, last] => some (first, last)
  | _ => none

/-- The set that a table lists. -/
def ofText (s : String) : CharSet :=
  ⟨((tableRows s).filterMap range?).toArray⟩

/-- Whether a character is in the set. -/
def contains (set : CharSet) (c : Char) : Bool :=
  set.ranges.any fun r => r.1 ≤ c.toNat && c.toNat ≤ r.2

end CharSet

/-! ## Shifts -/

/-- A map on the characters `first`, `first + step` and so on up to `last`. It sends `first`
to `image` and keeps distances. -/
structure Shift where
  first : Nat
  last : Nat
  step : Nat
  image : Nat

namespace Shift

/-- The shift that a row stands for; two numbers are a character and its image. -/
def ofRow? : List Nat → Option Shift
  | [first, image] => some ⟨first, first, 1, image⟩
  | [first, last, step, image] => some ⟨first, last, step, image⟩
  | _ => none

/-- The shifts that a table lists. -/
def ofText (s : String) : Array Shift :=
  ((tableRows s).filterMap ofRow?).toArray

/-- The image of the character with the number `n`, if the shift moves it. -/
def image? (s : Shift) (n : Nat) : Option Nat :=
  if s.first ≤ n ∧ n ≤ s.last ∧ (n - s.first) % s.step = 0 then
    some (s.image + (n - s.first))
  else none

end Shift

/-- The number that the first fitting shift sends `n` to. -/
def shifted? (shifts : Array Shift) (n : Nat) : Option Nat :=
  shifts.findSome? (Shift.image? · n)

end Community.Text

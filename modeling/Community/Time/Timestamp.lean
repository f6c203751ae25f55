import Community.Decimal.Power
import Community.Text.Blank
import Community.Text.Integer
import Community.Json.Decoder
import Community.Time.Civil

/-!
# Timestamps

A timestamp is a local date and time with its offset from universal time, written as RFC
3339 asks. It is read generously: blanks may stand before each number and between the parts,
date and time may be separated by a space or a `t`, the colon of the offset may be missing.
It is written in one way only: the fraction with 0, 3, 6 or 9 digits, as few as needed, and
`Z` for offset zero.
-/

namespace Community.Time

open Community.Text

/-- A local date and time of day, and the minutes by which local time is ahead of universal
time. The second is 60 in a leap second. -/
structure Timestamp where
  year : Int
  month : Nat
  day : Nat
  hour : Nat
  minute : Nat
  second : Nat
  nano : Nat
  offset : Int
  deriving DecidableEq, Repr

namespace Timestamp

/-- The nanoseconds since the start of day 0, universal time. -/
def instant (t : Timestamp) : Int :=
  let seconds : Int :=
    86400 * dayNumber t.year t.month t.day + 3600 * t.hour + 60 * t.minute +
      t.second - 60 * t.offset
  1000000000 * seconds + t.nano

/-- The timestamp, in universal time, of a number of microseconds after the start of 2025. -/
def ofMicros (us : Nat) : Timestamp :=
  let seconds := us / 1000000
  let date := Date.ofDayNumber (dayNumber 2025 1 1 + seconds / 86400)
  { year := date.year, month := date.month, day := date.day
    hour := seconds % 86400 / 3600, minute := seconds % 3600 / 60, second := seconds % 60
    nano := us % 1000000 * 1000, offset := 0 }

/-- The timestamp without its fraction. -/
def wholeSecond (t : Timestamp) : Timestamp :=
  { t with nano := 0 }

/-! ## Writing -/

/-- The digits of `n`, with zeros in front up to `width`. -/
def padded (width n : Nat) : List Char :=
  let ds := Nat.toDigits 10 n
  List.replicate (width - ds.length) '0' ++ ds

/-- A year of four digits; a year outside 0 to 9999 has a sign. -/
def yearText (y : Int) : List Char :=
  if 0 ≤ y ∧ y ≤ 9999 then padded 4 y.toNat
  else (if y < 0 then '-' else '+') :: padded 4 y.natAbs

/-- The fraction of a second. -/
def fractionText (nano : Nat) : List Char :=
  if nano = 0 then []
  else if nano % 1000000 = 0 then '.' :: padded 3 (nano / 1000000)
  else if nano % 1000 = 0 then '.' :: padded 6 (nano / 1000)
  else '.' :: padded 9 nano

/-- An offset from universal time. -/
def offsetText (minutes : Int) : List Char :=
  if minutes = 0 then ['Z']
  else (if minutes < 0 then '-' else '+') :: (padded 2 (minutes.natAbs / 60) ++ ':' ::
    padded 2 (minutes.natAbs % 60))

/-- The characters of a timestamp. -/
def renderChars (t : Timestamp) : List Char :=
  yearText t.year ++ '-' :: padded 2 t.month ++ '-' :: padded 2 t.day ++
    'T' :: padded 2 t.hour ++
    ':' :: padded 2 t.minute ++ ':' :: padded 2 t.second ++ fractionText t.nano ++
      offsetText t.offset

/-- The text of a timestamp. -/
def render (t : Timestamp) : String :=
  String.ofList t.renderChars

/-! ## Reading -/

/-- The first characters, at most `limit`, that are digits, and the rest. -/
def takeDigits : Nat → List Char → List Char × List Char
  | 0, cs => ([], cs)
  | _ + 1, [] => ([], [])
  | limit + 1, c :: cs =>
    if c.isDigit then
      let (ds, rest) := takeDigits limit cs
      (c :: ds, rest)
    else ([], c :: cs)

/-- A number of one up to `width` digits, after blanks. -/
def number? (width : Nat) (cs : List Char) : Option (Nat × List Char) :=
  let (ds, rest) := takeDigits width (dropBlanks cs)
  if ds.isEmpty then none else some (ofDigits ds, rest)

/-- A year: four digits at most, or any number of them after a sign. -/
def year? (cs : List Char) : Option (Int × List Char) :=
  match dropBlanks cs with
  | '-' :: cs => signed (-1) cs
  | '+' :: cs => signed 1 cs
  | cs =>
    let (ds, rest) := takeDigits 4 cs
    if ds.isEmpty then none else some (ofDigits ds, rest)
where
  /-- The digits after a sign. -/
  signed (sign : Int) (cs : List Char) : Option (Int × List Char) :=
    let (ds, rest) := takeDigits cs.length cs
    if ds.isEmpty ∨ int64Max < (ofDigits ds : Int) then none
      else some (sign * ofDigits ds, rest)

/-- The mark `c`, after blanks. -/
def mark? (c : Char) (cs : List Char) : Option (List Char) :=
  match dropBlanks cs with
  | d :: rest => if d = c then some rest else none
  | [] => none

/-- The nanoseconds that the digits after a point stand for; those beyond the
ninth are dropped. -/
def fraction? : List Char → Option (Nat × List Char)
  | '.' :: cs =>
    let (ds, rest) := takeDigits 9 cs
    if ds.isEmpty then none
    else some (ofDigits ds * Decimal.tenTo (9 - ds.length), rest.dropWhile Char.isDigit)
  | cs => some (0, cs)

/-- Two digits that write a number below `bound`. -/
def twoDigits? (bound : Nat) : List Char → Option (Nat × List Char)
  | a :: b :: rest =>
    if a.isDigit ∧ b.isDigit then
      let n := 10 * digitValue a + digitValue b
      if n < bound then some (n, rest) else none
    else none
  | _ => none

/-- An offset from universal time in minutes. -/
def offset? (cs : List Char) : Option (Int × List Char) :=
  match cs with
  | 'Z' :: rest => some (0, rest)
  | 'z' :: rest => some (0, rest)
  | '+' :: rest => hoursMinutes 1 rest
  | '-' :: rest => hoursMinutes (-1) rest
  | '\u2212' :: rest => hoursMinutes (-1) rest
  | a :: b :: c :: rest =>
    if [a, b, c].map Char.toUpper = ['U', 'T', 'C'] then some (0, rest) else none
  | _ => none
where
  /-- Hours, colons or blanks, minutes. -/
  hoursMinutes (sign : Int) (cs : List Char) : Option (Int × List Char) := do
    let (h, rest) ← twoDigits? 100 cs
    let (m, rest) ← twoDigits? 60 (rest.dropWhile fun c => c == ':' || isBlank c)
    return (sign * (60 * h + m), rest)

/-- The number of the day in universal time. A leap second belongs to the
minute before it. -/
def universalDay (t : Timestamp) : Int :=
  (1440 * dayNumber t.year t.month t.day + 60 * t.hour + t.minute - t.offset) / 1440

/-- Whether the parts name a date of the calendar, a time of day and an offset of
less than a day. The date lies in the years that are kept track of, and so does the
date in universal time. -/
def Valid (t : Timestamp) : Prop :=
  -262143 ≤ t.year ∧ t.year ≤ 262142 ∧ 1 ≤ t.day ∧ t.day ≤ daysInMonth t.year t.month ∧
    t.hour < 24 ∧ t.minute < 60 ∧ t.second ≤ 60 ∧ t.nano < 1000000000 ∧
    -1440 < t.offset ∧ t.offset < 1440 ∧
    dayNumber (-262143) 1 1 ≤ t.universalDay ∧ t.universalDay ≤ dayNumber 262142 12 31

instance (t : Timestamp) : Decidable t.Valid := by
  unfold Valid
  infer_instance

/-- Reads a timestamp. -/
def read? (s : String) : Option Timestamp := do
  let (year, cs) ← year? s.toList
  let cs ← mark? '-' cs
  let (month, cs) ← number? 2 cs
  let cs ← mark? '-' cs
  let (day, cs) ← number? 2 cs
  let cs ← separator? cs
  let (hour, cs) ← number? 2 cs
  let cs ← mark? ':' cs
  let (minute, cs) ← number? 2 cs
  let cs ← mark? ':' cs
  let (second, cs) ← number? 2 cs
  let (nano, cs) ← fraction? cs
  let (offset, cs) ← offset? (dropBlanks cs)
  let t : Timestamp := ⟨year, month, day, hour, minute, second, nano, offset⟩
  if dropBlanks cs = [] ∧ t.Valid then some t else none
where
  /-- What stands between date and time. -/
  separator? : List Char → Option (List Char)
    | 'T' :: cs => some cs
    | 't' :: cs => some cs
    | ' ' :: cs => some cs
    | _ => none

end Timestamp

instance : Encode Timestamp := ⟨fun t => .str t.render⟩

/-- Reads a text that is a timestamp. -/
def decodeTimestamp : Json.Decoder Timestamp := fun _ d =>
  match d with
  | .str (some s) =>
    match Timestamp.read? s with
    | some t => .ok t
    | none => Json.refuse (.custom "input is not a timestamp")
  | d => Json.unwanted d "an RFC 3339 formatted date and time string"

instance : Json.Decode Timestamp := ⟨decodeTimestamp, none⟩

end Community.Time

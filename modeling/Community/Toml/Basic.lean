import Community.Text.Integer

/-!
# TOML values

What a TOML document holds: tables of named values, lists, texts, numbers, truth values and
moments in time. A moment has a date, a time of day or both, and with both perhaps an offset;
it is written in one normal form.
-/

namespace Community

namespace Toml

/-- A day of the calendar. -/
structure Date where
  year : Nat
  month : Nat
  day : Nat
  deriving DecidableEq, Repr

/-- A time of day, with nanoseconds. -/
structure Clock where
  hour : Nat
  minute : Nat
  second : Nat
  nanosecond : Nat
  deriving DecidableEq, Repr

/-- How far local time is from universal time. -/
inductive Offset
  | universal
  | minutes (n : Int)
  deriving DecidableEq, Repr

/-- A moment: only the parts that were written. -/
structure Moment where
  date : Option Date
  clock : Option Clock
  offset : Option Offset
  deriving DecidableEq, Repr

end Toml

/-- A TOML value. -/
inductive Toml
  | bool (b : Bool)
  | int (n : Int)
  | float (x : Float)
  | text (s : String)
  | moment (m : Toml.Moment)
  | list (items : List Toml)
  | table (entries : List (String × Toml))
  deriving Inhabited

namespace Toml

/-- A number with at least `width` digits. -/
def padded (width n : Nat) : String :=
  let ds := Nat.toDigits 10 n
  String.ofList (List.replicate (width - ds.length) '0' ++ ds)

/-- A fraction of a second, without trailing zeros. -/
def fractionText (nanosecond : Nat) : String :=
  if nanosecond = 0 then ""
  else "." ++ String.ofList
    ((padded 9 nanosecond).toList.reverse.dropWhile (· == '0')).reverse

/-- A day as year, month and day. -/
def Date.text (d : Date) : String :=
  padded 4 d.year ++ "-" ++ padded 2 d.month ++ "-" ++ padded 2 d.day

/-- A time of day as hours, minutes, seconds and a fraction. -/
def Clock.text (c : Clock) : String :=
  padded 2 c.hour ++ ":" ++ padded 2 c.minute ++ ":" ++ padded 2 c.second ++
    fractionText c.nanosecond

/-- An offset as `Z`, or as hours and minutes with their sign. -/
def Offset.text : Offset → String
  | universal => "Z"
  | minutes n =>
    (if n < 0 then "-" else "+") ++ padded 2 (n.natAbs / 60) ++ ":" ++ padded 2
      (n.natAbs % 60)

/-- A moment in its normal form: `T` stands between date and time of day. -/
def Moment.text (m : Moment) : String :=
  (m.date.map Date.text).getD ""
    ++ (if m.date.isSome ∧ m.clock.isSome then "T" else "")
    ++ (m.clock.map Clock.text).getD ""
    ++ (m.offset.map Offset.text).getD ""

end Toml

end Community

/-!
# Integers in text

An integer is written with decimal digits after an optional sign; leading zeros are allowed,
blanks and separators are not. A minus sign is read only where the type admits negative
numbers. The reader says why a text is refused.
-/

namespace Community.Text

/-- Why a text is not an integer of the wanted range. -/
inductive IntegerFault
  | empty
  | digit
  | tooLarge
  | tooSmall
  deriving DecidableEq, Repr

/-- The sentence that names the fault. -/
def IntegerFault.message : IntegerFault → String
  | .empty => "cannot parse integer from empty string"
  | .digit => "invalid digit found in string"
  | .tooLarge => "number too large to fit in target type"
  | .tooSmall => "number too small to fit in target type"

/-- The value of a decimal digit. -/
def digitValue (c : Char) : Nat :=
  c.toNat - '0'.toNat

/-- The number that a run of decimal digits writes, most significant first. -/
def ofDigits (cs : List Char) : Nat :=
  cs.foldl (fun n c => 10 * n + digitValue c) 0

/-- Reads an integer from `lo` to `hi`. Text that is only a sign has no digit; a minus sign
where `lo` is not negative is no digit either. An overflow is reported before a wrong digit
only if it happens before it. -/
def readInteger (lo hi : Int) (s : String) : Except IntegerFault Int :=
  match s.toList with
  | [] => .error .empty
  | '+' :: ds => digits false ds
  | '-' :: ds => if lo < 0 then digits true ds else .error .digit
  | ds => digits false ds
where
  /-- Digit by digit, so that the first fault is the one reported. -/
  run (negative : Bool) : Int → List Char → Except IntegerFault Int
    | acc, [] => .ok acc
    | acc, c :: cs =>
      if c.isDigit then
        let next := if negative then 10 * acc - digitValue c else 10 * acc + digitValue c
        if hi < next then .error .tooLarge
        else if next < lo then .error .tooSmall
        else run negative next cs
      else .error .digit
  /-- A number has at least one digit. -/
  digits (negative : Bool) (ds : List Char) : Except IntegerFault Int :=
    if ds.isEmpty then .error .digit else run negative 0 ds

/-- The least and the largest signed 64-bit number. -/
def int64Min : Int := -9223372036854775808

@[inherit_doc int64Min]
def int64Max : Int := 9223372036854775807

/-- The least and the largest signed 32-bit number. -/
def int32Min : Int := -2147483648

@[inherit_doc int32Min]
def int32Max : Int := 2147483647

/-- The largest unsigned 64-bit number. -/
def word64Max : Nat := 18446744073709551615

/-- Reads a signed 64-bit number. -/
def readInt64 (s : String) : Except IntegerFault Int :=
  readInteger int64Min int64Max s

/-- Reads an unsigned 64-bit number. -/
def readWord64 (s : String) : Except IntegerFault Nat :=
  (readInteger 0 word64Max s).map Int.toNat

/-- Sums and products of row counts stop at the largest unsigned 64-bit number. -/
def saturate (n : Nat) : Nat :=
  min n word64Max

end Community.Text

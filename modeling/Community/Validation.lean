import Community.Text.Blank
import Community.Text.Quoted

/-!
# Validation of input

An input is checked field by field. A field has at most one issue for each rule that
is declared for it; absent fields have none. Issues are reported one in a line, in
the order of the lines.
-/

namespace Community

open Text

/-- A value shown in an issue. -/
inductive Shown
  | number (n : Int)
  | text (s : String)
  deriving DecidableEq, Repr

/-- The shown value in words. -/
def Shown.render : Shown → String
  | number n => "Number(" ++ toString n ++ ")"
  | text s => "String(" ++ quoted s ++ ")"

/-- A rule that a field does not meet, with the numbers the rule names and the value found.
The parameters stand in the order of their names. -/
structure Issue where
  field : String
  rule : String
  parameters : List (String × Shown)
  deriving DecidableEq, Repr

namespace Issue

/-- The line for an issue. -/
def line (i : Issue) : String :=
  i.field ++ ": Validation error: " ++ i.rule ++ " [\x7b" ++
    ", ".intercalate (i.parameters.map fun (name, value) =>
      quoted name ++ ": " ++ value.render) ++ "\x7d]"

/-- The lines for several issues, in order. -/
def lines (issues : List Issue) : String :=
  "\n".intercalate ((issues.map line).mergeSort fun a b => a ≤ b)

end Issue

namespace Check

/-- The parameter for a bound, if there is one. -/
def bound (name : String) : Option Nat → List (String × Shown)
  | none => []
  | some n => [(name, .number n)]

/-- A text has from `least` to `most` characters. -/
def length (field : String) (least most : Option Nat) (s : String) : List Issue :=
  let n := s.length
  if least.all (· ≤ n) && most.all (n ≤ ·) then []
  else [⟨field, "length", bound "max" most ++ bound "min" least ++ [("value", .text s)]⟩]

/-- A number lies between `least` and `most`. -/
def range (field : String) (least most : Option Nat) (n : Int) : List Issue :=
  if least.all (fun b => (b : Int) ≤ n) && most.all (fun b => n ≤ (b : Int)) then []
  else [⟨field, "range", bound "max" most ++ bound "min" least ++ [("value", .number n)]⟩]

/-- A check on a field that may be absent. -/
def given {α : Type} (check : α → List Issue) : Option α → List Issue
  | none => []
  | some a => check a

end Check

end Community

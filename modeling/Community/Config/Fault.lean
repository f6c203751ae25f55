import Community.Config.Setting
import Community.Config.Variables
import Community.Text.Quoted

/-!
# Why a configuration is refused

A source may be unreadable or malformed, and a setting may be missing or of the wrong kind. A
setting of the wrong kind is reported with the name that leads to it and with its origin; a
number that is too large for its place has lost its origin by then.
-/

namespace Community.Config

open Text

/-- What stands where something else is wanted. -/
inductive Found
  | text (s : String)
  | int (n : Int)
  | word (n : Nat)
  | null
  | list
  | group
  deriving DecidableEq, Repr

/-- How messages describe it. -/
def Found.message : Found → String
  | text s => "string " ++ quoted s
  | int n => "64-bit integer `" ++ toString n ++ "`"
  | word n => "64-bit unsigned integer `" ++ toString n ++ "`"
  | null => "unit value"
  | list => "sequence"
  | group => "map"

/-- What is wanted. -/
inductive Wanted
  | bool
  | integer
  | word
  | narrowWord (bits : Nat)
  | text
  deriving DecidableEq, Repr

/-- How messages describe it. -/
def Wanted.message : Wanted → String
  | bool => "a boolean"
  | integer => "an integer"
  | word => "an unsigned 64 bit or less integer"
  | narrowWord bits => "an unsigned " ++ toString bits ++ " bit integer"
  | text => "a string"

/-- How messages describe a scalar that stands for a whole section. -/
def Scalar.message : Scalar → String
  | .null => "unit value"
  | .bool b => "boolean `" ++ (if b then "true" else "false") ++ "`"
  | .int n => "integer `" ++ toString n ++ "`"
  | .float x =>
    let digits := Decimal.plainText x
    let whole := digits.toList.all fun c => c.isDigit || c == '-'
    "floating point `" ++ digits ++ (if whole then ".0" else "") ++ "`"
  | .text s => "string " ++ quoted s

/-- Why a configuration is refused. -/
inductive Fault
  /-- The file that is asked for is not there, or is of no known format. -/
  | unreadable
  /-- A file breaks the rules of its format. -/
  | malformed
  /-- A file of variables has a line that cannot be read. -/
  | badLine (line : BadLine)
  | missingField (name : String)
  /-- A section that is given as a list has too few items. -/
  | tooShort (size : Nat) (title : String) (fields : Nat)
  | notSection (found : Scalar) (title : String)
  | unknownVariant (title name : String)
  | notVariant (title : String)
  | mistyped (found : Found) (wanted : Wanted) (key : String) (origin : Option Origin)

/-- The fault as seen from one step further up. Only a setting of the wrong kind
tells where it is. -/
def Fault.within (step : String) : Fault → Fault
  | mistyped found wanted key origin =>
    let point := if key.isEmpty ∨ key.toList.head? = some '[' then "" else "."
    mistyped found wanted (step ++ point ++ key) origin
  | fault => fault

/-- The text of a fault. -/
def Fault.message : Fault → String
  | unreadable => "configuration file not found"
  | malformed => "configuration file not readable"
  | badLine line =>
    "Error parsing line: '" ++ line.line ++ "', error at line index: " ++
      toString line.position
  | missingField name => "missing field `" ++ name ++ "`"
  | tooShort size title fields =>
    "invalid length " ++ toString size ++ ", expected struct " ++ title ++ " with " ++
      toString fields
      ++ " elements"
  | notSection found title =>
    "invalid type: " ++ found.message ++ ", expected struct " ++ title
  | unknownVariant title name =>
    "enum " ++ title ++ " does not have variant constructor " ++ name
  | notVariant title =>
    "value of enum " ++ title
      ++ " should be represented by either string or table with exactly one key"
  | mistyped found wanted key origin =>
    "invalid type: " ++ found.message ++ ", expected " ++ wanted.message
      ++ (if key.isEmpty then "" else " for key `" ++ key ++ "`")
      ++ (match origin with
        | some o => " in " ++ o.text
        | none => "")

end Community.Config

import Community.Text.Blank
import Community.Text.Hex
import Community.Text.Utf8

/-!
# Percent encoding

A percent sign with two digits in base sixteen stands for a byte, every other character for
its own bytes. In the fields of a query a plus sign stands for a space, fields are separated
by `&`, and the first `=` of a field ends its name.
-/

namespace Community.Http

open Text

/-- The bytes that characters stand for. -/
def percentBytes : List Char → List Nat
  | '%' :: a :: b :: rest =>
    match hexValue? a, hexValue? b with
    | some x, some y => (16 * x + y) :: percentBytes rest
    | _, _ => 0x25 :: percentBytes (a :: b :: rest)
  | c :: rest => utf8Bytes (String.singleton c) ++ percentBytes rest
  | [] => []

/-- The text of a path segment, if its bytes stand for one. -/
def segmentText? (segment : List Char) : Option String :=
  decodeStrict? (percentBytes segment)

/-- The text of a name or value in a query. -/
def fieldText (cs : List Char) : String :=
  decodeLossy (percentBytes (cs.map fun c => if c = '+' then ' ' else c))

/-- The fields of a query with their values. Empty fields do not count. -/
def queryFields (query : List Char) : List (String × String) :=
  ((splitOn '&' query).filter (!·.isEmpty)).map fun field =>
    (fieldText (field.takeWhile (· != '=')), fieldText ((field.dropWhile (· != '=')).drop 1))

end Community.Http

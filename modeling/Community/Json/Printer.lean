import Community.Decimal.Shortest
import Community.Json.Basic

/-!
# JSON text

`Json.render` writes a value without blanks. Inside strings the quote, the backslash and the
control characters are escaped, every other character is written as it is. Floats are written
with the fewest digits that read back.
-/

namespace Community.Json

/-- A digit in base sixteen, lower case. -/
def hexDigit (n : Nat) : Char :=
  if n < 10 then Char.ofNat ('0'.toNat + n) else Char.ofNat ('a'.toNat + n - 10)

/-- The form of one character inside a string. -/
def escape (c : Char) : List Char :=
  if c = '\x22' then ['\\', '\x22']
  else if c = '\\' then ['\\', '\\']
  else if c = '\n' then ['\\', 'n']
  else if c = '\r' then ['\\', 'r']
  else if c = '\t' then ['\\', 't']
  else if c = '\x08' then ['\\', 'b']
  else if c = '\x0c' then ['\\', 'f']
  else if c.toNat < 0x20 then
    ['\\', 'u', '0', '0', hexDigit (c.toNat / 16), hexDigit (c.toNat % 16)]
  else [c]

/-- A string between quotes. -/
def renderString (s : String) : List Char :=
  '\x22' :: (s.toList.flatMap escape ++ ['\x22'])

/-- The decimal digits of an integer, after a minus sign if it is negative. -/
def renderInt (n : Int) : List Char :=
  if n < 0 then '-' :: Nat.toDigits 10 n.natAbs else Nat.toDigits 10 n.natAbs

mutual

/-- The characters of a value. A float without a decimal is written as null. -/
def renderChars : Json → List Char
  | null => ['n', 'u', 'l', 'l']
  | bool true => ['t', 'r', 'u', 'e']
  | bool false => ['f', 'a', 'l', 's', 'e']
  | int n => renderInt n
  | float x => (Decimal.text? x).getD ['n', 'u', 'l', 'l']
  | str s => renderString s
  | arr [] => ['[', ']']
  | arr (first :: rest) => '[' :: (renderChars first ++ renderItems rest)
  | obj [] => ['\x7b', '\x7d']
  | obj (first :: rest) => '\x7b' :: (renderMember first ++ renderMembers rest)

/-- The items after the first one, and the closing bracket. -/
def renderItems : List Json → List Char
  | [] => [']']
  | item :: rest => ',' :: (renderChars item ++ renderItems rest)

/-- A name and its value. -/
def renderMember : String × Json → List Char
  | (name, value) => renderString name ++ ':' :: renderChars value

/-- The members after the first one, and the closing brace. -/
def renderMembers : List (String × Json) → List Char
  | [] => ['\x7d']
  | m :: rest => ',' :: (renderMember m ++ renderMembers rest)

end

/-- The text of a value. -/
def render (j : Json) : String :=
  String.ofList j.renderChars

end Community.Json

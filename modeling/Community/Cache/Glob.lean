import Community.Text.Blank

/-!
# Patterns with stars

A pattern names a family of keys. A star stands for any run of characters, every other
character for itself. The pattern is cut at its stars; the first piece has to begin the key,
the last one has to end it, and the pieces between are looked for from left to right.
-/

namespace Community.Glob

open Text

/-- The text after `part`, if the text begins with it. -/
def after? : List Char → List Char → Option (List Char)
  | [], cs => some cs
  | _ :: _, [] => none
  | p :: ps, c :: cs => if p = c then after? ps cs else none

/-- The text after the first place where `part` occurs. -/
def afterFirst? (part : List Char) : List Char → Option (List Char)
  | [] => after? part []
  | c :: cs =>
    match after? part (c :: cs) with
    | some rest => some rest
    | none => afterFirst? part cs

/-- Whether the pieces after the first star fit the rest of a key. -/
def fits : List (List Char) → List Char → Bool
  | [], rest => rest.isEmpty
  | [last], rest => last.isSuffixOf rest
  | piece :: more, rest =>
    match afterFirst? piece rest with
    | some rest => fits more rest
    | none => false

/-- Whether a key belongs to the family that a pattern names. -/
def accepts (pattern key : List Char) : Bool :=
  match splitOn '*' pattern with
  | [] => false
  | first :: more =>
    match after? first key with
    | some rest => fits more rest
    | none => false

/-- Whether a key, as text, belongs to the family that a pattern names. -/
def matchesKey (pattern key : String) : Bool :=
  accepts pattern.toList key.toList

end Community.Glob

import Community.Config.Setting

/-!
# Names that are paths

The names at the top of a source may be paths: parts with points between them, and indices
in brackets. `database.url` is the setting `url` in the group `database`. A name that is no
path stands for itself.
-/

namespace Community.Config

open Text

/-- Whether `c` may stand in a part of a path. -/
def isPathChar (c : Char) : Bool :=
  c.isAlphanum || c == ' ' || c == '_' || c == '-'

/-- Whether `c` may stand around an index. -/
def isIndexBlank (c : Char) : Bool :=
  c == ' ' || c == '\t'

/-- An index between brackets, given what follows the opening one, and what
follows the closing one. -/
def index? (cs : List Char) : Option (Int × List Char) := do
  let cs := cs.dropWhile isIndexBlank
  let (negative, cs) := match cs with
    | '-' :: cs => (true, cs)
    | cs => (false, cs)
  let digits := cs.takeWhile Char.isDigit
  let n : Int := ofDigits digits
  let i := if negative then -n else n
  match (cs.dropWhile Char.isDigit).dropWhile isIndexBlank with
  | ']' :: rest =>
    if digits.isEmpty ∨ i < int64Min ∨ int64Max < i then none else some (i, rest)
  | _ => none

/-- A part at the start of a text, and what follows it. -/
def part? (cs : List Char) : Option (String × List Char) :=
  let name := cs.takeWhile isPathChar
  if name.isEmpty then none else some (String.ofList name, cs.dropWhile isPathChar)

/-- The steps after the first part. `fuel` bounds their number. -/
def steps? : Nat → List Char → Option (List Step)
  | _, [] => some []
  | 0, _ => none
  | fuel + 1, '.' :: cs => do
    let (name, rest) ← part? cs
    return .name name :: (← steps? fuel rest)
  | fuel + 1, '[' :: cs => do
    let (i, rest) ← index? cs
    return .index i :: (← steps? fuel rest)
  | _, _ => none

/-- The path that a text writes. -/
def path? (s : String) : Option (List Step) := do
  let (name, rest) ← part? s.toList
  return .name name :: (← steps? rest.length rest)

/-- The steps that a name at the top of a source stands for. -/
def pathOf (name : String) : List Step :=
  (path? name).getD [.name name]

/-- Lays the settings of a source over `target`. -/
def Setting.overlay (target : Setting) (source : List (String × Setting)) : Setting :=
  source.foldl (fun t entry => Setting.putAt entry.2 (pathOf entry.1) t) target

end Community.Config

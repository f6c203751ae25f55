import Community.Decimal.Positional
import Community.Text.Lowercase

/-!
# Settings

A setting is a value with the place it came from: a scalar, a list, or a group of settings
under names. Names do not depend on case. Sources are laid over one another: a scalar or a
list takes the place of what was there, a group is merged with it name by name, so that a
later source changes only what it names.
-/

namespace Community.Config

open Text

/-- Where a setting was written. -/
inductive Origin
  | file (path : String)
  | environment
  deriving DecidableEq, Repr

/-- How an origin is named in messages. -/
def Origin.text : Origin → String
  | file path => path
  | environment => "the environment"

/-- A value without parts. -/
inductive Scalar
  | null
  | bool (b : Bool)
  | int (n : Int)
  | float (x : Float)
  | text (s : String)

/-- A setting, with its origin unless it was made while sources were merged. -/
inductive Setting
  | scalar (value : Scalar) (origin : Option Origin)
  | list (items : List Setting) (origin : Option Origin)
  | group (entries : List (String × Setting)) (origin : Option Origin)

namespace Setting

/-- Nothing, where a place had to be made. -/
def missing : Setting :=
  scalar .null none

/-- A group without settings. -/
def empty : Setting :=
  group [] none

/-- Where the setting was written. -/
def origin : Setting → Option Origin
  | scalar _ o => o
  | list _ o => o
  | group _ o => o

/-- The settings of a group; nothing else has any. -/
def entries : Setting → List (String × Setting)
  | group entries _ => entries
  | _ => []

/-- The entries with one name set; a new name comes last. -/
def setEntry (name : String) (value : Setting) :
    List (String × Setting) → List (String × Setting)
  | [] => [(name, value)]
  | (n, v) :: rest =>
    if n = name then (name, value) :: rest else (n, v) :: setEntry name value rest

/-- The group with one name set. What is no group gives way to a new one. -/
def setName (name : String) (value : Setting) : Setting → Setting
  | group entries o => group (setEntry name value entries) o
  | _ => group [(name, value)] none

/-- What a name stands for in a group. -/
def find? (name : String) (target : Setting) : Option Setting :=
  target.entries.lookup name

mutual

/-- Lays a setting over what a name stands for in `target`. -/
def put (name : String) (value target : Setting) : Setting :=
  let name := lower name
  match value with
  | group incoming _ =>
    setName name (putAll incoming ((target.find? name).getD empty)) target
  | value => setName name value target

/-- Lays the settings of a group over `target`, one after the other. -/
def putAll : List (String × Setting) → Setting → Setting
  | [], target => target
  | (name, value) :: rest, target => putAll rest (put name value target)

end

end Setting

/-! ## Paths -/

/-- A step to a part of a setting. -/
inductive Step
  | name (s : String)
  | index (i : Int)
  deriving DecidableEq, Repr

namespace Setting

/-- The position that an index means in a list: negative ones count from the end. -/
def position (i : Int) (size : Nat) : Nat :=
  if 0 ≤ i then i.toNat else size - i.natAbs

/-- The items of a list; nothing else has any. -/
def items : Setting → List Setting
  | list items _ => items
  | _ => []

/-- The list with one item set, filled up to there. What is no list gives
way to a new one. -/
def setItem (i : Int) (value target : Setting) : Setting :=
  let old := target.items
  let n := position i old.length
  let filled := old ++ List.replicate (n + 1 - old.length) missing
  let origin := match target with
    | list _ o => o
    | _ => none
  list (filled.set n value) origin

/-- Lays a setting over the part of `target` that a path leads to. Places missing on the
way are made. Only the name at the end of the path loses its case; those on the way are
taken as they are. -/
def putAt (value : Setting) : List Step → Setting → Setting
  | [], _ => value
  | [.name s], target => put s value target
  | .name s :: path, target =>
    setName s (putAt value path ((target.find? s).getD missing)) target
  | .index i :: path, target =>
    let inner := (target.items[position i target.items.length]?).getD missing
    setItem i (putAt value path inner) target

end Setting

end Community.Config

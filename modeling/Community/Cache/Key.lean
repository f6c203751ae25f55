import Community.Text.Blank

/-!
# Keys of cached values

A key is a namespace and parts, joined by colons. The first part names the family that the
value belongs to, so that one pattern reaches the whole family.
-/

namespace Community.Cache

open Text

/-- The key of the parts in a namespace. -/
def keyOf (space : String) (parts : List String) : String :=
  parts.foldl (fun key part => key ++ ":" ++ part) space

/-- The key under which the outcome of a user's action is kept. -/
def markerKey (userId : Int) (action : String) (parts : List String) : String :=
  keyOf "idempotent" (toString userId :: action :: parts)

end Community.Cache

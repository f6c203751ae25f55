import Community.Tag
import Community.Text.Blank

/-!
# Relations between users and things

A user may like and favour things. The relation is kept as one row for each user and thing,
which is active or cancelled and changes between the two on every toggle.
-/

namespace Community

open Text

/-- The state of a relation. -/
inductive RelationStatus
  | active
  | cancelled
  deriving DecidableEq, Repr

instance : Tag RelationStatus where
  title := "RelationStatus"
  all := [.active, .cancelled]
  spelling
    | .active => "active"
    | .cancelled => "cancelled"

namespace RelationStatus

/-- The state that a toggle moves to. -/
def flipped : RelationStatus → RelationStatus
  | active => cancelled
  | cancelled => active

/-- Whether the relation counts. -/
def isActive : RelationStatus → Bool
  | active => true
  | cancelled => false

/-- A state that is flipped twice is the same. -/
@[simp]
theorem flipped_flipped (s : RelationStatus) : s.flipped.flipped = s := by
  cases s <;> rfl

/-- Of the two states one is active. -/
@[simp]
theorem isActive_flipped (s : RelationStatus) : s.flipped.isActive = !s.isActive := by
  cases s <;> rfl

end RelationStatus

/-- What can be liked. -/
inductive LikeType
  | content
  | comment
  | dynamic
  deriving DecidableEq, Repr

instance : Tag LikeType where
  title := "LikeType"
  all := [.content, .comment, .dynamic]
  spelling
    | .content => "CONTENT"
    | .comment => "COMMENT"
    | .dynamic => "DYNAMIC"

/-- What can be kept as a favourite. -/
inductive FavoriteType
  | content
  | goods
  deriving DecidableEq, Repr

instance : Tag FavoriteType where
  title := "FavoriteType"
  all := [.content, .goods]
  spelling
    | .content => "CONTENT"
    | .goods => "GOODS"

/-- The like type that a text names: ASCII letters match in either case. -/
def LikeType.named? (raw : String) : Option LikeType :=
  Tag.ofText? (upperAscii raw)

/-- The favourite type that a text names: ASCII letters match in either case. -/
def FavoriteType.named? (raw : String) : Option FavoriteType :=
  Tag.ofText? (upperAscii raw)

end Community

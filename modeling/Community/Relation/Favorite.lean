import Community.Relation.Basic
import Community.Time.Timestamp

/-!
# Favourites

A favourite names its user and its target, and keeps copies of what lists
show about the target.
-/

namespace Community

open Time Json

/-- The columns of a favourite. -/
structure Favorite.Columns (col : Type → Type) where
  id : Int
  favoriteType : col FavoriteType
  targetId : Int
  userId : Int
  targetTitle : Option String
  targetCover : Option String
  targetAuthorId : Option Int
  userNickname : Option String
  status : col RelationStatus
  createdAt : Timestamp
  updatedAt : Timestamp

/-- A favourite. -/
abbrev Favorite := Favorite.Columns Plain

/-- A favourite as it is stored. -/
abbrev Favorite.Row := Favorite.Columns Column

namespace Favorite

/-- The favourite that a row holds, if its columns hold tags. -/
def Columns.read? (r : Row) : Option Favorite := do
  let favoriteType ← r.favoriteType.read?
  let status ← r.status.read?
  return { r with favoriteType := favoriteType, status := status }

/-- The row that holds a favourite. -/
def Columns.stored (f : Favorite) : Row :=
  { f with favoriteType := .tag f.favoriteType, status := .tag f.status }

/-- How a favourite is read. -/
def fields : Fields Favorite :=
  @Columns.mk Plain <$> field "id" <*> field (α := FavoriteType) "favorite_type"
    <*> field "target_id" <*> field "user_id" <*> field "target_title"
    <*> field "target_cover" <*> field "target_author_id" <*> field "user_nickname"
    <*> field (α := RelationStatus) "status" <*> field "created_at"
    <*> field "updated_at"

instance : Encode Favorite := ⟨fun f => .obj
  [("id", encode f.id),
    ("favorite_type", .str (Tag.spelling (α := FavoriteType) f.favoriteType)),
   ("target_id", encode f.targetId), ("user_id", encode f.userId),
   ("target_title", encode f.targetTitle), ("target_cover", encode f.targetCover),
   ("target_author_id", encode f.targetAuthorId), ("user_nickname", encode f.userNickname),
   ("status", .str (Tag.spelling (α := RelationStatus) f.status)),
   ("created_at", encode f.createdAt), ("updated_at", encode f.updatedAt)]⟩

instance : Decode Favorite := ⟨fields.decode "struct Model", none⟩

end Favorite

end Community

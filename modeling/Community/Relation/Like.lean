import Community.Relation.Basic
import Community.Time.Timestamp

/-!
# Likes

A like names its user and its target, and keeps copies of what lists show about both.
-/

namespace Community

open Time Json

/-- The columns of a like. -/
structure Like.Columns (col : Type → Type) where
  id : Int
  likeType : col LikeType
  targetId : Int
  userId : Int
  targetTitle : Option String
  targetAuthorId : Option Int
  userNickname : Option String
  userAvatar : Option String
  status : col RelationStatus
  createdAt : Timestamp
  updatedAt : Timestamp

/-- A like. -/
abbrev Like := Like.Columns Plain

/-- A like as it is stored. -/
abbrev Like.Row := Like.Columns Column

namespace Like

/-- The like that a row holds, if its columns hold tags. -/
def Columns.read? (r : Row) : Option Like := do
  let likeType ← r.likeType.read?
  let status ← r.status.read?
  return { r with likeType := likeType, status := status }

/-- The row that holds a like. -/
def Columns.stored (l : Like) : Row :=
  { l with likeType := .tag l.likeType, status := .tag l.status }

/-- How a like is read. -/
def fields : Fields Like :=
  @Columns.mk Plain <$> field "id" <*> field (α := LikeType) "like_type"
    <*> field "target_id" <*> field "user_id" <*> field "target_title"
    <*> field "target_author_id" <*> field "user_nickname" <*> field "user_avatar"
    <*> field (α := RelationStatus) "status" <*> field "created_at" <*> field "updated_at"

instance : Encode Like := ⟨fun l => .obj
  [("id", encode l.id), ("like_type", .str (Tag.spelling (α := LikeType) l.likeType)),
   ("target_id", encode l.targetId), ("user_id", encode l.userId),
   ("target_title", encode l.targetTitle), ("target_author_id", encode l.targetAuthorId),
   ("user_nickname", encode l.userNickname), ("user_avatar", encode l.userAvatar),
   ("status", .str (Tag.spelling (α := RelationStatus) l.status)),
   ("created_at", encode l.createdAt), ("updated_at", encode l.updatedAt)]⟩

instance : Decode Like := ⟨fields.decode "struct Model", none⟩

end Like

/-- What is shown of a user who likes something. -/
structure Liker where
  userId : Int
  userNickname : Option String
  userAvatar : Option String
  likedAt : Timestamp

namespace Liker

/-- The user behind a like. -/
def ofLike (l : Like) : Liker :=
  ⟨l.userId, l.userNickname, l.userAvatar, l.createdAt⟩

/-- How it is read. -/
def fields : Fields Liker :=
  Liker.mk <$> field "user_id" <*> field "user_nickname" <*> field "user_avatar"
    <*> field "liked_at"

instance : Encode Liker := ⟨fun l => .obj
  [("user_id", encode l.userId), ("user_nickname", encode l.userNickname),
   ("user_avatar", encode l.userAvatar), ("liked_at", encode l.likedAt)]⟩

instance : Decode Liker := ⟨fields.decode "struct LikerInfo", none⟩

end Liker

end Community

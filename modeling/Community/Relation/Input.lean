import Community.Relation.Favorite
import Community.Relation.Like
import Community.Validation

/-!
# Toggles and their outcomes

A toggle names its target and carries what lists show about target and user. Its outcome is
the stored row and whether the relation is active now.
-/

namespace Community

open Json

/-- A request to like something, or to take the like back. -/
structure LikeToggle where
  likeType : LikeType
  targetId : Int
  targetTitle : Option String
  targetAuthorId : Option Int
  userNickname : Option String
  userAvatar : Option String

namespace LikeToggle

/-- How the request is read. -/
def fields : Fields LikeToggle :=
  LikeToggle.mk <$> field "like_type" <*> field "target_id" <*> field "target_title"
    <*> field "target_author_id" <*> field "user_nickname" <*> field "user_avatar"

instance : Decode LikeToggle := ⟨fields.decode "struct ToggleLikeInput", none⟩

/-- What is wrong with the request. -/
def issues (r : LikeToggle) : List Issue :=
  Check.range "target_id" (some 1) none r.targetId ++
  Check.given (Check.length "target_title" none (some 255)) r.targetTitle ++
  Check.given (Check.length "user_nickname" none (some 64)) r.userNickname ++
  Check.given (Check.length "user_avatar" none (some 512)) r.userAvatar

/-- The request with the name of the user where it gives no nickname. -/
def namedBy (r : LikeToggle) (username : String) : LikeToggle :=
  { r with userNickname := some (r.userNickname.getD username) }

end LikeToggle

/-- A request to keep something as a favourite, or to drop it. -/
structure FavoriteToggle where
  favoriteType : FavoriteType
  targetId : Int
  targetTitle : Option String
  targetCover : Option String
  targetAuthorId : Option Int
  userNickname : Option String

namespace FavoriteToggle

/-- How the request is read. -/
def fields : Fields FavoriteToggle :=
  FavoriteToggle.mk <$> field "favorite_type" <*> field "target_id" <*> field "target_title"
    <*> field "target_cover" <*> field "target_author_id" <*> field "user_nickname"

instance : Decode FavoriteToggle := ⟨fields.decode "struct ToggleFavoriteInput", none⟩

/-- What is wrong with the request. -/
def issues (r : FavoriteToggle) : List Issue :=
  Check.range "target_id" (some 1) none r.targetId ++
  Check.given (Check.length "target_title" none (some 255)) r.targetTitle ++
  Check.given (Check.length "target_cover" none (some 512)) r.targetCover ++
  Check.given (Check.length "user_nickname" none (some 64)) r.userNickname

/-- The request with the name of the user where it gives no nickname. -/
def namedBy (r : FavoriteToggle) (username : String) : FavoriteToggle :=
  { r with userNickname := some (r.userNickname.getD username) }

end FavoriteToggle

/-- The outcome of a toggled like. -/
structure LikeOutcome where
  liked : Bool
  record : Like

namespace LikeOutcome

/-- How the outcome is read. -/
def fields : Fields LikeOutcome :=
  LikeOutcome.mk <$> field "liked" <*> field "record"

instance : Encode LikeOutcome :=
  ⟨fun o => .obj [("liked", encode o.liked), ("record", encode o.record)]⟩

instance : Decode LikeOutcome := ⟨fields.decode "struct LikeToggleOutcome", none⟩

end LikeOutcome

/-- The outcome of a toggled favourite. -/
structure FavoriteOutcome where
  favorited : Bool
  record : Favorite

namespace FavoriteOutcome

/-- How the outcome is read. -/
def fields : Fields FavoriteOutcome :=
  FavoriteOutcome.mk <$> field "favorited" <*> field "record"

instance : Encode FavoriteOutcome :=
  ⟨fun o => .obj [("favorited", encode o.favorited), ("record", encode o.record)]⟩

instance : Decode FavoriteOutcome := ⟨fields.decode "struct FavoriteToggleOutcome", none⟩

end FavoriteOutcome

/-- What a list of favourites is filtered by. -/
structure FavoriteFilter where
  favoriteType : Option FavoriteType
  status : Option RelationStatus

/-- The state of the favourites that are listed, active ones where the
filter does not say. -/
def FavoriteFilter.wanted (f : FavoriteFilter) : RelationStatus :=
  f.status.getD .active

end Community

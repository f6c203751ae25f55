import Community.Relation.Basic
import Community.Time.Timestamp

/-!
# Things that are liked and kept

Contents, comments, social dynamics and goods. Each counts the active
relations that point at it.
-/

namespace Community

open Time Json

/-- Whether a content is offered to readers. -/
inductive ContentStatus
  | draft
  | published
  | offline
  deriving DecidableEq, Repr

instance : Tag ContentStatus where
  title := "ContentStatus"
  all := [.draft, .published, .offline]
  spelling
    | .draft => "DRAFT"
    | .published => "PUBLISHED"
    | .offline => "OFFLINE"

/-- Where a content stands in review. -/
inductive ReviewStatus
  | pending
  | approved
  | rejected
  deriving DecidableEq, Repr

instance : Tag ReviewStatus where
  title := "ReviewStatus"
  all := [.pending, .approved, .rejected]
  spelling
    | .pending => "PENDING"
    | .approved => "APPROVED"
    | .rejected => "REJECTED"

/-! ## Contents -/

/-- The columns of a content. -/
structure Content.Columns (col : Type → Type) where
  id : Int
  title : String
  description : Option String
  contentType : String
  tags : Option String
  coverUrl : Option String
  authorId : Int
  authorNickname : Option String
  status : col ContentStatus
  reviewStatus : col ReviewStatus
  viewCount : Int
  likeCount : Int
  favoriteCount : Int
  createdAt : Timestamp
  updatedAt : Timestamp

/-- A content. -/
abbrev Content := Content.Columns Plain

/-- A content as it is stored. -/
abbrev Content.Row := Content.Columns Column

namespace Content

/-- The content that a row holds, if its columns hold tags. -/
def Columns.read? (r : Row) : Option Content := do
  let status ← r.status.read?
  let reviewStatus ← r.reviewStatus.read?
  return { r with status := status, reviewStatus := reviewStatus }

/-- How a content is read. -/
def fields : Fields Content :=
  @Columns.mk Plain <$> field "id" <*> field "title" <*> field "description"
    <*> field "content_type" <*> field "tags" <*> field "cover_url" <*> field "author_id"
    <*> field "author_nickname" <*> field (α := ContentStatus) "status"
    <*> field (α := ReviewStatus) "review_status" <*> field "view_count"
    <*> field "like_count" <*> field "favorite_count" <*> field "created_at"
    <*> field "updated_at"

instance : Encode Content := ⟨fun c => .obj
  [("id", encode c.id), ("title", encode c.title), ("description", encode c.description),
   ("content_type", encode c.contentType), ("tags", encode c.tags),
   ("cover_url", encode c.coverUrl), ("author_id", encode c.authorId),
   ("author_nickname", encode c.authorNickname),
   ("status", .str (Tag.spelling (α := ContentStatus) c.status)),
   ("review_status", .str (Tag.spelling (α := ReviewStatus) c.reviewStatus)),
   ("view_count", encode c.viewCount), ("like_count", encode c.likeCount),
   ("favorite_count", encode c.favoriteCount), ("created_at", encode c.createdAt),
   ("updated_at", encode c.updatedAt)]⟩

instance : Decode Content := ⟨fields.decode "struct Model", none⟩

end Content

/-! ## Goods -/

/-- The columns of an article for sale. -/
structure Goods.Columns (col : Type → Type) where
  id : Int
  name : String
  description : Option String
  coverUrl : Option String
  sellerId : Int
  status : col ActiveStatus
  favoriteCount : Int
  createdAt : Timestamp
  updatedAt : Timestamp

/-- An article for sale. -/
abbrev Goods := Goods.Columns Plain

/-- An article for sale as it is stored. -/
abbrev Goods.Row := Goods.Columns Column

namespace Goods

/-- The article that a row holds, if its status is one. -/
def Columns.read? (r : Row) : Option Goods := do
  let status ← r.status.read?
  return { r with status := status }

/-- How an article is read. -/
def fields : Fields Goods :=
  @Columns.mk Plain <$> field "id" <*> field "name" <*> field "description"
    <*> field "cover_url" <*> field "seller_id" <*> field (α := ActiveStatus) "status"
    <*> field "favorite_count" <*> field "created_at" <*> field "updated_at"

instance : Encode Goods := ⟨fun g => .obj
  [("id", encode g.id), ("name", encode g.name), ("description", encode g.description),
   ("cover_url", encode g.coverUrl), ("seller_id", encode g.sellerId),
   ("status", .str (Tag.spelling (α := ActiveStatus) g.status)),
   ("favorite_count", encode g.favoriteCount), ("created_at", encode g.createdAt),
   ("updated_at", encode g.updatedAt)]⟩

instance : Decode Goods := ⟨fields.decode "struct Model", none⟩

end Goods

/-! ## Comments and social dynamics -/

/-- A comment on a content. -/
structure Comment where
  id : Int
  contentId : Int
  userId : Int
  body : String
  likeCount : Int
  createdAt : Timestamp

namespace Comment

/-- How a comment is read. -/
def fields : Fields Comment :=
  Comment.mk <$> field "id" <*> field "content_id" <*> field "user_id" <*> field "body"
    <*> field "like_count" <*> field "created_at"

instance : Encode Comment := ⟨fun c => .obj
  [("id", encode c.id), ("content_id", encode c.contentId), ("user_id", encode c.userId),
   ("body", encode c.body), ("like_count", encode c.likeCount),
   ("created_at", encode c.createdAt)]⟩

instance : Decode Comment := ⟨fields.decode "struct Model", none⟩

end Comment

/-- A short public post. -/
structure Dynamic where
  id : Int
  userId : Int
  body : String
  likeCount : Int
  createdAt : Timestamp

namespace Dynamic

/-- How a post is read. -/
def fields : Fields Dynamic :=
  Dynamic.mk <$> field "id" <*> field "user_id" <*> field "body" <*> field "like_count"
    <*> field "created_at"

instance : Encode Dynamic := ⟨fun d => .obj
  [("id", encode d.id), ("user_id", encode d.userId), ("body", encode d.body),
   ("like_count", encode d.likeCount), ("created_at", encode d.createdAt)]⟩

instance : Decode Dynamic := ⟨fields.decode "struct Model", none⟩

end Dynamic

end Community

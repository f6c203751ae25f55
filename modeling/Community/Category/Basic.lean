import Community.Tag
import Community.Time.Timestamp

/-!
# Categories

Categories form a forest: each one names its parent, and a category with parent 0 is a root.
Inactive categories stay stored but are not shown.
-/

namespace Community

open Time Json

/-- The columns of a category. `col` says what the enumerated column holds. -/
structure Category.Columns (col : Type → Type) where
  id : Int
  name : String
  description : Option String
  parentId : Int
  iconUrl : Option String
  /-- Higher values are listed first. -/
  sort : Int
  contentCount : Int
  status : col ActiveStatus
  createdAt : Timestamp
  updatedAt : Timestamp

/-- A category. -/
abbrev Category := Category.Columns Plain

/-- A category as it is stored. -/
abbrev Category.Row := Category.Columns Column

namespace Category

/-- The parent of the roots. -/
def rootParent : Int := 0

/-- Whether a category has no parent. -/
def Columns.isRoot {col : Type → Type} (c : Columns col) : Bool :=
  c.parentId == rootParent

/-- Whether a category is shown. -/
def Columns.isActive (c : Category) : Bool :=
  decide (c.status = ActiveStatus.active)

/-- The category that a row holds, if its status is one. -/
def Columns.read? (r : Row) : Option Category := do
  let status ← r.status.read?
  return { r with status := status }

/-- The row that holds a category. -/
def Columns.stored (c : Category) : Row :=
  { c with status := .tag c.status }

/-- The members of a category. -/
def Columns.members (c : Category) : List (String × Json) :=
  [("id", encode c.id), ("name", encode c.name), ("description", encode c.description),
   ("parent_id", encode c.parentId), ("icon_url", encode c.iconUrl),
   ("sort", encode c.sort), ("content_count", encode c.contentCount),
   ("status", .str (Tag.spelling (α := ActiveStatus) c.status)),
   ("created_at", encode c.createdAt), ("updated_at", encode c.updatedAt)]

/-- A member that is a signed 32-bit number. -/
def sortField : Fields Int :=
  Fields.one "sort" decodeInt32 none none

/-- How a category is read. -/
def fields : Fields Category :=
  @Columns.mk Plain <$> field "id" <*> field "name" <*> field "description"
    <*> field "parent_id" <*> field "icon_url" <*> sortField <*> field "content_count"
    <*> field (α := ActiveStatus) "status" <*> field "created_at" <*> field "updated_at"

instance : Encode Category := ⟨fun c => .obj c.members⟩
instance : Decode Category := ⟨fields.decode "struct Model", none⟩

end Category

end Community

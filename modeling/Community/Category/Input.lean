import Community.Category.Basic
import Community.Validation

/-!
# Requests that change categories

Names are checked as they were typed and trimmed afterwards. A request to change a category
leaves alone what it does not name.
-/

namespace Community

open Json

/-- A request for a new category. -/
structure NewCategory where
  name : String
  description : Option String
  parentId : Int
  iconUrl : Option String
  sort : Int

namespace NewCategory

/-- How the request is read. Without a parent the category is a root. -/
def fields : Fields NewCategory :=
  NewCategory.mk <$> field "name" <*> field "description" <*> fieldOr "parent_id" 0
    <*> field "icon_url" <*> Fields.one "sort" decodeInt32 none (some 0)

instance : Decode NewCategory := ⟨fields.decode "struct CreateCategoryInput", none⟩

/-- What is wrong with the request. -/
def issues (r : NewCategory) : List Issue :=
  Check.length "name" (some 1) (some 64) r.name ++
  Check.given (Check.length "description" none (some 512)) r.description ++
  Check.range "parent_id" (some 0) none r.parentId ++
  Check.given (Check.length "icon_url" none (some 512)) r.iconUrl

end NewCategory

/-- A request to change a category. -/
structure CategoryChange where
  name : Option String
  description : Option String
  parentId : Option Int
  iconUrl : Option String
  sort : Option Int
  status : Option ActiveStatus

namespace CategoryChange

/-- How the request is read. -/
def fields : Fields CategoryChange :=
  CategoryChange.mk <$> field "name" <*> field "description" <*> field "parent_id"
    <*> field "icon_url" <*> Fields.one "sort" (decodeOption decodeInt32) (some none) none
    <*> field "status"

instance : Decode CategoryChange := ⟨fields.decode "struct UpdateCategoryInput", none⟩

/-- What is wrong with the request. -/
def issues (r : CategoryChange) : List Issue :=
  Check.given (Check.length "name" (some 1) (some 64)) r.name ++
  Check.given (Check.length "description" none (some 512)) r.description ++
  Check.given (Check.range "parent_id" (some 0) none) r.parentId ++
  Check.given (Check.length "icon_url" none (some 512)) r.iconUrl

end CategoryChange

/-- What a list of categories is filtered by. -/
structure CategoryFilter where
  keyword : Option String
  parentId : Option Int

end Community

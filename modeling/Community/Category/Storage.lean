import Community.Category.Input
import Community.Database.Query

/-!
# Categories in the database

Lists of categories show the higher sort values first, then the newer categories.
-/

namespace Community.Category

open Text Time Database

/-- The order of lists. -/
def listOrder : Row → Row → Bool :=
  descending fun c => [c.sort, c.createdAt.instant, c.id]

/-- Whether a row holds an active category. -/
def Columns.isShown (c : Row) : Bool :=
  c.status == .tag .active

/-- The category with the identifier, active or not. -/
def find (id : Int) : Database → Except Fault (Option Category) :=
  findById Row id

/-- The active category of that name below the parent. -/
def sibling (parentId : Int) (name : String) : Database → Except Fault (Option Category) :=
  findFirst fun c : Row => c.parentId == parentId && c.name == name && c.isShown

/-- All active categories. -/
def allActive : Database → Except Fault (List Category) :=
  all (fun c : Row => c.isShown) listOrder

/-- Whether a row is in the list that a filter asks for. A keyword that is empty
does not restrict it. -/
def admits (keyword : Option String) (parentId : Option Int) (c : Row) : Bool :=
  c.isShown && keyword.all (fun k => k.isEmpty || hasKeyword k c.name) &&
    parentId.all (fun p => c.parentId == p)

/-- One page of the active categories that a filter asks for, and their number. -/
def search (keyword : Option String) (parentId : Option Int) (p : Page) :
    Database → Except Fault (List Category × Nat) :=
  page (admits keyword parentId) listOrder p

/-- How many active categories hang directly below the one with the identifier. -/
def childCount (id : Int) : Database → Except Fault Nat :=
  count fun c : Row => c.parentId == id && c.isShown

/-- The category that a request for a new one describes. -/
def ofRequest (r : NewCategory) (now : Timestamp) (id : Int) : Category :=
  { id := id, name := trim r.name, description := r.description, parentId := r.parentId
    iconUrl := r.iconUrl, sort := r.sort, contentCount := 0, status := ActiveStatus.active
    createdAt := now, updatedAt := now }

/-- Stores a new category. -/
def add (r : NewCategory) (now : Timestamp) : Database → Except Fault (Row × Database) :=
  insert fun id => (ofRequest r now id).stored

/-- The category with the changes that a request asks for. -/
def Columns.changed (c : Category) (r : CategoryChange) (now : Timestamp) : Category :=
  { c with
    name := (r.name.map trim).getD c.name
    description := r.description <|> c.description
    parentId := r.parentId.getD c.parentId
    iconUrl := r.iconUrl <|> c.iconUrl
    sort := r.sort.getD c.sort
    status := r.status.getD c.status
    updatedAt := now }

/-- Stores a category in place of the one with its identifier. -/
def replace (c : Category) : Database → Except Fault (Row × Database) :=
  Database.replace c.stored

/-- Removes the category with the identifier, and says whether there was one. -/
def erase (id : Int) (db : Database) : Except Fault (Bool × Database) := do
  let (n, db) ← delete (fun r : Row => r.id == id) db
  return (n > 0, db)

end Community.Category

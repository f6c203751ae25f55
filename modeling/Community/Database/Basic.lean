import Community.Category.Basic
import Community.Database.Fault
import Community.Relation.Favorite
import Community.Relation.Like
import Community.Search.Basic
import Community.Target.Basic
import Community.User.Basic

/-!
# The database

Ten tables of rows. A table can be missing, or out of reach while its rows are kept. Every
row has an identifier; a new row gets one after those of all rows that came before. Some
tables keep some values unique, and the rows of some refer to a user.

A statement yields a new database or a fault, so a statement that fails leaves no trace.
-/

namespace Community

/-- The rows of a table in the order in which they came, and the largest identifier
that one came with. -/
structure Database.Table (ρ : Type) where
  rows : List ρ := []
  lastId : Int := 0

/-- A table that may be missing or out of reach. -/
structure Database.Slot (ρ : Type) where
  /-- The table as statements see it. -/
  table? : Option (Database.Table ρ) := none
  /-- The table while it is out of reach. -/
  hidden? : Option (Database.Table ρ) := none

/-- The tables, and how many steps of their making have been taken. -/
structure Database where
  users : Database.Slot User.Row := {}
  categories : Database.Slot Category.Row := {}
  contents : Database.Slot Content.Row := {}
  comments : Database.Slot Comment := {}
  dynamics : Database.Slot Dynamic := {}
  goods : Database.Slot Goods.Row := {}
  likes : Database.Slot Like.Row := {}
  favorites : Database.Slot Favorite.Row := {}
  history : Database.Slot HistoryEntry.Row := {}
  hotSearches : Database.Slot HotSearch.Row := {}
  steps : Nat := 0

namespace Database

/-- The names of the tables. -/
inductive TableName
  | user
  | category
  | content
  | comment
  | dynamic
  | goods
  | like
  | favorite
  | history
  | hotSearch
  deriving DecidableEq, Repr

instance : Tag TableName where
  title := "TableName"
  all := [.user, .category, .content, .comment, .dynamic, .goods, .like, .favorite,
    .history, .hotSearch]
  spelling
    | .user => "user"
    | .category => "category"
    | .content => "content"
    | .comment => "comment"
    | .dynamic => "social_dynamic"
    | .goods => "goods"
    | .like => "user_like"
    | .favorite => "user_favorite"
    | .history => "search_history"
    | .hotSearch => "hot_search"

/-- The rows of one of the tables. `α` is what a row is read as. -/
class Entity (ρ : Type) (α : outParam Type) where
  name : TableName
  id : ρ → Int
  slot : Database → Slot ρ
  put : Database → Slot ρ → Database
  read? : ρ → Option α
  /-- Whether two rows may not both be in the table, besides rows of one identifier. -/
  clashes : ρ → ρ → Bool := fun _ _ => false
  /-- The user that the row refers to. -/
  owner? : ρ → Option Int := fun _ => none

instance : Entity User.Row User where
  name := .user
  id u := u.id
  slot := users
  put db s := { db with users := s }
  read? u := u.read?
  clashes a b := a.username == b.username || (a.email.isSome && a.email == b.email)

instance : Entity Category.Row Category where
  name := .category
  id c := c.id
  slot := categories
  put db s := { db with categories := s }
  read? c := c.read?
  clashes a b := a.status == .tag .active && b.status == .tag .active &&
    a.parentId == b.parentId &&
    a.name == b.name

instance : Entity Content.Row Content where
  name := .content
  id c := c.id
  slot := contents
  put db s := { db with contents := s }
  read? c := c.read?

instance : Entity Comment Comment where
  name := .comment
  id c := c.id
  slot := comments
  put db s := { db with comments := s }
  read? := some

instance : Entity Dynamic Dynamic where
  name := .dynamic
  id d := d.id
  slot := dynamics
  put db s := { db with dynamics := s }
  read? := some

instance : Entity Goods.Row Goods where
  name := .goods
  id g := g.id
  slot := goods
  put db s := { db with goods := s }
  read? g := g.read?

instance : Entity Like.Row Like where
  name := .like
  id l := l.id
  slot := likes
  put db s := { db with likes := s }
  read? l := l.read?
  clashes a b := a.userId == b.userId && a.likeType == b.likeType && a.targetId == b.targetId
  owner? l := some l.userId

instance : Entity Favorite.Row Favorite where
  name := .favorite
  id f := f.id
  slot := favorites
  put db s := { db with favorites := s }
  read? f := f.read?
  clashes a b := a.userId == b.userId && a.favoriteType == b.favoriteType &&
    a.targetId == b.targetId
  owner? f := some f.userId

instance : Entity HistoryEntry.Row HistoryEntry where
  name := .history
  id e := e.id
  slot := history
  put db s := { db with history := s }
  read? e := e.read?
  owner? e := some e.userId

instance : Entity HotSearch.Row HotSearch where
  name := .hotSearch
  id h := h.id
  slot := hotSearches
  put db s := { db with hotSearches := s }
  read? h := h.read?
  clashes a b := a.keyword == b.keyword

variable {ρ α : Type} [Entity ρ α]

/-- Whether two rows may not both be in their table. -/
def conflict (a b : ρ) : Bool :=
  Entity.id a == Entity.id b || Entity.clashes a b

/-- Whether all rows may be in the table together. -/
def distinct : List ρ → Bool
  | [] => true
  | r :: rs => rs.all (fun s => !conflict r s) && distinct rs

/-- Whether there is such a user. Users out of reach can still be referred to. -/
def hasUser (db : Database) (id : Int) : Bool :=
  let holds (t? : Option (Table User.Row)) : Bool := match t? with
    | some t => t.rows.any fun u => u.id == id
    | none => false
  holds db.users.table? || holds db.users.hidden?

/-- Whether the user that the row refers to is there. -/
def isOwned (db : Database) (r : ρ) : Bool :=
  match Entity.owner? r with
  | some id => db.hasUser id
  | none => true

/-- The identifier of the next row: the one after the largest that the table holds or has
ever got with a new row. There is none after the largest signed 64-bit number. -/
def Table.nextId? (t : Table ρ) : Option Int :=
  let last := t.rows.foldl (fun n r => max n (Entity.id r)) t.lastId
  if last < Text.int64Max then some (last + 1) else none

/-- The table of the rows, if statements can reach it. -/
def table (ρ : Type) {α : Type} [Entity ρ α] (db : Database) : Except Fault (Table ρ) :=
  match (Entity.slot db : Slot ρ).table? with
  | some t => .ok t
  | none => .error (.noTable (Tag.spelling (Entity.name ρ)))

/-- The database with another table of the rows. -/
def withTable (db : Database) (t : Table ρ) : Database :=
  Entity.put db { (Entity.slot db : Slot ρ) with table? := some t }

/-- What a row is read as. -/
def readRow (r : ρ) : Except Fault α :=
  match Entity.read? r with
  | some a => .ok a
  | none => .error (.unreadable (Tag.spelling (Entity.name ρ)))

/-! ## Statements -/

/-- How many rows there are that `pick` admits. -/
def count (pick : ρ → Bool) (db : Database) : Except Fault Nat := do
  let t ← db.table ρ
  return (t.rows.filter pick).length

/-- The first row that `pick` admits. -/
def findFirst (pick : ρ → Bool) (db : Database) : Except Fault (Option α) := do
  let t ← db.table ρ
  match t.rows.find? pick with
  | none => return none
  | some r => return some (← readRow r)

/-- The row with the identifier. -/
def findById (ρ : Type) {α : Type} [Entity ρ α] (id : Int) (db : Database) :
    Except Fault (Option α) :=
  findFirst (fun r : ρ => Entity.id r == id) db

/-- The rows that `pick` admits, in the order that `before` gives. -/
def select (pick : ρ → Bool) (before : ρ → ρ → Bool) (db : Database) :
    Except Fault (List ρ) := do
  let t ← db.table ρ
  return (t.rows.filter pick).mergeSort before

/-- Puts a row into its table. -/
def insertRow (r : ρ) (db : Database) : Except Fault (ρ × Database) := do
  let t ← db.table ρ
  if t.rows.any (conflict r) then .error .duplicate
  else if !db.isOwned r then .error .orphan
  else return (r, db.withTable ⟨t.rows ++ [r], max t.lastId (Entity.id r)⟩)

/-- Puts a new row into its table, under the next identifier. -/
def insert (make : Int → ρ) (db : Database) : Except Fault (ρ × Database) := do
  let t ← db.table ρ
  match t.nextId? with
  | some id => insertRow (make id) db
  | none => .error .full

/-- Changes the rows that `pick` admits, and yields them as they are then. -/
def update (pick : ρ → Bool) (change : ρ → ρ) (db : Database) :
    Except Fault (List ρ × Database) := do
  let t ← db.table ρ
  let changed := (t.rows.filter pick).map change
  let rows := t.rows.map fun r => if pick r then change r else r
  if !distinct rows then .error .duplicate
  else if !changed.all db.isOwned then .error .orphan
  else return (changed, db.withTable { t with rows := rows })

/-- Stores a row in place of the one with its identifier, which has to be there. -/
def replace (r : ρ) (db : Database) : Except Fault (ρ × Database) := do
  let (rows, db) ← update (fun s : ρ => Entity.id s == Entity.id r) (fun _ => r) db
  match rows with
  | [] => .error .nothingUpdated
  | r :: _ => return (r, db)

/-- Changes the first row that `pick` admits, or makes a row if there is none. -/
def upsert (pick : ρ → Bool) (make : Int → ρ) (change : α → ρ) (db : Database) :
    Except Fault (α × Database) := do
  let (row, db) ← match ← findFirst pick db with
    | none => insert make db
    | some a => replace (change a) db
  return (← readRow row, db)

/-- Removes the rows that `pick` admits, and says how many those were. No row
may refer to them. -/
def delete (pick : ρ → Bool) (db : Database) : Except Fault (Nat × Database) := do
  let t ← db.table ρ
  let rows := t.rows.filter fun r => !pick r
  return (t.rows.length - rows.length, db.withTable { t with rows := rows })

end Database

end Community

import Community.Category.Input
import Community.Http.Fault
import Community.Page
import Community.Relation.Input
import Community.Search.Basic
import Community.User.Input

/-!
# Queries

What a query asks for is read from its fields. The fields are looked at from left to right;
the first one that is known and has been given before, or whose text cannot be read, is
reported. Unknown fields do not count.
-/

namespace Community.Http

open Text

/-- How a value is read from the fields of a query. -/
structure Query (α : Type) where
  /-- The known fields, with what is wrong with a text for them. -/
  checks : List (String × (String → Option QueryFault))
  /-- The value for fields in which nothing is wrong. -/
  build : (String → Option String) → α

namespace Query

instance : Functor Query where
  map f q := ⟨q.checks, fun find => f (q.build find)⟩

instance : Applicative Query where
  pure a := ⟨[], fun _ => a⟩
  seq f x :=
    let x := x ()
    ⟨f.checks ++ x.checks, fun find => f.build find (x.build find)⟩

/-- A field that may be left out. -/
def field {α : Type} (name : String) (read : String → Except QueryFault α) :
    Query (Option α) :=
  ⟨[(name, fun s => match read s with
      | .ok _ => none
      | .error fault => some fault)],
    fun find => (find name).bind fun s => (read s).toOption⟩

/-- A field of any text. -/
def text (name : String) : Query (Option String) :=
  field name .ok

/-- A field that is a signed 64-bit number. -/
def int64 (name : String) : Query (Option Int) :=
  field name fun s => (readInt64 s).mapError (.integer name)

/-- A field that is an unsigned 64-bit number. -/
def word64 (name : String) : Query (Option Nat) :=
  field name fun s => (readWord64 s).mapError (.integer name)

/-- A field that is a tag. -/
def tag (α : Type) [Tag α] (name : String) : Query (Option α) :=
  field name fun s => match Tag.ofText? s with
    | some a => .ok a
    | none => .error (.variant name s ((Tag.table α).map Prod.fst))

/-- The first thing wrong with the fields of a query. -/
def firstFault (checks : List (String × (String → Option QueryFault))) :
    List String → List (String × String) → Option QueryFault
  | _, [] => none
  | seen, (name, value) :: rest =>
    match checks.lookup name with
    | none => firstFault checks seen rest
    | some check =>
      if name ∈ seen then some (.repeated name)
      else match check value with
        | some fault => some fault
        | none => firstFault checks (name :: seen) rest

/-- Reads a value from the fields of a query. -/
def read {α : Type} (q : Query α) (fields : List (String × String)) : Except QueryFault α :=
  match firstFault q.checks [] fields with
  | some fault => .error fault
  | none => .ok (q.build fun name => fields.lookup name)

/-! ## The queries of the service -/

/-- A page. -/
def page : Query Page :=
  (fun n s => ⟨n.getD Page.first.number, s.getD Page.first.size⟩) <$> word64 "page"
    <*> word64 "page_size"

/-- A filter for categories. -/
def categoryFilter : Query CategoryFilter :=
  CategoryFilter.mk <$> text "keyword" <*> int64 "parent_id"

/-- A kind of likes. -/
def likeType : Query (Option LikeType) :=
  tag LikeType "like_type"

/-- A filter for favourites. -/
def favoriteFilter : Query FavoriteFilter :=
  FavoriteFilter.mk <$> tag FavoriteType "favorite_type" <*> tag RelationStatus "status"

/-- A kind of searches, and how many are wanted. -/
def history : Query (Option SearchType × Option Nat) :=
  Prod.mk <$> tag SearchType "search_type" <*> word64 "limit"

/-- How many keywords are wanted. -/
def limit : Query (Option Nat) :=
  word64 "limit"

/-- A filter for users. -/
def userFilter : Query UserFilter :=
  UserFilter.mk <$> text "keyword" <*> tag UserStatus "status" <*> tag UserRole "role"

end Query

end Community.Http

import Community.Database.Query
import Community.Database.Schema

/-!
# Rows by the names of their columns

Other programs write to the tables too, column by column. A row is made of columns if each
holds what its type admits; an enumerated column admits any text.
-/

namespace Community.Database

open Time

/-- A row as named columns. -/
class Record (ρ : Type) where
  columns : ρ → List (String × Json)
  ofColumns? : (String → Json) → Option ρ

namespace Record

/-- A text. -/
def text? : Json → Option String
  | .str s => some s
  | _ => none

/-- An integer. -/
def int? : Json → Option Int
  | .int n => some n
  | _ => none

/-- A number. -/
def float? : Json → Option Float
  | .int n => some (Float.ofInt n)
  | .float x => some x
  | _ => none

/-- A timestamp. -/
def time? (j : Json) : Option Timestamp :=
  (text? j).bind Timestamp.read?

/-- An enumerated column. -/
def tag? {α : Type} [Tag α] (j : Json) : Option (Column α) :=
  (text? j).map Column.ofText

/-- A column that may be null. -/
def nullable? {α : Type} (read : Json → Option α) : Json → Option (Option α)
  | .null => some none
  | j => (read j).map some

/-- The value of an enumerated column. -/
def ofTag {α : Type} [Tag α] : Column α → Json
  | .tag a => .str (Tag.spelling a)
  | .text s => .str s

end Record

open Record

instance : Record User.Row where
  columns u :=
    [("id", encode u.id), ("username", encode u.username), ("email", encode u.email),
     ("phone", encode u.phone), ("password_hash", encode u.passwordHash),
     ("nickname", encode u.nickname), ("avatar", encode u.avatar), ("bio", encode u.bio),
     ("gender", ofTag u.gender), ("location", encode u.location),
     ("status", ofTag u.status), ("role", ofTag u.role),
     ("login_count", encode u.loginCount), ("last_login_at", encode u.lastLoginAt),
     ("created_at", encode u.createdAt), ("updated_at", encode u.updatedAt)]
  ofColumns? get := do
    return { id := ← int? (get "id"), username := ← text? (get "username")
             email := ← nullable? text? (get "email"),
             phone := ← nullable? text? (get "phone")
             passwordHash := ← nullable? text? (get "password_hash")
             nickname := ← nullable? text? (get "nickname"),
             avatar := ← nullable? text? (get "avatar")
             bio := ← nullable? text? (get "bio"), gender := ← tag? (get "gender")
             location := ← nullable? text? (get "location"), status := ← tag? (get "status")
             role := ← tag? (get "role"), loginCount := ← int? (get "login_count")
             lastLoginAt := ← nullable? time? (get "last_login_at")
             createdAt := ← time? (get "created_at"),
             updatedAt := ← time? (get "updated_at") }

instance : Record Category.Row where
  columns c :=
    [("id", encode c.id), ("name", encode c.name), ("description", encode c.description),
     ("parent_id", encode c.parentId), ("icon_url", encode c.iconUrl),
     ("sort", encode c.sort), ("content_count", encode c.contentCount),
     ("status", ofTag c.status), ("created_at", encode c.createdAt),
     ("updated_at", encode c.updatedAt)]
  ofColumns? get := do
    return { id := ← int? (get "id"), name := ← text? (get "name"),
             description := ← nullable? text? (get "description"),
             parentId := ← int? (get "parent_id"),
             iconUrl := ← nullable? text? (get "icon_url"), sort := ← int? (get "sort"),
             contentCount := ← int? (get "content_count"),
             status := ← tag? (get "status"), createdAt := ← time? (get "created_at"),
             updatedAt := ← time? (get "updated_at") }

instance : Record Content.Row where
  columns c :=
    [("id", encode c.id), ("title", encode c.title),
     ("description", encode c.description), ("content_type", encode c.contentType),
     ("tags", encode c.tags), ("cover_url", encode c.coverUrl),
     ("author_id", encode c.authorId), ("author_nickname", encode c.authorNickname),
     ("status", ofTag c.status), ("review_status", ofTag c.reviewStatus),
     ("view_count", encode c.viewCount), ("like_count", encode c.likeCount),
     ("favorite_count", encode c.favoriteCount), ("created_at", encode c.createdAt),
     ("updated_at", encode c.updatedAt)]
  ofColumns? get := do
    return { id := ← int? (get "id"), title := ← text? (get "title"),
             description := ← nullable? text? (get "description"),
             contentType := ← text? (get "content_type"),
             tags := ← nullable? text? (get "tags"),
             coverUrl := ← nullable? text? (get "cover_url"),
             authorId := ← int? (get "author_id"),
             authorNickname := ← nullable? text? (get "author_nickname"),
             status := ← tag? (get "status"),
             reviewStatus := ← tag? (get "review_status"),
             viewCount := ← int? (get "view_count"),
             likeCount := ← int? (get "like_count"),
             favoriteCount := ← int? (get "favorite_count"),
             createdAt := ← time? (get "created_at"),
             updatedAt := ← time? (get "updated_at") }

instance : Record Comment where
  columns c :=
    [("id", encode c.id), ("content_id", encode c.contentId),
     ("user_id", encode c.userId), ("body", encode c.body),
     ("like_count", encode c.likeCount), ("created_at", encode c.createdAt)]
  ofColumns? get := do
    return { id := ← int? (get "id"), contentId := ← int? (get "content_id"),
             userId := ← int? (get "user_id"), body := ← text? (get "body"),
             likeCount := ← int? (get "like_count"),
             createdAt := ← time? (get "created_at") }

instance : Record Dynamic where
  columns d :=
    [("id", encode d.id), ("user_id", encode d.userId), ("body", encode d.body),
     ("like_count", encode d.likeCount), ("created_at", encode d.createdAt)]
  ofColumns? get := do
    return { id := ← int? (get "id"), userId := ← int? (get "user_id"),
             body := ← text? (get "body"), likeCount := ← int? (get "like_count"),
             createdAt := ← time? (get "created_at") }

instance : Record Goods.Row where
  columns g :=
    [("id", encode g.id), ("name", encode g.name), ("description", encode g.description),
     ("cover_url", encode g.coverUrl), ("seller_id", encode g.sellerId),
     ("status", ofTag g.status), ("favorite_count", encode g.favoriteCount),
     ("created_at", encode g.createdAt), ("updated_at", encode g.updatedAt)]
  ofColumns? get := do
    return { id := ← int? (get "id"), name := ← text? (get "name"),
             description := ← nullable? text? (get "description"),
             coverUrl := ← nullable? text? (get "cover_url"),
             sellerId := ← int? (get "seller_id"), status := ← tag? (get "status"),
             favoriteCount := ← int? (get "favorite_count"),
             createdAt := ← time? (get "created_at"),
             updatedAt := ← time? (get "updated_at") }

instance : Record Like.Row where
  columns l :=
    [("id", encode l.id), ("like_type", ofTag l.likeType), ("target_id", encode l.targetId),
     ("user_id", encode l.userId), ("target_title", encode l.targetTitle),
     ("target_author_id", encode l.targetAuthorId), ("user_nickname", encode l.userNickname),
     ("user_avatar", encode l.userAvatar), ("status", ofTag l.status),
     ("created_at", encode l.createdAt), ("updated_at", encode l.updatedAt)]
  ofColumns? get := do
    return { id := ← int? (get "id"), likeType := ← tag? (get "like_type"),
             targetId := ← int? (get "target_id"), userId := ← int? (get "user_id"),
             targetTitle := ← nullable? text? (get "target_title"),
             targetAuthorId := ← nullable? int? (get "target_author_id"),
             userNickname := ← nullable? text? (get "user_nickname"),
             userAvatar := ← nullable? text? (get "user_avatar"),
             status := ← tag? (get "status"), createdAt := ← time? (get "created_at"),
             updatedAt := ← time? (get "updated_at") }

instance : Record Favorite.Row where
  columns f :=
    [("id", encode f.id), ("favorite_type", ofTag f.favoriteType),
      ("target_id", encode f.targetId), ("user_id", encode f.userId),
      ("target_title", encode f.targetTitle), ("target_cover", encode f.targetCover),
      ("target_author_id", encode f.targetAuthorId),
      ("user_nickname", encode f.userNickname), ("status", ofTag f.status),
      ("created_at", encode f.createdAt), ("updated_at", encode f.updatedAt)]
  ofColumns? get := do
    return { id := ← int? (get "id"), favoriteType := ← tag? (get "favorite_type"),
             targetId := ← int? (get "target_id"), userId := ← int? (get "user_id"),
             targetTitle := ← nullable? text? (get "target_title"),
             targetCover := ← nullable? text? (get "target_cover"),
             targetAuthorId := ← nullable? int? (get "target_author_id"),
             userNickname := ← nullable? text? (get "user_nickname"),
             status := ← tag? (get "status"), createdAt := ← time? (get "created_at"),
             updatedAt := ← time? (get "updated_at") }

instance : Record HistoryEntry.Row where
  columns e :=
    [("id", encode e.id), ("user_id", encode e.userId), ("keyword", encode e.keyword),
     ("search_type", ofTag e.searchType), ("result_count", encode e.resultCount),
     ("created_at", encode e.createdAt)]
  ofColumns? get := do
    return { id := ← int? (get "id"), userId := ← int? (get "user_id"),
             keyword := ← text? (get "keyword"), searchType := ← tag? (get "search_type"),
             resultCount := ← int? (get "result_count"),
             createdAt := ← time? (get "created_at") }

instance : Record HotSearch.Row where
  columns h :=
    [("id", encode h.id), ("keyword", encode h.keyword),
      ("search_count", encode h.searchCount), ("trend_score", encode h.trendScore),
      ("status", ofTag h.status), ("created_at", encode h.createdAt),
      ("updated_at", encode h.updatedAt)]
  ofColumns? get := do
    return { id := ← int? (get "id"), keyword := ← text? (get "keyword"),
             searchCount := ← int? (get "search_count"),
             trendScore := ← float? (get "trend_score"), status := ← tag? (get "status"),
             createdAt := ← time? (get "created_at"),
             updatedAt := ← time? (get "updated_at") }

/-! ## Statements on a table given by its name -/

/-- Something to do with the rows of any table. -/
abbrev OnTable (β : Type) :=
  (ρ : Type) → {α : Type} → [Entity ρ α] → [Record ρ] → [Encode α] → β

/-- Does something with the rows of the table of that name. -/
def onTable {β : Type} (name : TableName) (f : OnTable β) : β :=
  match name with
  | .user => f User.Row
  | .category => f Category.Row
  | .content => f Content.Row
  | .comment => f Comment
  | .dynamic => f Dynamic
  | .goods => f Goods.Row
  | .like => f Like.Row
  | .favorite => f Favorite.Row
  | .history => f HistoryEntry.Row
  | .hotSearch => f HotSearch.Row

/-- Puts a row, given by its columns, into a table. -/
def insertColumns (name : TableName) (get : String → Json) (db : Database) :
    Except Fault Database :=
  onTable name fun ρ => do
    match (Record.ofColumns? get : Option ρ) with
    | none => .error (.unreadable (Tag.spelling name))
    | some r => return (← insertRow r db).2

/-- The row with one column changed, if the column admits the value. -/
def withColumn? {ρ : Type} [Record ρ] (column : String) (value : Json) (r : ρ) : Option ρ :=
  let columns := Record.columns r
  if (columns.lookup column).isNone then none
  else Record.ofColumns? fun name => if name = column then value
    else (columns.lookup name).getD .null

/-- Whether all rows of a table, be it out of reach or not, refer to users who are there. -/
def areOwned (ρ : Type) {α : Type} [Entity ρ α] (db : Database) : Bool :=
  let s : Slot ρ := Entity.slot db
  let rowsOf (t? : Option (Table ρ)) : List ρ := (t?.map Table.rows).getD []
  (rowsOf s.table? ++ rowsOf s.hidden?).all db.isOwned

/-- Changes one column of the row with the identifier, and says how many rows that were. A
user to whom rows refer keeps the identifier. -/
def setColumn (name : TableName) (id : Int) (column : String) (value : Json)
    (db : Database) : Except Fault (Nat × Database) :=
  onTable name fun ρ => do
    let t ← db.table ρ
    if !(schema name).columns.any (·.name == column) then .error (.noColumn column)
    let picked := t.rows.filter fun r => Entity.id r == id
    if picked.any fun r => (withColumn? column value r).isNone then
      .error (.unreadable (Tag.spelling name))
    let (rows, db) ← update (fun r : ρ => Entity.id r == id)
      (fun r => (withColumn? column value r).getD r) db
    if db.areOwned Like.Row && db.areOwned Favorite.Row && db.areOwned HistoryEntry.Row then
      return (rows.length, db)
    else .error .orphan

/-- All rows of a table, by their identifiers. -/
def listRows (name : TableName) (db : Database) : Except Fault (List Json) :=
  onTable name fun ρ => do
    let rows ← all (fun _ : ρ => true) (fun a b => Entity.id a ≤ Entity.id b) db
    return rows.map encode

/-- Puts a table out of reach. -/
def hide (name : TableName) (db : Database) : Database :=
  onTable name fun ρ =>
    let s : Slot ρ := Entity.slot db
    if s.table?.isNone then db else Entity.put db ⟨none, s.table?⟩

/-- Puts a table back into reach. -/
def unhide (name : TableName) (db : Database) : Database :=
  onTable name fun ρ =>
    let s : Slot ρ := Entity.slot db
    if s.hidden?.isNone then db else Entity.put db ⟨s.hidden?, none⟩

end Community.Database

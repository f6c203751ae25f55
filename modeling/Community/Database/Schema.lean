import Community.Database.Basic

/-!
# The schema of the database

The columns, indexes and references of each table, and the steps in which the tables are
made. A text column has a width, the number of characters that it is declared for.
-/

namespace Community.Database

/-- A column of a table. -/
structure ColumnInfo where
  name : String
  /-- How many characters the column is declared for; none for other types
  and for long texts. -/
  width : Option Nat := none
  isRequired : Bool := true
  /-- The value of the column where a row does not give one, as it is
  written in the schema. -/
  default : Option String := none
  isPrimary : Bool := false

/-- An index of a table. -/
structure IndexInfo where
  name : String
  columns : List String
  isUnique : Bool := false
  /-- Whether only some of the rows are in the index. -/
  isPartial : Bool := false

/-- A column that refers to another table. -/
structure ReferenceInfo where
  column : String
  target : TableName
  targetColumn : String := "id"
  /-- What happens to rows that refer to a row that is removed. -/
  onDelete : String := "CASCADE"

/-- A table. -/
structure TableInfo where
  columns : List ColumnInfo
  /-- In the order of their names. -/
  indexes : List IndexInfo := []
  references : List ReferenceInfo := []

namespace ColumnInfo

/-- The identifier. -/
def key : ColumnInfo :=
  { name := "id", isPrimary := true }

/-- A number, a time or a long text that has to be given. -/
def required (name : String) : ColumnInfo :=
  { name := name }

/-- A number, a time or a long text that may be null. -/
def optional (name : String) : ColumnInfo :=
  { name := name, isRequired := false }

/-- A text that has to be given. -/
def text (name : String) (width : Nat) : ColumnInfo :=
  { name := name, width := some width }

/-- A text that may be null. -/
def optionalText (name : String) (width : Nat) : ColumnInfo :=
  { name := name, width := some width, isRequired := false }

/-- A tag with a value where none is given. -/
def tag (name default : String) : ColumnInfo :=
  { name := name, width := some 16, default := some ("'" ++ default ++ "'") }

/-- A number that starts at zero. -/
def counter (name : String) : ColumnInfo :=
  { name := name, default := some "0" }

/-- A time that is that of the insertion where none is given. -/
def time (name : String) : ColumnInfo :=
  { name := name, default := some "CURRENT_TIMESTAMP" }

end ColumnInfo

open ColumnInfo

/-- What a table is made of. -/
def schema : TableName → TableInfo
  | .user =>
    { columns := [key, text "username" 64, optionalText "email" 255,
        optionalText "phone" 32, optionalText "password_hash" 255,
        optionalText "nickname" 100, optionalText "avatar" 500, optional "bio",
        tag "gender" "unknown", optionalText "location" 100, tag "status" "active",
        tag "role" "user", counter "login_count", optional "last_login_at",
        time "created_at", time "updated_at"]
      indexes := [{ name := "idx_user_email", columns := ["email"], isUnique := true },
        { name := "idx_user_username", columns := ["username"], isUnique := true }] }
  | .category =>
    { columns := [key, text "name" 100, optional "description", counter "parent_id",
        optionalText "icon_url" 500, counter "sort", counter "content_count",
        tag "status" "active", time "created_at", time "updated_at"]
      indexes := [{ name := "idx_category_parent_id", columns := ["parent_id"] },
        { name := "idx_category_parent_name_active", columns := ["parent_id", "name"],
          isUnique := true, isPartial := true }] }
  | .content =>
    { columns := [key, text "title" 200, optional "description", text "content_type" 32,
        optionalText "tags" 500, optionalText "cover_url" 500, required "author_id",
        optionalText "author_nickname" 100, tag "status" "DRAFT",
        tag "review_status" "PENDING", counter "view_count", counter "like_count",
        counter "favorite_count", time "created_at", time "updated_at"]
      indexes :=
        [{ name := "idx_content_status_review", columns := ["status", "review_status"] }] }
  | .comment =>
    { columns := [key, required "content_id", required "user_id", required "body",
        counter "like_count", time "created_at"] }
  | .dynamic =>
    { columns :=
      [key, required "user_id", required "body", counter "like_count", time "created_at"] }
  | .goods =>
    { columns := [key, text "name" 200, optional "description",
        optionalText "cover_url" 500, required "seller_id", tag "status" "active",
        counter "favorite_count", time "created_at", time "updated_at"] }
  | .like =>
    { columns := [key, text "like_type" 16, required "target_id", required "user_id",
        optionalText "target_title" 200, optional "target_author_id",
        optionalText "user_nickname" 100, optionalText "user_avatar" 500,
        tag "status" "active", time "created_at", time "updated_at"]
      indexes :=
        [{ name := "idx_user_like_target_status",
           columns := ["like_type", "target_id", "status"] },
        { name := "idx_user_like_user_type_target",
          columns := ["user_id", "like_type", "target_id"], isUnique := true }]
      references := [{ column := "user_id", target := .user }] }
  | .favorite =>
    { columns := [key, text "favorite_type" 16, required "target_id", required "user_id",
        optionalText "target_title" 200, optionalText "target_cover" 500,
        optional "target_author_id", optionalText "user_nickname" 100,
        tag "status" "active", time "created_at", time "updated_at"]
      indexes :=
        [{ name := "idx_user_favorite_user_status_created",
           columns := ["user_id", "status", "created_at"] },
        { name := "idx_user_favorite_user_type_target",
          columns := ["user_id", "favorite_type", "target_id"], isUnique := true }]
      references := [{ column := "user_id", target := .user }] }
  | .history =>
    { columns := [key, required "user_id", text "keyword" 200, text "search_type" 16,
        counter "result_count", time "created_at"]
      indexes :=
        [{ name := "idx_search_history_user_created", columns := ["user_id", "created_at"] }]
      references := [{ column := "user_id", target := .user }] }
  | .hotSearch =>
    { columns := [key, text "keyword" 200, counter "search_count", counter "trend_score",
        tag "status" "active", time "created_at", time "updated_at"]
      indexes :=
        [{ name := "idx_hot_search_keyword", columns := ["keyword"], isUnique := true },
        { name := "idx_hot_search_status_count", columns := ["status", "search_count"] }] }

/-! ## Making the tables -/

/-- A step in which tables are made. -/
structure SchemaStep where
  name : String
  tables : List TableName

/-- The steps in their order. -/
def schemaSteps : List SchemaStep :=
  [⟨"m20250101_000001_create_user_table", [.user]⟩,
   ⟨"m20250101_000002_create_category_table", [.category]⟩,
   ⟨"m20250101_000003_create_target_tables", [.content, .comment, .dynamic, .goods]⟩,
   ⟨"m20250101_000004_create_like_table", [.like]⟩,
   ⟨"m20250101_000005_create_favorite_table", [.favorite]⟩,
   ⟨"m20250101_000006_create_search_tables", [.history, .hotSearch]⟩]

/-- Sets what statements see of a table: an empty table, or none. -/
def reset (isThere : Bool) (db : Database) (name : TableName) : Database :=
  match name with
  | .user => { db with users := slot db.users }
  | .category => { db with categories := slot db.categories }
  | .content => { db with contents := slot db.contents }
  | .comment => { db with comments := slot db.comments }
  | .dynamic => { db with dynamics := slot db.dynamics }
  | .goods => { db with goods := slot db.goods }
  | .like => { db with likes := slot db.likes }
  | .favorite => { db with favorites := slot db.favorites }
  | .history => { db with history := slot db.history }
  | .hotSearch => { db with hotSearches := slot db.hotSearches }
where
  /-- A table that is there already keeps its rows. -/
  slot {ρ : Type} (s : Slot ρ) : Slot ρ :=
    { s with table? := if isThere then s.table? <|> some {} else none }

/-- Whether statements see a table. -/
def isPresent (db : Database) : TableName → Bool
  | .user => db.users.table?.isSome
  | .category => db.categories.table?.isSome
  | .content => db.contents.table?.isSome
  | .comment => db.comments.table?.isSome
  | .dynamic => db.dynamics.table?.isSome
  | .goods => db.goods.table?.isSome
  | .like => db.likes.table?.isSome
  | .favorite => db.favorites.table?.isSome
  | .history => db.history.table?.isSome
  | .hotSearch => db.hotSearches.table?.isSome

/-- Takes the next step, if there is one. -/
def stepUp (db : Database) : Database :=
  match schemaSteps[db.steps]? with
  | some s => { s.tables.foldl (reset true) db with steps := db.steps + 1 }
  | none => db

/-- Removes tables one after the other, up to the first that statements do not see, and says
whether all were removed. -/
def removeTables (db : Database) : List TableName → Bool × Database
  | [] => (true, db)
  | t :: rest => if db.isPresent t then removeTables (reset false db t) rest else (false, db)

/-- Takes the last step back, if one was taken, and says whether that succeeds. The tables of
the step are removed, the latest first. -/
def stepDown (db : Database) : Bool × Database :=
  match db.steps with
  | 0 => (true, db)
  | n + 1 =>
    match db.removeTables ((schemaSteps[n]?.map SchemaStep.tables).getD []).reverse with
    | (true, db) => (true, { db with steps := n })
    | (false, db) => (false, db)

/-- Takes several steps. -/
def stepsUp : Nat → Database → Database
  | 0, db => db
  | n + 1, db => stepsUp n (stepUp db)

/-- Takes several steps back, up to the first that does not succeed. -/
def stepsDown : Nat → Database → Bool × Database
  | 0, db => (true, db)
  | n + 1, db =>
    match stepDown db with
    | (true, db) => stepsDown n db
    | (false, db) => (false, db)

/-- Takes the steps that are still to be taken: all of them, or the first of them. -/
def migrateUp (count? : Option Nat) (db : Database) : Database :=
  stepsUp (min (count?.getD schemaSteps.length) schemaSteps.length) db

/-- Takes steps back: all of them, or the last ones; and says whether that succeeds. -/
def migrateDown (count? : Option Nat) (db : Database) : Bool × Database :=
  stepsDown (min (count?.getD schemaSteps.length) schemaSteps.length) db

/-- Takes all steps back and takes them again, unless a step back does not succeed. -/
def remake (db : Database) : Bool × Database :=
  match db.migrateDown none with
  | (true, db) => (true, migrateUp none db)
  | (false, db) => (false, db)

/-- The database with all its tables, which are empty. -/
def fresh : Database :=
  migrateUp none {}

/-- The names of the steps that have been taken. -/
def stepNames (db : Database) : List String :=
  (schemaSteps.take db.steps).map SchemaStep.name

/-- The tables that statements see. -/
def presentTables (db : Database) : List TableName :=
  Tag.all.filter db.isPresent

/-! ## Opening -/

/-- The characters of a text that count when it is read as a URL: no line breaks and
tabulators, and no control characters and spaces in front. -/
def urlChars (s : String) : List Char :=
  (s.toList.dropWhile fun c => c ≤ ' ').filter fun c => c ≠ '\t' ∧ c ≠ '\n' ∧ c ≠ '\r'

/-- Whether a text names a scheme, as every URL does: a letter, then letters, digits, plus
signs, hyphens and points up to a colon. -/
def namesScheme (s : String) : Bool :=
  match urlChars s with
  | [] => false
  | c :: cs =>
    c.isAlpha &&
      (cs.dropWhile fun c => c.isAlphanum || c == '+' || c == '-' ||
        c == '.').head? == some ':'

/-- Opens the database that a URL names. Only one in memory can be opened
without a server. -/
def connect (url : String) : Except Fault Database :=
  if url = "sqlite::memory:" then .ok {}
  else
    let reason := if namesScheme url then "has no supporting driver" else "cannot be parsed"
    .error (.connection ("The connection string '" ++ url ++ "' " ++ reason ++ "."))

end Community.Database

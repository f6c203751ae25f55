import Community.Proofs.Cache.Key
import Community.Proofs.Cache.Uncached
import Community.Proofs.Cache.Values

/-!
# What is read through the cache

Five kinds of values are read through the cache. `Cached` names them one by one,
and for each of them

* `key` is where it is kept,
* `answer` is what the database says about it,
* `table` is the only table that is asked.

No two of them are kept under one key, whatever a client has chosen for a keyword, and
the keys of lists and of all that is about categories belong to the families that are
removed when they change:

> `key_injective`: values under one key are the same value.
-/

namespace Community

open Json Procedure Database

/-- A value that is read through the cache. -/
inductive Cached
  | category (id : Int)
  | forest
  | profile (id : Int)
  | users (keyword : String) (status : Option UserStatus)
    (role : Option UserRole) (page : Page)
  | favorites (userId : Int) (type : Option FavoriteType)
    (status : RelationStatus) (page : Page)

namespace Cached

/-- The type of the value. -/
def Value : Cached → Type
  | category _ => Category
  | forest => List CategoryNode
  | profile _ => Profile
  | users .. => Listing Profile
  | favorites .. => Listing Favorite

instance (c : Cached) : Encode c.Value :=
  match c with
  | category _ => inferInstanceAs (Encode Category)
  | forest => inferInstanceAs (Encode (List CategoryNode))
  | profile _ => inferInstanceAs (Encode Profile)
  | users .. => inferInstanceAs (Encode (Listing Profile))
  | favorites .. => inferInstanceAs (Encode (Listing Favorite))

instance (c : Cached) : Decode c.Value :=
  match c with
  | category _ => inferInstanceAs (Decode Category)
  | forest => inferInstanceAs (Decode (List CategoryNode))
  | profile _ => inferInstanceAs (Decode Profile)
  | users .. => inferInstanceAs (Decode (Listing Profile))
  | favorites .. => inferInstanceAs (Decode (Listing Favorite))

/-- The key under which the value is kept. -/
def key : Cached → String
  | category id => Category.infoKey id
  | forest => Category.treeKey
  | profile id => User.infoKey id
  | users keyword status role page =>
    Cache.keyOf "user:list" [keyword, (status.map Tag.spelling).getD "",
      (role.map Tag.spelling).getD "", toString page.number, toString page.size]
  | favorites userId type status page =>
    Cache.keyOf "favorite:list" [toString userId, (type.map Tag.spelling).getD "all",
      Tag.spelling status, toString page.number, toString page.size]

/-- The category with the identifier, if it is active. -/
def active (id : Int) (db : Database) : Except Problem (Option Category) := do
  return (← Problem.ofStatement (Category.find id db)).filter Category.Columns.isActive

/-- The value as the database has it. -/
def answer : (c : Cached) → Database → Except Problem c.Value
  | category id, db => do
    match ← active id db with
    | some c => .ok c
    | none => .error (.categoryMissing id)
  | forest, db => do
    let rows ← Problem.ofStatement (Category.allActive db)
    (Category.buildForest rows).mapError .hierarchy
  | profile id, db => do
    match ← Problem.ofStatement (User.find id db) with
    | some u => .ok (.owned u)
    | none => .error (.userMissing id)
  | users keyword status role page, db => do
    let (rows, total) ← Problem.ofStatement
        (User.select ⟨some keyword, status, role⟩ page db)
    return (Listing.of rows total page).map Profile.shown
  | favorites userId type status page, db => do
    let (rows, total) ← Problem.ofStatement (Favorite.ofUser userId type status page db)
    return .of rows total page

/-- The table that the answer comes from. -/
def table : Cached → TableName
  | category _ | forest => .category
  | profile _ | users .. => .user
  | favorites .. => .favorite

/-- What is cached comes from three tables. -/
theorem table_cases (c : Cached) :
    c.table = .category ∨ c.table = .user ∨ c.table = .favorite := by
  cases c <;> simp [table]

/-- No value is about the things that are liked and kept. -/
theorem table_not_target (c : Cached) : c.table ∉ targetTables := by
  rcases c.table_cases with h | h | h <;> rw [h] <;> decide

/-- The answer stays the same as long as its table does. -/
theorem answer_agreeOff {c : Cached} {names : List TableName} {db db' : Database}
    (h : AgreeOff names db db') (hname : c.table ∉ names) : c.answer db' = c.answer db := by
  cases c with
  | category id =>
    have hfind : Category.find id db' = Category.find id db := findFirst_agreeOff h hname _
    rw [answer, answer, active, active, hfind]
  | forest =>
    have hall : Category.allActive db' = Category.allActive db := all_agreeOff h hname _ _
    rw [answer, answer, hall]
  | profile id =>
    have hfind : User.find id db' = User.find id db := findFirst_agreeOff h hname _
    rw [answer, answer, hfind]
  | users keyword status role page =>
    have hselect : User.select ⟨some keyword, status, role⟩ page db'
        = User.select ⟨some keyword, status, role⟩ page db := page_agreeOff h hname _ _ _
    rw [answer, answer, hselect]
  | favorites userId type status page =>
    have hselect : Favorite.ofUser userId type status page db'
        = Favorite.ofUser userId type status page db := page_agreeOff h hname _ _ _
    rw [answer, answer, hselect]

/-! ## Keys -/

/-- The characters that the keys of a kind begin with. -/
def label : Cached → String
  | category _ => "category:i"
  | forest => "category:t"
  | profile _ => "user:info:"
  | users .. => "user:list:"
  | favorites .. => "favorite:l"

theorem key_label (c : Cached) : c.key.toList.take 10 = c.label.toList := by
  have hspace : ∀ (space label part : String) (parts : List String),
      (∀ rest, (space.toList ++ ':' :: rest).take 10 = label.toList) →
      (Cache.keyOf space (part :: parts)).toList.take 10 = label.toList := by
    intro space label part parts h
    rw [Cache.toList_keyOf]
    exact h _
  cases c with
  | category id => exact hspace "category:info" "category:i" _ _ fun _ => rfl
  | forest => rfl
  | profile id => exact hspace "user:info" "user:info:" _ _ fun _ => rfl
  | users => exact hspace "user:list" "user:list:" _ _ fun _ => rfl
  | favorites => exact hspace "favorite:list" "favorite:l" _ _ fun _ => rfl

/-- A choice of a tag, or of none, is told from its text. -/
theorem choice_inj {α : Type} [Tag α] {none? : String} {a b : Option α}
    (htag : ∀ a : α, Tag.ofText? (Tag.spelling a) = some a)
    (hnone : Tag.ofText? none? = (none : Option α))
    (h : (a.map Tag.spelling).getD none? = (b.map Tag.spelling).getD none?) : a = b := by
  have hread : ∀ o : Option α, Tag.ofText? ((o.map Tag.spelling).getD none?) = o := by
    intro o
    cases o with
    | none => exact hnone
    | some a => exact htag a
  rw [← hread a, h, hread b]

/-- A tag that may be left out is spelled without a colon. -/
theorem plain_choice {α : Type} [Tag α] (none? : String) (hnone : ':' ∉ none?.toList)
    (htag : ∀ a : α, ':' ∉ (Tag.spelling a).toList) (o : Option α) :
    ':' ∉ ((o.map Tag.spelling).getD none?).toList := by
  cases o with
  | none => exact hnone
  | some a => exact htag a

/-- The parts of two keys in one namespace join to the same. -/
theorem joined_eq {space : String} {ps qs : List String}
    (h : Cache.keyOf space ps = Cache.keyOf space qs) :
    Cache.joined ps = Cache.joined qs := by
  have hchars := congrArg String.toList h
  rw [Cache.toList_keyOf, Cache.toList_keyOf] at hchars
  exact List.append_cancel_left hchars

/-- Keys of one id are the same for the same id only. -/
theorem id_eq {space : String} {m n : Int}
    (h : Cache.keyOf space [toString m] = Cache.keyOf space [toString n]) : m = n :=
  Text.toString_injective
    (Cache.joined_cons_inj (Cache.plain_toString m) (Cache.plain_toString n) (joined_eq h)).1

/-- A page is told from the parts that name it, at the end of a key. -/
theorem page_eq (ps qs : List String) {p q : Page}
    (h : Cache.joined (ps ++ [toString p.number, toString p.size])
      = Cache.joined (qs ++ [toString q.number, toString q.size])) :
    Cache.joined ps = Cache.joined qs ∧ p = q := by
  have hnat : ∀ n : Nat, ':' ∉ (toString n).toList := fun n => Cache.plain_toString n
  have hinj : ∀ m n : Nat, toString m = toString n → m = n := fun m n hmn =>
    Int.ofNat_inj.mp (Text.toString_injective hmn)
  rw [List.append_cons ps, List.append_cons qs] at h
  obtain ⟨hnumber, hsize⟩ := Cache.joined_concat_inj _ _ (hnat _) (hnat _) h
  obtain ⟨hrest, hnumber⟩ := Cache.joined_concat_inj _ _ (hnat _) (hnat _) hnumber
  exact ⟨hrest, congrArg₂ Page.mk (hinj _ _ hnumber) (hinj _ _ hsize)⟩

/-- The key of a page of users tells the filter and the page. -/
theorem users_eq {keyword keyword' : String} {status status' : Option UserStatus}
    {role role' : Option UserRole} {page page' : Page}
    (h : (users keyword status role page).key = (users keyword' status' role' page').key) :
    users keyword status role page = users keyword' status' role' page' := by
  have hstatus : ∀ s : UserStatus, ':' ∉ (Tag.spelling s).toList := by
    intro s
    cases s <;> decide
  have hrole : ∀ r : UserRole, ':' ∉ (Tag.spelling r).toList := by
    intro r
    cases r <;> decide
  -- from the back, since the keyword may have colons in it
  obtain ⟨hparts, rfl⟩ := page_eq [_, _, _] [_, _, _] (joined_eq h)
  obtain ⟨hfront, hlast⟩ := Cache.joined_concat_inj [_, _] [_, _]
    (plain_choice "" (by decide) hrole role) (plain_choice "" (by decide) hrole role') hparts
  obtain ⟨hfirst, hmiddle⟩ := Cache.joined_concat_inj [_] [_]
    (plain_choice "" (by decide) hstatus status)
      (plain_choice "" (by decide) hstatus status') hfront
  have hkeyword : some keyword = some keyword' := Cache.joined_option_inj hfirst
  cases choice_inj UserRole.ofText?_spelling (by decide) hlast
  cases choice_inj UserStatus.ofText?_spelling (by decide) hmiddle
  cases hkeyword
  rfl

/-- The key of a page of favorites tells the user, the filter and the page. -/
theorem favorites_eq {userId userId' : Int} {type type' : Option FavoriteType}
    {status status' : RelationStatus} {page page' : Page}
    (h : (favorites userId type status page).key =
      (favorites userId' type' status' page').key) :
    favorites userId type status page = favorites userId' type' status' page' := by
  have htype : ∀ t : FavoriteType, ':' ∉ (Tag.spelling t).toList := by
    intro t
    cases t <;> decide
  have hstatus : ∀ s : RelationStatus, ':' ∉ (Tag.spelling s).toList := by
    intro s
    cases s <;> decide
  obtain ⟨huser, hparts⟩ :=
    Cache.joined_cons_inj (Cache.plain_toString _) (Cache.plain_toString _)
      (joined_eq h)
  obtain ⟨hfirst, hparts⟩ :=
    Cache.joined_cons_inj (plain_choice "all" (by decide) htype type)
      (plain_choice "all" (by decide) htype type') hparts
  obtain ⟨hnext, hparts⟩ := Cache.joined_cons_inj (hstatus status) (hstatus status') hparts
  obtain ⟨-, rfl⟩ := page_eq [] [] hparts
  cases Text.toString_injective huser
  cases choice_inj FavoriteType.ofText?_spelling (by decide) hfirst
  have hsame : some status = some status' := by
    rw [← RelationStatus.ofText?_spelling status, hnext,
      RelationStatus.ofText?_spelling status']
  cases hsame
  rfl

/-- Values under one key are the same value. -/
theorem key_injective {c c' : Cached} (h : c.key = c'.key) : c = c' := by
  -- the first characters tell the kind
  have hlabel : c.label = c'.label := by
    rw [← String.toList_inj, ← key_label, ← key_label, h]
  cases c with
  | category id =>
    cases c' with
    | category id' => exact congrArg category (id_eq h)
    | _ => simp [label] at hlabel
  | forest =>
    cases c' with
    | forest => rfl
    | _ => simp [label] at hlabel
  | profile id =>
    cases c' with
    | profile id' => exact congrArg profile (id_eq h)
    | _ => simp [label] at hlabel
  | users keyword status role page =>
    cases c' with
    | users keyword' status' role' page' => exact users_eq h
    | _ => simp [label] at hlabel
  | favorites userId type status page =>
    cases c' with
    | favorites userId' type' status' page' => exact favorites_eq h
    | _ => simp [label] at hlabel

/-! ## Families -/

/-- Every key of the categories matches their family. -/
theorem matches_category {c : Cached} (h : c.table = .category) :
    Glob.matchesKey Category.family c.key = true := by
  have hspelling : Category.family.toList = "category:".toList ++ ['*'] := rfl
  cases c with
  | category id =>
    refine (Glob.matchesKey_iff_begins hspelling (by decide)).mpr ?_
    rw [key, Category.infoKey, Cache.toList_keyOf]
    exact ⟨_, rfl⟩
  | forest => decide
  | _ => cases h

/-- Every key of the favorites matches their family. -/
theorem matches_favorite {c : Cached} (h : c.table = .favorite) :
    Glob.matchesKey Favorite.family c.key = true := by
  have hspelling : Favorite.family.toList = "favorite:".toList ++ ['*'] := rfl
  cases c with
  | favorites userId type status page =>
    refine (Glob.matchesKey_iff_begins hspelling (by decide)).mpr ?_
    rw [key, Cache.toList_keyOf]
    exact ⟨_, rfl⟩
  | _ => cases h

/-- Every page of users matches the family of the pages. -/
theorem matches_users (keyword : String) (status : Option UserStatus)
    (role : Option UserRole) (page : Page) :
    Glob.matchesKey User.listFamily (users keyword status role page).key = true := by
  have hspelling : User.listFamily.toList = "user:list:".toList ++ ['*'] := rfl
  refine (Glob.matchesKey_iff_begins hspelling (by decide)).mpr ?_
  rw [key, Cache.toList_keyOf]
  exact ⟨_, rfl⟩

end Cached

end Community

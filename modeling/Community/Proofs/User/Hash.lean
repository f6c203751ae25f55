import Community.Proofs.User.Overlook
import Community.Search.Service
import Community.User.Service

/-!
# What depends on password hashes

The sign-in service keeps them in the table of users. Nothing that this service does
depends on them: users are not picked or ordered by their hashes, nor are hashes
compared where values have to be unique; a profile has no hash in it, and a changed user
keeps the one that is stored.

The services that have to do with other tables are unaware of any veil over the users, and
are covered here for all veils.
-/

namespace Community

open Database Procedure

variable {v : User.Veil}

namespace Category

/-- Looking for an active category shows nothing of users. -/
theorem unaware_findActive (id : Int) : Unaware v (findActive id) :=
  .bind (.findFirst _) fun _ => .pure _

/-- Whether a category may have a parent does not depend on users. -/
theorem unaware_ensureParent (parentId : Int) : Unaware v (ensureParent parentId) := by
  unfold ensureParent
  split
  · exact .pure _
  · exact .bind (unaware_findActive parentId) fun _ => .ite (.throw _) (.pure _)

/-- Whether a name is free among siblings does not depend on users. -/
theorem unaware_ensureFreeName (parentId : Int) (name : String) (except? : Option Int) :
    Unaware v (ensureFreeName parentId name except?) := by
  refine .bind (.findFirst _) fun found => ?_
  cases found with
  | none => exact .pure _
  | some other => exact .ite (.throw _) (.pure _)

/-- A category is found whatever the hashes of passwords are. -/
theorem find_veiled (id : Int) (db : Database) : find id (db.veiled v) = find id db :=
  findFirst_agreeOff (agreeOff_veiled v db) (by decide) _

/-- The walk to the root is that of the table of categories alone. -/
theorem climb_veiled (db : Database) (start : Int) (fuel : Nat) (passed : List Int)
    (c : Category) :
    climb (db.veiled v) start fuel passed c = climb db start fuel passed c := by
  induction fuel generalizing passed c with
  | zero => rfl
  | succ fuel ih => simp only [climb, find_veiled, ih]

/-- The way up from a category is the same through the veil. -/
theorem isAbove_veiled (db : Database) (id start : Int) (fuel : Nat) (passed : List Int)
    (current : Int) :
    isAbove (db.veiled v) id start fuel passed current =
      isAbove db id start fuel passed current := by
  induction fuel generalizing passed current with
  | zero => rfl
  | succ fuel ih => simp only [isAbove, find_veiled, ih]

/-- So is the way up from one. -/
theorem isWithin_veiled (db : Database) (start id : Int) :
    isWithin (db.veiled v) start id = isWithin db start id :=
  isAbove_veiled db id start _ _ _

/-- Whether a category may be moved does not depend on users. -/
theorem unaware_ensureMove (id parentId : Int) : Unaware v (ensureMove id parentId) := by
  have hwithin : Unaware v (do
      if ← check (isWithin (← get).database parentId id) then throw .descendantParent) := by
    refine .bind_get (fun w => ?_) fun w => .bind (.check _) fun _ =>
      .ite (.throw _) (.pure _)
    rw [World.veiled, isWithin_veiled]
  have hrest := (unaware_ensureParent (v := v) parentId).bind fun _ => hwithin
  unfold ensureMove
  split
  · exact .bind (.throw _) fun _ => hrest
  · exact hrest

/-- Whether a category may be changed does not depend on users. -/
theorem unaware_ensureChange (id : Int) (c next : Category) :
    Unaware v (ensureChange id c next) := by
  have hname : Unaware v (do
      if next.name ≠ c.name ∨ next.parentId ≠ c.parentId then
        ensureFreeName next.parentId next.name (some id)) :=
    .ite (unaware_ensureFreeName _ _ _) (.pure _)
  exact .ite (.bind (unaware_ensureMove id next.parentId) fun _ => hname) hname

/-- Making a category shows nothing of users. -/
theorem unaware_create (r : NewCategory) : Unaware v (create r) := by
  refine .bind (.check _) fun _ => .bind (unaware_ensureParent _) fun _ => ?_
  refine .bind (unaware_ensureFreeName _ _ _) fun _ => .bind .now fun now => ?_
  exact .bind (.writeRow (overlooks_insert _)) fun c =>
    .bind (.forgetFamilies _) fun _ => .pure _

/-- Changing a category shows nothing of users. -/
theorem unaware_change (id : Int) (r : CategoryChange) : Unaware v (change id r) := by
  refine .bind (.check _) fun _ => .bind (.findFirst _) fun found => ?_
  cases found with
  | none => exact .throw _
  | some c =>
    refine .bind .now fun now => .bind (unaware_ensureChange id c _) fun _ => ?_
    exact .bind (.writeRow (overlooks_replace _)) fun c =>
      .bind (.forgetFamilies _) fun _ => .pure _

/-- Removing a category shows nothing of users. -/
theorem unaware_remove (id : Int) : Unaware v (remove id) := by
  have hchildren : Unaware v (do
      let children ← query (childCount id)
      if children > 0 then throw (.activeChildren id children)) :=
    .bind (.count _) fun _ => .ite (.throw _) (.pure _)
  have hunused : Unaware v (ensureUnused id) := by
    refine .bind (.findFirst _) fun found => ?_
    split
    · exact .bind (.throw _) fun _ => hchildren
    · exact hchildren
  exact .bind hunused fun _ => .bind (.write (overlooks_erase id)) fun _ => .forgetFamilies _

/-- Categories are shown without a look at any hash. -/
theorem unaware_view (id : Int) : Unaware v (view id) := by
  refine .readThrough (.bind (unaware_findActive id) fun found => ?_)
  cases found with
  | some c => exact .pure _
  | none => exact .throw _

theorem unaware_list (filter : CategoryFilter) (p : Page) : Unaware v (list filter p) :=
  .bind (.page _ _ _) fun _ => .pure _

theorem unaware_tree : Unaware v tree :=
  .readThrough (.bind (.all _ _) fun _ => .check _)

/-- The ancestors of a category show nothing of users. -/
theorem unaware_ancestors (id : Int) : Unaware v (ancestors id) := by
  refine .bind (unaware_findActive id) fun found => ?_
  cases found with
  | none => exact .pure _
  | some c =>
    refine .bind_get (fun w => ?_) fun w => .bind (.check _) fun _ => .pure _
    have hsame : climb (w.veiled v).database id (rowCount (w.veiled v).database + 1) [c.id] c
        = climb w.database id (rowCount w.database + 1) [c.id] c :=
      climb_veiled w.database id _ _ c
    dsimp only
    rw [hsame]

end Category

namespace Relation

variable {ρ ω : Type}

/-- A toggle is carried out without a look at users if its statements overlook them. -/
theorem unaware_carryOut {change : Time.Timestamp → Database → Except Problem (ρ × Database)}
    (hchange : ∀ now, Overlooks v (change now)) (families : List String) (outcome : ρ → ω) :
    Unaware v (carryOut change families outcome) := by
  refine .bind .now fun now => .bind (.transact (hchange now)) fun _ => ?_
  exact .bind (.forgetFamilies _) fun _ => .pure _

/-- A request to toggle shows no more of users than what carries it out. -/
theorem unaware_request [Encode ω] [Json.Decode ω] {issues : List Issue} {marker : String}
    {carryOut : Procedure ω} (h : Unaware v carryOut) :
    Unaware v (request issues marker carryOut) :=
  .bind (.check _) fun _ => .readThrough h

end Relation

namespace Like

/-- A like is toggled without a look at any hash. -/
theorem unaware_request (userId : Int) (r : LikeToggle) (requestId : Option String) :
    Unaware v (request userId r requestId) :=
  Relation.unaware_request
    (Relation.unaware_carryOut (fun now => (toggling userId r now).overlooks_run) _ _)

theorem unaware_mine (userId : Int) (type : Option LikeType) (p : Page) :
    Unaware v (mine userId type p) :=
  .bind (.page _ _ _) fun _ => .pure _

theorem unaware_likers (type : LikeType) (targetId : Int) (p : Page) :
    Unaware v (likers type targetId p) :=
  .bind (.page _ _ _) fun _ => .pure _

theorem unaware_isLiked (userId : Int) (type : LikeType) (targetId : Int) :
    Unaware v (isLiked userId type targetId) :=
  .bind (.findFirst _) fun _ => .pure _

end Like

namespace Favorite

/-- So is a favorite. -/
theorem unaware_request (userId : Int) (r : FavoriteToggle) (requestId : Option String) :
    Unaware v (request userId r requestId) :=
  Relation.unaware_request
    (Relation.unaware_carryOut (fun now => (toggling userId r now).overlooks_run) _ _)

theorem unaware_list (userId : Int) (filter : FavoriteFilter) (p : Page) :
    Unaware v (list userId filter p) :=
  .readThrough (.bind (.page _ _ _) fun _ => .pure _)

theorem unaware_isKept (userId : Int) (type : FavoriteType) (targetId : Int) :
    Unaware v (isKept userId type targetId) :=
  .bind (.findFirst _) fun _ => .pure _

end Favorite

/-! ## Users -/

namespace User

/-- A user without the password hash. -/
def Columns.hashless {col : Type → Type} (u : Columns col) : Columns col :=
  { u with passwordHash := none }

/-- The veil over all password hashes. -/
def Veil.hashes : Veil where
  row := Columns.hashless
  user := Columns.hashless
  id_row _ := rfl
  read?_row r := by
    obtain ⟨_, _, _, _, _, _, _, _, gender, _, status, role, _, _, _, _⟩ := r
    cases gender <;> cases status <;> cases role <;> rfl

/-- A user who is picked by something else than the hash. -/
theorem mirrors_findFirst {pick : Row → Bool} (hpick : ∀ u, pick u.hashless = pick u) :
    Mirrors .hashes (Option.map Columns.hashless) (query (findFirst pick))
      (query (findFirst pick)) :=
  .query fun _ => findFirst_veiled (v := .hashes) hpick

/-- A page of users who are picked by something else than the hash. -/
theorem mirrors_page {pick : Row → Bool} (hpick : ∀ u, pick u.hashless = pick u) (p : Page) :
    Mirrors .hashes (fun found : List User × Nat => (found.1.map Columns.hashless, found.2))
      (query (page pick listOrder p)) (query (page pick listOrder p)) :=
  .query fun _ => page_veiled (v := .hashes) hpick (fun _ _ => rfl) p

/-- A profile shows nothing of the password hash of its user. -/
theorem unaware_profile (id : Int) (viewer : Option Int) :
    Unaware .hashes (profile id viewer) := by
  refine .bind (.readThrough (Mirrors.bind (mirrors_findFirst fun _ => rfl) fun found => ?_))
    fun _ => .pure _
  cases found with
  | some u => exact .pure (Profile.owned u)
  | none => exact .throw _

/-- Lists of users show nothing of their password hashes. -/
theorem unaware_list (filter : UserFilter) (p : Page) : Unaware .hashes (list filter p) := by
  refine .readThrough (Mirrors.bind (mirrors_page (fun _ => rfl) p) fun found => ?_)
  obtain ⟨us, total⟩ := found
  have hshown : (Listing.of (us.map Columns.hashless) total p).map Profile.shown
      = (Listing.of us total p).map Profile.shown := by
    simp only [Listing.map, Listing.of, List.map_map]
    rfl
  dsimp only
  rw [hshown]
  exact .pure _

/-- Whether there is such a user does not depend on the hashes. -/
theorem unaware_refusal {pick : Row → Bool} (hpick : ∀ u, pick u.hashless = pick u)
    (p : Problem) :
    Unaware .hashes (do if (← query (findFirst pick)).isSome then throw p) := by
  refine Mirrors.bind (mirrors_findFirst hpick) fun found => ?_
  cases found with
  | none => exact .pure _
  | some other => exact .throw _

/-- Whether a username is free does not depend on password hashes. -/
theorem unaware_ensureFreeUsername (u : User) (r : ProfileChange) :
    Unaware .hashes (ensureFreeUsername u r) := by
  unfold ensureFreeUsername
  split
  · exact .pure _
  · exact .ite (unaware_refusal (fun _ => rfl) _) (.pure _)

/-- Whether a mail address is free does not depend on password hashes. -/
theorem unaware_ensureFreeEmail (u : User) (r : ProfileChange) :
    Unaware .hashes (ensureFreeEmail u r) := by
  unfold ensureFreeEmail
  split
  · exact .pure _
  · exact .ite (unaware_refusal (fun _ => rfl) _) (.pure _)

/-- A user keeps the hash in a change, so that the change is the same without it. -/
theorem mirrors_replace (u : User) (r : ProfileChange) (now : Time.Timestamp) :
    Mirrors .hashes Columns.hashless (writeRow (replace (u.hashless.changed r now)))
      (writeRow (replace (u.changed r now))) := by
  refine .writeRow (g := Columns.hashless) (fun db => ?_) (readRow_veiled (v := .hashes))
  exact replace_veiled (v := .hashes) (fun _ _ => rfl) (u.changed r now).stored

/-- Changing a profile keeps the password hash, and shows nothing of it. -/
theorem unaware_change (id : Int) (r : ProfileChange) : Unaware .hashes (change id r) := by
  refine .bind (.check _) fun _ =>
    Mirrors.bind (mirrors_findFirst fun _ => rfl) fun found => ?_
  cases found with
  | none => exact .throw _
  | some u =>
    refine Mirrors.bind (unaware_ensureFreeUsername u r) fun _ => ?_
    refine Mirrors.bind (unaware_ensureFreeEmail u r) fun _ =>
      Mirrors.bind Unaware.now fun now => ?_
    refine Mirrors.bind (mirrors_replace u r now) fun stored => ?_
    refine Mirrors.bind (Unaware.forget _) fun _ =>
      Mirrors.bind (Unaware.forgetFamilies _) fun _ => ?_
    exact .pure (Profile.owned stored)

end User

namespace Search

/-- What a search finds shows nothing of password hashes. -/
theorem unaware_hits (r : SearchRequest) (p : Page) : Unaware .hashes (hits r p) := by
  unfold hits
  split
  · exact .bind (.page _ _ _) fun _ => .pure _
  · exact .bind (.page _ _ _) fun _ => .pure _
  · refine Mirrors.bind (User.mirrors_page (fun _ => rfl) p) fun found => ?_
    obtain ⟨us, total⟩ := found
    have hshown : (us.map User.Columns.hashless).map (fun u => SearchHit.user (.shown u))
        = us.map fun u => .user (.shown u) := by
      rw [List.map_map]
      rfl
    dsimp only
    rw [hshown]
    exact .pure _

/-- A search shows nothing of password hashes, and its traces hold nothing of them. -/
theorem unaware_run (r : SearchRequest) (userId : Option Int) (p : Page) :
    Unaware .hashes (run r userId p) := by
  have hkeyword : Unaware .hashes (ensureKeyword r) :=
    .bind (.check _) fun _ => .ite (.throw _) (.pure _)
  refine .bind hkeyword fun _ => .bind (unaware_hits r p) fun found => ?_
  have hrecord : Unaware .hashes (recordFor userId r found.2) := by
    unfold recordFor
    split
    · exact .bind .now fun now => .attempt (overlooks_insert _)
    · exact .pure _
  refine .bind (.bind hrecord fun _ => .bind .now fun now => ?_) fun _ => .pure _
  exact .attempt (HotSearch.overlooks_bump _ _)

/-- The history of searches is shown without a look at any hash. -/
theorem unaware_history (userId : Int) (type : Option SearchType) (limit : Option Nat) :
    Unaware v (history userId type limit) :=
  .bind (.check _) fun _ => .top _ _ _

theorem unaware_hot (limit : Option Nat) : Unaware v (hot limit) :=
  .bind (.check _) fun _ => .bind (.top _ _ _) fun _ => .pure _

end Search

end Community

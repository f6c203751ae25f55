import Community.Http.Router
import Community.Proofs.Http.Service
import Community.Proofs.Rows
import Community.Proofs.User.Change

/-!
# What an endpoint does to the database

`Effect` lists, endpoint by endpoint, what can become of the database and which caller it
takes. Each of the endpoints that write asks for its caller and hands on the identifier that
the caller has (`Endpoint.Serves`), never one from the body or the path:

> `Endpoint.effect`: what an endpoint does is an effect of its list.

Everything else only reads, and a read goes through the cache at most.
-/

namespace Community

open Database

/-! ## What a procedure does to the database -/

namespace Procedure

variable {α β : Type} {R S : Database → Database → Prop}

/-- What `a` does to the database is in `R`. -/
def Does (R : Database → Database → Prop) (a : Procedure α) : Prop :=
  ∀ w, R w.database (a.perform w).2.database

namespace Does

/-- What leaves the database as it is does whatever an unchanged database allows. -/
theorem of_leaves {a : Procedure α} (hself : ∀ db, R db db) (ha : Leaves World.database a) :
    Does R a := by
  intro w
  rw [ha w]
  exact hself w.database

/-- Two procedures in turn do what one does, and then the other. -/
theorem bind {a : Procedure α} {g : α → Procedure β} (hself : ∀ db, S db db) (ha : Does R a)
    (hg : ∀ x, Does S (g x)) :
    Does (fun db db' => ∃ db₁, R db db₁ ∧ S db₁ db') (a >>= g) := by
  intro w
  have hfirst := ha w
  rw [perform_bind]
  rcases h : a.perform w with ⟨p | x, v⟩
  · rw [h] at hfirst
    exact ⟨_, hfirst, hself _⟩
  · rw [h] at hfirst
    exact ⟨_, hfirst, hg x v⟩

/-- What comes before only asks. -/
theorem bind_asked {a : Procedure α} {g : α → Procedure β} (hself : ∀ db, R db db)
    (ha : Leaves World.database a) (hg : ∀ x, Does R (g x)) : Does R (a >>= g) := by
  intro w
  obtain ⟨db₁, hsame, h⟩ :=
    bind hself (of_leaves (R := fun db db' => db' = db) (fun _ => rfl) ha) hg w
  exact hsame ▸ h

/-- What comes after does nothing. -/
theorem bind_done {a : Procedure α} {g : α → Procedure β} (ha : Does R a)
    (hg : ∀ x, Leaves World.database (g x)) : Does R (a >>= g) := by
  intro w
  obtain ⟨db₁, h, hsame⟩ := bind (S := fun db db' => db' = db) (fun _ => rfl) ha
    (fun x => of_leaves (fun _ => rfl) (hg x)) w
  rw [hsame]
  exact h

/-- A write that may fail does what it does when it succeeds, or nothing. -/
theorem attempt {q : Database → Except Database.Fault (α × Database)} (hself : ∀ db, R db db)
    (hq : ∀ db a db', q db = .ok (a, db') → R db db') : Does R (attempt q) := by
  intro w
  rw [perform_attempt]
  split
  · next a db h => exact hq w.database a db h
  · exact hself w.database

end Does

end Procedure

open Procedure

theorem Database.AgreeOff.eq_of_nil {db db' : Database} (h : AgreeOff [] db db') :
    db' = db := by
  have hslot : ∀ name, db'.slotAt name = db.slotAt name :=
    fun name => h.slotAt name List.not_mem_nil
  obtain ⟨users, categories, contents, comments, dynamics, goods, likes, favorites, history,
      hot, steps⟩ := db
  obtain ⟨_, _, _, _, _, _, _, _, _, _, _⟩ := db'
  obtain rfl := hslot .user
  obtain rfl := hslot .category
  obtain rfl := hslot .content
  obtain rfl := hslot .comment
  obtain rfl := hslot .dynamic
  obtain rfl := hslot .goods
  obtain rfl := hslot .like
  obtain rfl := hslot .favorite
  obtain rfl := hslot .history
  obtain rfl := hslot .hotSearch
  obtain rfl := h.steps
  rfl

namespace Operation

variable {α : Type} {a : Procedure α}

/-- What an operation carries out changes its tables only. -/
theorem does (op : Operation) (hrun : op.run = silently a) :
    Does (AgreeOff op.tables) a := by
  intro w
  have h := op.agreeOff_next w
  rwa [next, hrun, snd_perform_silently] at h

/-- What an operation without tables carries out changes nothing. -/
theorem leaves_database (op : Operation) (hrun : op.run = silently a)
    (htables : op.tables = []) : Leaves World.database a := by
  intro w
  have h := op.does hrun w
  rw [htables] at h
  exact h.eq_of_nil

end Operation

/-- A search leaves an entry in the history of the user, if there is one, and
counts a keyword. -/
theorem Search.does_run (r : SearchRequest) (userId : Option Int) (p : Page) :
    Does (fun db db' => ∃ db₁, (db₁ = db ∨ ∃ id total now row, userId = some id ∧
        HistoryEntry.record id r.keyword r.searchType total now db = .ok (row, db₁)) ∧
      AgreeOff [.hotSearch] db₁ db') (run r userId p) := by
  have hself : ∀ db : Database, ∃ db₁, (db₁ = db ∨ ∃ id total now row, userId = some id ∧
      HistoryEntry.record id r.keyword r.searchType total now db = .ok (row, db₁)) ∧
      AgreeOff [.hotSearch] db₁ db := fun db => ⟨db, Or.inl rfl, .refl _ db⟩
  refine .bind_asked hself (leaves_ensureKeyword r) fun _ => ?_
  refine .bind_asked hself (leaves_hits r p) fun found => ?_
  refine .bind_done ?_ fun _ => .pure _
  refine .bind (fun db => .refl _ db) ?_ fun _ =>
    .bind_asked (fun db => .refl _ db) .now fun now => ?_
  · unfold recordFor
    cases userId with
    | none => exact .of_leaves (fun _ => Or.inl rfl) (.pure _)
    | some id =>
      refine .bind_asked (fun _ => Or.inl rfl) .now fun now => ?_
      exact .attempt (fun _ => Or.inl rfl) fun db row db' h =>
        Or.inr ⟨id, found.2, now, row, rfl, h⟩
  · exact .attempt (fun db => .refl _ db) fun db a db' h => HotSearch.agreeOff_bump h

namespace Http

/-! ## Who is let in -/

namespace Visit

variable {v : Visit} {i : Identity}

/-- A route that is open to all knows the caller, or that there is none. -/
theorem maybeUser_eq_ok {user? : Option Identity} (h : v.maybeUser = .ok user?) :
    (user? = none ∧ v.caller = .anonymous) ∨ ∃ i, user? = some i ∧ v.caller = .known i := by
  unfold maybeUser at h
  split at h
  · next hcaller =>
    cases h
    exact Or.inl ⟨rfl, hcaller⟩
  · cases h
  · next i hcaller =>
    cases h
    exact Or.inr ⟨i, rfl, hcaller⟩

/-- A route for users knows the caller. -/
theorem user_eq_ok (h : v.user = .ok i) : v.caller = .known i := by
  obtain ⟨user?, hmaybe, h⟩ := bind_eq_ok h
  obtain ⟨rfl, -⟩ | ⟨j, rfl, hcaller⟩ := maybeUser_eq_ok hmaybe
  · cases h
  · cases h
    exact hcaller

/-- A route for administrators knows the caller, and the role. -/
theorem admin_eq_ok (h : v.admin = .ok i) : v.caller = .known i ∧ i.isAdmin = true := by
  obtain ⟨j, huser, h⟩ := bind_eq_ok h
  split at h
  · next hadmin =>
    cases h
    exact ⟨user_eq_ok huser, hadmin⟩
  · cases h

end Visit

/-! ## Endpoints -/

/-- What an endpoint can do to the database for a caller. -/
inductive Effect (caller : Caller) (db : Database) : Endpoint → Database → Prop
  | nothing {e : Endpoint} : Effect caller db e db
  | category {e : Endpoint} {i : Identity} {db' : Database}
    (he : e = .categoryCreate ∨ e = .categoryChange ∨ e = .categoryRemove)
    (hcaller : caller = .known i) (hadmin : i.isAdmin = true)
    (h : AgreeOff [.category] db db') :
    Effect caller db e db'
  | like {i : Identity} {r : LikeToggle} {now : Time.Timestamp} {l : Like} {db' : Database}
    (hcaller : caller = .known i) (h : Like.toggle i.userId r now db = .ok (l, db')) :
    Effect caller db .likeToggle db'
  | favorite {i : Identity} {r : FavoriteToggle} {now : Time.Timestamp} {f : Favorite}
    {db' : Database} (hcaller : caller = .known i)
    (h : Favorite.toggle i.userId r now db = .ok (f, db')) :
    Effect caller db .favoriteToggle db'
  | search {db₁ db' : Database} (hcaller : caller = .anonymous ∨ ∃ i, caller = .known i)
    (hrecord : db₁ = db ∨ ∃ i keyword type total now row, caller = .known i ∧
      HistoryEntry.record i.userId keyword type total now db = .ok (row, db₁))
    (hbump : AgreeOff [.hotSearch] db₁ db') : Effect caller db .search db'
  | profile {i : Identity} {next : User} {row : User.Row} {db' : Database}
    (hcaller : caller = .known i) (hid : next.id = i.userId)
    (h : User.replace next db = .ok (row, db')) : Effect caller db .userChange db'

/-- The endpoints that only read. -/
def Endpoint.isReading : Endpoint → Bool
  | categoryCreate | categoryChange | categoryRemove | likeToggle | favoriteToggle | search
  | userChange => false
  | _ => true

namespace Endpoint

/-- An endpoint that reads leaves the database as it is. -/
theorem leaves_run {e : Endpoint} (h : e.isReading = true) (v : Visit) :
    Leaves World.database (e.run v) := by
  obtain rfl | ⟨p, hrun⟩ | ⟨op, hserves⟩ := e.run_cases v
  · exact .pure _
  · rw [hrun]
    exact .throw p
  · have htables : op.tables = [] := by
      generalize e.run v = a at hserves
      cases hserves <;> first | rfl | cases h
    obtain ⟨α, s, f, hrun, hform⟩ := hserves.exists_form
    rw [hform]
    exact .bind (op.leaves_database hrun htables) fun _ => .pure _

/-- What an endpoint does is one of its effects, for the caller who visits it. -/
theorem effect (e : Endpoint) (v : Visit) :
    Does (fun db db' => Effect v.caller db e db') (e.run v) := by
  have hself : ∀ {e : Endpoint} (db : Database), Effect v.caller db e db := fun _ => .nothing
  by_cases hreading : e.isReading = true
  · exact .of_leaves hself (leaves_run hreading v)
  obtain rfl | ⟨p, hrun⟩ | ⟨op, hserves⟩ := e.run_cases v
  · exact absurd rfl hreading
  · rw [hrun]
    exact .of_leaves hself (.throw p)
  generalize e.run v = a at hserves ⊢
  cases hserves with
  | categoryCreate i r hi =>
    obtain ⟨hcaller, hadmin⟩ := Visit.admin_eq_ok hi
    refine .bind_done (fun w => ?_) fun _ => .pure _
    exact .category (Or.inl rfl) hcaller hadmin (Operation.does (.createCategory r) rfl w)
  | categoryChange i id r hi =>
    obtain ⟨hcaller, hadmin⟩ := Visit.admin_eq_ok hi
    refine .bind_done (fun w => ?_) fun _ => .pure _
    exact .category (Or.inr (Or.inl rfl)) hcaller hadmin
      (Operation.does (.changeCategory id r) rfl w)
  | categoryRemove i id hi =>
    obtain ⟨hcaller, hadmin⟩ := Visit.admin_eq_ok hi
    refine .bind_done (fun w => ?_) fun _ => .pure _
    exact .category (Or.inr (Or.inr rfl)) hcaller hadmin
      (Operation.does (.removeCategory id) rfl w)
  | likeToggle i r requestId hi =>
    refine .bind_done (fun w => ?_) fun _ => .pure _
    rcases Like.database_request i.userId r requestId w with hsame | ⟨l, htoggle⟩
    · rw [hsame]
      exact .nothing
    · exact .like (Visit.user_eq_ok hi) htoggle
  | favoriteToggle i r requestId hi =>
    refine .bind_done (fun w => ?_) fun _ => .pure _
    rcases Favorite.database_request i.userId r requestId w with hsame | ⟨f, htoggle⟩
    · rw [hsame]
      exact .nothing
    · exact .favorite (Visit.user_eq_ok hi) htoggle
  | search user? r p huser =>
    refine .bind_done (fun w => ?_) fun _ => .pure _
    obtain ⟨db₁, hrecord, hbump⟩ := Search.does_run r (user?.map Identity.userId) p w
    obtain ⟨rfl, hcaller⟩ | ⟨i, rfl, hcaller⟩ := Visit.maybeUser_eq_ok huser
    · refine .search (Or.inl hcaller) (hrecord.imp_right ?_) hbump
      rintro ⟨id, total, now, row, hid, -⟩
      cases hid
    · refine .search (Or.inr ⟨i, hcaller⟩) (hrecord.imp_right ?_) hbump
      rintro ⟨id, total, now, row, hid, hrecord⟩
      cases hid
      exact ⟨i, _, _, total, now, row, hcaller, hrecord⟩
  | userChange i r hi =>
    refine .bind_done (fun w => ?_) fun _ => .pure _
    rcases User.database_change i.userId r w with hsame | ⟨u, row, hfind, hreplace⟩
    · rw [hsame]
      exact .nothing
    · have hid : u.id = i.userId := User.id_of_find hfind
      have hnext : (u.changed r w.now).id = i.userId := hid
      exact .profile (Visit.user_eq_ok hi) hnext hreplace
  | _ => exact absurd rfl hreading

end Endpoint

end Http

end Community

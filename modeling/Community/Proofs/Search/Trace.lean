import Community.Proofs.Footprint

/-!
# The traces of one search

A search that succeeds tries to leave two traces: an entry in the history of the user, and
one more in the count of its keyword. Neither failure is noticed. While there are
identifiers left the first fails for users who are not there and for no others, and the
second never fails:

> `Search.run_eq_ok`: the database after a search that succeeds has the traces, and nothing
> else is new.

> `HistoryEntry.record_eq`, `HotSearch.bump_eq`: the tables after a trace.
-/

namespace Community

open Procedure Database Time

/-! ## Making a row -/

namespace Database

section Making

variable {ρ α : Type} [Entity ρ α] {db : Database} {t : Table ρ} {make : Int → ρ}

/-- The rows have identifiers that the table has given. -/
def Table.IsNumbered (t : Table ρ) : Prop :=
  ∀ r ∈ t.rows, Entity.id r ≤ t.lastId

/-- A numbered table gives the next number, as long as there is one. -/
theorem Table.IsNumbered.nextId? (h : t.IsNumbered) (hroom : t.lastId < Text.int64Max) :
    t.nextId? = some (t.lastId + 1) := by
  have hlast : ∀ rs : List ρ, (∀ r ∈ rs, Entity.id r ≤ t.lastId) →
      rs.foldl (fun n r => max n (Entity.id r)) t.lastId = t.lastId := by
    intro rs
    induction rs with
    | nil => exact fun _ => rfl
    | cons r rs ih =>
      intro hrs
      rw [List.foldl_cons, Int.max_eq_left (hrs r List.mem_cons_self)]
      exact ih fun s hs => hrs s (List.mem_cons_of_mem r hs)
  rw [Table.nextId?, hlast t.rows h]
  exact if_pos hroom

/-- The table with a new row in it. -/
def Table.push (t : Table ρ) (make : Int → ρ) : Table ρ :=
  ⟨t.rows ++ [make (t.lastId + 1)], t.lastId + 1⟩

/-- A row that takes the next number leaves the table numbered. -/
theorem Table.IsNumbered.push (h : t.IsNumbered) (hid : ∀ id, Entity.id (make id) = id) :
    (t.push make).IsNumbered := by
  intro r hr
  show Entity.id r ≤ t.lastId + 1
  rcases List.mem_append.mp hr with hr | hr
  · have := h r hr
    omega
  · rw [List.mem_singleton.mp hr]
    exact Int.le_of_eq (hid _)

/-- A new row is in conflict with none that it does not clash with. -/
theorem Table.IsNumbered.not_conflict (h : t.IsNumbered)
    (hid : ∀ id, Entity.id (make id) = id)
    (hfree : ∀ s ∈ t.rows, Entity.clashes (make (t.lastId + 1)) s = false) :
    ∀ s ∈ t.rows, conflict (make (t.lastId + 1)) s = false := by
  intro s hs
  have hle := h s hs
  have hne : (t.lastId + 1 == Entity.id s) = false := by
    rw [beq_eq_false_iff_ne]
    omega
  rw [conflict, hid, hne, hfree s hs]
  rfl

/-- A row is made where there are identifiers left, none of the rows clashes with it, and
its user is there. -/
theorem insert_eq_push (ht : db.table ρ = .ok t) (hnumbered : t.IsNumbered)
    (hroom : t.lastId < Text.int64Max) (hid : ∀ id, Entity.id (make id) = id)
    (hfree : ∀ s ∈ t.rows, Entity.clashes (make (t.lastId + 1)) s = false)
    (howned : db.isOwned (make (t.lastId + 1)) = true) :
    insert make db = .ok (make (t.lastId + 1), db.withTable (t.push make)) := by
  have hlast : max t.lastId (t.lastId + 1) = t.lastId + 1 := by omega
  rw [insert_of_free ht (hnumbered.nextId? hroom)
    (hnumbered.not_conflict hid hfree) howned, hid, hlast]
  rfl

/-- No row is made for a user who is not there. -/
theorem not_insert_of_orphan {r : ρ} {db' : Database}
    (h : ∀ id, db.isOwned (make id) = false) : insert make db ≠ .ok (r, db') := by
  intro hinsert
  obtain ⟨t, id, -, -, rfl, -, howned, -⟩ := insert_eq_ok hinsert
  rw [h id] at howned
  cases howned

/-- Rows that change in nothing that conflicts are about stay distinct. -/
theorem distinct_map {f : ρ → ρ} (h : ∀ a b, conflict (f a) (f b) = conflict a b)
    (rows : List ρ) : distinct (rows.map f) = distinct rows := by
  induction rows with
  | nil => rfl
  | cons r rows ih =>
    have hall : (fun s => !conflict (f r) s) ∘ f = fun s => !conflict r s :=
      funext fun s => congrArg (!·) (h r s)
    rw [List.map_cons, distinct, distinct, ih, List.all_map, hall]

end Making

/-- The database after a statement whose failure goes unnoticed. -/
def afterTry {β : Type} (q : Database → Except Fault (β × Database)) (db : Database) :
    Database :=
  match q db with
  | .ok (_, db') => db'
  | .error _ => db

/-- A write that succeeds leaves what it wrote. -/
theorem afterTry_of_ok {β : Type} {q : Database → Except Fault (β × Database)}
    {db db' : Database} {b : β} (h : q db = .ok (b, db')) : afterTry q db = db' := by
  rw [afterTry, h]

/-- A write that fails leaves no trace. -/
theorem afterTry_of_not_ok {β : Type} {q : Database → Except Fault (β × Database)}
    {db : Database} (h : ∀ b db', q db ≠ .ok (b, db')) : afterTry q db = db := by
  rw [afterTry]
  split
  · next b db' hq => exact absurd hq (h b db')
  · rfl

/-- Either way only the tables that the write names are changed. -/
theorem agreeOff_afterTry {β : Type} {q : Database → Except Fault (β × Database)}
    {db : Database} {names : List TableName}
    (h : ∀ b db', q db = .ok (b, db') → AgreeOff names db db') :
    AgreeOff names db (afterTry q db) := by
  unfold afterTry
  split
  · next b db' hq => exact h b db' hq
  · exact .refl names db

end Database

/-! ## The two traces -/

namespace HistoryEntry

variable {db : Database} {t : Table Row}

/-- The entry is made if the user is there. -/
theorem record_eq (userId : Int) (keyword : String) (type : SearchType) (count : Nat)
    (now : Timestamp) (ht : db.table Row = .ok t) (hnumbered : t.IsNumbered)
    (hroom : t.lastId < Text.int64Max) (huser : db.hasUser userId = true) :
    afterTry (record userId keyword type count now) db
      = db.withTable (t.push fun id => (ofSearch userId keyword type count now id).stored) :=
  afterTry_of_ok (insert_eq_push ht hnumbered hroom (fun _ => rfl) (fun _ _ => rfl) huser)

/-- There is no entry for a user who is not there. -/
theorem record_of_unknown {userId : Int} (keyword : String) (type : SearchType) (count : Nat)
    (now : Timestamp) (huser : db.hasUser userId = false) :
    afterTry (record userId keyword type count now) db = db :=
  afterTry_of_not_ok fun _ _ => not_insert_of_orphan fun _ => huser

end HistoryEntry

namespace HotSearch

variable {db : Database} {t : Table Row} {keyword : String} {now : Timestamp}

/-- A row after one more search for the keyword. -/
def counted (keyword : String) (now : Timestamp) (h : Row) : Row :=
  if h.keyword == keyword then
    { h with searchCount := h.searchCount + 1, updatedAt := now.wholeSecond }
  else h

@[simp]
theorem keyword_counted (h : Row) : (counted keyword now h).keyword = h.keyword := by
  unfold counted
  split <;> rfl

@[simp]
theorem id_counted (h : Row) : Entity.id (counted keyword now h) = Entity.id h := by
  unfold counted
  split <;> rfl

/-- Counting changes neither identifiers nor keywords. -/
theorem distinct_counted (h : distinct t.rows = true) :
    distinct (t.rows.map (counted keyword now)) = true := by
  rw [distinct_map (fun a b => ?_), h]
  show (_ == _ || _ == _) = (_ == _ || _ == _)
  rw [id_counted, id_counted, keyword_counted, keyword_counted]

/-- Counting a search raises the row of its keyword, and says whether there is one. -/
theorem increment_eq (ht : db.table Row = .ok t) (hdistinct : distinct t.rows = true) :
    increment keyword now db = .ok (t.rows.any fun h => h.keyword == keyword,
      db.withTable { t with rows := t.rows.map (counted keyword now) }) := by
  have hnew : distinct (t.rows.map (counted keyword now)) = true :=
    distinct_counted hdistinct
  have hany : ∀ rows : List Row, (!(rows.filter fun h => h.keyword == keyword).isEmpty)
      = rows.any fun h => h.keyword == keyword := by
    intro rows
    rw [Bool.eq_iff_iff]
    simp [List.filter_eq_nil_iff]
  rw [increment, update_of_distinct ht hnew fun _ => rfl]
  show Except.ok (!(List.map _ _).isEmpty, _) = _
  rw [List.isEmpty_map, hany]
  rfl

/-- The table after a search for the keyword. -/
def bumped (keyword : String) (now : Timestamp) (t : Table Row) : Table Row :=
  if t.rows.any fun h => h.keyword == keyword then
    { t with rows := t.rows.map (counted keyword now) }
  else t.push fun id => (ofKeyword keyword now id).stored

/-- A keyword that is there is counted once more, and one that is not is made. -/
theorem bump_eq (ht : db.table Row = .ok t) (hdistinct : distinct t.rows = true)
    (hnumbered : t.IsNumbered) (hroom : t.lastId < Text.int64Max) :
    ∃ db', bump keyword now db = .ok ((), db') ∧
    db'.table Row = .ok (bumped keyword now t) := by
  have hincrement : increment keyword now db = _ := increment_eq ht hdistinct
  cases hany : t.rows.any fun h => h.keyword == keyword with
  | true =>
    rw [hany] at hincrement
    have hbumped : bumped keyword now t =
        { t with rows := t.rows.map (counted keyword now) } := if_pos hany
    refine ⟨db.withTable (bumped keyword now t), ?_, table_withTable _⟩
    rw [bump, hincrement, hbumped]
    rfl
  | false =>
    -- there is no such row, so the first statement has changed nothing
    have hnot : ∀ h ∈ t.rows, (h.keyword == keyword) = false := by
      intro h hh
      simpa using List.any_eq_false.mp hany h hh
    have hsame : t.rows.map (counted keyword now) = t.rows := by
      refine (List.map_congr_left fun h hh => ?_).trans (List.map_id _)
      exact if_neg (by simp [hnot h hh])
    have hbumped : bumped keyword now t = t.push fun id =>
        (ofKeyword keyword now id).stored :=
      if_neg (by simp [hany])
    rw [hany, hsame] at hincrement
    have hinsert : insert (fun id => (ofKeyword keyword now id).stored) (db.withTable t)
        = .ok ((ofKeyword keyword now (t.lastId + 1)).stored,
          (db.withTable t).withTable (bumped keyword now t)) := by
      rw [hbumped]
      refine insert_eq_push (table_withTable t) hnumbered hroom (fun _ => rfl)
        (fun h hh => ?_) rfl
      show (keyword == h.keyword) = false
      rw [Bool.beq_comm]
      exact hnot h hh
    refine ⟨(db.withTable t).withTable (bumped keyword now t), ?_, table_withTable _⟩
    rw [bump, hincrement]
    simp only [bind, Except.bind, Bool.false_eq_true, if_false, hinsert]
    rfl

end HotSearch

/-! ## A search -/

namespace Search

variable {r : SearchRequest} {userId : Option Int} {p : Page} {w w' : World}

/-- The database after the entry in the history has been tried. -/
def logged (r : SearchRequest) (userId : Option Int) (total : Nat) (now : Timestamp)
    (db : Database) : Database :=
  match userId with
  | some id => afterTry (HistoryEntry.record id r.keyword r.searchType total now) db
  | none => db

/-- The database after both traces have been tried. -/
def traced (r : SearchRequest) (userId : Option Int) (total : Nat) (now : Timestamp)
    (db : Database) : Database :=
  afterTry (HotSearch.bump r.keyword now) (logged r userId total now db)

/-- The entry of the history changes that table alone. -/
theorem agreeOff_logged (r : SearchRequest) (userId : Option Int) (total : Nat)
    (now : Timestamp) (db : Database) :
    AgreeOff [.history] db (logged r userId total now db) := by
  unfold logged
  split
  · exact agreeOff_afterTry fun _ _ h => agreeOff_insert h
  · exact .refl _ db

/-- The traces of a search never fail it. -/
theorem perform_leaveTraces (r : SearchRequest) (userId : Option Int) (total : Nat)
    (w : World) :
    (leaveTraces r userId total).perform w
      = (.ok (), { w with database := traced r userId total w.now w.database }) := by
  have htry : ∀ {β : Type} (q : Database → Except Fault (β × Database)) (v : World),
      (attempt q).perform v = (.ok (), { v with database := afterTry q v.database }) := by
    intro β q v
    rw [perform_attempt, afterTry]
    cases q v.database <;> rfl
  have hlogged : (recordFor userId r total).perform w
      = (.ok (), { w with database := logged r userId total w.now w.database }) := by
    cases userId with
    | none => rfl
    | some id => exact (perform_bind_ok (perform_now w)).trans (htry _ w)
  rw [leaveTraces, perform_bind_ok hlogged, perform_bind_ok (perform_now _)]
  exact htry _ _

/-- A search that succeeds leaves its traces and changes nothing else. -/
theorem run_eq_ok {result : SearchResult}
    (h : (run r userId p).perform w = (.ok result, w')) :
    w' = { w with database := traced r userId result.resultCount w.now w.database } := by
  obtain ⟨_, -, h⟩ := perform_asked_eq_ok (leaves_ensureKeyword r) h
  obtain ⟨⟨found, total⟩, -, h⟩ := perform_asked_eq_ok (leaves_hits r p) h
  rw [perform_bind_ok (perform_leaveTraces r userId total w)] at h
  cases h
  rfl

/-- A search that fails leaves no trace. -/
theorem failsCleanly_run (r : SearchRequest) (userId : Option Int) (p : Page) :
    FailsCleanly (run r userId p) := by
  refine .bind_asked (leaves_ensureKeyword r) fun _ =>
    .bind_asked (leaves_hits r p) fun found => ?_
  intro w problem w' h
  rw [perform_bind_ok (perform_leaveTraces r userId found.2 w)] at h
  cases h

end Search

end Community

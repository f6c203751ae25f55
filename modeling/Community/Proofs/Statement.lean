import Community.Database.Query

/-!
# What a statement that succeeds has done

One inversion lemma for each statement: where the table stood, what held of its rows,
and which database came out. Proofs about services start from these and never unfold a
statement.

Two facts carry most of the weight later:

> `replace_eq_ok`: storing a row in place of the one with its identifier replaces
> exactly that row and keeps its place. No assumption on the table is needed: a second
> row of the same identifier would have made the statement fail.

> `nextId?_gt`: a new identifier lies above all that the table holds or has ever given.
-/

namespace Community.Database

/-- The rows that statements see: none if the table is missing or out of reach. -/
def rowsOf (ρ : Type) {α : Type} [Entity ρ α] (db : Database) : List ρ :=
  match (Entity.slot db : Slot ρ).table? with
  | some t => t.rows
  | none => []

/-- What the rows of a table are. -/
def TableName.Row : TableName → Type
  | .user => User.Row
  | .category => Category.Row
  | .content => Content.Row
  | .comment => Comment
  | .dynamic => Dynamic
  | .goods => Goods.Row
  | .like => Like.Row
  | .favorite => Favorite.Row
  | .history => HistoryEntry.Row
  | .hotSearch => HotSearch.Row

/-- The table of that name. -/
def slotAt (db : Database) : (name : TableName) → Slot name.Row
  | .user => db.users
  | .category => db.categories
  | .content => db.contents
  | .comment => db.comments
  | .dynamic => db.dynamics
  | .goods => db.goods
  | .like => db.likes
  | .favorite => db.favorites
  | .history => db.history
  | .hotSearch => db.hotSearches

/-- Two databases that differ in the tables of these names at most. -/
structure AgreeOff (names : List TableName) (db db' : Database) : Prop where
  slotAt : ∀ name, name ∉ names → db'.slotAt name = db.slotAt name
  steps : db'.steps = db.steps

/-- What every table obeys: it has its name, what is put into its slot is found there and
shows in no other table, and clashing is mutual. -/
class LawfulEntity (ρ : Type) {α : outParam Type} [Entity ρ α] : Prop where
  slot_put : ∀ (db : Database) (s : Slot ρ), Entity.slot (Entity.put db s) = s
  agreeOff_put : ∀ (db : Database) (s : Slot ρ),
    AgreeOff [Entity.name ρ] db (Entity.put db s)
  slot_eq : ∀ {names : List TableName} {db db' : Database}, AgreeOff names db db' →
    Entity.name ρ ∉ names → (Entity.slot db' : Slot ρ) = Entity.slot db
  clashes_comm : ∀ a b : ρ, Entity.clashes a b = Entity.clashes b a

instance : LawfulEntity User.Row where
  slot_put _ _ := rfl
  agreeOff_put _ _ :=
    ⟨fun n h => by cases n <;> first | rfl | exact absurd List.mem_cons_self h, rfl⟩
  slot_eq h hname := h.slotAt _ hname
  clashes_comm a b := by
    show (_ == _ || (_ && _)) = (_ == _ || (_ && _))
    rw [Bool.beq_comm (a := a.username)]
    -- e-mails clash only where both rows have one
    cases a.email <;> cases b.email <;> simp [Bool.beq_comm]

instance : LawfulEntity Category.Row where
  slot_put _ _ := rfl
  agreeOff_put _ _ :=
    ⟨fun n h => by cases n <;> first | rfl | exact absurd List.mem_cons_self h, rfl⟩
  slot_eq h hname := h.slotAt _ hname
  clashes_comm a b := by
    show (_ == _ && _ == _ && _ == _ && _ == _) = (_ == _ && _ == _ && _ == _ && _ == _)
    rw [Bool.beq_comm (a := a.parentId), Bool.beq_comm (a := a.name),
      Bool.and_comm (a.status == _)]

instance : LawfulEntity Content.Row where
  slot_put _ _ := rfl
  agreeOff_put _ _ :=
    ⟨fun n h => by cases n <;> first | rfl | exact absurd List.mem_cons_self h, rfl⟩
  slot_eq h hname := h.slotAt _ hname
  clashes_comm _ _ := rfl

instance : LawfulEntity Comment where
  slot_put _ _ := rfl
  agreeOff_put _ _ :=
    ⟨fun n h => by cases n <;> first | rfl | exact absurd List.mem_cons_self h, rfl⟩
  slot_eq h hname := h.slotAt _ hname
  clashes_comm _ _ := rfl

instance : LawfulEntity Dynamic where
  slot_put _ _ := rfl
  agreeOff_put _ _ :=
    ⟨fun n h => by cases n <;> first | rfl | exact absurd List.mem_cons_self h, rfl⟩
  slot_eq h hname := h.slotAt _ hname
  clashes_comm _ _ := rfl

instance : LawfulEntity Goods.Row where
  slot_put _ _ := rfl
  agreeOff_put _ _ :=
    ⟨fun n h => by cases n <;> first | rfl | exact absurd List.mem_cons_self h, rfl⟩
  slot_eq h hname := h.slotAt _ hname
  clashes_comm _ _ := rfl

instance : LawfulEntity Like.Row where
  slot_put _ _ := rfl
  agreeOff_put _ _ :=
    ⟨fun n h => by cases n <;> first | rfl | exact absurd List.mem_cons_self h, rfl⟩
  slot_eq h hname := h.slotAt _ hname
  clashes_comm a b := by
    show (_ == _ && _ == _ && _ == _) = (_ == _ && _ == _ && _ == _)
    rw [Bool.beq_comm (a := a.userId), Bool.beq_comm (a := a.likeType),
      Bool.beq_comm (a := a.targetId)]

instance : LawfulEntity Favorite.Row where
  slot_put _ _ := rfl
  agreeOff_put _ _ :=
    ⟨fun n h => by cases n <;> first | rfl | exact absurd List.mem_cons_self h, rfl⟩
  slot_eq h hname := h.slotAt _ hname
  clashes_comm a b := by
    show (_ == _ && _ == _ && _ == _) = (_ == _ && _ == _ && _ == _)
    rw [Bool.beq_comm (a := a.userId), Bool.beq_comm (a := a.favoriteType),
      Bool.beq_comm (a := a.targetId)]

instance : LawfulEntity HistoryEntry.Row where
  slot_put _ _ := rfl
  agreeOff_put _ _ :=
    ⟨fun n h => by cases n <;> first | rfl | exact absurd List.mem_cons_self h, rfl⟩
  slot_eq h hname := h.slotAt _ hname
  clashes_comm _ _ := rfl

instance : LawfulEntity HotSearch.Row where
  slot_put _ _ := rfl
  agreeOff_put _ _ :=
    ⟨fun n h => by cases n <;> first | rfl | exact absurd List.mem_cons_self h, rfl⟩
  slot_eq h hname := h.slotAt _ hname
  clashes_comm _ _ := Bool.beq_comm

namespace AgreeOff

variable {names names' : List TableName} {db db' db'' : Database}

theorem refl (names : List TableName) (db : Database) : AgreeOff names db db :=
  ⟨fun _ _ => rfl, rfl⟩

/-- Two changes in turn stay within the tables that either of them names. -/
theorem trans (h : AgreeOff names db db') (h' : AgreeOff names' db' db'') :
    AgreeOff (names ++ names') db db'' := by
  refine ⟨fun name hname => ?_, h'.steps.trans h.steps⟩
  rw [List.mem_append, not_or] at hname
  exact (h'.slotAt name hname.2).trans (h.slotAt name hname.1)

theorem mono (h : AgreeOff names db db') (hsub : names ⊆ names') : AgreeOff names' db db' :=
  ⟨fun name hname => h.slotAt name fun hmem => hname (hsub hmem), h.steps⟩

end AgreeOff

variable {ρ α : Type} [Entity ρ α] {db db' : Database}

/-! ## Tables -/

/-- A table is read exactly when the slot of its entity holds one. -/
theorem table_eq_ok {t : Table ρ} :
    db.table ρ = .ok t ↔ (Entity.slot db : Slot ρ).table? = some t := by
  unfold table
  cases (Entity.slot db : Slot ρ).table? <;> simp

theorem rowsOf_eq {t : Table ρ} (h : db.table ρ = .ok t) : rowsOf ρ db = t.rows := by
  unfold rowsOf
  rw [table_eq_ok.mp h]

/-- A table that was put back is the one that is read. -/
@[simp]
theorem table_withTable [LawfulEntity ρ] (t : Table ρ) :
    (db.withTable t).table ρ = .ok t := by
  rw [table_eq_ok, withTable, LawfulEntity.slot_put]

@[simp]
theorem rowsOf_withTable [LawfulEntity ρ] (t : Table ρ) :
    rowsOf ρ (db.withTable t) = t.rows :=
  rowsOf_eq (table_withTable t)

/-- A table that a change does not name reads as before. -/
theorem table_agreeOff [LawfulEntity ρ] {names : List TableName} (h : AgreeOff names db db')
    (hname : Entity.name ρ ∉ names) : db'.table ρ = db.table ρ := by
  rw [table, table, LawfulEntity.slot_eq h hname]

/-- Databases that agree on a table have the same rows in it. -/
theorem rowsOf_agreeOff [LawfulEntity ρ] {names : List TableName} (h : AgreeOff names db db')
    (hname : Entity.name ρ ∉ names) : rowsOf ρ db' = rowsOf ρ db := by
  rw [rowsOf, rowsOf, LawfulEntity.slot_eq h hname]

/-- Putting a table back changes that table alone. -/
theorem agreeOff_withTable [LawfulEntity ρ] (db : Database) (t : Table ρ) :
    AgreeOff [Entity.name ρ] db (db.withTable t) :=
  LawfulEntity.agreeOff_put db _

theorem readRow_eq_ok {r : ρ} {a : α} : readRow r = .ok a ↔ Entity.read? r = some a := by
  unfold readRow
  cases Entity.read? r <;> simp

/-! ## Rows that may be together -/

/-- Two rows conflict, or not, in either order. -/
theorem conflict_comm [LawfulEntity ρ] (a b : ρ) : conflict a b = conflict b a := by
  rw [conflict, conflict, LawfulEntity.clashes_comm a b, Bool.beq_comm (a := Entity.id a)]

/-- Rows that do not conflict have different ids. -/
theorem ne_id_of_not_conflict {a b : ρ} (h : conflict a b = false) :
    Entity.id a ≠ Entity.id b := by
  intro he
  rw [conflict, he, beq_self_eq_true, Bool.true_or] at h
  exact Bool.noConfusion h

theorem distinct_iff {rs : List ρ} :
    distinct rs = true ↔ rs.Pairwise fun a b => conflict a b = false := by
  induction rs with
  | nil => simp [distinct]
  | cons r rs ih => simp [distinct, ih]

/-- A row that conflicts with none of the table can be added at its end. -/
theorem distinct_concat [LawfulEntity ρ] {rs : List ρ} {r : ρ} (hrs : distinct rs = true)
    (hr : ∀ s ∈ rs, conflict r s = false) : distinct (rs ++ [r]) = true := by
  rw [distinct_iff] at hrs ⊢
  refine List.pairwise_append.mpr ⟨hrs, List.pairwise_singleton _ _, ?_⟩
  intro s hs r' hr'
  rw [List.mem_singleton.mp hr', conflict_comm]
  exact hr s hs

/-- Rows may be together with one in their midst if it is in conflict with none of them. -/
theorem distinct_middle [LawfulEntity ρ] {before after : List ρ} {r : ρ} :
    distinct (before ++ r :: after) = true ↔
      (∀ s ∈ before ++ after, conflict r s = false) ∧ distinct (before ++ after) = true := by
  rw [distinct_iff, distinct_iff, List.pairwise_middle fun hab =>
    (conflict_comm _ _).trans hab, List.pairwise_cons]

/-- Rows that are together have different identifiers. -/
theorem pairwise_id {rs : List ρ} (h : distinct rs = true) :
    rs.Pairwise fun a b => Entity.id a ≠ Entity.id b :=
  (distinct_iff.mp h).imp ne_id_of_not_conflict

/-! ## Identifiers -/

/-- The running maximum of the identifiers bounds its start and every row. -/
theorem le_foldl_max (rs : List ρ) (n : Int) :
    n ≤ rs.foldl (fun n r => max n (Entity.id r)) n ∧
      ∀ r ∈ rs, Entity.id r ≤ rs.foldl (fun n r => max n (Entity.id r)) n := by
  -- the maximum of the rest starts from where the first row has brought it
  induction rs generalizing n with
  | nil => exact ⟨Int.le_refl n, fun r hr => absurd hr List.not_mem_nil⟩
  | cons s rs ih =>
    obtain ⟨hstart, hrows⟩ := ih (max n (Entity.id s))
    rw [List.foldl_cons]
    refine ⟨by omega, fun r hr => ?_⟩
    rcases List.mem_cons.mp hr with rfl | hr
    · omega
    · exact hrows r hr

/-- A new identifier lies above all that the table holds or has ever given. -/
theorem nextId?_gt {t : Table ρ} {id : Int} (h : t.nextId? = some id) :
    t.lastId < id ∧ (∀ r ∈ t.rows, Entity.id r < id) ∧ id ≤ Text.int64Max := by
  obtain ⟨hstart, hrows⟩ := le_foldl_max t.rows t.lastId
  simp only [Table.nextId?] at h
  split at h
  · next hlt =>
    rw [Option.some.injEq] at h
    refine ⟨by omega, fun r hr => ?_, by omega⟩
    have := hrows r hr
    omega
  · cases h

/-! ## Statements -/

/-- A statement in two steps succeeds through a success of each. -/
theorem bind_eq_ok {ε β γ : Type} {x : Except ε β} {f : β → Except ε γ} {c : γ}
    (h : (x >>= f) = .ok c) : ∃ b, x = .ok b ∧ f b = .ok c := by
  cases x with
  | error e => cases h
  | ok b => exact ⟨b, rfl, h⟩

/-- What is found is the first row that was asked for, as it is read. -/
theorem findFirst_eq_ok {pick : ρ → Bool} {found : Option α}
    (h : findFirst pick db = .ok found) :
    ∃ t, db.table ρ = .ok t ∧
      ((t.rows.find? pick = none ∧ found = none) ∨
        ∃ r a, t.rows.find? pick = some r ∧ Entity.read? r = some a ∧ found = some a) := by
  obtain ⟨t, ht, h⟩ := bind_eq_ok h
  refine ⟨t, ht, ?_⟩
  split at h
  · next hf =>
    cases h
    exact Or.inl ⟨hf, rfl⟩
  · next r hf =>
    obtain ⟨a, ha, h⟩ := bind_eq_ok h
    cases h
    exact Or.inr ⟨r, a, hf, readRow_eq_ok.mp ha, rfl⟩

/-- Where no row is picked, the query answers that there is none. -/
theorem findFirst_of_none {pick : ρ → Bool} {t : Table ρ} (ht : db.table ρ = .ok t)
    (h : t.rows.find? pick = none) : findFirst pick db = .ok none := by
  unfold findFirst
  rw [ht]
  simp only [bind, Except.bind, h]
  rfl

/-- Where a row is picked and can be decoded, the query answers it. -/
theorem findFirst_of_some {pick : ρ → Bool} {t : Table ρ} {r : ρ} {a : α}
    (ht : db.table ρ = .ok t) (h : t.rows.find? pick = some r)
    (ha : Entity.read? r = some a) : findFirst pick db = .ok (some a) := by
  unfold findFirst
  rw [ht]
  simp only [bind, Except.bind, h, readRow_eq_ok.mpr ha]
  rfl

/-- Rows that are written from values are read as these values. -/
theorem mapM_readRow {store : α → ρ} (hstore : ∀ a, Entity.read? (store a) = some a)
    (as : List α) : (as.map store).mapM readRow = .ok as := by
  induction as with
  | nil => rfl
  | cons a as ih =>
    rw [List.map_cons, List.mapM_cons, readRow_eq_ok.mpr (hstore a), ih]
    rfl

theorem select_of_table {pick : ρ → Bool} {before : ρ → ρ → Bool} {t : Table ρ}
    (ht : db.table ρ = .ok t) :
    select pick before db = .ok ((t.rows.filter pick).mergeSort before) := by
  rw [select, ht]
  rfl

/-- What a successful insertion of a given row found, and what it left. -/
theorem insertRow_eq_ok {r r' : ρ} (h : insertRow r db = .ok (r', db')) :
    ∃ t, db.table ρ = .ok t ∧ r' = r ∧ (∀ s ∈ t.rows, conflict r s = false) ∧
      db.isOwned r = true ∧ db' = db.withTable
        ⟨t.rows ++ [r], max t.lastId (Entity.id r)⟩ := by
  obtain ⟨t, ht, h⟩ := bind_eq_ok h
  split at h
  · cases h
  · next hfree =>
    split at h
    · cases h
    · next howned =>
      cases h
      rw [List.any_eq_true, not_exists] at hfree
      exact ⟨t, ht, rfl, fun s hs => by simpa [hs] using hfree s, by simpa using howned, rfl⟩

/-- What a successful insertion found: a free id, no conflict and an owner; the row goes to
the end. -/
theorem insert_eq_ok {make : Int → ρ} {r : ρ} (h : insert make db = .ok (r, db')) :
    ∃ t id, db.table ρ = .ok t ∧ t.nextId? = some id ∧ r = make id ∧
      (∀ s ∈ t.rows, conflict r s = false) ∧ db.isOwned r = true ∧
      db' = db.withTable ⟨t.rows ++ [r], max t.lastId (Entity.id r)⟩ := by
  obtain ⟨t, ht, h⟩ := bind_eq_ok h
  split at h
  · next id hid =>
    -- the table is read a second time, and is the same
    obtain ⟨t', ht', rfl, hfree, howned, rfl⟩ := insertRow_eq_ok h
    rw [ht] at ht'
    cases ht'
    exact ⟨t, id, ht, hid, rfl, hfree, howned, rfl⟩
  · cases h

/-- What a successful update did: every picked row is changed in place, and the rows stay
distinct. -/
theorem update_eq_ok {pick : ρ → Bool} {change : ρ → ρ} {changed : List ρ}
    (h : update pick change db = .ok (changed, db')) :
    ∃ t, db.table ρ = .ok t ∧ changed = (t.rows.filter pick).map change ∧
      distinct (t.rows.map fun r => if pick r then change r else r) = true ∧
      db' = db.withTable
        { t with rows := t.rows.map fun r => if pick r then change r else r } := by
  obtain ⟨t, ht, h⟩ := bind_eq_ok h
  dsimp only at h
  split at h
  · cases h
  · next hdistinct =>
    split at h
    · cases h
    · cases h
      exact ⟨t, ht, rfl, by simpa using hdistinct, rfl⟩

/-- What a successful deletion did: the rows that were not picked are left. -/
theorem delete_eq_ok {pick : ρ → Bool} {n : Nat} (h : delete pick db = .ok (n, db')) :
    ∃ t, db.table ρ = .ok t ∧
      db' = db.withTable { t with rows := t.rows.filter fun r => !pick r } := by
  obtain ⟨t, ht, h⟩ := bind_eq_ok h
  cases h
  exact ⟨t, ht, rfl⟩

/-! ## Statements that succeed -/

section Making

variable {t : Table ρ}

/-- A row is made where there are identifiers left, it is in conflict with no row, and
its user is there. -/
theorem insert_of_free {make : Int → ρ} {id : Int} (ht : db.table ρ = .ok t)
    (hid : t.nextId? = some id) (hfree : ∀ s ∈ t.rows, conflict (make id) s = false)
    (howned : db.isOwned (make id) = true) :
    insert make db = .ok (make id,
      db.withTable ⟨t.rows ++ [make id], max t.lastId (Entity.id (make id))⟩) := by
  have hconflict : t.rows.any (conflict (make id)) = false := by
    rw [List.any_eq_false]
    intro s hs
    rw [hfree s hs]
    exact Bool.false_ne_true
  rw [insert, ht]
  simp only [bind, Except.bind, hid, insertRow, ht, hconflict, howned,
    Bool.false_eq_true, if_false, Bool.not_true]
  rfl

/-- No row is made where all identifiers have been given. -/
theorem insert_of_full {make : Int → ρ} (ht : db.table ρ = .ok t) (hid : t.nextId? = none) :
    insert make db = .error .full := by
  rw [insert, ht]
  simp only [bind, Except.bind, hid]

/-- An update is made where the rows stay distinct and refer to nobody who is not there. -/
theorem update_of_distinct {pick : ρ → Bool} {change : ρ → ρ} (ht : db.table ρ = .ok t)
    (hdistinct : distinct (t.rows.map fun r => if pick r then change r else r) = true)
    (howned : ∀ r, db.isOwned (change r) = true) :
    update pick change db = .ok ((t.rows.filter pick).map change,
      db.withTable
        { t with rows := t.rows.map fun r => if pick r then change r else r }) := by
  have hall : ((t.rows.filter pick).map change).all db.isOwned = true := by
    rw [List.all_map]
    exact List.all_eq_true.mpr fun r _ => howned r
  rw [update, ht]
  simp only [bind, Except.bind, hdistinct, hall, Bool.not_true, Bool.false_eq_true, if_false]
  rfl

/-- No update is made where two rows would come into conflict. -/
theorem update_of_conflict {pick : ρ → Bool} {change : ρ → ρ} (ht : db.table ρ = .ok t)
    (hdistinct : distinct (t.rows.map fun r => if pick r then change r else r) = false) :
    update pick change db = .error .duplicate := by
  rw [update, ht]
  simp only [bind, Except.bind, hdistinct, Bool.not_false, if_true]

end Making

/-! ## What a statement leaves alone -/

/-- An insertion changes the table of its row alone. -/
theorem agreeOff_insert [LawfulEntity ρ] {make : Int → ρ} {r : ρ}
    (h : insert make db = .ok (r, db')) : AgreeOff [Entity.name ρ] db db' := by
  obtain ⟨t, id, -, -, -, -, -, rfl⟩ := insert_eq_ok h
  exact agreeOff_withTable db _

/-- An update changes the table of its rows alone. -/
theorem agreeOff_update [LawfulEntity ρ] {pick : ρ → Bool} {change : ρ → ρ}
    {changed : List ρ} (h : update pick change db = .ok (changed, db')) :
    AgreeOff [Entity.name ρ] db db' := by
  obtain ⟨t, -, -, -, rfl⟩ := update_eq_ok h
  exact agreeOff_withTable db _

/-- A deletion changes the table of its rows alone. -/
theorem agreeOff_delete [LawfulEntity ρ] {pick : ρ → Bool} {n : Nat}
    (h : delete pick db = .ok (n, db')) : AgreeOff [Entity.name ρ] db db' := by
  obtain ⟨t, -, rfl⟩ := delete_eq_ok h
  exact agreeOff_withTable db _

/-! ## Questions about a table that is left alone -/

section Questions

variable [LawfulEntity ρ] {names : List TableName}

/-- A query on a table that a change does not name answers as before. -/
theorem findFirst_agreeOff (h : AgreeOff names db db') (hname : Entity.name ρ ∉ names)
    (pick : ρ → Bool) : findFirst pick db' = findFirst pick db := by
  rw [findFirst, findFirst, table_agreeOff h hname]

theorem count_agreeOff (h : AgreeOff names db db') (hname : Entity.name ρ ∉ names)
    (pick : ρ → Bool) : count pick db' = count pick db := by
  rw [count, count, table_agreeOff h hname]

theorem select_agreeOff (h : AgreeOff names db db') (hname : Entity.name ρ ∉ names)
    (pick : ρ → Bool) (before : ρ → ρ → Bool) :
    select pick before db' = select pick before db := by
  rw [select, select, table_agreeOff h hname]

theorem all_agreeOff (h : AgreeOff names db db') (hname : Entity.name ρ ∉ names)
    (pick : ρ → Bool) (before : ρ → ρ → Bool) :
    all pick before db' = all pick before db := by
  rw [all, all, select_agreeOff h hname]

theorem page_agreeOff (h : AgreeOff names db db') (hname : Entity.name ρ ∉ names)
    (pick : ρ → Bool) (before : ρ → ρ → Bool) (p : Page) :
    page pick before p db' = page pick before p db := by
  rw [page, page, count_agreeOff h hname, select_agreeOff h hname]

end Questions

/-! ## One row in place of another -/

/-- The rows after an exchange are the new one and rows from before. -/
theorem mem_exchange {rs before after : List ρ} {r x s : ρ}
    (hrows : rs = before ++ r :: after) (hs : s ∈ before ++ x :: after) :
    s = x ∨ s ∈ rs := by
  rw [hrows]
  rcases List.mem_append.mp hs with hs | hs
  · exact Or.inr (List.mem_append_left _ hs)
  · rcases List.mem_cons.mp hs with rfl | hs
    · exact Or.inl rfl
    · exact Or.inr (List.mem_append_right _ (List.mem_cons_of_mem r hs))

section Picked

variable {pick : ρ → Bool} (change : ρ → ρ)

/-- Where no row is picked, an update changes and finds nothing. -/
theorem picked_none {rs : List ρ} (h : ∀ s ∈ rs, pick s = false) :
    rs.map (fun s => if pick s then change s else s) = rs ∧ rs.filter pick = [] := by
  constructor
  · refine (List.map_congr_left fun s hs => ?_).trans (List.map_id rs)
    rw [h s hs, if_neg Bool.false_ne_true]
    rfl
  · refine List.filter_eq_nil_iff.mpr fun s hs => ?_
    rw [h s hs]
    exact Bool.false_ne_true

/-- Where one row is picked, an update changes that row and finds it alone. -/
theorem picked_one {r : ρ} {before after : List ρ} (hr : pick r = true)
    (hother : ∀ s ∈ before ++ after, pick s = false) :
    (before ++ r :: after).map (fun s => if pick s then change s else s)
        = before ++ change r :: after ∧
      (before ++ r :: after).filter pick = [r] := by
  obtain ⟨hbefore, hnone⟩ := picked_none change fun s hs =>
    hother s (List.mem_append_left _ hs)
  obtain ⟨hafter, hnone'⟩ := picked_none change fun s hs =>
    hother s (List.mem_append_right _ hs)
  constructor
  · rw [List.map_append, List.map_cons, hbefore, hafter, if_pos hr]
  · rw [List.filter_append, hnone, List.nil_append, List.filter_cons, if_pos hr, hnone']

end Picked

/-- Where one row has the identifier of `x`, storing `x` changes that row
and finds it alone. -/
theorem stored_of_mem {x r : ρ} {before after : List ρ} (hid : Entity.id r = Entity.id x)
    (hother : ∀ s ∈ before ++ after, Entity.id s ≠ Entity.id x) :
    (before ++ r :: after).map (fun s => if Entity.id s == Entity.id x then x else s)
        = before ++ x :: after ∧
      (before ++ r :: after).filter (fun s => Entity.id s == Entity.id x) = [r] :=
  picked_one (fun _ => x) (beq_iff_eq.mpr hid) fun s hs =>
    beq_eq_false_iff_ne.mpr (hother s hs)

/-- An update of what has an identifier, if it finds anything, changes exactly one row
and keeps its place. After the change a second row of that identifier would be in
conflict with the first. -/
theorem update_one_eq_ok {id : Int} {change : ρ → ρ} {changed : List ρ}
    (hkeep : ∀ r : ρ, Entity.id r = id → Entity.id (change r) = id) (hchanged : changed ≠ [])
    (h : update (fun r => Entity.id r == id) change db = .ok (changed, db')) :
    ∃ t before r after, db.table ρ = .ok t ∧ t.rows = before ++ r :: after ∧
      Entity.id r = id ∧
      (∀ s ∈ before ++ after, Entity.id s ≠ id) ∧ changed = [change r] ∧
      distinct (before ++ change r :: after) = true ∧
      db' = db.withTable { t with rows := before ++ change r :: after } := by
  obtain ⟨t, ht, rfl, hdistinct, rfl⟩ := update_eq_ok h
  have hpicked : ∃ r ∈ t.rows, Entity.id r = id := by
    obtain ⟨r, hr⟩ := List.exists_mem_of_ne_nil _ fun he =>
      hchanged (List.map_eq_nil_iff.mpr he)
    obtain ⟨hr, hid⟩ := List.mem_filter.mp hr
    exact ⟨r, hr, beq_iff_eq.mp hid⟩
  obtain ⟨r, hr, hid⟩ := hpicked
  obtain ⟨before, after, hrows⟩ := List.append_of_mem hr
  have hother : ∀ s ∈ before ++ after, Entity.id s ≠ id := by
    intro s hs he
    have hp := pairwise_id hdistinct
    rw [hrows, List.map_append, List.map_cons, if_pos (beq_iff_eq.mpr hid)] at hp
    obtain ⟨-, hp, hcross⟩ := List.pairwise_append.mp hp
    have hchange : (if Entity.id s == id then change s else s) = change s :=
      if_pos (beq_iff_eq.mpr he)
    have hsame : Entity.id (change s) = Entity.id (change r) :=
      (hkeep s he).trans (hkeep r hid).symm
    rcases List.mem_append.mp hs with hs | hs
    · exact hcross _ (List.mem_map.mpr ⟨s, hs, hchange⟩) _ List.mem_cons_self hsame
    · exact (List.pairwise_cons.mp hp).1 _ (List.mem_map.mpr ⟨s, hs, hchange⟩) hsame.symm
  have hpick : (Entity.id r == id) = true := beq_iff_eq.mpr hid
  have hunpicked : ∀ s ∈ before ++ after, (Entity.id s == id) = false := fun s hs =>
    beq_eq_false_iff_ne.mpr (hother s hs)
  obtain ⟨hmap, hfilter⟩ := picked_one change hpick hunpicked
  rw [← hrows] at hmap hfilter
  exact ⟨t, before, r, after, ht, hrows, hid, hother, by rw [hfilter]; rfl,
    hmap ▸ hdistinct, by rw [hmap]⟩

/-- Storing `x` in place of the row with its identifier replaces exactly that row. -/
theorem replace_eq_ok {x y : ρ} (h : replace x db = .ok (y, db')) :
    ∃ t before r after, db.table ρ = .ok t ∧ t.rows = before ++ r :: after ∧
      Entity.id r = Entity.id x ∧ (∀ s ∈ t.rows, Entity.id s = Entity.id x → s = r) ∧ y = x ∧
      distinct (before ++ x :: after) = true ∧
      db' = db.withTable { t with rows := before ++ x :: after } := by
  obtain ⟨⟨changed, db₁⟩, hupdate, h⟩ := bind_eq_ok h
  -- the statement yields a row, so there is one with the identifier
  have hchanged : changed ≠ [] := by
    rintro rfl
    cases h
  obtain ⟨t, before, r, after, ht, hrows, hid, hother, rfl, hdistinct, rfl⟩ :=
    update_one_eq_ok (fun _ _ => rfl) hchanged hupdate
  have honly : ∀ s ∈ t.rows, Entity.id s = Entity.id x → s = r := by
    intro s hs he
    rw [hrows, List.mem_append, List.mem_cons] at hs
    rcases hs with hs | rfl | hs
    · exact absurd he (hother s (List.mem_append_left _ hs))
    · rfl
    · exact absurd he (hother s (List.mem_append_right _ hs))
  cases h
  exact ⟨t, before, r, after, ht, hrows, hid, honly, rfl, hdistinct, rfl⟩

/-- A row is stored where the rows stay distinct, and its user is there. -/
theorem replace_of_distinct {x r : ρ} {t : Table ρ} {before after : List ρ}
    (ht : db.table ρ = .ok t) (hrows : t.rows = before ++ r :: after)
    (hid : Entity.id r = Entity.id x) (hdistinct : distinct (before ++ x :: after) = true)
    (howned : db.isOwned x = true) :
    replace x db = .ok (x, db.withTable { t with rows := before ++ x :: after }) := by
  have hne := (List.pairwise_middle Ne.symm).mp (pairwise_id hdistinct)
  obtain ⟨hmap, hfilter⟩ := stored_of_mem hid fun s hs =>
    ((List.pairwise_cons.mp hne).1 s hs).symm
  rw [← hrows] at hmap hfilter
  rw [replace, update_of_distinct ht (hmap ▸ hdistinct) fun _ => howned, hfilter, hmap]
  rfl

/-- No row is stored that would come into conflict with another. -/
theorem replace_of_conflict {x r : ρ} {t : Table ρ} {before after : List ρ}
    (ht : db.table ρ = .ok t) (hrows : t.rows = before ++ r :: after)
    (hid : Entity.id r = Entity.id x)
    (hother : ∀ s ∈ before ++ after, Entity.id s ≠ Entity.id x)
    (hdistinct : distinct (before ++ x :: after) = false) :
    replace x db = .error .duplicate := by
  have hmap := (stored_of_mem hid hother).1
  rw [← hrows] at hmap
  rw [replace, update_of_conflict ht (hmap ▸ hdistinct)]
  rfl

/-- Writing one row back changes its table alone. -/
theorem agreeOff_replace [LawfulEntity ρ] {x y : ρ} (h : replace x db = .ok (y, db')) :
    AgreeOff [Entity.name ρ] db db' := by
  obtain ⟨t, before, r, after, -, -, -, -, -, -, rfl⟩ := replace_eq_ok h
  exact agreeOff_withTable db _

/-- A row of another identifier is found as it was before. -/
theorem findById_replace_ne [LawfulEntity ρ] {x y : ρ} {id : Int}
    (h : replace x db = .ok (y, db')) (hid : id ≠ Entity.id x) :
    findById ρ id db' = findById ρ id db := by
  obtain ⟨t, before, r, after, ht, hrows, hrid, -, -, -, rfl⟩ := replace_eq_ok h
  have hskip : ∀ (s : ρ) (rest : List ρ), Entity.id s = Entity.id x →
      (s :: rest).find? (fun s => Entity.id s == id)
        = rest.find? fun s => Entity.id s == id :=
    fun s rest hs => List.find?_cons_of_neg fun he => hid ((beq_iff_eq.mp he).symm.trans hs)
  have hfind : (before ++ x :: after).find? (fun s => Entity.id s == id)
      = t.rows.find? fun s => Entity.id s == id := by
    rw [hrows, List.find?_append, List.find?_append, hskip x after rfl, hskip r after hrid]
  unfold findById findFirst
  rw [table_withTable, ht]
  simp only [bind, Except.bind, hfind]

/-- An upsert makes a row where it finds none, and else changes the row that it finds. -/
theorem upsert_cases {pick : ρ → Bool} {make : Int → ρ} {change : α → ρ} {a : α}
    (h : upsert pick make change db = .ok (a, db')) :
    ∃ x t, Entity.read? x = some a ∧ db.table ρ = .ok t ∧
      ((t.rows.find? pick = none ∧ insert make db = .ok (x, db')) ∨
        ∃ r b, t.rows.find? pick = some r ∧ Entity.read? r = some b ∧
          replace (change b) db = .ok (x, db')) := by
  obtain ⟨found, hfound, h⟩ := bind_eq_ok h
  obtain ⟨t, ht, ⟨hnone, rfl⟩ | ⟨r, b, hr, hb, rfl⟩⟩ := findFirst_eq_ok hfound
  · obtain ⟨⟨x, db₁⟩, hinsert, h⟩ := bind_eq_ok h
    obtain ⟨a', ha, h⟩ := bind_eq_ok h
    cases h
    exact ⟨x, t, readRow_eq_ok.mp ha, ht, Or.inl ⟨hnone, hinsert⟩⟩
  · obtain ⟨⟨x, db₁⟩, hreplace, h⟩ := bind_eq_ok h
    obtain ⟨a', ha, h⟩ := bind_eq_ok h
    cases h
    exact ⟨x, t, readRow_eq_ok.mp ha, ht, Or.inr ⟨r, b, hr, hb, hreplace⟩⟩

/-- What is made or changed is in the table from then on, a changed row in its old place. -/
theorem upsert_eq_ok [LawfulEntity ρ] {pick : ρ → Bool} {make : Int → ρ} {change : α → ρ}
    {a : α}
    (hkeep : ∀ (r : ρ) (b : α), Entity.read? r = some b → Entity.id (change b) = Entity.id r)
    (h : upsert pick make change db = .ok (a, db')) :
    ∃ t rows lastId x, db.table ρ = .ok t ∧ db' = db.withTable ⟨rows, lastId⟩ ∧
      t.lastId ≤ lastId ∧ (distinct t.rows = true → distinct rows = true) ∧
      Entity.read? x = some a ∧
      ((∃ id, t.nextId? = some id ∧ x = make id ∧ rows = t.rows ++ [x]) ∨
        ∃ before r after b, t.rows = before ++ r :: after ∧ rows = before ++ x :: after ∧
          pick r = true ∧ Entity.read? r = some b ∧ x = change b) := by
  obtain ⟨x, t, hx, ht, ⟨-, hinsert⟩ | ⟨r, b, hr, hb, hreplace⟩⟩ := upsert_cases h
  · obtain ⟨t', id, ht', hid, rfl, hfree, -, rfl⟩ := insert_eq_ok hinsert
    cases ht.symm.trans ht'
    exact ⟨t, _, _, _, ht, rfl, Int.le_max_left .., fun hd => distinct_concat hd hfree, hx,
      Or.inl ⟨id, hid, rfl, rfl⟩⟩
  · -- the row that was found is the one that its identifier picks out again
    obtain ⟨t', before, r', after, ht', hrows, -, honly, rfl, hdistinct, rfl⟩ :=
      replace_eq_ok hreplace
    cases ht.symm.trans ht'
    obtain rfl := honly r (List.mem_of_find?_eq_some hr) (hkeep r b hb).symm
    exact ⟨t, _, _, _, ht, rfl, Int.le_refl _, fun _ => hdistinct, hx,
      Or.inr ⟨before, r, after, b, hrows, rfl, List.find?_some hr, hb, rfl⟩⟩

end Community.Database

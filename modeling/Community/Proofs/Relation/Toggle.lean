import Community.Proofs.Target.Tally
import Community.Relation.Storage

/-!
# What a toggle that succeeds has done

Likes and favourites are toggled in one way. A *toggling* says what is particular to each of
them: which row it is, how the row is made and how it is turned over, and where its state is
counted. What a toggle has done when it succeeds is said of togglings, once for both:

> `Toggling.run_eq_ok`: the relation was flipped, and then its counter made the step that
> goes with the new state.

> `Toggling.rows_run`: the table is the old one with a new row at its end, or with one row
> replaced by the same row turned over.

> `Toggling.agreeOff_run`: all tables but that of the relation and that of its target
> are left as they were.
-/

namespace Community

open Database Time

/-- A statement that succeeds is a success with its outcome. -/
theorem Problem.ofStatement_eq_ok {α : Type} {outcome : Except Fault α} {a : α}
    (h : Problem.ofStatement outcome = .ok a) : outcome = .ok a := by
  cases outcome with
  | ok b => cases h; rfl
  | error f => cases h

/-- Only a tag is read of a column, and as itself. -/
theorem Column.read?_eq_some {α : Type} {c : Column α} {a : α} :
    c.read? = some a ↔ c = .tag a := by
  cases c <;> simp [Column.read?]

/-! ## Togglings -/

namespace Relation

/-- How a relation is toggled. What is written of a relation is what is read again; a
relation keeps its identifier and its place in the table when it is turned over; and its
counter is in another table. -/
structure Toggling (ρ α : Type) [Entity ρ α] where
  /-- Whether a row is the one of the relation. -/
  pick : ρ → Bool
  /-- What a first toggle makes under an identifier. -/
  make : Int → α
  /-- What a further toggle makes of what is there. -/
  turn : α → α
  write : α → ρ
  status : α → RelationStatus
  counter : Counter
  targetId : Int
  read?_write : ∀ a, Entity.read? (write a) = some a
  write_of_read? : ∀ {r a}, Entity.read? r = some a → write a = r
  id_make : ∀ id, Entity.id (write (make id)) = id
  id_turn : ∀ a, Entity.id (write (turn a)) = Entity.id (write a)
  pick_make : ∀ id, pick (write (make id)) = true
  pick_turn : ∀ a, pick (write (turn a)) = pick (write a)
  not_target : Entity.name ρ ∉ targetTables

namespace Toggling

variable {ρ α : Type} [Entity ρ α] (t : Toggling ρ α) {a : α} {db db' : Database}

/-- Makes the relation, or turns it over. -/
def flip : Database → Except Fault (α × Database) :=
  upsert t.pick (fun id => t.write (t.make id)) fun a => t.write (t.turn a)

/-- Flips the relation, and counts its new state on the target. -/
def run (db : Database) : Except Problem (α × Database) := do
  let (a, db) ← Problem.ofStatement (t.flip db)
  let (_, db) ← t.counter.count t.targetId (.ofState (t.status a).isActive) db
  return (a, db)

/-- The rows are the old ones with a new one at their end, or with one of
them turned over. -/
def Turns (rows rows' : List ρ) (a : α) : Prop :=
  (rows' = rows ++ [t.write a] ∧ ∃ id, a = t.make id) ∨
    ∃ before old after, rows = before ++ t.write old :: after ∧
      rows' = before ++ t.write a :: after ∧
      a = t.turn old

/-- What a relation is turned over from has its identifier. -/
theorem id_of_read? {r : ρ} {b : α} (h : Entity.read? r = some b) :
    Entity.id (t.write (t.turn b)) = Entity.id r := by
  rw [t.id_turn, t.write_of_read? h]

variable [LawfulEntity ρ]

/-- A flip turns the rows of the table, and yields the relation that it has written. -/
theorem flip_eq_ok (h : t.flip db = .ok (a, db')) :
    t.pick (t.write a) = true ∧
      ∃ table rows lastId, db.table ρ = .ok table ∧ db' = db.withTable ⟨rows, lastId⟩ ∧
        (distinct table.rows = true → distinct rows = true) ∧ t.Turns table.rows rows a := by
  obtain ⟨table, rows, lastId, x, htable, hdb, -, hdistinct, hx, ⟨id, -, rfl, rfl⟩ |
    ⟨before, r, after, old, hrows, rfl, hpick, hold, rfl⟩⟩ :=
    upsert_eq_ok (fun _ _ => t.id_of_read?) h
  · obtain rfl := Option.some.inj ((t.read?_write _).symm.trans hx)
    exact ⟨t.pick_make id, table, _, lastId, htable, hdb, hdistinct, Or.inl ⟨rfl, id, rfl⟩⟩
  · obtain rfl := Option.some.inj ((t.read?_write _).symm.trans hx)
    obtain rfl := t.write_of_read? hold
    refine ⟨(t.pick_turn old).trans hpick, table, _, lastId, htable, hdb, hdistinct, ?_⟩
    exact Or.inr ⟨before, old, after, hrows, rfl, rfl⟩

/-- A flip changes the table of the relation only. -/
theorem agreeOff_flip (h : t.flip db = .ok (a, db')) : AgreeOff [Entity.name ρ] db db' := by
  obtain ⟨-, -, rows, lastId, -, rfl, -⟩ := t.flip_eq_ok h
  exact agreeOff_withTable db (⟨rows, lastId⟩ : Table ρ)

omit [LawfulEntity ρ] in
/-- A toggle is a flip of the relation and a step of the counter of its target. -/
theorem run_eq_ok (h : t.run db = .ok (a, db')) :
    ∃ db₁, t.flip db = .ok (a, db₁) ∧
      t.counter.count t.targetId (.ofState (t.status a).isActive) db₁ = .ok ((), db') := by
  obtain ⟨⟨b, db₁⟩, hflip, h⟩ := bind_eq_ok h
  obtain ⟨⟨⟨⟩, db₂⟩, hcount, h⟩ := bind_eq_ok h
  cases h
  exact ⟨db₁, Problem.ofStatement_eq_ok hflip, hcount⟩

omit [LawfulEntity ρ] in
/-- Counting leaves the table of the relation alone. -/
theorem name_not_mem : Entity.name ρ ∉ [t.counter.table] :=
  Counter.not_mem_table t.not_target

/-- A toggle changes the table of the relation and that of the target. -/
theorem agreeOff_run (h : t.run db = .ok (a, db')) :
    AgreeOff [Entity.name ρ, t.counter.table] db db' := by
  obtain ⟨db₁, hflip, hcount⟩ := t.run_eq_ok h
  obtain ⟨n, hadjusted⟩ := Counter.count_eq_ok hcount
  exact (t.agreeOff_flip hflip).trans hadjusted.agreeOff

/-- The relation that a toggle yields is the picked one. -/
theorem pick_run (h : t.run db = .ok (a, db')) : t.pick (t.write a) = true := by
  obtain ⟨db₁, hflip, -⟩ := t.run_eq_ok h
  exact (t.flip_eq_ok hflip).1

/-- A toggle turns the rows of its table, which may still be together. -/
theorem rows_run (h : t.run db = .ok (a, db')) :
    t.Turns (rowsOf ρ db) (rowsOf ρ db') a ∧
      (distinct (rowsOf ρ db) = true → distinct (rowsOf ρ db') = true) := by
  obtain ⟨db₁, hflip, hcount⟩ := t.run_eq_ok h
  obtain ⟨-, table, rows, lastId, htable, rfl, hdistinct, hturns⟩ := t.flip_eq_ok hflip
  obtain ⟨n, hadjusted⟩ := Counter.count_eq_ok hcount
  have hrows : rowsOf ρ db' = rows :=
    (rowsOf_agreeOff hadjusted.agreeOff t.name_not_mem).trans (rowsOf_withTable _)
  rw [hrows, rowsOf_eq htable]
  exact ⟨hturns, hdistinct⟩

end Toggling

end Relation

/-! ## Likes -/

namespace Like

/-- What is read of a row is all there is in it. -/
theorem Columns.stored_of_read? {r : Row} {l : Like} (h : r.read? = some l) :
    l.stored = r := by
  obtain ⟨id, likeType, _, _, _, _, _, _, status, _, _⟩ := r
  cases likeType <;> cases status <;> cases h
  rfl

theorem Columns.id_of_read? {r : Row} {l : Like} (h : r.read? = some l) : l.id = r.id := by
  rw [← stored_of_read? h]
  rfl

/-- Which rows are those of a user, a type and a target. -/
theorem isOf_iff {userId : Int} {type : LikeType} {targetId : Int} {row : Row} :
    isOf userId type targetId row = true ↔
      row.userId = userId ∧ row.likeType = .tag type ∧ row.targetId = targetId := by
  rw [isOf, Bool.and_eq_true, Bool.and_eq_true, beq_iff_eq, beq_iff_eq,
    beq_iff_eq, and_assoc]

theorem isOf_stored {userId : Int} {type : LikeType} {targetId : Int} {l : Like} :
    isOf userId type targetId l.stored = true ↔
      l.userId = userId ∧ l.likeType = type ∧ l.targetId = targetId :=
  isOf_iff.trans (and_congr_right fun _ =>
    and_congr_left fun _ => ⟨Column.tag.inj, congrArg Column.tag⟩)

/-- No two likes of one user are about one target. -/
theorem conflict_of_eq {a b : Row} (huser : a.userId = b.userId)
    (htype : a.likeType = b.likeType) (htarget : a.targetId = b.targetId) :
    conflict a b = true := by
  have hclash : Entity.clashes a b = true := by
    show (a.userId == b.userId && a.likeType == b.likeType &&
      a.targetId == b.targetId) = true
    rw [huser, htype, htarget, beq_self_eq_true, beq_self_eq_true, beq_self_eq_true]
    rfl
  rw [conflict, hclash, Bool.or_true]

/-- How likes are toggled. -/
def toggling (userId : Int) (r : LikeToggle) (now : Timestamp) :
    Relation.Toggling Row Like where
  pick := isOf userId r.likeType r.targetId
  make := ofToggle userId r now
  turn l := l.toggled r now
  write l := l.stored
  status l := l.status
  counter := r.likeType.counter
  targetId := r.targetId
  read?_write _ := rfl
  write_of_read? := Columns.stored_of_read?
  id_make _ := rfl
  id_turn _ := rfl
  pick_make _ := isOf_stored.mpr ⟨rfl, rfl, rfl⟩
  pick_turn _ := rfl
  not_target := by decide

theorem run_toggling (userId : Int) (r : LikeToggle) (now : Timestamp) (db : Database) :
    (toggling userId r now).run db = toggle userId r now db := rfl

end Like

/-! ## Favourites -/

namespace Favorite

/-- What is read of a row is all there is in it. -/
theorem Columns.stored_of_read? {r : Row} {f : Favorite} (h : r.read? = some f) :
    f.stored = r := by
  obtain ⟨id, favoriteType, _, _, _, _, _, _, status, _, _⟩ := r
  cases favoriteType <;> cases status <;> cases h
  rfl

theorem Columns.id_of_read? {r : Row} {f : Favorite} (h : r.read? = some f) :
    f.id = r.id := by
  rw [← stored_of_read? h]
  rfl

/-- Which rows are those of a user, a type and a target. -/
theorem isOf_iff {userId : Int} {type : FavoriteType} {targetId : Int} {row : Row} :
    isOf userId type targetId row = true ↔
      row.userId = userId ∧ row.favoriteType = .tag type ∧ row.targetId = targetId := by
  rw [isOf, Bool.and_eq_true, Bool.and_eq_true, beq_iff_eq, beq_iff_eq,
    beq_iff_eq, and_assoc]

theorem isOf_stored {userId : Int} {type : FavoriteType} {targetId : Int} {f : Favorite} :
    isOf userId type targetId f.stored = true ↔
      f.userId = userId ∧ f.favoriteType = type ∧ f.targetId = targetId :=
  isOf_iff.trans (and_congr_right fun _ =>
    and_congr_left fun _ => ⟨Column.tag.inj, congrArg Column.tag⟩)

/-- No two favourites of one user are about one target. -/
theorem conflict_of_eq {a b : Row} (huser : a.userId = b.userId)
    (htype : a.favoriteType = b.favoriteType) (htarget : a.targetId = b.targetId) :
    conflict a b = true := by
  have hclash : Entity.clashes a b = true := by
    show (a.userId == b.userId && a.favoriteType == b.favoriteType &&
      a.targetId == b.targetId) = true
    rw [huser, htype, htarget, beq_self_eq_true, beq_self_eq_true, beq_self_eq_true]
    rfl
  rw [conflict, hclash, Bool.or_true]

/-- How favourites are toggled. -/
def toggling (userId : Int) (r : FavoriteToggle) (now : Timestamp) :
    Relation.Toggling Row Favorite where
  pick := isOf userId r.favoriteType r.targetId
  make := ofToggle userId r now
  turn f := f.toggled r now
  write f := f.stored
  status f := f.status
  counter := r.favoriteType.counter
  targetId := r.targetId
  read?_write _ := rfl
  write_of_read? := Columns.stored_of_read?
  id_make _ := rfl
  id_turn _ := rfl
  pick_make _ := isOf_stored.mpr ⟨rfl, rfl, rfl⟩
  pick_turn _ := rfl
  not_target := by decide

theorem run_toggling (userId : Int) (r : FavoriteToggle) (now : Timestamp) (db : Database) :
    (toggling userId r now).run db = toggle userId r now db := rfl

end Favorite

end Community

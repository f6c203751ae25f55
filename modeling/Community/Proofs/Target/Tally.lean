import Community.Proofs.Statement
import Community.Target.Storage

/-!
# The five counters as lists of numbers

Each counter is a column of a table. Its *tally* lists that column: for every row the
identifier and the number that is counted. A step of a counter is a step of its tally and
shows in no other tally, even where two counters are columns of one table:

> `Counter.count_eq_ok`: the numbers of the rows with the identifier make the step, there
> is at least one such row, and every other tally is what it was.
-/

namespace Community

open Database

/-- The tables of the things that relations are about. -/
def targetTables : List TableName :=
  [.content, .comment, .dynamic, .goods]

namespace Counter

/-- The table of the things that a counter counts relations of. -/
def table : Counter → TableName
  | contentLikes | contentFavorites => .content
  | commentLikes => .comment
  | dynamicLikes => .dynamic
  | goodsFavorites => .goods

/-- Every counter is on the table of a target. -/
theorem table_mem (counter : Counter) : counter.table ∈ targetTables := by
  cases counter <;> decide

/-- No other table has a counter in it. -/
theorem not_mem_table {counter : Counter} {name : TableName} (h : name ∉ targetTables) :
    name ∉ [counter.table] := by
  intro hmem
  rw [List.mem_singleton.mp hmem] at h
  exact h counter.table_mem

theorem not_mem_tables {counter : Counter} {name other : TableName} (hother : name ≠ other)
    (h : name ∉ targetTables) : name ∉ [other, counter.table] := by
  rw [List.mem_cons, not_or]
  exact ⟨hother, not_mem_table h⟩

/-- What is counted, and the numbers that the counter shows for it. -/
def tally (counter : Counter) (db : Database) : List (Int × Int) :=
  match counter with
  | contentLikes => (rowsOf Content.Row db).map fun c => (c.id, c.likeCount)
  | contentFavorites => (rowsOf Content.Row db).map fun c => (c.id, c.favoriteCount)
  | commentLikes => (rowsOf Comment db).map fun c => (c.id, c.likeCount)
  | dynamicLikes => (rowsOf Dynamic db).map fun d => (d.id, d.likeCount)
  | goodsFavorites => (rowsOf Goods.Row db).map fun g => (g.id, g.favoriteCount)

/-- One entry of a tally after a step of the counter at an identifier. -/
def bumped (id : Int) (delta : Delta) (e : Int × Int) : Int × Int :=
  if e.1 == id then (e.1, delta.apply e.2) else e

variable {counter other : Counter} {id : Int} {delta : Delta} {db db' : Database}

/-- The target's count is changed. -/
theorem bumped_of_eq {e : Int × Int} (h : e.1 = id) :
    bumped id delta e = (e.1, delta.apply e.2) :=
  if_pos (beq_iff_eq.mpr h)

/-- Other counts are left. -/
theorem bumped_of_ne {e : Int × Int} (h : e.1 ≠ id) : bumped id delta e = e :=
  if_neg fun he => h (beq_iff_eq.mp he)

@[simp]
theorem bumped_fst {e : Int × Int} : (bumped id delta e).1 = e.1 := by
  unfold bumped
  split <;> rfl

/-- A tally shows nothing of tables that its counter is no column of. -/
theorem tally_agreeOff {names : List TableName} (h : AgreeOff names db db')
    (hcounter : counter.table ∉ names) : tally counter db' = tally counter db := by
  cases counter with
  | contentLikes | contentFavorites => rw [tally, tally, rowsOf_agreeOff h hcounter]
  | commentLikes => rw [tally, tally, rowsOf_agreeOff h hcounter]
  | dynamicLikes => rw [tally, tally, rowsOf_agreeOff h hcounter]
  | goodsFavorites => rw [tally, tally, rowsOf_agreeOff h hcounter]

section Column

variable {ρ α : Type} [Entity ρ α] {change : ρ → ρ} {changed : List ρ} {number : ρ → Int}

/-- The rows that an update changes are those of the tally with the identifier. -/
theorem column_length
    (h : update (fun r => Entity.id r == id) change db = .ok (changed, db')) :
    changed.length
      = (((rowsOf ρ db).map fun r => (Entity.id r, number r)).filter fun e =>
        e.1 == id).length := by
  obtain ⟨t, ht, rfl, -, -⟩ := update_eq_ok h
  rw [rowsOf_eq ht, List.filter_map, List.length_map, List.length_map]
  rfl

variable [LawfulEntity ρ]

/-- An update that keeps identifiers changes each number on its own. -/
theorem column_update (step : Int × Int → Int × Int)
    (h : update (fun r => Entity.id r == id) change db = .ok (changed, db'))
    (hstep : ∀ r : ρ, (Entity.id (if Entity.id r == id then change r else r),
      number (if Entity.id r == id then change r else r)) = step (Entity.id r, number r)) :
    (rowsOf ρ db').map (fun r => (Entity.id r, number r))
      = ((rowsOf ρ db).map fun r => (Entity.id r, number r)).map step := by
  obtain ⟨t, ht, -, -, rfl⟩ := update_eq_ok h
  rw [rowsOf_withTable, rowsOf_eq ht, List.map_map, List.map_map]
  exact List.map_congr_left fun r _ => hstep r

/-- The column that makes the step. -/
theorem column_bumped
    (h : update (fun r => Entity.id r == id) change db = .ok (changed, db'))
    (hid : ∀ r, Entity.id (change r) = Entity.id r)
    (hnumber : ∀ r, number (change r) = delta.apply (number r)) :
    (rowsOf ρ db').map (fun r => (Entity.id r, number r))
      = ((rowsOf ρ db).map fun r => (Entity.id r, number r)).map (bumped id delta) := by
  refine column_update (bumped id delta) h fun r => ?_
  unfold bumped
  split
  · rw [hid, hnumber]
  · rfl

/-- A column beside it. -/
theorem column_kept (h : update (fun r => Entity.id r == id) change db = .ok (changed, db'))
    (hid : ∀ r, Entity.id (change r) = Entity.id r)
    (hnumber : ∀ r, number (change r) = number r) :
    (rowsOf ρ db').map (fun r => (Entity.id r, number r))
      = (rowsOf ρ db).map fun r => (Entity.id r, number r) := by
  refine (column_update (fun e => e) h fun r => ?_).trans (List.map_id _)
  split
  · rw [hid, hnumber]
  · rfl

end Column

/-- What a step of a counter does to the tallies, and to how many rows. -/
structure Adjusted (counter : Counter) (id : Int) (delta : Delta) (n : Nat)
    (db db' : Database) : Prop where
  agreeOff : AgreeOff [counter.table] db db'
  self : tally counter db' = (tally counter db).map (bumped id delta)
  other : ∀ other, other ≠ counter → tally other db' = tally other db
  length : n = ((tally counter db).filter fun e => e.1 == id).length

/-- What a successful adjustment did. -/
theorem adjust_eq_ok {n : Nat} (h : adjust counter id delta db = .ok (n, db')) :
    Adjusted counter id delta n db db' := by
  cases counter with
  | contentLikes =>
    obtain ⟨⟨changed, db₁⟩, hupdate, h⟩ := bind_eq_ok h
    cases h
    have hagree := agreeOff_update hupdate
    refine ⟨hagree, column_bumped hupdate (fun _ => rfl) fun _ => rfl,
      fun other hother => ?_, column_length hupdate⟩
    cases other with
    | contentLikes => exact absurd rfl hother
    -- the other number of a content is in the row that changes
    | contentFavorites => exact column_kept hupdate (fun _ => rfl) fun _ => rfl
    | commentLikes | dynamicLikes | goodsFavorites => exact tally_agreeOff hagree (by decide)
  | contentFavorites =>
    obtain ⟨⟨changed, db₁⟩, hupdate, h⟩ := bind_eq_ok h
    cases h
    have hagree := agreeOff_update hupdate
    refine ⟨hagree, column_bumped hupdate (fun _ => rfl) fun _ => rfl,
      fun other hother => ?_, column_length hupdate⟩
    cases other with
    | contentFavorites => exact absurd rfl hother
    | contentLikes => exact column_kept hupdate (fun _ => rfl) fun _ => rfl
    | commentLikes | dynamicLikes | goodsFavorites => exact tally_agreeOff hagree (by decide)
  | commentLikes | dynamicLikes | goodsFavorites =>
    obtain ⟨⟨changed, db₁⟩, hupdate, h⟩ := bind_eq_ok h
    cases h
    have hagree := agreeOff_update hupdate
    refine ⟨hagree, column_bumped hupdate (fun _ => rfl) fun _ => rfl,
      fun other hother => ?_, column_length hupdate⟩
    refine tally_agreeOff hagree fun hmem => hother ?_
    cases other <;> first | rfl | exact absurd hmem (by decide)

/-- Counting a relation is a step of the counter of a target that is there. -/
theorem count_eq_ok (h : count counter id delta db = .ok ((), db')) :
    ∃ n, Adjusted counter id delta (n + 1) db db' := by
  unfold count at h
  split at h
  · cases h
  · cases h
  · next n db₁ hadjust =>
    cases h
    exact ⟨n, adjust_eq_ok hadjust⟩

end Counter

end Community

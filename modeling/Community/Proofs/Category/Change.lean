import Community.Proofs.Refusal

/-!
# What a change of categories that succeeds has done

A change asks, writes one row and removes what is kept, so its success says what the
questions were answered and which statement was made:

> `create_eq_ok`, `change_eq_ok`, `remove_eq_ok`: the conditions that were met in the
> database before, the statement that made the database after, and the cache after.

Together with what is known of failures this is all that can become of the world, and
`Changed` lists it. An invariant about categories is proved along that list once, and
`table_after` carries it through every run.
-/

namespace Community.Category

open Database Procedure

/-- Whether a category may be given the parent: there is a row for it,
unless it is no parent. -/
def HasParent (db : Database) (parentId : Int) : Prop :=
  parentId = rootParent ∨ ∃ p, find parentId db = .ok (some p)

/-- Whether a category may be put below the parent: it is an active
category, or no parent. -/
def HasActiveParent (db : Database) (parentId : Int) : Prop :=
  parentId = rootParent ∨ ∃ p, find parentId db = .ok (some p) ∧ p.isActive = true

/-- A category keeps its parent, or the walk up from the new one has missed it. -/
def MayMove (db : Database) (id : Int) (c : Category) (parentId : Int) : Prop :=
  parentId = c.parentId ∨ (HasParent db parentId ∧ isWithin db parentId id = .ok false)

variable {w w' : World} {id parentId : Int} {c next : Category}

/-- A query that answers answered from the database as it was. -/
theorem ofStatement_query_eq_ok {α : Type} {q : Database → Except Fault α} {a : α}
    (h : (query q).perform w = (.ok a, w')) : q w.database = .ok a :=
  Problem.ofStatement_eq_ok (Prod.mk.inj h).1

/-- An active parent is a parent. -/
theorem HasActiveParent.hasParent {db : Database} (h : HasActiveParent db parentId) :
    HasParent db parentId :=
  h.imp_right fun ⟨p, hp, _⟩ => ⟨p, hp⟩

/-- The check of the parent is passed only under an active one. -/
theorem ensureParent_eq_ok (h : (ensureParent parentId).perform w = (.ok (), w')) :
    HasActiveParent w.database parentId := by
  unfold ensureParent at h
  split at h
  · next hroot => exact Or.inl hroot
  · -- an inactive parent is taken for a missing one, so the row was found and kept
    obtain ⟨found, hfound, h⟩ := perform_asked_eq_ok (leaves_findActive parentId) h
    obtain ⟨p, hp, hfound⟩ := perform_asked_eq_ok (.query _) hfound
    cases found with
    | none => cases h
    | some a =>
      have hfind := ofStatement_query_eq_ok hp
      obtain ⟨rfl, hactive⟩ :=
        Option.filter_eq_some_iff.mp (Except.ok.inj (Prod.mk.inj hfound).1)
      exact Or.inr ⟨a, hfind, hactive⟩

/-- A move is let through only if the parent exists and does not lie below the category. -/
theorem ensureMove_eq_ok (h : (ensureMove id parentId).perform w = (.ok (), w')) :
    HasParent w.database parentId ∧ isWithin w.database parentId id = .ok false := by
  unfold ensureMove at h
  split at h
  · obtain ⟨_, hthrow, -⟩ := perform_asked_eq_ok (.throw _) h
    cases hthrow
  · obtain ⟨_, hparent, h⟩ := perform_asked_eq_ok (leaves_ensureParent parentId) h
    obtain ⟨v, hv, h⟩ := perform_asked_eq_ok .get h
    obtain ⟨within, hwithin, h⟩ := perform_asked_eq_ok (.check _) h
    cases hv
    refine ⟨(ensureParent_eq_ok hparent).hasParent, ?_⟩
    cases within with
    | true => cases h
    | false => exact (Prod.mk.inj hwithin).1

/-- A change is let through only if its move is. -/
theorem ensureChange_eq_ok (h : (ensureChange id c next).perform w = (.ok (), w')) :
    MayMove w.database id c next.parentId := by
  by_cases hmoved : next.parentId = c.parentId
  · exact Or.inl hmoved
  · unfold ensureChange at h
    rw [if_pos hmoved] at h
    obtain ⟨_, hmove, -⟩ := perform_asked_eq_ok (leaves_ensureMove id next.parentId) h
    exact Or.inr (ensureMove_eq_ok hmove)

/-- A world in which categories have changed: nothing is kept about them any more. -/
def changedTo (w : World) (db : Database) : World :=
  { w with database := db, cache := w.cache.deletePatterns [family] }

/-- What is yielded for a row that was written from a category is the category. -/
theorem eq_of_readRow {stored : Category}
    (h : Problem.ofStatement (readRow next.stored) = .ok stored) : stored = next := by
  rw [readRow_eq_ok.mpr (Columns.read?_stored next)] at h
  exact (Except.ok.inj h).symm

/-- A new category has an active parent, and is one new row. -/
theorem create_eq_ok {r : NewCategory} (h : (create r).perform w = (.ok c, w')) :
    HasActiveParent w.database r.parentId ∧
      ∃ db, add r w.now w.database = .ok (c.stored, db) ∧ w' = changedTo w db := by
  obtain ⟨_, -, h⟩ := perform_asked_eq_ok (.check _) h
  obtain ⟨_, hparent, h⟩ := perform_asked_eq_ok (leaves_ensureParent _) h
  obtain ⟨_, -, h⟩ := perform_asked_eq_ok (leaves_ensureFreeName _ _ _) h
  obtain ⟨now, hnow, h⟩ := perform_asked_eq_ok .now h
  obtain ⟨stored, v, hwrite, h⟩ := perform_bind_eq_ok h
  cases hnow
  obtain ⟨row, db, hadd, hread, rfl⟩ := perform_writeRow_eq_ok hwrite
  cases h
  obtain ⟨t, id, -, -, rfl, -⟩ := insert_eq_ok hadd
  rw [eq_of_readRow hread]
  exact ⟨ensureParent_eq_ok hparent, db, hadd, rfl⟩

/-- A changed category was there and may have its parent, and replaces its row. -/
theorem change_eq_ok {r : CategoryChange} {stored : Category}
    (h : (change id r).perform w = (.ok stored, w')) :
    ∃ c, find id w.database = .ok (some c) ∧
      MayMove w.database id c (c.changed r w.now).parentId ∧ stored = c.changed r w.now ∧
      ∃ db, replace (c.changed r w.now) w.database = .ok ((c.changed r w.now).stored, db) ∧
        w' = changedTo w db := by
  obtain ⟨_, -, h⟩ := perform_asked_eq_ok (.check _) h
  obtain ⟨found, hfound, h⟩ := perform_asked_eq_ok (.query _) h
  cases found with
  | none => cases h
  | some c =>
    obtain ⟨now, hnow, h⟩ := perform_asked_eq_ok .now h
    cases hnow
    obtain ⟨_, hensure, h⟩ := perform_asked_eq_ok (leaves_ensureChange id c _) h
    obtain ⟨stored, v, hwrite, h⟩ := perform_bind_eq_ok h
    obtain ⟨row, db, hreplace, hread, rfl⟩ := perform_writeRow_eq_ok hwrite
    cases h
    obtain ⟨-, -, -, -, -, -, -, -, rfl, -⟩ := replace_eq_ok hreplace
    exact ⟨c, ofStatement_query_eq_ok hfound, ensureChange_eq_ok hensure,
      eq_of_readRow hread, db, hreplace, rfl⟩

/-- A removed category was there, and no active one hung below it. -/
theorem ensureUnused_eq_ok (h : (ensureUnused id).perform w = (.ok (), w')) :
    (∃ c, find id w.database = .ok (some c)) ∧ childCount id w.database = .ok 0 := by
  obtain ⟨found, hfound, h⟩ := perform_asked_eq_ok (.query _) h
  cases found with
  | none => cases h
  | some c =>
    refine ⟨⟨c, ofStatement_query_eq_ok hfound⟩, ?_⟩
    obtain ⟨children, hchildren, h⟩ := perform_asked_eq_ok (.query _) h
    cases children with
    | zero => exact ofStatement_query_eq_ok hchildren
    | succ n => cases h

/-- A category that is removed exists and has no children. -/
theorem remove_eq_ok (h : (remove id).perform w = (.ok (), w')) :
    (∃ c, find id w.database = .ok (some c)) ∧ childCount id w.database = .ok 0 ∧
      ∃ was db, erase id w.database = .ok (was, db) ∧ w' = changedTo w db := by
  obtain ⟨_, hunused, h⟩ := perform_asked_eq_ok (leaves_ensureUnused id) h
  obtain ⟨was, v, hwrite, h⟩ := perform_bind_eq_ok h
  obtain ⟨hfind, hcount⟩ := ensureUnused_eq_ok hunused
  rw [write, perform_transact] at hwrite
  split at hwrite
  · next herase =>
    cases hwrite
    cases h
    exact ⟨hfind, hcount, _, _, Problem.ofStatement_eq_ok herase, rfl⟩
  · cases hwrite

/-- What becomes of the world in a change of categories. It is refused and leaves everything
as it was, or it writes one row, on the conditions that were met before. -/
inductive Changed (w : World) : World → Prop
  | refused : Changed w w
  | created {r : NewCategory} {row : Row} {db : Database}
    (hparent : HasParent w.database r.parentId)
    (hadd : add r w.now w.database = .ok (row, db)) : Changed w (changedTo w db)
  | replaced {id : Int} {r : CategoryChange} {c : Category} {row : Row} {db : Database}
    (hfind : find id w.database = .ok (some c))
    (hmove : MayMove w.database id c (c.changed r w.now).parentId)
    (hreplace : replace (c.changed r w.now) w.database = .ok (row, db)) :
    Changed w (changedTo w db)
  | removed {id : Int} {was : Bool} {db : Database}
    (herase : erase id w.database = .ok (was, db)) :
    Changed w (changedTo w db)

/-- Creating a category is refused, or changes the world as `Changed` says. -/
theorem changed_create (r : NewCategory) (w : World) :
    Changed w ((create r).perform w).2 := by
  rcases hperform : (create r).perform w with ⟨p | c, w'⟩
  · rw [failsCleanly_create r w p w' hperform]
    exact .refused
  · obtain ⟨hparent, db, hadd, rfl⟩ := create_eq_ok hperform
    exact .created hparent.hasParent hadd

/-- So is changing one. -/
theorem changed_change (id : Int) (r : CategoryChange) (w : World) :
    Changed w ((change id r).perform w).2 := by
  rcases hperform : (change id r).perform w with ⟨p | c, w'⟩
  · rw [failsCleanly_change id r w p w' hperform]
    exact .refused
  · obtain ⟨c, hfind, hmove, -, db, hreplace, rfl⟩ := change_eq_ok hperform
    exact .replaced hfind hmove hreplace

/-- So is removing one. -/
theorem changed_remove (id : Int) (w : World) : Changed w ((remove id).perform w).2 := by
  rcases hperform : (remove id).perform w with ⟨p | _, w'⟩
  · rw [failsCleanly_remove id w p w' hperform]
    exact .refused
  · obtain ⟨-, -, was, db, herase, rfl⟩ := remove_eq_ok hperform
    exact .removed herase

/-! ## What a circle would be reported from -/

section Circles

variable {start through : Int}

theorem spares_ensureParent (parentId : Int) :
    Spares (.circularParents start through) (ensureParent parentId) := by
  have hquery : ∀ f : Fault, Problem.database f ≠ .circularParents start through := by
    intro f h
    cases h
  unfold ensureParent
  refine .ite (.pure _) (.bind ?_ fun found => .ite (.throw (by simp)) (.pure _))
  exact .bind (.query hquery _) fun _ => .pure _

theorem spares_ensureFreeName (parentId : Int) (name : String) (except? : Option Int) :
    Spares (.circularParents start through) (ensureFreeName parentId name except?) := by
  refine .bind (.query (by simp) _) fun found => ?_
  cases found with
  | none => exact .pure _
  | some other => exact .ite (.throw (by simp)) (.pure _)

/-- The circle that the check of a move reports is the one that the way up ran into. -/
theorem ensureMove_eq_circular
    (h : (ensureMove id parentId).perform w =
      (.error (.circularParents start through), w')) :
    HasParent w.database parentId ∧
      isWithin w.database parentId id = .error (.circularParents start through) := by
  unfold ensureMove at h
  split at h
  · -- a category below itself is refused before any walk
    rcases perform_asked_eq_error (.throw _) h with h | ⟨_, h, -⟩ <;> cases h
  · rcases perform_asked_eq_error (leaves_ensureParent parentId) h with h | ⟨_, hparent, h⟩
    · exact absurd h (spares_ensureParent parentId w w)
    · refine ⟨(ensureParent_eq_ok hparent).hasParent, ?_⟩
      obtain h | ⟨v, hv, h⟩ := perform_asked_eq_error .get h
      · cases h
      · cases hv
        rcases perform_asked_eq_error (.check _) h with h | ⟨within, -, h⟩
        · exact (Prod.mk.inj h).1
        · cases within <;> cases h

/-- So is the one that the check of a change reports. -/
theorem ensureChange_eq_circular
    (h : (ensureChange id c next).perform w =
      (.error (.circularParents start through), w')) :
    HasParent w.database next.parentId ∧
      isWithin w.database next.parentId id = .error (.circularParents start through) := by
  have hname : Spares (.circularParents start through) (do
      if next.name ≠ c.name ∨ next.parentId ≠ c.parentId then
        ensureFreeName next.parentId next.name (some id)) :=
    .ite (spares_ensureFreeName _ _ _) (.pure _)
  unfold ensureChange at h
  by_cases hmoved : next.parentId = c.parentId
  · rw [if_neg (not_not_intro hmoved)] at h
    exact absurd h (hname w w')
  · rw [if_pos hmoved] at h
    rcases perform_asked_eq_error (leaves_ensureMove id next.parentId) h with h | ⟨_, -, h⟩
    · exact ensureMove_eq_circular h
    · exact absurd h (hname w w')

/-- Only the walk up from a new parent reports a circle. -/
theorem change_eq_circular {r : CategoryChange}
    (h : (change id r).perform w = (.error (.circularParents start through), w')) :
    ∃ parentId, HasParent w.database parentId ∧
      isWithin w.database parentId id = .error (.circularParents start through) := by
  rcases perform_asked_eq_error (.check _) h with h | ⟨_, -, h⟩
  · rw [perform_check, Problem.ofIssues] at h
    split at h <;> cases h
  rcases perform_asked_eq_error (.query _) h with h | ⟨found, -, h⟩
  · exact absurd h (Spares.query (by simp) _ w w)
  cases found with
  | none => cases h
  | some c =>
    rcases perform_asked_eq_error .now h with h | ⟨now, -, h⟩
    · cases h
    rcases perform_asked_eq_error (leaves_ensureChange id c _) h with h | ⟨_, -, h⟩
    · exact ⟨_, ensureChange_eq_circular h⟩
    -- once a row is written nothing fails any more
    have hrest : Spares (.circularParents start through) (do
        let stored ← writeRow (replace (c.changed r now))
        forgetFamilies [family]
        return stored) :=
      .bind (.writeRow (by simp) _) fun stored =>
        .of_succeeds (.bind (.forgetFamilies _) fun _ => .pure stored)
    exact absurd h (hrest w w')

end Circles

/-! ## Runs -/

section Runs

/-- An operation changes categories as its kind of change does, or leaves
their table alone. -/
theorem changed_next (op : Operation) (w : World) :
    Changed w (op.next w) ∨ (op.next w).database.table Row = w.database.table Row := by
  have hother : TableName.category ∉ op.tables →
      Changed w (op.next w) ∨ (op.next w).database.table Row = w.database.table Row :=
    fun hname => Or.inr (table_agreeOff (op.agreeOff_next w) hname)
  cases op with
  | createCategory r =>
    rw [Operation.next, Operation.run, Operation.snd_perform_silently]
    exact Or.inl (changed_create r w)
  | changeCategory id r =>
    rw [Operation.next, Operation.run, Operation.snd_perform_silently]
    exact Or.inl (changed_change id r w)
  | removeCategory id =>
    rw [Operation.next, Operation.run, Operation.snd_perform_silently]
    exact Or.inl (changed_remove id w)
  -- toggles write the tables of relations and of what they are about
  | toggleLike | toggleFavorite =>
    exact hother (Counter.not_mem_tables (by decide) (by decide))
  | search | changeProfile => exact hother (by simp [Operation.tables])
  | _ => exact hother List.not_mem_nil

/-- What every change of categories keeps of their table is kept by every run. -/
theorem table_after {I : Table Row → Prop} {t : Table Row}
    (hstep : ∀ {v v' : World} {t : Table Row}, v.database.table Row = .ok t → I t →
      Changed v v' → ∃ t', v'.database.table Row = .ok t' ∧ I t')
    (ht : w.database.table Row = .ok t) (h : I t) (events : List Event) :
    ∃ t', (w.after events).database.table Row = .ok t' ∧ I t' := by
  refine World.after_induction (I := fun v => ∃ t', v.database.table Row = .ok t' ∧ I t')
    ⟨t, ht, h⟩ ?_
  rintro v e - ⟨t', ht', h'⟩
  cases e with
  | call op =>
    rcases changed_next op v with hchanged | hsame
    · exact hstep ht' h' hchanged
    · exact ⟨t', hsame.trans ht', h'⟩
  | wait | closeCache => exact ⟨t', ht', h'⟩

end Runs

end Community.Category

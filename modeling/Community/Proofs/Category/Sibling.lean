import Community.Proofs.Category.Hierarchy
import Community.Proofs.Schema.Width
import Mathlib.Data.List.Pairwise

/-!
# Names among siblings

No two active categories below one parent have the same name. The service asks who has a name
only where a category gets a name or a parent that it did not have; one that becomes active
again is left to the unique index of the table. Between them they refuse neither too much nor
too little:

> `IsExclusive`: an orderly table in which no two rows are in conflict, kept by every run.

> `create_of_taken`, `create_of_free`: a new category is refused as a conflict if its name is
> taken below its parent, and otherwise made as long as an identifier is left.

> `change_of_taken`, `change_of_free`: the same for a category that is active once it has
> been changed, whether it was renamed, moved, made active again, or all of these.

A database may refuse a row for a text that is longer than its column is wide. The checks of
a request let an icon be so long; a row that does not fit for it is not promised to be stored
(`siblings_conflict_exactly`).
-/

namespace Community.Category

open Database Procedure Text

/-! ## Tables in which no two rows are in conflict -/

/-- Categories are in conflict if they share their identifier, or are shown under one
parent by one name. -/
theorem conflict_iff {a b : Row} :
    conflict a b = true ↔ a.id = b.id ∨
      (a.isShown = true ∧ b.isShown = true ∧ a.parentId = b.parentId ∧ a.name = b.name) := by
  show (a.id == b.id ||
    (a.isShown && b.isShown && a.parentId == b.parentId && a.name == b.name)) = true ↔ _
  simp [and_assoc]

/-- An orderly table in which no two rows are in conflict. -/
structure IsExclusive (t : Table Row) : Prop extends IsOrderly t where
  apart : Database.distinct t.rows = true

variable {t : Table Row} {w w' : World}

/-- An empty table is exclusive. -/
theorem IsExclusive.of_empty (h : t.rows = []) : IsExclusive t := by
  refine ⟨.of_empty h, ?_⟩
  rw [h]
  rfl

/-- A change of categories brings no two rows into conflict. -/
theorem apart_changed (h : Database.distinct t.rows = true)
    (ht : w.database.table Row = .ok t) (hchanged : Changed w w') :
    ∃ t', w'.database.table Row = .ok t' ∧ Database.distinct t'.rows = true := by
  cases hchanged with
  | refused => exact ⟨t, ht, h⟩
  | created _ hadd =>
    obtain ⟨t', id, ht', -, rfl, hfree, -, rfl⟩ := insert_eq_ok hadd
    cases ht.symm.trans ht'
    exact ⟨_, table_withTable _, distinct_concat h hfree⟩
  | replaced _ _ hreplace =>
    obtain ⟨t', before, old, after, -, -, -, -, -, hdistinct, rfl⟩ := replace_eq_ok hreplace
    exact ⟨_, table_withTable _, hdistinct⟩
  | removed herase =>
    obtain ⟨⟨n, db⟩, hdelete, herase⟩ := bind_eq_ok herase
    cases herase
    obtain ⟨t', ht', rfl⟩ := delete_eq_ok hdelete
    cases ht.symm.trans ht'
    exact ⟨_, table_withTable _, distinct_iff.mpr ((distinct_iff.mp h).filter _)⟩

/-- No change of a category gives two active siblings one name. -/
theorem IsExclusive.changed (h : IsExclusive t) (ht : w.database.table Row = .ok t)
    (hchanged : Changed w w') : ∃ t', w'.database.table Row = .ok t' ∧ IsExclusive t' := by
  obtain ⟨t', ht', horderly⟩ := h.toIsOrderly.changed ht hchanged
  obtain ⟨t'', ht'', hapart⟩ := apart_changed h.apart ht hchanged
  cases ht'.symm.trans ht''
  exact ⟨t', ht', horderly, hapart⟩

/-- So they never come to share one. -/
theorem IsExclusive.after (h : IsExclusive t) (ht : w.database.table Row = .ok t)
    (events : List Event) :
    ∃ t', (w.after events).database.table Row = .ok t' ∧ IsExclusive t' :=
  table_after (fun ht h hchanged => h.changed ht hchanged) ht h events

/-- Only one category is shown under a parent by a name. -/
theorem IsExclusive.eq_of_shown (h : IsExclusive t) {a b : Row} (ha : a ∈ t.rows)
    (hb : b ∈ t.rows) (hashown : a.isShown = true) (hbshown : b.isShown = true)
    (hparent : a.parentId = b.parentId) (hname : a.name = b.name) : a = b := by
  by_contra hne
  have hsymm : Std.Symm fun a b : Row => conflict a b = false :=
    ⟨fun a b hab => (conflict_comm b a).trans hab⟩
  have hfree := (distinct_iff.mp h.apart).forall ha hb hne
  rw [conflict_iff.mpr (Or.inr ⟨hashown, hbshown, hparent, hname⟩)] at hfree
  cases hfree

/-! ## Who has a name -/

/-- An active category below the parent has the name, and has another
identifier than `except?`. -/
def IsTaken (db : Database) (parentId : Int) (name : String) (except? : Option Int) : Prop :=
  ∃ r ∈ rowsOf Row db, r.isShown = true ∧ r.parentId = parentId ∧ r.name = name ∧
    some r.id ≠ except?

instance (db : Database) (parentId : Int) (name : String) (except? : Option Int) :
    Decidable (IsTaken db parentId name except?) :=
  inferInstanceAs (Decidable (∃ _ ∈ _, _))

/-- An identifier is left for a new category. -/
def HasRoom (db : Database) : Prop :=
  ∃ t id, db.table Row = .ok t ∧ t.nextId? = some id

/-- An operation is refused as a conflict. -/
def IsConflict {α : Type} (outcome : Except Problem α) : Prop :=
  ∃ p, outcome = .error p ∧ p.report.kind = .conflict

theorem not_isConflict_ok {α : Type} {a : α} : ¬IsConflict (.ok a : Except Problem α) := by
  rintro ⟨p, hp, -⟩
  cases hp

section Names

variable {parentId : Int} {name : String} {except? : Option Int}

/-- The category that is found under a name is the one that is shown there. -/
theorem IsExclusive.exists_sibling (h : IsExclusive t) (ht : w.database.table Row = .ok t)
    (parentId : Int) (name : String) :
    ∃ found, sibling parentId name w.database = .ok found ∧ ∀ r : Row,
      found.map Columns.stored = some r ↔
        r ∈ t.rows ∧ r.isShown = true ∧ r.parentId = parentId ∧ r.name = name := by
  have hpick : ∀ r : Row, (r.parentId == parentId && r.name == name && r.isShown) = true ↔
      r.isShown = true ∧ r.parentId = parentId ∧ r.name = name := by
    intro r
    rw [Bool.and_eq_true, Bool.and_eq_true, beq_iff_eq, beq_iff_eq]
    exact and_comm
  cases hfind : t.rows.find? fun r =>
    r.parentId == parentId && r.name == name && r.isShown with
  | none =>
    refine ⟨none, findFirst_of_none ht hfind, fun r => iff_of_false nofun ?_⟩
    rintro ⟨hr, hshown⟩
    exact List.find?_eq_none.mp hfind r hr ((hpick r).mpr hshown)
  | some s =>
    have hs := List.mem_of_find?_eq_some hfind
    obtain ⟨hshown, hparent, hname⟩ := (hpick s).mp
      (List.find?_some (p := fun r : Row => r.parentId == parentId && r.name == name &&
        r.isShown) hfind)
    obtain ⟨c, rfl⟩ := h.readable s hs
    refine ⟨some c, findFirst_of_some ht hfind (Columns.read?_stored c), fun r => ?_⟩
    rw [Option.map_some, Option.some.injEq]
    constructor
    · rintro rfl
      exact ⟨hs, hshown, hparent, hname⟩
    · rintro ⟨hr, hrshown, hrparent, hrname⟩
      exact h.eq_of_shown hs hr hshown hrshown (hparent.trans hrparent.symm)
        (hname.trans hrname.symm)

/-- A name that an active sibling has is refused. -/
theorem IsExclusive.ensureFreeName_of_taken (h : IsExclusive t)
    (ht : w.database.table Row = .ok t) (htaken : IsTaken w.database parentId name except?) :
    (ensureFreeName parentId name except?).perform w = (.error (.siblingName name), w) := by
  obtain ⟨r, hr, hshown, hparent, hname, hother⟩ := htaken
  rw [rowsOf_eq ht] at hr
  obtain ⟨found, hfound, hspec⟩ := h.exists_sibling ht parentId name
  obtain ⟨c, rfl, hc⟩ :=
    Option.map_eq_some_iff.mp ((hspec r).mpr ⟨hr, hshown, hparent, hname⟩)
  have hne : some c.id ≠ except? := by
    rw [← hc] at hother
    exact hother
  have hquery : (query (sibling parentId name)).perform w = (.ok (some c), w) := by
    rw [perform_query, hfound]
    rfl
  rw [ensureFreeName, perform_bind_ok hquery]
  show Procedure.perform (if some c.id ≠ except? then throw (Problem.siblingName name)
    else pure ()) w = _
  rw [if_pos hne]
  rfl

/-- A name that none has is let through. -/
theorem IsExclusive.ensureFreeName_of_free (h : IsExclusive t)
    (ht : w.database.table Row = .ok t) (hfree : ¬IsTaken w.database parentId name except?) :
    (ensureFreeName parentId name except?).perform w = (.ok (), w) := by
  obtain ⟨found, hfound, hspec⟩ := h.exists_sibling ht parentId name
  have hquery : (query (sibling parentId name)).perform w = (.ok found, w) := by
    rw [perform_query, hfound]
    rfl
  rw [ensureFreeName, perform_bind_ok hquery]
  cases found with
  | none => rfl
  | some c =>
    -- it is the category that the name is asked for
    have hself : ¬some c.id ≠ except? := by
      intro hother
      obtain ⟨hc, hshown, hparent, hname⟩ := (hspec c.stored).mp rfl
      exact hfree ⟨c.stored, rowsOf_eq ht ▸ hc, hshown, hparent, hname, hother⟩
    show Procedure.perform (if some c.id ≠ except? then throw (Problem.siblingName name)
      else pure ()) w = _
    rw [if_neg hself]
    rfl

end Names

/-! ## New categories -/

section Create

variable {r : NewCategory}

/-- Whether a new category is made is settled by its name and the statement. -/
theorem create_of_ensured (hissues : r.issues = [])
    (hparent : ((ensureParent r.parentId).perform w).1 = .ok ()) :
    (create r).perform w = (do
      ensureFreeName r.parentId (trim r.name) none
      let c ← writeRow (add r w.now)
      forgetFamilies [family]
      return c).perform w := by
  have hcheck : (check (Problem.ofIssues r.issues)).perform w = (.ok (), w) := by
    rw [perform_check, hissues]
    rfl
  have hensure := perform_asked (leaves_ensureParent r.parentId) hparent
  rw [create, perform_bind_ok hcheck, perform_bind_ok hensure, perform_bind, perform_bind]
  rw [perform_asked (leaves_ensureFreeName r.parentId (trim r.name) none) rfl]
  cases ((ensureFreeName r.parentId (trim r.name) none).perform w).1 with
  | error p => rfl
  | ok _ => exact perform_bind_ok (perform_now w)

theorem IsExclusive.create_of_taken (h : IsExclusive t) (ht : w.database.table Row = .ok t)
    (hissues : r.issues = []) (hparent : ((ensureParent r.parentId).perform w).1 = .ok ())
    (htaken : IsTaken w.database r.parentId (trim r.name) none) :
    (create r).perform w = (.error (.siblingName (trim r.name)), w) := by
  rw [create_of_ensured hissues hparent, perform_bind, h.ensureFreeName_of_taken ht htaken]

/-- A free name is refused only where no identifier is left. -/
theorem IsExclusive.create_of_free (h : IsExclusive t) (ht : w.database.table Row = .ok t)
    (hissues : r.issues = []) (hparent : ((ensureParent r.parentId).perform w).1 = .ok ())
    (hfree : ¬IsTaken w.database r.parentId (trim r.name) none) :
    (∃ id w', t.nextId? = some id ∧ (create r).perform w =
      (.ok (ofRequest r w.now id), w')) ∨
      (t.nextId? = none ∧ (create r).perform w = (.error (.database .full), w)) := by
  rw [create_of_ensured hissues hparent,
    perform_bind_ok (h.ensureFreeName_of_free ht hfree), perform_bind, perform_writeRow]
  cases hid : t.nextId? with
  | none =>
    have hadd : add r w.now w.database = .error .full := insert_of_full ht hid
    rw [hadd]
    exact Or.inr ⟨rfl, rfl⟩
  | some id =>
    have hconflict : ∀ s ∈ t.rows, conflict (ofRequest r w.now id).stored s = false := by
      intro s hs
      rw [Bool.eq_false_iff, Ne, conflict_iff]
      rintro (hsame | ⟨-, hshown, hparent, hname⟩)
      · exact absurd hsame (Int.ne_of_gt ((nextId?_gt hid).2.1 s hs))
      · exact hfree ⟨s, rowsOf_eq ht ▸ hs, hshown, hparent.symm, hname.symm,
          Option.some_ne_none _⟩
    have hadd : add r w.now w.database = _ := insert_of_free ht hid hconflict rfl
    rw [hadd]
    exact Or.inl ⟨id, _, rfl, rfl⟩

end Create

/-! ## Changed categories -/

section Change

variable {id : Int} {c next : Category} {r : CategoryChange}

/-- A category may be stored in place of the one with its identifier if its name is free. -/
theorem IsExclusive.replace_of_free (h : IsExclusive t) (ht : w.database.table Row = .ok t)
    (hc : c.stored ∈ t.rows) (hid : next.id = c.id)
    (hfree : ¬IsTaken w.database next.parentId next.name (some c.id)) :
    ∃ db, Category.replace next w.database = .ok (next.stored, db) := by
  obtain ⟨before, after, hrows⟩ := List.append_of_mem hc
  have happart := h.apart
  rw [hrows, distinct_middle] at happart
  refine ⟨_, replace_of_distinct ht hrows hid.symm (distinct_middle.mpr ⟨?_, happart.2⟩) rfl⟩
  intro s hs
  have hne : s.id ≠ c.id := (ne_id_of_not_conflict (happart.1 s hs)).symm
  have hmem : s ∈ t.rows := by
    rw [hrows]
    exact (List.mem_append.mp hs).elim (List.mem_append_left _) fun hs =>
      List.mem_append_right _ (List.mem_cons_of_mem _ hs)
  rw [Bool.eq_false_iff, Ne, conflict_iff]
  rintro (hsame | ⟨-, hshown, hparent, hname⟩)
  · exact hne (hsame.symm.trans hid)
  · exact hfree ⟨s, rowsOf_eq ht ▸ hmem, hshown, hparent.symm,
      hname.symm, by simpa using hne⟩

/-- The unique index refuses a category that is active under a name that is taken. -/
theorem IsExclusive.replace_of_taken (h : IsExclusive t) (ht : w.database.table Row = .ok t)
    (hc : c.stored ∈ t.rows) (hid : next.id = c.id) (hactive : next.isActive = true)
    (htaken : IsTaken w.database next.parentId next.name (some c.id)) :
    Category.replace next w.database = .error .duplicate := by
  obtain ⟨s, hs, hshown, hparent, hname, hother⟩ := htaken
  obtain ⟨before, after, hrows⟩ := List.append_of_mem hc
  have happart := h.apart
  rw [hrows, distinct_middle] at happart
  have hne : s.id ≠ c.id := fun he => hother (congrArg some he)
  have hmem : s ∈ before ++ after := by
    rw [rowsOf_eq ht, hrows] at hs
    rcases List.mem_append.mp hs with hs | hs
    · exact List.mem_append_left _ hs
    · rcases List.mem_cons.mp hs with rfl | hs
      · exact absurd rfl hne
      · exact List.mem_append_right _ hs
  refine replace_of_conflict ht hrows hid.symm ?_ ?_
  · intro a ha he
    exact (ne_id_of_not_conflict (happart.1 a ha)).symm (he.trans hid)
  · rw [Bool.eq_false_iff, Ne, distinct_middle]
    rintro ⟨hfree, -⟩
    have hclash : conflict next.stored s = true :=
      conflict_iff.mpr
        (Or.inr ⟨(isShown_stored next).trans hactive, hshown, hparent.symm, hname.symm⟩)
    cases (hfree s hmem).symm.trans hclash

/-- A change of a category that is there is settled by its checks and the statement. -/
theorem change_of_found (hissues : r.issues = [])
    (hfind : find id w.database = .ok (some c)) :
    (change id r).perform w = (do
      ensureChange id c (c.changed r w.now)
      let stored ← writeRow (Category.replace (c.changed r w.now))
      forgetFamilies [family]
      return stored).perform w := by
  have hcheck : (check (Problem.ofIssues r.issues)).perform w = (.ok (), w) := by
    rw [perform_check, hissues]
    rfl
  have hquery : (query (find id)).perform w = (.ok (some c), w) := by
    rw [perform_query, hfind]
    rfl
  rw [change, perform_bind_ok hcheck, perform_bind_ok hquery]
  exact perform_bind_ok (perform_now w)

/-- Once the parent has passed, only the name is left to ask for, if anything is. -/
theorem ensureChange_of_moved
    (hmove : next.parentId = c.parentId ∨
      ((ensureMove id next.parentId).perform w).1 = .ok ()) :
    (ensureChange id c next).perform w =
      (if next.name ≠ c.name ∨ next.parentId ≠ c.parentId then
        ensureFreeName next.parentId next.name (some id)
        else pure () : Procedure Unit).perform w := by
  unfold ensureChange
  by_cases hsame : next.parentId = c.parentId
  · rw [if_neg (not_not_intro hsame)]
  · rw [if_pos hsame]
    exact perform_bind_ok (perform_asked (leaves_ensureMove id _) (hmove.resolve_left hsame))

/-- A name that is taken is refused by the question for it, or where that is not asked by the
unique index. -/
theorem IsExclusive.change_of_taken (h : IsExclusive t) (ht : w.database.table Row = .ok t)
    (hissues : r.issues = []) (hfind : find id w.database = .ok (some c))
    (hmove : (c.changed r w.now).parentId = c.parentId ∨
      ((ensureMove id (c.changed r w.now).parentId).perform w).1 = .ok ())
    (hactive : (c.changed r w.now).isActive = true)
    (htaken : IsTaken w.database (c.changed r w.now).parentId
      (c.changed r w.now).name (some id)) : IsConflict ((change id r).perform w).1 := by
  have hensure := ensureChange_of_moved hmove
  by_cases hasked : (c.changed r w.now).name ≠ c.name ∨
    (c.changed r w.now).parentId ≠ c.parentId
  · rw [if_pos hasked, h.ensureFreeName_of_taken ht htaken] at hensure
    rw [change_of_found hissues hfind, perform_bind, hensure]
    exact ⟨_, rfl, rfl⟩
  · rw [if_neg hasked, perform_pure] at hensure
    obtain ⟨hc, hid⟩ := rowOf?_eq_some (find_eq_ok ht hfind)
    have hreplace : Category.replace (c.changed r w.now) w.database = .error .duplicate :=
      h.replace_of_taken ht hc rfl hactive (hid ▸ htaken)
    rw [change_of_found hissues hfind, perform_bind_ok hensure, perform_bind,
      perform_writeRow, hreplace]
    exact ⟨_, rfl, rfl⟩

theorem IsExclusive.change_of_free (h : IsExclusive t) (ht : w.database.table Row = .ok t)
    (hissues : r.issues = []) (hfind : find id w.database = .ok (some c))
    (hmove : (c.changed r w.now).parentId = c.parentId ∨
      ((ensureMove id (c.changed r w.now).parentId).perform w).1 = .ok ())
    (hfree : ¬IsTaken w.database (c.changed r w.now).parentId
      (c.changed r w.now).name (some id)) :
    ∃ w', (change id r).perform w = (.ok (c.changed r w.now), w') := by
  obtain ⟨hc, hid⟩ := rowOf?_eq_some (find_eq_ok ht hfind)
  have hensure : (ensureChange id c (c.changed r w.now)).perform w = (.ok (), w) := by
    rw [ensureChange_of_moved hmove]
    split
    · exact h.ensureFreeName_of_free ht hfree
    · rfl
  have hreplace : ∃ db, Category.replace (c.changed r w.now) w.database
      = .ok ((c.changed r w.now).stored, db) := h.replace_of_free ht hc rfl (hid ▸ hfree)
  obtain ⟨db, hreplace⟩ := hreplace
  rw [change_of_found hissues hfind, perform_bind_ok hensure, perform_bind,
    perform_writeRow, hreplace]
  exact ⟨_, rfl⟩

end Change

/-- In every run from an empty table of categories, no two active ones share their parent and
their name. A new category that is well formed and may have its parent is refused as a
conflict if and only if an active one below that parent has its trimmed name. Otherwise it is
made if its row fits the columns of the table, or there is no identifier left for it. A
category that is there and active after a well-formed change that may move it where it moves
it, is refused as a conflict only if another active one has its parent and its name then. If
its row fits the columns it is refused where there is one, and otherwise changed. -/
theorem siblings_conflict_exactly (start : World) (events : List Event)
    (hstart : ∃ t, start.database.table Row = .ok t ∧ t.rows = []) :
    let w := start.after events
    (∀ a ∈ rowsOf Row w.database, ∀ b ∈ rowsOf Row w.database, a.isShown = true →
      b.isShown = true → a.parentId = b.parentId → a.name = b.name → a = b) ∧
    (∀ r : NewCategory, r.issues = [] → ((ensureParent r.parentId).perform w).1 = .ok () →
      let taken := IsTaken w.database r.parentId (trim r.name) none
      (IsConflict ((create r).perform w).1 ↔ taken) ∧
      (¬taken → (∀ id, Record.fits (ofRequest r w.now id).stored = true) →
        (HasRoom w.database → ∃ c, ((create r).perform w).1 = .ok c) ∧
        (¬HasRoom w.database → (create r).perform w = (.error (.database .full), w)))) ∧
    (∀ id (c : Category) (r : CategoryChange), find id w.database = .ok (some c) →
      r.issues = [] →
      let parentId := r.parentId.getD c.parentId
      let name := (r.name.map trim).getD c.name
      let taken := IsTaken w.database parentId name (some id)
      (parentId = c.parentId ∨ ((ensureMove id parentId).perform w).1 = .ok ()) →
      r.status.getD c.status = ActiveStatus.active →
      (IsConflict ((change id r).perform w).1 → taken) ∧
      (Record.fits (c.changed r w.now).stored = true →
        (taken → IsConflict ((change id r).perform w).1) ∧
        (¬taken → ((change id r).perform w).1 = .ok (c.changed r w.now)))) := by
  intro w
  obtain ⟨t₀, ht₀, hempty⟩ := hstart
  obtain ⟨t, ht, h⟩ := (IsExclusive.of_empty hempty).after ht₀ events
  refine ⟨?_, ?_, ?_⟩
  · rw [rowsOf_eq ht]
    exact fun a ha b hb => h.eq_of_shown ha hb
  · intro r hissues hparent taken
    have hmade : ¬taken → _ := h.create_of_free ht hissues hparent
    refine ⟨⟨fun hconflict => ?_, fun htaken => ?_⟩, fun hfree _ => ⟨?_, fun hfull => ?_⟩⟩
    · by_contra hfree
      rcases hmade hfree with ⟨id, w', -, hcreate⟩ | ⟨-, hcreate⟩
      · rw [hcreate] at hconflict
        exact not_isConflict_ok hconflict
      · obtain ⟨p, hp, hkind⟩ := hconflict
        rw [hcreate] at hp
        cases hp
        cases hkind
    · rw [h.create_of_taken ht hissues hparent htaken]
      exact ⟨_, rfl, rfl⟩
    · rintro ⟨t', id, ht', hid⟩
      cases ht.symm.trans ht'
      rcases hmade hfree with ⟨_, w', -, hcreate⟩ | ⟨hnone, -⟩
      · exact ⟨_, congrArg Prod.fst hcreate⟩
      · cases hid.symm.trans hnone
    · rcases hmade hfree with ⟨id, w', hid, -⟩ | ⟨-, hcreate⟩
      · exact absurd ⟨t, id, ht, hid⟩ hfull
      · exact hcreate
  · intro id c r hfind hissues parentId name taken hmove hactive
    have hmade : ¬taken → ((change id r).perform w).1 = .ok (c.changed r w.now) := by
      intro hfree
      obtain ⟨w', hchange⟩ := h.change_of_free ht hissues hfind hmove hfree
      exact congrArg Prod.fst hchange
    refine ⟨fun hconflict => ?_, fun _ => ⟨fun htaken => ?_, hmade⟩⟩
    · by_contra hfree
      rw [hmade hfree] at hconflict
      exact not_isConflict_ok hconflict
    · exact h.change_of_taken ht hissues hfind hmove (decide_eq_true hactive) htaken

/-- A category is hidden and its name given to another one. The name cannot be given once
more, and the first category cannot be shown again under it. Another name can be given, and
the first category shown again under a third. -/
theorem siblings_conflict_exactly_sample :
    let make : Event := .call (.createCategory ⟨"poems", none, 0, none, 0⟩)
    let hide : Event :=
      .call (.changeCategory 1 ⟨none, none, none, none, none, some .inactive⟩)
    let w := World.sample.after [make, hide, make]
    (IsConflict ((create ⟨" poems", none, 0, none, 0⟩).perform w).1 ∧
      ∃ c, ((create ⟨"essays", none, 0, none, 0⟩).perform w).1 = .ok c) ∧
    (IsConflict ((change 1 ⟨none, none, none, none, none, some .active⟩).perform w).1 ∧
      ∃ c, ((change 1 ⟨some "tales", none, none, none, none, some .active⟩).perform w).1 =
        .ok c) := by
  intro make hide w
  obtain ⟨-, hcreate, hchange⟩ :=
    siblings_conflict_exactly World.sample [make, hide, make] ⟨_, rfl, rfl⟩
  have hfits : ∀ id,
      Record.fits (ofRequest ⟨"essays", none, 0, none, 0⟩ w.now id).stored = true :=
    fun id => (fits_ofRequest_iff (by decide +kernel)).mpr fun _ hs => by cases hs
  refine ⟨⟨?_, ?_⟩, ?_, ?_⟩
  · exact (hcreate _ (by decide +kernel) rfl).1.mpr (by decide +kernel)
  · exact ((hcreate _ (by decide +kernel) rfl).2 (by decide +kernel) hfits).1
      ⟨_, _, rfl, rfl⟩
  · exact ((hchange 1 _ _ rfl (by decide +kernel) (Or.inl rfl) rfl).2 (by decide +kernel)).1
      (by decide +kernel)
  · exact ⟨_,
      ((hchange 1 _ _ rfl (by decide +kernel) (Or.inl rfl) rfl).2 (by decide +kernel)).2
      (by decide +kernel)⟩

/-- A new category is refused although its name is free, because the largest
identifier has been given. -/
theorem free_name_is_refused_when_full :
    let start : World := { World.sample with
      database :=
        { World.sample.database with categories := ⟨some ⟨[], int64Max - 1⟩, none⟩ } }
    let w := start.after [.call (.createCategory ⟨"poems", none, 0, none, 0⟩)]
    let r : NewCategory := ⟨"essays", none, 0, none, 0⟩
    r.issues = [] ∧ ((ensureParent r.parentId).perform w).1 = .ok () ∧
      ¬IsTaken w.database r.parentId (trim r.name) none ∧
      ((create r).perform w).1 = .error (.database .full) :=
  ⟨by decide +kernel, rfl, by decide +kernel, rfl⟩

end Community.Category

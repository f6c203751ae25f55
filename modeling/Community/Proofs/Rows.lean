import Community.Proofs.Relation.Toggle
import Community.Proofs.Target.Tally
import Mathlib.Data.List.Forall2

/-!
# How the rows of a table change

A statement is seen here from its rows: which of them are left as they are, which are put
in the place of another one, and which are new. `Slot.Changes R` says of a table that its
rows go from one list to another as `R` allows, or that nothing happens to it.

> `changes_exchange`: where one row is put in the place of another, all others stay in
> their places.

> `Counter.counted_of_count`: counting a relation changes numbers of rows and nothing else
> of them.
-/

namespace Community

open Database

/-- What becomes of a table: nothing, or its rows change as `R` allows. What is out of
reach stays as it is. -/
inductive Database.Slot.Changes {ρ : Type} (R : List ρ → List ρ → Prop) (s : Slot ρ) :
    Slot ρ → Prop
  | kept : Changes R s s
  | changed {t t' : Table ρ} (ht : s.table? = some t) (hrows : R t.rows t'.rows) :
    Changes R s { s with table? := some t' }

namespace Database

variable {ρ α : Type} [Entity ρ α] {db db' : Database} {R : List ρ → List ρ → Prop}

/-- A table that is left has changed in no way. -/
theorem Slot.Changes.of_eq {s s' : Slot ρ} (h : s' = s) : s.Changes R s' := by
  rw [h]
  exact .kept

/-- Putting a table back changes its rows as the table was changed. -/
theorem changes_withTable [LawfulEntity ρ] {t t' : Table ρ} (ht : db.table ρ = .ok t)
    (hrows : R t.rows t'.rows) :
    (Entity.slot db : Slot ρ).Changes R (Entity.slot (db.withTable t')) := by
  rw [withTable, LawfulEntity.slot_put]
  exact .changed (table_eq_ok.mp ht) hrows

/-- A row is left as it is, or gives way to one of the same identifier and
of the same owner. -/
def Amended (own : ρ → Prop) (a b : ρ) : Prop :=
  b = a ∨ (Entity.id b = Entity.id a ∧ own a ∧ own b)

/-- The rows are amended, each in its place, and rows of the owner are added. -/
def Amends (own : ρ → Prop) (rows rows' : List ρ) : Prop :=
  ∃ kept added, rows' = kept ++ added ∧ List.Forall₂ (Amended own) rows kept ∧
    ∀ r ∈ added, own r

theorem forall₂_amended_self (own : ρ → Prop) (rows : List ρ) :
    List.Forall₂ (Amended own) rows rows :=
  List.forall₂_same.mpr fun _ _ => Or.inl rfl

/-- One row gives way to another one, and all others stay in their places. -/
theorem forall₂_exchange {own : ρ → Prop} {before after : List ρ} {r x : ρ}
    (h : Amended own r x) :
    List.Forall₂ (Amended own) (before ++ r :: after) (before ++ x :: after) :=
  List.rel_append (forall₂_amended_self own before)
    (.cons h (forall₂_amended_self own after))

/-- One own row may be exchanged. -/
theorem amends_exchange {own : ρ → Prop} {before after : List ρ} {r x : ρ}
    (h : Amended own r x) : Amends own (before ++ r :: after) (before ++ x :: after) :=
  ⟨_, [], (List.append_nil _).symm, forall₂_exchange h,
    fun _ hr => absurd hr List.not_mem_nil⟩

/-- One own row may be added. -/
theorem amends_append {own : ρ → Prop} {rows : List ρ} {x : ρ} (h : own x) :
    Amends own rows (rows ++ [x]) := by
  refine ⟨rows, [x], rfl, forall₂_amended_self own rows, fun r hr => ?_⟩
  rw [List.mem_singleton.mp hr]
  exact h

/-- A new row of the owner is added to the table. -/
theorem changes_insert [LawfulEntity ρ] {own : ρ → Prop} {make : Int → ρ} {r : ρ}
    (hown : ∀ id, own (make id)) (h : insert make db = .ok (r, db')) :
    (Entity.slot db : Slot ρ).Changes (Amends own) (Entity.slot db') := by
  obtain ⟨t, id, ht, -, rfl, -, -, rfl⟩ := insert_eq_ok h
  exact changes_withTable ht (amends_append (hown id))

/-- One row of the owner is stored in its place. -/
theorem changes_replace [LawfulEntity ρ] {own : ρ → Prop} {x y : ρ}
    (hown : ∀ a : ρ, Entity.id a = Entity.id x → own a) (h : replace x db = .ok (y, db')) :
    (Entity.slot db : Slot ρ).Changes (List.Forall₂ (Amended own)) (Entity.slot db') := by
  obtain ⟨t, before, r, after, ht, hrows, hid, -, -, -, rfl⟩ := replace_eq_ok h
  refine changes_withTable ht ?_
  rw [hrows]
  exact forall₂_exchange (Or.inr ⟨hid.symm, hown r hid, hown x rfl⟩)

/-- An update changes every row on its own. -/
theorem changes_update [LawfulEntity ρ] {S : ρ → ρ → Prop} {pick : ρ → Bool} {change : ρ → ρ}
    {changed : List ρ} (hself : ∀ r, S r r) (hchange : ∀ r, S r (change r))
    (h : update pick change db = .ok (changed, db')) :
    (Entity.slot db : Slot ρ).Changes (List.Forall₂ S) (Entity.slot db') := by
  obtain ⟨t, ht, -, -, rfl⟩ := update_eq_ok h
  refine changes_withTable ht
    (List.forall₂_map_right_iff.mpr (List.forall₂_same.mpr fun r _ => ?_))
  split
  · exact hchange r
  · exact hself r

end Database

/-! ## What relations are about -/

/-- The things that relations are about change in their counters at most. -/
structure Counted (db db' : Database) : Prop where
  contents : db.contents.Changes (List.Forall₂ fun a b =>
    b = { a with likeCount := b.likeCount, favoriteCount := b.favoriteCount }) db'.contents
  comments :
    db.comments.Changes (List.Forall₂ fun a b => b = { a with likeCount := b.likeCount })
    db'.comments
  dynamics :
    db.dynamics.Changes (List.Forall₂ fun a b => b = { a with likeCount := b.likeCount })
    db'.dynamics
  goods :
    db.goods.Changes
      (List.Forall₂ fun a b => b = { a with favoriteCount := b.favoriteCount }) db'.goods

namespace Counted

variable {db db₁ db' : Database}

/-- A change of other tables counts nothing. -/
theorem of_agreeOff {names : List TableName} (h : AgreeOff names db db')
    (hnames : ∀ name ∈ targetTables, name ∉ names) : Counted db db' := by
  constructor
  · exact .of_eq (h.slotAt .content (hnames _ (by decide)))
  · exact .of_eq (h.slotAt .comment (hnames _ (by decide)))
  · exact .of_eq (h.slotAt .dynamic (hnames _ (by decide)))
  · exact .of_eq (h.slotAt .goods (hnames _ (by decide)))

/-- A step before that leaves the things alone. -/
theorem after_agreeOff {names : List TableName} (h : AgreeOff names db db₁)
    (hnames : ∀ name ∈ targetTables, name ∉ names) (hcounted : Counted db₁ db') :
    Counted db db' := by
  have hcontents : db₁.contents = db.contents := h.slotAt .content (hnames _ (by decide))
  have hcomments : db₁.comments = db.comments := h.slotAt .comment (hnames _ (by decide))
  have hdynamics : db₁.dynamics = db.dynamics := h.slotAt .dynamic (hnames _ (by decide))
  have hgoods : db₁.goods = db.goods := h.slotAt .goods (hnames _ (by decide))
  constructor
  · exact hcontents ▸ hcounted.contents
  · exact hcomments ▸ hcounted.comments
  · exact hdynamics ▸ hcounted.dynamics
  · exact hgoods ▸ hcounted.goods

end Counted

/-- Counting a relation changes one column of one table. -/
theorem Counter.counted_of_adjust {counter : Counter} {id : Int} {delta : Delta} {n : Nat}
    {db db' : Database} (h : adjust counter id delta db = .ok (n, db')) :
    Counted db db' := by
  cases counter with
  | contentLikes | contentFavorites =>
    obtain ⟨⟨changed, db₁⟩, hupdate, h⟩ := bind_eq_ok h
    cases h
    have hagree := agreeOff_update hupdate
    exact ⟨changes_update (fun _ => rfl) (fun _ => rfl) hupdate,
      .of_eq (hagree.slotAt .comment (by decide)),
      .of_eq (hagree.slotAt .dynamic (by decide)), .of_eq (hagree.slotAt .goods (by decide))⟩
  | commentLikes =>
    obtain ⟨⟨changed, db₁⟩, hupdate, h⟩ := bind_eq_ok h
    cases h
    have hagree := agreeOff_update hupdate
    exact ⟨.of_eq (hagree.slotAt .content (by decide)),
      changes_update (fun _ => rfl) (fun _ => rfl) hupdate,
      .of_eq (hagree.slotAt .dynamic (by decide)), .of_eq (hagree.slotAt .goods (by decide))⟩
  | dynamicLikes =>
    obtain ⟨⟨changed, db₁⟩, hupdate, h⟩ := bind_eq_ok h
    cases h
    have hagree := agreeOff_update hupdate
    exact ⟨.of_eq (hagree.slotAt .content (by decide)),
      .of_eq (hagree.slotAt .comment (by decide)),
      changes_update (fun _ => rfl) (fun _ => rfl) hupdate,
      .of_eq (hagree.slotAt .goods (by decide))⟩
  | goodsFavorites =>
    obtain ⟨⟨changed, db₁⟩, hupdate, h⟩ := bind_eq_ok h
    cases h
    have hagree := agreeOff_update hupdate
    exact ⟨.of_eq (hagree.slotAt .content (by decide)),
      .of_eq (hagree.slotAt .comment (by decide)),
      .of_eq (hagree.slotAt .dynamic (by decide)),
      changes_update (fun _ => rfl) (fun _ => rfl) hupdate⟩

/-- A count changes the counters of targets alone. -/
theorem Counter.counted_of_count {counter : Counter} {id : Int} {delta : Delta}
    {db db' : Database} (h : count counter id delta db = .ok ((), db')) :
    Counted db db' := by
  unfold count at h
  split at h
  · cases h
  · cases h
  · next n db₁ hadjust =>
    cases h
    exact counted_of_adjust hadjust

/-! ## Toggles -/

namespace Relation.Toggling

variable {ρ α : Type} [Entity ρ α] [LawfulEntity ρ] (t : Toggling ρ α) {a : α}
  {db db' : Database}

/-- A toggle makes a row of the owner or changes one. -/
theorem changes_run {own : ρ → Prop} (hown : ∀ r, t.pick r = true → own r)
    (h : t.run db = .ok (a, db')) :
    (Entity.slot db : Slot ρ).Changes (Amends own) (Entity.slot db') := by
  obtain ⟨db₁, hflip, hcount⟩ := t.run_eq_ok h
  obtain ⟨n, hadjusted⟩ := Counter.count_eq_ok hcount
  obtain ⟨hpick, table, rows, lastId, htable, rfl, -, hturns⟩ := t.flip_eq_ok hflip
  rw [LawfulEntity.slot_eq hadjusted.agreeOff t.name_not_mem]
  refine changes_withTable htable ?_
  rcases hturns with ⟨rfl, -⟩ | ⟨before, old, after, hrows, rfl, rfl⟩
  · exact amends_append (hown _ hpick)
  · have hold := (t.pick_turn old).symm.trans hpick
    exact hrows ▸ amends_exchange (Or.inr ⟨t.id_turn old, hown _ hold, hown _ hpick⟩)

/-- A toggle changes nothing but counters in the things that relations are about. -/
theorem counted_run (h : t.run db = .ok (a, db')) : Counted db db' := by
  obtain ⟨db₁, hflip, hcount⟩ := t.run_eq_ok h
  refine .after_agreeOff (t.agreeOff_flip hflip) ?_ (Counter.counted_of_count hcount)
  rintro name hname hmem
  exact t.not_target (List.mem_singleton.mp hmem ▸ hname)

end Relation.Toggling

end Community

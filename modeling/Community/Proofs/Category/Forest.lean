import Community.Proofs.Category.Path

/-!
# Categories on paths make a forest

The forest of a list of categories is grown from the top, level by level. A category is in
it if it *hangs*: it is at the top of the list, or below a category that hangs. No level is
cut off, because what a category hangs below are as many different categories of the list.

> `buildForest_of_hangs`: if every category hangs and no identifier is repeated, the list
> is a forest.

> `hangs_of_path`: the active categories of a table hang if the ways up in the table end. A
> category that is below a missing or an inactive one is at the top.
-/

namespace Community.Category

open Database CategoryNode

/-- What a category hangs below in a list, the nearest first. -/
inductive Hangs (all : List Category) : Category → List Category → Prop
  | top {c : Category} (hc : c ∈ all) (htop : isTop all c = true) : Hangs all c []
  | under {p c : Category} {above : List Category} (hp : Hangs all p above)
    (hc : c ∈ below all p.id) : Hangs all c (p :: above)

variable {all : List Category} {c : Category} {above : List Category}

/-- What hangs is of the list. -/
theorem Hangs.mem (h : Hangs all c above) : c ∈ all := by
  cases h with
  | top hc => exact hc
  | under _ hc => exact (List.mem_filter.mp hc).1

/-- So are its parents. -/
theorem Hangs.subset (h : Hangs all c above) : above ⊆ all := by
  induction h with
  | top => exact List.nil_subset _
  | under hp _ ih => exact List.cons_subset.mpr ⟨hp.mem, ih⟩

theorem preorder_subset_preorders {n : CategoryNode} {ns : List CategoryNode} (h : n ∈ ns)
    (depth : Nat) : preorder depth n ⊆ preorders depth ns := by
  induction ns with
  | nil => cases h
  | cons m ns ih =>
    rw [preorders]
    rcases List.mem_cons.mp h with rfl | h
    · exact List.subset_append_left _ _
    · exact List.subset_append_of_subset_right _ (ih h)

/-- A node comes before all that is below it. -/
theorem mem_preorder_grow (all : List Category) (c : Category) (depth levels : Nat) :
    ∃ size, (c, depth, size) ∈ preorder depth (grow all levels c) := by
  cases levels with
  | zero => exact ⟨_, List.mem_cons_self⟩
  | succ levels => exact ⟨_, List.mem_cons_self⟩

/-- What hangs is grown at its level, as long as there are levels left. -/
theorem Hangs.grown (h : Hangs all c above) (hlevels : above.length ≤ all.length) :
    ∃ depth, preorder depth (grow all (all.length - above.length) c) ⊆ preorders 0
      (forest all) := by
  induction h with
  | @top c hc htop =>
    refine ⟨0, preorder_subset_preorders ?_ 0⟩
    exact List.mem_map_of_mem (List.mem_filter.mpr ⟨hc, htop⟩)
  | @under p c above hp hc ih =>
    rw [List.length_cons] at hlevels ⊢
    obtain ⟨depth, hdepth⟩ := ih (by omega)
    obtain ⟨levels, hlevel⟩ : ∃ levels, all.length - above.length = levels + 1 :=
      ⟨all.length - above.length - 1, by omega⟩
    -- the parent is grown with a level to go, and its children are on that level
    rw [hlevel, grow, preorder] at hdepth
    refine ⟨depth + 1, fun x hx => hdepth (List.mem_cons_of_mem _ ?_)⟩
    refine preorder_subset_preorders (List.mem_map_of_mem hc) (depth + 1) ?_
    rwa [show levels = all.length - (above.length + 1) by omega]

/-- Among distinct ids none is repeated. -/
theorem firstRepeated?_eq_none {seen : List Int} {cs : List Category}
    (hnodup : (cs.map Columns.id).Nodup) (hseen : ∀ c ∈ cs, c.id ∉ seen) :
    firstRepeated? seen cs = none := by
  induction cs generalizing seen with
  | nil => rfl
  | cons c cs ih =>
    obtain ⟨hc, hcs⟩ := List.nodup_cons.mp hnodup
    rw [firstRepeated?, if_neg (hseen c List.mem_cons_self)]
    refine ih hcs fun d hd hmem => ?_
    rcases List.mem_cons.mp hmem with he | hmem
    · exact hc (he ▸ List.mem_map_of_mem hd)
    · exact hseen d (List.mem_cons_of_mem c hd) hmem

/-- A list in which everything hangs is a forest. -/
theorem buildForest_of_hangs (hactive : ∀ c ∈ all, Columns.isActive c = true)
    (hnodup : (all.map Columns.id).Nodup)
    (hhangs : ∀ c ∈ all, ∃ above, Hangs all c above ∧ ((c :: above).map Columns.id).Nodup) :
    buildForest all = .ok (forest all) := by
  have hfilter : all.filter Columns.isActive = all := List.filter_eq_self.mpr hactive
  have hstranded : stranded all = [] := by
    refine List.filter_eq_nil_iff.mpr fun c hc => ?_
    obtain ⟨above, habove, hdistinct⟩ := hhangs c hc
    -- what it hangs below are different categories of the list, so there are levels enough
    have hlevels : above.length ≤ all.length := by
      have hsub : (above.map Columns.id) ⊆ all.map Columns.id :=
        List.map_subset _ habove.subset
      have hle := (List.nodup_cons.mp hdistinct).2.length_le_of_subset hsub
      rwa [List.length_map, List.length_map] at hle
    obtain ⟨depth, hgrown⟩ := habove.grown hlevels
    obtain ⟨size, hmem⟩ := mem_preorder_grow all c depth (all.length - above.length)
    rw [Bool.not_eq_true, Bool.not_eq_false', List.contains_iff_mem]
    exact List.mem_map.mpr ⟨_, hgrown hmem, rfl⟩
  rw [buildForest, hfilter, firstRepeated?_eq_none hnodup fun _ _ => List.not_mem_nil]
  simp only [hstranded]

/-! ## The active categories of a table -/

/-- A category without a parent in the list hangs from the top. -/
theorem Hangs.of_no_parent (hc : c ∈ all) (h : ∀ p ∈ all, p.id ≠ c.parentId) :
    Hangs all c [] := by
  refine .top hc ?_
  rw [isTop, Bool.or_eq_true, List.all_eq_true]
  exact Or.inr fun p hp => bne_iff_ne.mpr (h p hp)

/-- Whether a list holds the active categories of some rows. -/
def HoldsActive (all : List Category) (rows : List Row) : Prop :=
  ∀ c : Category, c ∈ all ↔ c.stored ∈ rows ∧ c.isActive = true

theorem isShown_stored (c : Category) : Columns.isShown c.stored = Columns.isActive c := by
  obtain ⟨_, _, _, _, _, _, _, status, _, _⟩ := c
  cases status <;> rfl

/-- Rows that can be read are written from categories. -/
theorem exists_map_stored {rows : List Row} (h : ∀ r ∈ rows, ∃ c : Category, c.stored = r) :
    ∃ all : List Category, all.map Columns.stored = rows := by
  induction rows with
  | nil => exact ⟨[], rfl⟩
  | cons r rows ih =>
    obtain ⟨c, rfl⟩ := h r List.mem_cons_self
    obtain ⟨all, rfl⟩ := ih fun s hs => h s (List.mem_cons_of_mem _ hs)
    exact ⟨c :: all, rfl⟩

/-- Where every row can be read, the active categories are those of the rows that are shown,
in the order of lists. -/
theorem exists_allActive_sorted {db : Database} {t : Table Row} (ht : db.table Row = .ok t)
    (hread : ∀ r ∈ t.rows, ∃ c : Category, c.stored = r) :
    ∃ all, allActive db = .ok all ∧
      all.map Columns.stored = (t.rows.filter Columns.isShown).mergeSort listOrder := by
  have hsub : ∀ r ∈ (t.rows.filter Columns.isShown).mergeSort listOrder, r ∈ t.rows :=
    fun r hr => (List.mem_filter.mp ((List.mergeSort_perm _ listOrder).mem_iff.mp hr)).1
  obtain ⟨all, hall⟩ := exists_map_stored fun r hr => hread r (hsub r hr)
  refine ⟨all, ?_, hall⟩
  show (do
    let rows ← select Columns.isShown listOrder db
    rows.mapM readRow : Except Fault (List Category)) = _
  rw [select_of_table ht, ← hall]
  exact mapM_readRow Columns.read?_stored all

/-- The active categories of a table in which every row can be read, each of them once. -/
theorem exists_allActive {db : Database} {t : Table Row} (ht : db.table Row = .ok t)
    (hdistinct : t.rows.Pairwise fun a b => a.id ≠ b.id)
    (hread : ∀ r ∈ t.rows, ∃ c : Category, c.stored = r) :
    ∃ all, allActive db = .ok all ∧ HoldsActive all t.rows ∧ (all.map Columns.id).Nodup := by
  obtain ⟨all, hactive, hall⟩ := exists_allActive_sorted ht hread
  -- sorting changes neither which rows are shown nor how often
  have hperm := List.mergeSort_perm (t.rows.filter Columns.isShown) listOrder
  refine ⟨all, hactive, fun c => ?_, ?_⟩
  · rw [← isShown_stored, ← List.mem_filter, ← hperm.mem_iff, ← hall, List.mem_map]
    exact ⟨fun hc => ⟨c, hc, rfl⟩, fun ⟨d, hd, hdc⟩ => Columns.stored_inj hdc ▸ hd⟩
  · have hids : all.map (fun c => c.id) = (all.map Columns.stored).map (fun r => r.id) := by
      rw [List.map_map]
      rfl
    show (all.map fun c => c.id).Nodup
    rw [hids, hall, (hperm.map _).nodup_iff]
    exact List.pairwise_map.mpr (hdistinct.filter _)

/-- The active categories of a table hang where the ways up end. -/
theorem hangs_of_path {rows : List Row} {current : Int} {path : List Row}
    (hdistinct : rows.Pairwise fun a b => a.id ≠ b.id) (hall : HoldsActive all rows)
    (hread : ∀ r ∈ rows, ∃ c : Category, c.stored = r) (h : Path rows current path)
    (hc : c ∈ all) (hcurrent : c.parentId = current) :
    ∃ above, Hangs all c above ∧ (above.map Columns.id).Sublist (path.map Columns.id) := by
  have hrow : ∀ p ∈ all, rowOf? rows p.id = some p.stored := fun p hp =>
    rowOf?_of_mem hdistinct ((hall p).mp hp).1
  induction h generalizing c with
  | root =>
    exact ⟨[], .top hc (by rw [isTop, isRoot_iff.mpr hcurrent]; rfl), List.nil_sublist _⟩
  | missing _ hmissing =>
    refine ⟨[], .of_no_parent hc fun p hp he => ?_, List.nil_sublist _⟩
    rw [← hcurrent, ← he, hrow p hp] at hmissing
    cases hmissing
  | @step current r path hroot hparent _ ih =>
    obtain ⟨p, rfl⟩ := hread r (rowOf?_eq_some hparent).1
    have hpid : p.id = current := (rowOf?_eq_some hparent).2
    by_cases hactive : p.isActive = true
    · have hp : p ∈ all := (hall p).mpr ⟨(rowOf?_eq_some hparent).1, hactive⟩
      obtain ⟨above, habove, hsub⟩ := ih hp rfl
      refine ⟨p :: above, .under habove (List.mem_filter.mpr ⟨hc, ?_⟩), hsub.cons_cons _⟩
      have hnot : c.isRoot = false := by
        rw [Bool.eq_false_iff]
        exact fun he => hroot (hcurrent ▸ isRoot_iff.mp he)
      rw [hnot, hcurrent, hpid]
      simp
    · -- below an inactive category, and no other category has its identifier
      refine ⟨[], .of_no_parent hc fun q hq he => hactive ?_, List.nil_sublist _⟩
      have hq' := hrow q hq
      rw [he, hcurrent, hparent, Option.some.injEq] at hq'
      exact Columns.stored_inj hq' ▸ ((hall q).mp hq).2

/-- Where the ways up end, the active categories are a forest. -/
theorem buildForest_of_grounded {rows : List Row}
    (hdistinct : rows.Pairwise fun a b => a.id ≠ b.id) (hall : HoldsActive all rows)
    (hnodup : (all.map Columns.id).Nodup) (hread : ∀ r ∈ rows, ∃ c : Category, c.stored = r)
    (hgrounded : ∀ r ∈ rows, IsGrounded rows r.parentId) :
    buildForest all = .ok (forest all) := by
  refine buildForest_of_hangs (fun c hc => ((hall c).mp hc).2) hnodup fun c hc => ?_
  have hrow : c.stored ∈ rows := ((hall c).mp hc).1
  obtain ⟨path, hpath⟩ := hgrounded _ hrow
  obtain ⟨above, habove, hsub⟩ := hangs_of_path hdistinct hall hread hpath hc rfl
  refine ⟨above, habove, List.Nodup.sublist ?_ (hpath.nodup_cons hdistinct hrow)⟩
  exact hsub.cons_cons c.id

end Community.Category

import Community.Proofs.Cache.Transparency
import Community.Proofs.Category.Hierarchy
import Community.Proofs.Category.Leaf
import Community.Proofs.Page.Listed

/-!
# The forest grows and shrinks by leaves

A new category is a new leaf of the forest, and a category that is removed was a leaf or was
not shown. Both come down to two lists of active categories that differ by one, and to the
fact that nothing refers to that one:

> `IsOrderly.withLeaf_create`: the identifier of a new category had not been given before, so
> no row can name it as its parent.

> `IsOrderly.withLeaf_remove`: no active category hangs below one that may be removed.

The lists are sorted anew each time. That they are the same but for one category is
due to the order, which leaves no choice: two sorted lists of the same categories are
equal (`eq_of_precedes`).
-/

namespace Community.Category

open Database Procedure

variable {t : Table Row} {all more : List Category} {a b c : Category} {db : Database}
  {w w' : World}

/-! ## The order of lists -/

theorem precedes_of_above
    (h : Above (fun c : Row => [c.sort, c.createdAt.instant, c.id]) a.stored b.stored) :
    Precedes a b := by
  unfold Above at h
  rw [List.cons_lex_cons_iff, List.cons_lex_cons_iff, List.cons_lex_cons_iff] at h
  refine h.imp_right (And.imp_right (Or.imp_right (And.imp_right fun h => ?_)))
  exact h.resolve_right fun hrest => List.not_lex_nil hrest.2

theorem Precedes.asymm (h : Precedes a b) : ¬Precedes b a := by
  unfold Precedes at *
  omega

/-- There is one way only to sort categories. -/
theorem eq_of_precedes (hall : all.Pairwise Precedes) (hmore : more.Pairwise Precedes)
    (hmem : ∀ d, d ∈ all ↔ d ∈ more) : all = more := by
  have hnodup : ∀ {l : List Category}, l.Pairwise Precedes → l.Nodup := fun hl =>
    hl.imp fun {a b} hab heq => (heq ▸ hab).asymm (heq ▸ hab)
  have hperm := (List.perm_ext_iff_of_nodup (hnodup hall) (hnodup hmore)).mpr hmem
  exact hperm.eq_of_pairwise (fun a b _ _ hab hba => absurd hba hab.asymm) hall hmore

/-- The active categories of an orderly table, each of them once and sorted. -/
theorem IsOrderly.exists_sorted (h : IsOrderly t) (ht : db.table Row = .ok t) :
    ∃ all, allActive db = .ok all ∧ HoldsActive all t.rows ∧ (all.map Columns.id).Nodup ∧
      all.Pairwise Precedes := by
  obtain ⟨all, hactive, hholds, hnodup⟩ := exists_allActive ht h.distinct h.readable
  obtain ⟨all', hactive', hall⟩ := exists_allActive_sorted ht h.readable
  cases hactive.symm.trans hactive'
  refine ⟨all, hactive, hholds, hnodup, ?_⟩
  have hkeys : (t.rows.filter Columns.isShown).Pairwise fun a b : Row =>
      [a.sort, a.createdAt.instant, a.id] ≠ [b.sort, b.createdAt.instant, b.id] :=
    (h.distinct.filter _).imp fun hne heq =>
      hne (List.cons.inj (List.cons.inj (List.cons.inj heq).2).2).1
  have hsorted := pairwise_mergeSort_descending (fun _ _ => rfl) hkeys
  have hsorted' : (all.map Columns.stored).Pairwise _ := hall.symm ▸ hsorted
  exact (List.pairwise_map.mp hsorted').imp precedes_of_above

/-- Every active category of an orderly table hangs somewhere. -/
theorem IsOrderly.hangs_allActive (h : IsOrderly t) (ht : db.table Row = .ok t)
    (hall : allActive db = .ok all) (hc : c ∈ all) : ∃ above, Hangs all c above := by
  obtain ⟨all', hall', hholds, -⟩ := exists_allActive ht h.distinct h.readable
  cases hall.symm.trans hall'
  obtain ⟨path, hpath⟩ := h.grounded _ ((hholds c).mp hc).1
  obtain ⟨above, habove, -⟩ := hangs_of_path h.distinct hholds h.readable hpath hc rfl
  exact ⟨above, habove⟩

/-! ## Lists that differ by one category -/

theorem withLeaf_of_iff (hall : all.Pairwise Precedes) (hmore : more.Pairwise Precedes)
    (hnodup : (more.map Columns.id).Nodup) (hc : c ∉ all)
    (hmem : ∀ d, d ∈ more ↔ d = c ∨ d ∈ all)
    (hleaf : ∀ d ∈ more, d.parentId = rootParent ∨ d.parentId ≠ c.id) :
    WithLeaf c all more := by
  obtain ⟨before, after, rfl⟩ := List.append_of_mem ((hmem c).mpr (Or.inl rfl))
  refine ⟨⟨before, after, ?_, rfl⟩, hnodup, hmore, hleaf⟩
  have hrest := (List.nodup_cons.mp (List.nodup_middle.mp (List.Nodup.of_map _ hnodup))).1
  refine eq_of_precedes hall
    (hmore.sublist ((List.sublist_cons_self c after).append_left before)) fun d => ?_
  have hd := hmem d
  rw [List.mem_append, List.mem_cons, or_left_comm, ← List.mem_append] at hd
  constructor
  · intro hdall
    refine (hd.mpr (Or.inr hdall)).resolve_left ?_
    rintro rfl
    exact hc hdall
  · intro hdrest
    refine (hd.mp (Or.inr hdrest)).resolve_left ?_
    rintro rfl
    exact hrest hdrest

section Create

variable {r : NewCategory}

/-- The rows after a category has been made. -/
theorem create_eq_row (h : (create r).perform w = (.ok c, w'))
    (ht : w.database.table Row = .ok t) :
    ∃ id, t.nextId? = some id ∧ c = ofRequest r w.now id ∧
      w'.database.table Row = .ok ⟨t.rows ++ [c.stored], max t.lastId id⟩ := by
  obtain ⟨-, db, hadd, rfl⟩ := create_eq_ok h
  obtain ⟨t', id, ht', hid, hrow, -, -, rfl⟩ := insert_eq_ok hadd
  cases ht.symm.trans ht'
  cases Columns.stored_inj hrow
  exact ⟨id, hid, rfl, table_withTable _⟩

/-- Nothing refers to an identifier that has just been given. -/
theorem IsOrderly.withLeaf_create (h : IsOrderly t) (ht : w.database.table Row = .ok t)
    (hcreate : (create r).perform w = (.ok c, w')) :
    ∃ all more, allActive w.database = .ok all ∧ allActive w'.database = .ok more ∧
    WithLeaf c all more := by
  obtain ⟨t', ht', h'⟩ := h.changed ht (congrArg Prod.snd hcreate ▸ changed_create r w)
  obtain ⟨id, hid, hc, htable⟩ := create_eq_row hcreate ht
  cases ht'.symm.trans htable
  obtain ⟨all, hall, hholds, -, hsorted⟩ := h.exists_sorted ht
  obtain ⟨more, hmore, hholds', hnodup, hsorted'⟩ := h'.exists_sorted ht'
  have hidc : c.id = id := hc ▸ rfl
  have hactive : c.isActive = true := hc ▸ rfl
  obtain ⟨hlast, hless, -⟩ := nextId?_gt hid
  refine ⟨all, more, hall, hmore,
    withLeaf_of_iff hsorted hsorted' hnodup ?_ (fun d => ?_) fun d hd => ?_⟩
  · intro hcall
    exact absurd (hless _ ((hholds c).mp hcall).1) (by rw [← hidc]; exact Int.lt_irrefl _)
  · rw [hholds' d, hholds d, List.mem_append, List.mem_singleton, or_and_right, or_comm]
    refine or_congr_left ⟨fun hd => Columns.stored_inj hd.1, ?_⟩
    rintro rfl
    exact ⟨rfl, hactive⟩
  · have hgiven : d.parentId = rootParent ∨ d.parentId ≤ t.lastId := by
      rcases List.mem_append.mp ((hholds' d).mp hd).1 with hrow | hrow
      · exact h.parent_le _ hrow
      · rw [Columns.stored_inj (List.mem_singleton.mp hrow), hc]
        exact (h.hasParent ht (create_eq_ok hcreate).1.hasParent).1
    exact hgiven.imp_right fun hle => by omega

/-- A new category hangs below its parent, or is at the top. -/
theorem IsOrderly.hangs_create (h : IsOrderly t) (ht : w.database.table Row = .ok t)
    (hcreate : (create r).perform w = (.ok c, w'))
    (hmore : allActive w'.database = .ok more) :
    ∃ path, Hangs more c path.reverse ∧ (r.parentId = rootParent → path = []) ∧
      (r.parentId ≠ rootParent → ∃ p, path.getLast? = some p ∧ p.id = r.parentId) := by
  obtain ⟨t', ht', h'⟩ := h.changed ht (congrArg Prod.snd hcreate ▸ changed_create r w)
  obtain ⟨id, hid, hc, htable⟩ := create_eq_row hcreate ht
  cases ht'.symm.trans htable
  obtain ⟨more', hmore', hholds, hnodup, -⟩ := h'.exists_sorted ht'
  cases hmore.symm.trans hmore'
  have hparent : c.parentId = r.parentId := hc ▸ rfl
  have hcmem : c ∈ more :=
    (hholds c).mpr ⟨List.mem_append_right _ (List.mem_singleton_self _), hc ▸ rfl⟩
  rcases (create_eq_ok hcreate).1 with hroot | ⟨p, hfind, hactive⟩
  · refine ⟨[], .top hcmem ?_, fun _ => rfl, fun hne => absurd hroot hne⟩
    exact isTop_iff.mpr (Or.inl (hparent.trans hroot))
  · obtain ⟨hp, hpid⟩ := rowOf?_eq_some (find_eq_ok ht hfind)
    have hpmem : p ∈ more := (hholds p).mpr ⟨List.mem_append_left _ hp, hactive⟩
    obtain ⟨above, habove⟩ := h'.hangs_allActive ht' hmore hpmem
    by_cases hroot : r.parentId = rootParent
    · refine ⟨[], .top hcmem ?_, fun _ => rfl, fun hne => absurd hroot hne⟩
      exact isTop_iff.mpr (Or.inl (hparent.trans hroot))
    · refine ⟨above.reverse ++ [p], ?_, fun he => absurd he hroot,
        fun _ => ⟨p, List.getLast?_concat, hpid⟩⟩
      rw [List.reverse_append, List.reverse_reverse]
      exact .under habove
        (mem_below_iff.mpr ⟨hcmem, hparent.symm ▸ hroot, hparent.trans hpid.symm⟩)

end Create

section Remove

variable {id : Int}

/-- The rows after a category has been removed. -/
theorem remove_eq_row (h : (remove id).perform w = (.ok (), w'))
    (ht : w.database.table Row = .ok t) :
    w'.database.table Row = .ok { t with rows := t.rows.filter fun r => !(r.id == id) } := by
  obtain ⟨-, -, was, db, herase, rfl⟩ := remove_eq_ok h
  obtain ⟨⟨n, db'⟩, hdelete, herase⟩ := bind_eq_ok herase
  cases herase
  obtain ⟨t', ht', rfl⟩ := delete_eq_ok hdelete
  cases ht.symm.trans ht'
  exact table_withTable _

/-- Of the active categories those are left that have another identifier. -/
theorem IsOrderly.mem_remove (h : IsOrderly t) (ht : w.database.table Row = .ok t)
    (hremove : (remove id).perform w = (.ok (), w')) :
    ∃ all more, allActive w'.database = .ok all ∧ allActive w.database = .ok more ∧
      all.Pairwise Precedes ∧ more.Pairwise Precedes ∧ (more.map Columns.id).Nodup ∧
      HoldsActive more t.rows ∧ ∀ d, d ∈ all ↔ d ∈ more ∧ d.id ≠ id := by
  obtain ⟨t', ht', h'⟩ := h.changed ht (congrArg Prod.snd hremove ▸ changed_remove id w)
  cases ht'.symm.trans (remove_eq_row hremove ht)
  obtain ⟨more, hmore, hholds, hnodup, hsorted⟩ := h.exists_sorted ht
  obtain ⟨all, hall, hholds', -, hsorted'⟩ := h'.exists_sorted ht'
  refine ⟨all, more, hall, hmore, hsorted', hsorted, hnodup, hholds, fun d => ?_⟩
  rw [hholds' d, hholds d, List.mem_filter, and_right_comm]
  refine and_congr_right fun _ => ?_
  rw [Bool.not_eq_true', beq_eq_false_iff_ne]
  rfl

/-- Nothing refers to an active category that may be removed. -/
theorem IsOrderly.withLeaf_remove (h : IsOrderly t) (ht : w.database.table Row = .ok t)
    (hremove : (remove id).perform w = (.ok (), w'))
    (hfind : find id w.database = .ok (some c)) (hactive : c.isActive = true) :
    ∃ all more, allActive w'.database = .ok all ∧ allActive w.database = .ok more ∧
    WithLeaf c all more := by
  obtain ⟨all, more, hall, hmore, hsorted, hsorted', hnodup, hholds, hmem⟩ :=
    h.mem_remove ht hremove
  obtain ⟨hc, hid⟩ := rowOf?_eq_some (find_eq_ok ht hfind)
  have hcmem : c ∈ more := (hholds c).mpr ⟨hc, hactive⟩
  obtain ⟨-, hcount, -⟩ := remove_eq_ok hremove
  refine ⟨all, more, hall, hmore,
    withLeaf_of_iff hsorted hsorted' hnodup ?_ (fun d => ?_) fun d hd => ?_⟩
  · exact fun hcall => ((hmem c).mp hcall).2 hid
  · rw [hmem d]
    constructor
    · intro hd
      by_cases hdid : d.id = id
      · exact Or.inl (eq_of_id hnodup hd hcmem (hdid.trans hid.symm))
      · exact Or.inr ⟨hd, hdid⟩
    · rintro (rfl | ⟨hd, -⟩)
      · exact hcmem
      · exact hd
  · -- an active category that hung below `c` would have been counted
    obtain ⟨hrow, hshown⟩ := (hholds d).mp hd
    refine Or.inr fun hparent => ?_
    obtain ⟨t', ht', hnone⟩ := bind_eq_ok hcount
    cases ht.symm.trans ht'
    have hnot := List.filter_eq_nil_iff.mp
      (List.length_eq_zero_iff.mp (Except.ok.inj hnone)) d.stored hrow
    refine hnot
      (Bool.and_eq_true_iff.mpr ⟨beq_iff_eq.mpr ?_, (isShown_stored d).trans hshown⟩)
    exact hparent.trans hid

/-- The removal of an inactive category does not show. -/
theorem IsOrderly.allActive_remove (h : IsOrderly t) (ht : w.database.table Row = .ok t)
    (hremove : (remove id).perform w = (.ok (), w'))
    (hfind : find id w.database = .ok (some c)) (hactive : c.isActive = false) :
    ∃ all, allActive w.database = .ok all ∧ allActive w'.database = .ok all := by
  obtain ⟨all, more, hall, hmore, hsorted, hsorted', -, hholds, hmem⟩ :=
    h.mem_remove ht hremove
  have hsame : all = more := by
    refine eq_of_precedes hsorted hsorted' fun d =>
      (hmem d).trans (and_iff_left_of_imp fun hd hdid => ?_)
    -- only one row has the identifier, and it is not shown
    obtain ⟨hrow, hshown⟩ := (hholds d).mp hd
    have hfound := (rowOf?_of_mem h.distinct hrow).symm.trans
      ((congrArg _ hdid).trans (find_eq_ok ht hfind))
    rw [Columns.stored_inj (Option.some.inj hfound), hactive] at hshown
    cases hshown
  exact ⟨more, hmore, hsame ▸ hall⟩

end Remove

/-! ## The forest -/

/-- What is assembled from the active categories of an orderly table is a forest. -/
theorem IsOrderly.uncached_tree (h : IsOrderly t) (ht : w.database.table Row = .ok t)
    (hall : allActive w.database = .ok all) :
    (Category.tree.uncached w).1 = .ok (forest all) := by
  obtain ⟨all', hall', hforest⟩ := h.buildForest ht
  cases hall.symm.trans hall'
  refine (congrArg Prod.fst (Cached.readBy_tree.uncached_eq w)).trans ?_
  show Cached.forest.answer w.database = _
  rw [Cached.answer, hall]
  show (Category.buildForest all).mapError _ = _
  rw [hforest]
  rfl

theorem IsOrderly.leafAdded_create {r : NewCategory} (h : IsOrderly t)
    (ht : w.database.table Row = .ok t) (hcreate : (create r).perform w = (.ok c, w')) :
    ∃ nodes nodes' path, (Category.tree.uncached w).1 = .ok nodes ∧
      (Category.tree.uncached w').1 = .ok nodes' ∧ LeafAdded c path nodes nodes' ∧
      (r.parentId = rootParent → path = []) ∧
      (r.parentId ≠ rootParent → ∃ p, path.getLast? = some p ∧ p.id = r.parentId) := by
  obtain ⟨t', ht', h'⟩ := h.changed ht (congrArg Prod.snd hcreate ▸ changed_create r w)
  obtain ⟨all, more, hall, hmore, hleaf⟩ := h.withLeaf_create ht hcreate
  obtain ⟨path, hpath, hplace⟩ := h.hangs_create ht hcreate hmore
  exact ⟨_, _, path, h.uncached_tree ht hall, h'.uncached_tree ht' hmore,
    hleaf.leafAdded_forest hpath, hplace⟩

theorem IsOrderly.leafAdded_remove {id : Int} (h : IsOrderly t)
    (ht : w.database.table Row = .ok t) (hremove : (remove id).perform w = (.ok (), w')) :
    ∃ c nodes nodes', find id w.database = .ok (some c) ∧
      (Category.tree.uncached w).1 = .ok nodes ∧
      (Category.tree.uncached w').1 = .ok nodes' ∧
      (c.isActive = true → ∃ path, LeafAdded c path nodes' nodes) ∧
      (c.isActive = false → nodes' = nodes) := by
  obtain ⟨t', ht', h'⟩ := h.changed ht (congrArg Prod.snd hremove ▸ changed_remove id w)
  obtain ⟨⟨c, hfind⟩, -, -⟩ := remove_eq_ok hremove
  by_cases hactive : c.isActive = true
  · obtain ⟨all, more, hall, hmore, hleaf⟩ := h.withLeaf_remove ht hremove hfind hactive
    have hc : c ∈ more := hleaf.mem_iff.mpr (Or.inl rfl)
    obtain ⟨above, habove⟩ := h.hangs_allActive ht hmore hc
    have hchain : Hangs more c above.reverse.reverse := by rwa [List.reverse_reverse]
    have hadded := hleaf.leafAdded_forest hchain
    exact ⟨c, _, _, hfind, h.uncached_tree ht hmore, h'.uncached_tree ht' hall,
      fun _ => ⟨_, hadded⟩, fun hinactive => absurd (hinactive.symm.trans hactive) nofun⟩
  · obtain ⟨all, hall, hall'⟩ :=
      h.allActive_remove ht hremove hfind (Bool.eq_false_iff.mpr hactive)
    exact ⟨c, _, _, hfind, h.uncached_tree ht hall, h'.uncached_tree ht' hall',
      fun he => absurd he hactive, fun _ => rfl⟩

/-- From an empty table of categories on, a category that is made is one leaf more in the
forest, at its place below its parent, or at the top if it has none. An active one that
is removed is one leaf less, and the removal of an inactive one does not show. The forest
is what is assembled from the database, and it is what is shown as long as no removal
from the cache fails. -/
theorem forest_changes_by_a_leaf (start : World) (events : List Event)
    (hstart : ∃ t, start.database.table Row = .ok t ∧ t.rows = []) :
    let w := start.after events
    let shows v nodes := (tree.uncached v).1 = .ok nodes ∧
      (start.Undisturbed events → (tree.perform v).1 = .ok nodes)
    (∀ r c w', (create r).perform w = (.ok c, w') →
      ∃ nodes nodes' path, shows w nodes ∧ shows w' nodes' ∧ LeafAdded c path nodes nodes' ∧
        (r.parentId = rootParent → path = []) ∧
        (r.parentId ≠ rootParent → ∃ p, path.getLast? = some p ∧ p.id = r.parentId)) ∧
    (∀ id w', (remove id).perform w = (.ok (), w') →
      ∃ c nodes nodes', find id w.database = .ok (some c) ∧ shows w nodes ∧ shows w' nodes' ∧
        (c.isActive = true → ∃ path, LeafAdded c path nodes' nodes) ∧
        (c.isActive = false → nodes' = nodes)) := by
  intro w shows
  obtain ⟨t₀, ht₀, hempty⟩ := hstart
  obtain ⟨t, ht, h⟩ := (IsOrderly.of_empty hempty).after ht₀ events
  have hshows : ∀ {v nodes}, (start.Undisturbed events → v.Truthful) →
      (tree.uncached v).1 = .ok nodes → shows v nodes := by
    intro v nodes htruthful huncached
    refine ⟨huncached, fun hrun => ?_⟩
    exact (congrArg Prod.fst (Cached.readBy_tree.outcome_eq_uncached (htruthful hrun))).trans
      huncached
  have hnow : start.Undisturbed events → w.Truthful :=
    fun hrun => hrun.coherent_after.truthful
  have hnext : ∀ op : Operation, start.Undisturbed events → (op.next w).Truthful :=
    fun op hrun =>
      (World.coherent_next (e := .call op) hrun.coherent_after hrun.time).truthful
  constructor
  · intro r c w' hcreate
    obtain ⟨nodes, nodes', path, hbefore, hafter, hadded⟩ := h.leafAdded_create ht hcreate
    have hw' : (Operation.createCategory r).next w = w' := by
      rw [Operation.next, Operation.run, Operation.snd_perform_silently, hcreate]
    exact ⟨nodes, nodes', path, hshows hnow hbefore, hshows (hw' ▸ hnext _) hafter, hadded⟩
  · intro id w' hremove
    obtain ⟨c, nodes, nodes', hfind, hbefore, hafter, hadded⟩ :=
      h.leafAdded_remove ht hremove
    have hw' : (Operation.removeCategory id).next w = w' := by
      rw [Operation.next, Operation.run, Operation.snd_perform_silently, hremove]
    exact ⟨c, nodes, nodes', hfind, hshows hnow hbefore,
      hshows (hw' ▸ hnext _) hafter, hadded⟩

/-- A category is made below another one. -/
theorem forest_changes_by_a_leaf_sample :
    let events : List Event := [.call (.createCategory ⟨"prose", none, 0, none, 0⟩)]
    let r : NewCategory := ⟨"essays", none, 1, none, 0⟩
    let w := World.sample.after events
    ∃ nodes nodes' path p, (tree.uncached w).1 = .ok nodes ∧
      (tree.uncached ((create r).perform w).2).1 = .ok nodes' ∧
      LeafAdded (ofRequest r w.now 2) path nodes nodes' ∧ path.getLast? = some p ∧
      p.id = 1 := by
  have hmade : ((create ⟨"essays", none, 1, none, 0⟩).perform
      (World.sample.after [.call (.createCategory ⟨"prose", none, 0, none, 0⟩)])).1
        = .ok (ofRequest ⟨"essays", none, 1, none, 0⟩ World.sample.now 2) := rfl
  obtain ⟨hcreate, -⟩ := forest_changes_by_a_leaf World.sample
    [.call (.createCategory ⟨"prose", none, 0, none, 0⟩)] ⟨_, rfl, rfl⟩
  obtain ⟨nodes, nodes', path, hbefore, hafter, hadded, -, hparent⟩ :=
    hcreate _ _ _ (Prod.ext hmade rfl)
  obtain ⟨p, hp, hid⟩ := hparent (by decide)
  exact ⟨nodes, nodes', path, p, hbefore.1, hafter.1, hadded, hp, hid⟩

end Community.Category

import Community.Proofs.Category.Assembly

/-!
# A leaf more in the forest

A sorted list of categories gets one more category to which no other refers. The forest of
the longer list is that of the shorter one with a single node more:

> `WithLeaf.leafAdded_forest`: the node has no children, stands below what its category hangs
> below, and among its siblings where the order of the list puts it. Every other node keeps
> its parent and its place among its siblings.

A node is grown from a level and the whole list, and both differ here. Away from the chain of
parents of the new category nothing of that shows (`WithLeaf.grow_of_off_chain`). Along the
chain the two forests are compared level by level (`WithLeaf.leafAdded_level`): one of the
siblings leads further, and in the end the new category stands among them.
-/

namespace Community.Category

open CategoryNode

/-- The first category is listed before the second: the higher sort value first, then the
newer one, then the larger identifier. -/
def Precedes (a b : Category) : Prop :=
  b.sort < a.sort ∨ b.sort = a.sort ∧
    (b.createdAt.instant < a.createdAt.instant ∨
      b.createdAt.instant = a.createdAt.instant ∧ b.id < a.id)

/-- The second list of nodes is the first with a node for `c` added. The node has no
children. It is found on the way down through the categories of `path`, and stands behind the
siblings that precede it and before those that it precedes. -/
inductive LeafAdded (c : Category) :
    List Category → List CategoryNode → List CategoryNode → Prop
  | here {before after : List CategoryNode} (hbefore : ∀ n ∈ before, Precedes n.category c)
    (hafter : ∀ n ∈ after, Precedes c n.category) :
    LeafAdded c [] (before ++ after) (before ++ .node c [] :: after)
  | further {before after children children' : List CategoryNode} {p : Category}
    {path : List Category} (h : LeafAdded c path children children') :
    LeafAdded c (p :: path) (before ++ .node p children :: after)
      (before ++ .node p children' :: after)

/-- The second list is the first with `c` added. It is sorted, and nothing in
it refers to `c`. -/
structure WithLeaf (c : Category) (all more : List Category) : Prop where
  split : ∃ before after, all = before ++ after ∧ more = before ++ c :: after
  nodup : (more.map Columns.id).Nodup
  sorted : more.Pairwise Precedes
  leaf : ∀ d ∈ more, d.parentId = rootParent ∨ d.parentId ≠ c.id

variable {c d : Category} {all more above rest path : List Category}

/-! ## What hangs where -/

/-- What hangs below a part of its chain. -/
theorem Hangs.of_append {front : List Category} (h : Hangs all c (front ++ d :: rest)) :
    Hangs all d rest := by
  induction front generalizing c with
  | nil =>
    cases h with
    | under hp => exact hp
  | cons p front ih =>
    cases h with
    | under hp => exact ih hp

/-- A category on the chain of another one hangs below the rest of it. -/
theorem Hangs.exists_front (hnodup : (all.map Columns.id).Nodup) (h : Hangs all c above)
    (hd : d ∈ c :: above) (hrest : Hangs all d rest) :
    ∃ front, c :: above = front ++ d :: rest := by
  obtain ⟨front, rest', hsplit⟩ := List.append_of_mem hd
  have hrest' : Hangs all d rest' := by
    cases front with
    | nil =>
      cases hsplit
      exact h
    | cons e front =>
      cases hsplit
      exact h.of_append
  exact ⟨front, hrest.unique hnodup hrest' ▸ hsplit⟩

/-- Of all that hangs below the rest of a chain, one category is on the chain. -/
theorem Hangs.getLast?_eq (hnodup : (all.map Columns.id).Nodup) {front : List Category}
    (h : Hangs all c (front ++ rest)) (hd : d ∈ c :: (front ++ rest))
    (hrest : Hangs all d rest) : (c :: front).getLast? = some d := by
  obtain ⟨front', hsplit⟩ := h.exists_front hnodup hd hrest
  rw [← List.cons_append, List.append_cons] at hsplit
  rw [List.append_cancel_right hsplit, List.getLast?_concat]

/-- A chain on which a category is goes on with its parent. -/
theorem mem_above_of_mem_below (hnodup : (all.map Columns.id).Nodup) (h : Hangs all c above)
    {e : Category} (he : e ∈ c :: above) (hd : Hangs all d rest)
    (hbelow : e ∈ below all d.id) : d ∈ above := by
  obtain ⟨front, hsplit⟩ := h.exists_front hnodup he (.under hd hbelow)
  cases front <;> cases hsplit <;> simp

namespace WithLeaf

variable (h : WithLeaf c all more)
include h

theorem mem_iff : d ∈ more ↔ d = c ∨ d ∈ all := by
  obtain ⟨before, after, rfl, rfl⟩ := h.split
  simp only [List.mem_append, List.mem_cons]
  exact or_left_comm

theorem length_eq : more.length = all.length + 1 := by
  obtain ⟨before, after, rfl, rfl⟩ := h.split
  simp only [List.length_append, List.length_cons]
  omega

theorem nodup_all : (all.map Columns.id).Nodup := by
  obtain ⟨before, after, rfl, rfl⟩ := h.split
  exact h.nodup.sublist (((List.sublist_cons_self c after).append_left before).map _)

/-- Where `c` is not admitted, the same categories are. -/
theorem filter_eq_of_not {pick pick' : Category → Bool}
    (hpick : ∀ d ∈ more, pick' d = pick d) (hc : pick' c = false) :
    more.filter pick' = all.filter pick := by
  obtain ⟨before, after, rfl, rfl⟩ := h.split
  rw [List.filter_append, List.filter_cons_of_neg (Bool.eq_false_iff.mp hc),
    List.filter_append]
  congr 1 <;> refine List.filter_congr fun d hd => hpick d ?_
  · exact List.mem_append_left _ hd
  · exact List.mem_append_right _ (List.mem_cons_of_mem c hd)

/-- Where `c` is admitted, it is put at its place among the same categories. -/
theorem filter_eq_of_mem {pick pick' : Category → Bool}
    (hpick : ∀ d ∈ more, pick' d = pick d) (hc : pick' c = true) :
    ∃ before after, all.filter pick = before ++ after ∧
      more.filter pick' = before ++ c :: after ∧ (∀ d ∈ before, Precedes d c) ∧
      ∀ d ∈ after, Precedes c d := by
  obtain ⟨before, after, rfl, rfl⟩ := h.split
  have hsame : ∀ ds, ds ⊆ before ++ c :: after → ds.filter pick' = ds.filter pick :=
    fun ds hds => List.filter_congr fun d hd => hpick d (hds hd)
  have hmore : (before ++ c :: after).filter pick' =
      before.filter pick' ++ c :: after.filter pick' := by
    rw [List.filter_append, List.filter_cons_of_pos hc]
  have hsorted := h.sorted.filter pick'
  rw [hmore] at hsorted
  obtain ⟨-, hcons, hcross⟩ := List.pairwise_append.mp hsorted
  refine ⟨before.filter pick', after.filter pick', ?_, hmore, ?_,
    (List.pairwise_cons.mp hcons).1⟩
  · rw [List.filter_append, hsame before (List.subset_append_left _ _), hsame after]
    exact fun d hd => List.mem_append_right _ (List.mem_cons_of_mem c hd)
  · exact fun d hd => hcross d hd c List.mem_cons_self

theorem isTop_eq (hd : d ∈ more) : isTop more d = isTop all d := by
  rw [Bool.eq_iff_iff, isTop_iff, isTop_iff, IsParentless, IsParentless]
  constructor
  · exact Or.imp_right fun hmore p hp => hmore p (h.mem_iff.mpr (Or.inr hp))
  · rintro (hroot | hall)
    · exact Or.inl hroot
    · refine (h.leaf d hd).imp_right fun hne p hp => ?_
      rcases h.mem_iff.mp hp with rfl | hp
      · exact hne.symm
      · exact hall p hp

theorem below_self : below more c.id = [] := by
  refine List.eq_nil_iff_forall_not_mem.mpr fun d hd => ?_
  obtain ⟨hmem, hroot, hid⟩ := mem_below_iff.mp hd
  exact (h.leaf d hmem).elim hroot fun hne => hne hid

theorem below_eq {id : Int} (hc : c ∉ below more id) : below more id = below all id := by
  have hcmem : c ∈ more := h.mem_iff.mpr (Or.inl rfl)
  refine h.filter_eq_of_not (fun d _ => rfl) (Bool.eq_false_iff.mpr fun hpick => hc ?_)
  exact List.mem_filter.mpr ⟨hcmem, hpick⟩

/-- Nothing hangs below the new category, so what else hangs did so before. -/
theorem hangs (hd : Hangs more d rest) (hne : d ≠ c) : Hangs all d rest := by
  induction hd with
  | @top d hmem htop =>
    refine .top ((h.mem_iff.mp hmem).resolve_left hne) ?_
    rw [← h.isTop_eq hmem]
    exact htop
  | @under p d rest hp hbelow ih =>
    have hpc : p ≠ c := by
      rintro rfl
      rw [h.below_self] at hbelow
      cases hbelow
    obtain ⟨hmem, hroot, hid⟩ := mem_below_iff.mp hbelow
    exact .under (ih hpc)
      (mem_below_iff.mpr ⟨(h.mem_iff.mp hmem).resolve_left hne, hroot, hid⟩)

/-- There is a level to go below everything that hangs. -/
theorem exists_level (hd : Hangs more d rest) (hne : d ≠ c) :
    ∃ levels, all.length - rest.length = levels + 1 ∧
    all.length - (rest.length + 1) = levels := by
  have hlt := (h.hangs hd hne).length_lt h.nodup_all
  exact ⟨all.length - (rest.length + 1), by omega, rfl⟩

/-! ## Away from the chain -/

/-- What does not stand above the new category is grown as before, one level higher. -/
theorem grow_of_off_chain (hc : Hangs more c above) {levels : Nat} (hd : Hangs more d rest)
    (hoff : d ∉ c :: above) (hlevels : all.length - rest.length = levels) :
    grow more (levels + 1) d = grow all levels d := by
  have hne : d ≠ c := fun he => hoff (he ▸ List.mem_cons_self)
  induction levels generalizing d rest with
  | zero =>
    obtain ⟨_, hlevel, -⟩ := h.exists_level hd hne
    omega
  | succ levels ih =>
    have hbelow : c ∉ below more d.id := fun hcd =>
      hoff (List.mem_cons_of_mem c
        (mem_above_of_mem_below h.nodup hc List.mem_cons_self hd hcd))
    rw [grow, grow, h.below_eq hbelow]
    refine congrArg (CategoryNode.node d) (List.map_congr_left fun e he => ?_)
    have hemem : e ∈ below more d.id := h.below_eq hbelow ▸ he
    have heoff : e ∉ c :: above := fun hmem =>
      hoff (List.mem_cons_of_mem c (mem_above_of_mem_below h.nodup hc hmem hd hemem))
    refine ih (.under hd hemem) heoff ?_ fun hec => heoff (hec ▸ List.mem_cons_self)
    rw [List.length_cons]
    omega

end WithLeaf

/-! ## Along the chain -/

section Siblings

variable {f f' : Category → CategoryNode}

/-- Siblings among which the new category stands. -/
theorem LeafAdded.of_split {before after : List Category}
    (hcategory : ∀ d, (f d).category = d) (hc : f' c = .node c [])
    (hsame : ∀ d ∈ before ++ after, f' d = f d) (hbefore : ∀ d ∈ before, Precedes d c)
    (hafter : ∀ d ∈ after, Precedes c d) :
    LeafAdded c [] ((before ++ after).map f) ((before ++ c :: after).map f') := by
  have hmap : (before ++ c :: after).map f' = before.map f ++ .node c [] :: after.map f := by
    rw [List.map_append, List.map_cons, hc]
    congr 1
    · exact List.map_congr_left fun d hd => hsame d (List.mem_append_left _ hd)
    · exact congrArg _ (List.map_congr_left fun d hd => hsame d (List.mem_append_right _ hd))
  rw [hmap, List.map_append]
  refine .here (fun n hn => ?_) fun n hn => ?_
  · obtain ⟨d, hd, rfl⟩ := List.mem_map.mp hn
    exact (hcategory d).symm ▸ hbefore d hd
  · obtain ⟨d, hd, rfl⟩ := List.mem_map.mp hn
    exact (hcategory d).symm ▸ hafter d hd

/-- Siblings of which one leads to the new category. -/
theorem LeafAdded.of_map {ds : List Category} {children children' : List CategoryNode}
    (hnodup : ds.Nodup) (hd : d ∈ ds) (hf : f d = .node d children)
    (hf' : f' d = .node d children') (hsame : ∀ e ∈ ds, e ≠ d → f' e = f e)
    (h : LeafAdded c path children children') :
    LeafAdded c (d :: path) (ds.map f) (ds.map f') := by
  obtain ⟨before, after, rfl⟩ := List.append_of_mem hd
  have hne : ∀ e ∈ before ++ after, e ≠ d := by
    rintro e he rfl
    exact (List.nodup_cons.mp (List.nodup_middle.mp hnodup)).1 he
  have hmap : (before ++ d :: after).map f' =
      before.map f ++ .node d children' :: after.map f := by
    rw [List.map_append, List.map_cons, hf']
    congr 1
    · refine List.map_congr_left fun e he => hsame e (List.mem_append_left _ he) (hne e ?_)
      exact List.mem_append_left _ he
    · refine congrArg _ (List.map_congr_left fun e he => hsame e ?_ (hne e ?_))
      · exact List.mem_append_right _ (List.mem_cons_of_mem d he)
      · exact List.mem_append_right _ he
  rw [hmap, List.map_append, List.map_cons, hf]
  exact .further h

end Siblings

/-- A sibling that does not lead to the new category is grown as before. -/
theorem WithLeaf.grow_of_sibling (h : WithLeaf c all more) (front : List Category)
    {levels : Nat} (hc : Hangs more c (front ++ rest)) (hd : Hangs more d rest)
    (hlast : (c :: front).getLast? ≠ some d) (hlevels : all.length - rest.length = levels) :
    grow more (levels + 1) d = grow all levels d :=
  h.grow_of_off_chain hc hd (fun hmem => hlast (hc.getLast?_eq h.nodup hmem hd)) hlevels

/-- On every level of the chain, one sibling leads to the new category or the category stands
among them. The siblings are all that hang below the `rest` of the chain. -/
theorem WithLeaf.leafAdded_level (h : WithLeaf c all more) {pick pick' : Category → Bool}
    {levels : Nat} (hpick : ∀ d ∈ more, pick' d = pick d)
    (hhangs : ∀ d ∈ more, pick' d = true ↔ Hangs more d rest)
    (hlevels : all.length - rest.length = levels)
    (hc : Hangs more c (path.reverse ++ rest)) :
    LeafAdded c path ((all.filter pick).map (grow all levels))
      ((more.filter pick').map (grow more (levels + 1))) := by
  induction path generalizing pick pick' rest levels with
  | nil =>
    obtain ⟨before, after, hall, hmore, hbefore, hafter⟩ :=
      h.filter_eq_of_mem hpick ((hhangs c hc.mem).mpr hc)
    have hdistinct : (more.filter pick').Nodup := (List.Nodup.of_map _ h.nodup).filter _
    rw [hmore, List.nodup_middle, List.nodup_cons] at hdistinct
    rw [hall, hmore]
    refine .of_split (category_grow all levels) ?_ (fun d hd => ?_) hbefore hafter
    · rw [grow, h.below_self]
      rfl
    · have hmem : d ∈ more.filter pick' := by
        rw [hmore]
        exact List.mem_append.mpr
          ((List.mem_append.mp hd).imp_right (List.mem_cons_of_mem c))
      obtain ⟨hmem, hpicked⟩ := List.mem_filter.mp hmem
      refine h.grow_of_sibling [] hc ((hhangs d hmem).mp hpicked) ?_ hlevels
      rintro hlast
      cases hlast
      exact hdistinct.1 hd
  | cons p path ih =>
    rw [List.reverse_cons, List.append_assoc] at hc
    have hp : Hangs more p rest := hc.of_append
    have hcrest : ¬Hangs more c rest := by
      intro hrest
      have hlength := congrArg List.length (hc.unique h.nodup hrest)
      simp only [List.length_append, List.length_cons, List.length_nil] at hlength
      omega
    obtain ⟨levels', hlevel, hbelow⟩ := h.exists_level hp fun he => hcrest (he ▸ hp)
    obtain rfl := hlevels.symm.trans hlevel
    have hnot : pick' c = false := Bool.eq_false_iff.mpr fun hpicked =>
      hcrest ((hhangs c hc.mem).mp hpicked)
    -- the children of `p` are the next level
    have hchildren : ∀ d ∈ more, (!d.isRoot && d.parentId == p.id) = true ↔
        Hangs more d (p :: rest) := by
      intro d hd
      constructor
      · exact fun hpicked => .under hp (List.mem_filter.mpr ⟨hd, hpicked⟩)
      · rintro (_ | ⟨-, hd⟩)
        exact (List.mem_filter.mp hd).2
    have hadded := ih (fun _ _ => rfl) hchildren hbelow hc
    rw [← h.filter_eq_of_not hpick hnot]
    refine .of_map ((List.Nodup.of_map _ h.nodup).filter _) ?_ rfl rfl
      (fun d hd hdp => ?_) hadded
    · exact List.mem_filter.mpr ⟨hp.mem, (hhangs p hp.mem).mpr hp⟩
    · obtain ⟨hmem, hpicked⟩ := List.mem_filter.mp hd
      refine h.grow_of_sibling (path.reverse ++ [p]) ?_
        ((hhangs d hmem).mp hpicked) ?_ hlevels
      · rw [List.append_assoc]
        exact hc
      · rw [← List.cons_append, List.getLast?_concat]
        exact fun hlast => hdp (Option.some.inj hlast).symm

/-- The forest of a list with a leaf more is the forest of the list with a leaf added. -/
theorem WithLeaf.leafAdded_forest (h : WithLeaf c all more)
    (hc : Hangs more c path.reverse) : LeafAdded c path (forest all) (forest more) := by
  have htop : ∀ d ∈ more, isTop more d = true ↔ Hangs more d [] := by
    intro d hd
    constructor
    · exact .top hd
    · rintro (⟨-, htop⟩ | -)
      exact htop
  rw [forest, forest, h.length_eq]
  exact h.leafAdded_level (fun d hd => h.isTop_eq hd) htop rfl (by rwa [List.append_nil])

end Community.Category

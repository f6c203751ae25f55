import Community.Proofs.Category.Position
import Mathlib.Algebra.GroupWithZero.Nat
import Mathlib.Data.List.Perm.Basic
import Mathlib.Data.List.Flatten

/-!
# What a list of categories is assembled into

The list may be in any order and its parents may be anything: missing, inactive, the
category itself, or running in a circle. What is assembled is described here from the list
alone. A category of the list is *parentless* if its parent is that of the roots or is not in
the list, and it is *anchored* if its chain of parents comes to one that is.

> `assembly`: the first identifier that comes a second time is reported; else those that
> are not anchored are; else every category is in the forest exactly once, below its parent,
> in the order of the list.

Uniqueness is not a matter of counting. A category that came twice would have two ways down,
and the way down to it is its chain of parents read backwards, of which there is one
(`nodup_entries_grow`).
-/

namespace Community.Category

open CategoryNode

/-- Whether a category has no parent in a list. -/
def IsParentless (all : List Category) (c : Category) : Prop :=
  c.parentId = rootParent ∨ ∀ p ∈ all, p.id ≠ c.parentId

/-- Whether the chain of parents through a list comes to a category that has none. -/
inductive IsAnchored (all : List Category) : Category → Prop
  | here {c : Category} (h : IsParentless all c) : IsAnchored all c
  | up {p c : Category} (hp : p ∈ all) (hid : p.id = c.parentId) (h : IsAnchored all p) :
      IsAnchored all c

/-- The categories of some nodes and of all below them, each before those below it. -/
def entries (nodes : List CategoryNode) : List Category :=
  (preorders 0 nodes).map Prod.fst

variable {all : List Category} {c : Category} {above : List Category} {levels : Nat}

/-! ## The first identifier that comes again -/

/-- What is reported is the first category whose identifier was seen. -/
theorem firstRepeated?_eq_some {seen : List Int} {cs : List Category} {id : Int}
    (h : firstRepeated? seen cs = some id) :
    ∃ before c after, cs = before ++ c :: after ∧ c.id = id ∧ (before.map Columns.id).Nodup ∧
      (∀ b ∈ before, b.id ∉ seen) ∧ (c.id ∈ seen ∨ c.id ∈ before.map Columns.id) := by
  induction cs generalizing seen with
  | nil => cases h
  | cons c cs ih =>
    rw [firstRepeated?] at h
    by_cases hc : c.id ∈ seen
    · rw [if_pos hc, Option.some.injEq] at h
      exact ⟨[], c, cs, rfl, h, List.nodup_nil,
        fun _ hb => absurd hb List.not_mem_nil, Or.inl hc⟩
    · rw [if_neg hc] at h
      obtain ⟨before, d, after, rfl, hid, hnodup, hfresh, hd⟩ := ih h
      -- what comes before the repeated one has not been seen, and is not `c` again
      have hnot : c.id ∉ before.map Columns.id := by
        intro hmem
        obtain ⟨b, hb, hbid⟩ := List.mem_map.mp hmem
        exact hfresh b hb (hbid ▸ List.mem_cons_self)
      refine ⟨c :: before, d, after, rfl, hid, List.nodup_cons.mpr ⟨hnot, hnodup⟩, ?_, ?_⟩
      · intro b hb
        rcases List.mem_cons.mp hb with rfl | hb
        · exact hc
        · exact fun hmem => hfresh b hb (List.mem_cons_of_mem _ hmem)
      · rw [List.map_cons, List.mem_cons]
        rcases hd with hd | hd
        · rcases List.mem_cons.mp hd with hd | hd
          · exact Or.inr (Or.inl hd)
          · exact Or.inl hd
        · exact Or.inr (Or.inr hd)

/-- Where no id is repeated, the ids are distinct, and none was seen before. -/
theorem nodup_of_firstRepeated? {seen : List Int} {cs : List Category}
    (h : firstRepeated? seen cs = none) :
    (cs.map Columns.id).Nodup ∧ ∀ c ∈ cs, c.id ∉ seen := by
  induction cs generalizing seen with
  | nil => exact ⟨List.nodup_nil, fun _ hc => absurd hc List.not_mem_nil⟩
  | cons c cs ih =>
    rw [firstRepeated?] at h
    split at h
    · cases h
    · next hc =>
      obtain ⟨hnodup, hfresh⟩ := ih h
      refine ⟨List.nodup_cons.mpr ⟨fun hmem => ?_, hnodup⟩, fun d hd => ?_⟩
      · obtain ⟨d, hd, hid⟩ := List.mem_map.mp hmem
        exact hfresh d hd (hid ▸ List.mem_cons_self)
      · rcases List.mem_cons.mp hd with rfl | hd
        · exact hc
        · exact fun hmem => hfresh d hd (List.mem_cons_of_mem _ hmem)

/-! ## Chains of parents -/

/-- The top nodes are the categories with no parent in the list. -/
theorem isTop_iff : isTop all c = true ↔ IsParentless all c := by
  rw [isTop, Bool.or_eq_true, List.all_eq_true, IsParentless]
  exact or_congr beq_iff_eq (forall₂_congr fun p _ => bne_iff_ne)

theorem mem_below_iff {id : Int} :
    c ∈ below all id ↔ c ∈ all ∧ c.parentId ≠ rootParent ∧ c.parentId = id := by
  rw [below, List.mem_filter, Bool.and_eq_true, Bool.not_eq_true', beq_iff_eq,
    Columns.isRoot, beq_eq_false_iff_ne]

/-- A category hangs somewhere if and only if its chain of parents comes to an end. -/
theorem isAnchored_iff (hc : c ∈ all) : IsAnchored all c ↔ ∃ above, Hangs all c above := by
  constructor
  · intro h
    induction h with
    | here h => exact ⟨[], .top hc (isTop_iff.mpr h)⟩
    | @up p c hp hid _ ih =>
      by_cases hroot : c.parentId = rootParent
      · exact ⟨[], .top hc (isTop_iff.mpr (Or.inl hroot))⟩
      · obtain ⟨above, habove⟩ := ih hp
        exact ⟨_, .under habove (mem_below_iff.mpr ⟨hc, hroot, hid.symm⟩)⟩
  · rintro ⟨above, h⟩
    induction h with
    | top _ htop => exact .here (isTop_iff.mp htop)
    | under hp hc' ih => exact .up hp.mem (parentId_of_mem_below hc').symm (ih hp.mem)

/-- What hangs directly below a category of the list are the categories that name it as their
parent and have one. -/
theorem below_eq_filter {p : Category} (hp : p ∈ all) [DecidablePred (IsParentless all)] :
    below all p.id = all.filter fun c => ¬IsParentless all c ∧ c.parentId = p.id := by
  refine List.filter_congr fun c _ => ?_
  rw [Bool.eq_iff_iff, Bool.and_eq_true, Bool.not_eq_true', beq_iff_eq, decide_eq_true_iff,
    Columns.isRoot, beq_eq_false_iff_ne]
  refine and_congr_left fun hid => ⟨fun hroot h => ?_, fun h hroot => h (Or.inl hroot)⟩
  rcases h with h | h
  · exact hroot h
  · exact h p hp hid.symm

/-! ## Nothing is in the forest twice -/

/-- A forest is walked tree by tree. -/
theorem preorders_eq_flatMap (depth : Nat) (ns : List CategoryNode) :
    preorders depth ns = ns.flatMap (preorder depth) := by
  induction ns with
  | nil => rfl
  | cons n ns ih => rw [preorders, ih, List.flatMap_cons]

/-- What is listed below the node of a category is the category, or hangs below it. -/
theorem hangs_of_mem_preorder {depth : Nat} {x : Category × Nat × Nat}
    (hc : Hangs all c above) (hx : x ∈ preorder depth (grow all levels c)) :
    (x.1 = c ∧ Hangs all x.1 above) ∨ ∃ path, Hangs all x.1 (path ++ c :: above) := by
  obtain ⟨path, node, hnode, hcategory⟩ := leads_of_mem_preorder hx
  rw [← hcategory]
  have htops : ∀ d ∈ [c], Hangs all d above := fun d hd => List.mem_singleton.mp hd ▸ hc
  have hhangs := hnode.hangs rfl htops
  cases hnode with
  | here h =>
    rw [List.mem_singleton.mp h, category_grow] at hhangs ⊢
    exact Or.inl ⟨rfl, hhangs⟩
  | @further _ parent _ rest h _ =>
    rw [List.mem_singleton.mp h, category_grow, List.reverse_cons,
      List.append_assoc] at hhangs
    exact Or.inr ⟨rest.reverse, hhangs⟩

/-- Two nodes side by side have nothing in common. -/
theorem disjoint_preorder_grow (hnodup : (all.map Columns.id).Nodup) {d : Category}
    {depth : Nat} (hc : Hangs all c above) (hd : Hangs all d above) (hne : c ≠ d) :
    List.Disjoint ((preorder depth (grow all levels c)).map Prod.fst)
      ((preorder depth (grow all levels d)).map Prod.fst) := by
  intro x hxc hxd
  obtain ⟨y, hy, rfl⟩ := List.mem_map.mp hxc
  obtain ⟨z, hz, hzy⟩ := List.mem_map.mp hxd
  -- the two ways up from it are one, and so pass through the same one of the two
  rcases hangs_of_mem_preorder hc hy with ⟨hyc, hy⟩ | ⟨path, hy⟩ <;>
    rcases hangs_of_mem_preorder hd hz with ⟨hzd, hz⟩ | ⟨path', hz⟩ <;> rw [hzy] at hz
  · exact hne (hyc.symm.trans (hzy ▸ hzd))
  · have hlength := congrArg List.length (hy.unique hnodup hz)
    simp only [List.length_append, List.length_cons] at hlength
    omega
  · have hlength := congrArg List.length (hy.unique hnodup hz)
    simp only [List.length_append, List.length_cons] at hlength
    omega
  · have hsame := hy.unique hnodup hz
    rw [List.append_cons, List.append_cons path'] at hsame
    have hlast := List.append_cancel_right hsame
    exact hne (by simpa using congrArg List.getLast? hlast)

/-- A grown node lists no category twice. -/
theorem nodup_entries_grow (hnodup : (all.map Columns.id).Nodup) (depth : Nat)
    (hc : Hangs all c above) :
    ((preorder depth (grow all levels c)).map Prod.fst).Nodup := by
  induction levels generalizing c above depth with
  | zero => exact List.nodup_singleton c
  | succ levels ih =>
    have hchild : ∀ d ∈ below all c.id, Hangs all d (c :: above) := fun d hd => .under hc hd
    rw [grow, preorder, List.map_cons, preorders_eq_flatMap, List.flatMap_map,
      List.map_flatMap]
    refine List.nodup_cons.mpr ⟨fun hmem => ?_, List.nodup_flatMap.mpr ⟨fun d hd => ?_, ?_⟩⟩
    · -- nothing hangs below itself
      obtain ⟨d, hd, hmem⟩ := List.mem_flatMap.mp hmem
      obtain ⟨x, hx, hxc⟩ := List.mem_map.mp hmem
      rcases hangs_of_mem_preorder (hchild d hd) hx with
        ⟨-, hx⟩ | ⟨path, hx⟩ <;> rw [hxc] at hx
      · have hlength := congrArg List.length (hx.unique hnodup hc)
        rw [List.length_cons] at hlength
        omega
      · have hlength := congrArg List.length (hx.unique hnodup hc)
        simp only [List.length_append, List.length_cons] at hlength
        omega
    · exact ih (depth + 1) (hchild d hd)
    · have hdistinct : (below all c.id).Nodup := (List.Nodup.of_map _ hnodup).filter _
      refine List.Pairwise.imp_of_mem (fun hd he hne => ?_) hdistinct
      exact disjoint_preorder_grow hnodup (hchild _ hd) (hchild _ he) hne

/-- The forest has no category twice. -/
theorem nodup_entries_forest (hnodup : (all.map Columns.id).Nodup) :
    (entries (forest all)).Nodup := by
  have htop : ∀ c ∈ all.filter (isTop all), Hangs all c [] := fun c hc =>
    .top (List.mem_filter.mp hc).1 (List.mem_filter.mp hc).2
  rw [entries, forest, preorders_eq_flatMap, List.flatMap_map, List.map_flatMap]
  refine List.nodup_flatMap.mpr ⟨fun c hc => nodup_entries_grow hnodup 0 (htop c hc), ?_⟩
  refine List.Pairwise.imp_of_mem (fun hc hd hne => ?_)
    ((List.Nodup.of_map _ hnodup).filter _)
  exact disjoint_preorder_grow hnodup (htop _ hc) (htop _ hd) hne

/-! ## What is in the forest, and where -/

/-- A category is in the forest exactly when it hangs from the top by a chain of parents. -/
theorem mem_entries_forest (hnodup : (all.map Columns.id).Nodup) :
    c ∈ entries (forest all) ↔ ∃ above, Hangs all c above := by
  constructor
  · intro hmem
    obtain ⟨x, hx, rfl⟩ := List.mem_map.mp hmem
    obtain ⟨path, node, hnode, hcategory⟩ := leads_of_mem_preorders hx
    exact ⟨_, hcategory ▸ hnode.hangs_of_forest⟩
  · rintro ⟨above, h⟩
    obtain ⟨depth, hgrown⟩ := h.grown (Nat.le_of_lt (h.length_lt hnodup))
    obtain ⟨size, hmem⟩ := mem_preorder_grow all c depth (all.length - above.length)
    exact List.mem_map.mpr ⟨_, hgrown hmem, rfl⟩

/-- A node of the forest is grown from its category, with a level to go for each
step that is left. -/
theorem Leads.eq_grow {nodes : List CategoryNode} {path tops : List Category}
    {node : CategoryNode} (h : Leads nodes path node)
    (hnodes : nodes = tops.map (grow all levels)) :
    node = grow all (levels - path.length) node.category := by
  induction h generalizing levels tops with
  | here h =>
    rw [hnodes] at h
    obtain ⟨c, -, rfl⟩ := List.mem_map.mp h
    rw [category_grow]
    rfl
  | @further nodes parent node path h hpath ih =>
    rw [hnodes] at h
    obtain ⟨c, -, rfl⟩ := List.mem_map.mp h
    cases levels with
    | zero =>
      -- the last level has nothing below it
      rw [grow, children] at hpath
      cases hpath with
      | here h => cases h
      | further h => cases h
    | succ levels =>
      rw [List.length_cons, Nat.add_sub_add_right]
      exact ih rfl

/-- Below a node of the forest are all that hang directly below its category. -/
theorem children_of_leads (hnodup : (all.map Columns.id).Nodup) {path : List Category}
    {node : CategoryNode} (h : Leads (forest all) path node) :
    node.children.map category = below all node.category.id := by
  have hlength := h.hangs_of_forest.length_lt hnodup
  rw [List.length_reverse] at hlength
  obtain ⟨levels, hlevels⟩ : ∃ levels, all.length - path.length = levels + 1 :=
    ⟨all.length - path.length - 1, by omega⟩
  have hnode := h.eq_grow rfl
  rw [hlevels, grow] at hnode
  generalize node.category = c at hnode
  rw [hnode, children, List.map_map]
  exact (List.map_congr_left fun d _ => category_grow all levels d).trans (List.map_id _)

/-! ## How many there are -/

/-- The size of a forest is the sum of its trees. -/
theorem sizes_eq (ns : List CategoryNode) : sizes ns = (ns.map size).sum := by
  induction ns with
  | nil => rfl
  | cons n ns ih => rw [sizes, ih, List.map_cons, List.sum_cons]

mutual

/-- The walk of a tree meets each of its nodes. -/
theorem length_preorder (depth : Nat) :
    ∀ n : CategoryNode, (preorder depth n).length = n.size
  | .node c ns => by
    rw [preorder, size, List.length_cons, length_preorders (depth + 1) ns,
      sizes_eq, Nat.add_comm]

theorem length_preorders (depth : Nat) :
    ∀ ns : List CategoryNode, (preorders depth ns).length = (ns.map size).sum
  | [] => rfl
  | n :: ns => by
    rw [preorders, List.length_append, length_preorder depth n, length_preorders depth ns,
      List.map_cons, List.sum_cons]

end

/-! ## The forest as a whole -/

/-- A repeated id stops the assembly, at its second occurrence. -/
theorem buildForest_of_repeated {categories : List Category}
    (h : ¬((categories.filter Columns.isActive).map Columns.id).Nodup) :
    ∃ before c after, categories.filter Columns.isActive = before ++ c :: after ∧
      (before.map Columns.id).Nodup ∧ c.id ∈ before.map Columns.id ∧
      buildForest categories = .error (.repeated c.id) := by
  cases hfirst : firstRepeated? [] (categories.filter Columns.isActive) with
  | none => exact absurd (nodup_of_firstRepeated? hfirst).1 h
  | some id =>
    obtain ⟨before, c, after, hall, rfl, hnodup, -, hc⟩ := firstRepeated?_eq_some hfirst
    refine ⟨before, c, after, hall, hnodup, hc.resolve_left List.not_mem_nil, ?_⟩
    rw [buildForest, hfirst]

theorem buildForest_of_nodup {categories : List Category}
    (h : ((categories.filter Columns.isActive).map Columns.id).Nodup) :
    buildForest categories =
      match stranded (categories.filter Columns.isActive) with
      | [] => .ok (forest (categories.filter Columns.isActive))
      | lost => .error (.circle (lost.map Columns.id)) := by
  cases hfirst : firstRepeated? [] (categories.filter Columns.isActive) with
  | none =>
    cases hlost : stranded (categories.filter Columns.isActive) with
    | nil => simp only [buildForest, hfirst, hlost]
    | cons c lost => simp only [buildForest, hfirst, hlost]
  | some id =>
    obtain ⟨before, c, after, hall, -, -, -, hc⟩ := firstRepeated?_eq_some hfirst
    rw [hall, List.map_append, List.map_cons, List.nodup_append] at h
    exact absurd rfl (h.2.2 _ (hc.resolve_left List.not_mem_nil) _ List.mem_cons_self)

open Classical in
/-- What is stranded is what no chain of parents anchors at the top. -/
theorem stranded_eq_filter (hnodup : (all.map Columns.id).Nodup) :
    stranded all = all.filter fun c => ¬IsAnchored all c := by
  refine List.filter_congr fun c hc => ?_
  have hstranded : c ∈ stranded all ↔ ∀ above, ¬Hangs all c above :=
    (mem_stranded_iff hnodup).trans (and_iff_right hc)
  rw [stranded, List.mem_filter, and_iff_right hc] at hstranded
  rw [Bool.eq_iff_iff, hstranded, decide_eq_true_iff, isAnchored_iff hc, not_exists]

/-- If every category is anchored, then all of them are in the forest. -/
theorem entries_forest_perm (hnodup : (all.map Columns.id).Nodup)
    (h : ∀ c ∈ all, IsAnchored all c) : (entries (forest all)).Perm all := by
  refine (List.perm_ext_iff_of_nodup (nodup_entries_forest hnodup)
    (List.Nodup.of_map _ hnodup)).mpr ?_
  intro c
  rw [mem_entries_forest hnodup]
  exact ⟨fun ⟨_, habove⟩ => habove.mem, fun hc => (isAnchored_iff hc).mp (h c hc)⟩

open Classical in
/-- The trees stand in the order that their tops have in the list. -/
theorem map_category_forest :
    (forest all).map category = all.filter (fun c => IsParentless all c) := by
  rw [forest, List.map_map]
  refine (List.map_congr_left fun c _ => category_grow all _ c).trans
    ((List.map_id _).trans ?_)
  exact List.filter_congr fun c _ => by rw [Bool.eq_iff_iff, isTop_iff, decide_eq_true_iff]

open Classical in
/-- What a list of categories in any order and with any parents is assembled into. -/
theorem assembly (categories : List Category) :
    let all := categories.filter Columns.isActive
    (¬(all.map Columns.id).Nodup →
      ∃ before c after, all = before ++ c :: after ∧ (before.map Columns.id).Nodup ∧
        c.id ∈ before.map Columns.id ∧ buildForest categories = .error (.repeated c.id)) ∧
    ((all.map Columns.id).Nodup →
      let lost := all.filter fun c => ¬IsAnchored all c
      (lost ≠ [] → buildForest categories = .error (.circle (lost.map Columns.id))) ∧
      (lost = [] → ∃ nodes, buildForest categories = .ok nodes ∧
        (entries nodes).Perm all ∧
        nodes.map category = all.filter (fun c => IsParentless all c) ∧
        (∀ path node, Leads nodes path node →
          node.children.map category =
            all.filter fun c => ¬IsParentless all c ∧ c.parentId = node.category.id) ∧
        (nodes.map size).sum = all.length)) := by
  intro all
  refine ⟨buildForest_of_repeated, fun hnodup => ?_⟩
  intro lost
  have hbuild := buildForest_of_nodup hnodup
  rw [stranded_eq_filter hnodup] at hbuild
  refine ⟨fun hlost => ?_, fun hlost => ⟨forest all, ?_, ?_⟩⟩
  · rw [hbuild]
    split
    · next h => exact absurd h hlost
    · rfl
  · exact hbuild.trans (by rw [show (all.filter fun c => ¬IsAnchored all c) = [] from hlost])
  · have hanchored : ∀ c ∈ all, IsAnchored all c := fun c hc => by
      simpa using List.filter_eq_nil_iff.mp hlost c hc
    have hperm := entries_forest_perm hnodup hanchored
    refine ⟨hperm, map_category_forest, fun path node hnode => ?_, ?_⟩
    · rw [children_of_leads hnodup hnode]
      exact below_eq_filter hnode.hangs_of_forest.mem
    · rw [← length_preorders 0, ← hperm.length_eq, entries, List.length_map]

end Community.Category

import Community.Proofs.Category.Forest
import Mathlib.Data.List.Nodup

/-!
# Where a category stands in the forest

The forest is grown downwards, and a node in it is found by going down from a root. `Leads
nodes path node` says that the way down from `nodes` to `node` goes through the categories
of `path`, the root first; the node itself is not on it.

> `leads_forest_iff`: the way down to a category is what the category hangs below, read the
> other way round.

A category has one way down at most, and has none if and only if it is reported as stranded
(`mem_stranded_iff`).
-/

namespace Community.Category

open CategoryNode

/-- The way down from some nodes to a node, and the categories on it, the root first. -/
inductive Leads : List CategoryNode → List Category → CategoryNode → Prop
  | here {nodes : List CategoryNode} {node : CategoryNode} (h : node ∈ nodes) :
      Leads nodes [] node
  | further {nodes : List CategoryNode} {parent node : CategoryNode} {path : List Category}
    (h : parent ∈ nodes) (hpath : Leads parent.children path node) :
    Leads nodes (parent.category :: path) node

variable {all : List Category} {c : Category} {above path : List Category}
  {nodes : List CategoryNode} {node : CategoryNode} {depth levels : Nat}

/-- A path through a forest is one through a larger forest. -/
theorem Leads.mono {more : List CategoryNode} (hsub : nodes ⊆ more)
    (h : Leads nodes path node) : Leads more path node := by
  cases h with
  | here h => exact .here (hsub h)
  | further h hpath => exact .further (hsub h) hpath

/-- One step further down. -/
theorem Leads.child {parent : CategoryNode} (h : Leads nodes path parent)
    (hnode : node ∈ parent.children) : Leads nodes (path ++ [parent.category]) node := by
  induction h with
  | here h => exact .further h (.here hnode)
  | further h _ ih => exact .further h (ih hnode)

/-! ## What hangs is found, and the other way round -/

/-- The tree that is grown on a category has it on top. -/
@[simp]
theorem category_grow (all : List Category) (levels : Nat) (c : Category) :
    (grow all levels c).category = c := by
  cases levels <;> rfl

/-- Below what hangs, every node that is grown hangs too. -/
theorem Leads.hangs (h : Leads nodes path node) {tops : List Category}
    (hnodes : nodes = tops.map (grow all levels)) (htops : ∀ c ∈ tops, Hangs all c above) :
    Hangs all node.category (path.reverse ++ above) := by
  -- one step down is one level less, and one category more to hang below
  induction h generalizing levels above tops with
  | here h =>
    rw [hnodes] at h
    obtain ⟨c, hc, rfl⟩ := List.mem_map.mp h
    rw [category_grow]
    exact htops c hc
  | @further nodes parent node path h hpath ih =>
    rw [hnodes] at h
    obtain ⟨c, hc, rfl⟩ := List.mem_map.mp h
    rw [category_grow, List.reverse_cons, List.append_assoc]
    cases levels with
    | zero =>
      -- the last level has nothing below it
      rw [grow, children] at hpath
      cases hpath with
      | here h => cases h
      | further h => cases h
    | succ levels => exact ih rfl fun d hd => (htops c hc).under hd

/-- The path to a node of the forest is the chain of its parents. -/
theorem Leads.hangs_of_forest (h : Leads (forest all) path node) :
    Hangs all node.category path.reverse := by
  have htops : ∀ c ∈ all.filter (isTop all), Hangs all c [] := by
    intro c hc
    obtain ⟨hc, htop⟩ := List.mem_filter.mp hc
    exact .top hc htop
  have hhangs := h.hangs rfl htops
  rwa [List.append_nil] at hhangs

/-- What hangs is found below what it hangs below, if there are levels enough. -/
theorem Hangs.leads (h : Hangs all c above) (hlevels : above.length ≤ all.length) :
    Leads (forest all) above.reverse (grow all (all.length - above.length) c) := by
  induction h with
  | top hc htop => exact .here (List.mem_map_of_mem (List.mem_filter.mpr ⟨hc, htop⟩))
  | @under p c above hp hc ih =>
    rw [List.length_cons] at hlevels ⊢
    have hparent := ih (by omega)
    obtain ⟨levels, hlevel⟩ : ∃ levels, all.length - above.length = levels + 1 :=
      ⟨all.length - above.length - 1, by omega⟩
    rw [hlevel] at hparent
    have hchild := hparent.child (List.mem_map_of_mem (f := grow all levels) hc)
    rw [category_grow, ← List.reverse_cons] at hchild
    rwa [show all.length - (above.length + 1) = levels by omega]

/-! ## One way up only -/

theorem eq_of_id (hnodup : (all.map Columns.id).Nodup) {d : Category} (hc : c ∈ all)
    (hd : d ∈ all) (hid : c.id = d.id) : c = d :=
  List.inj_on_of_nodup_map hnodup hc hd hid

/-- What hangs below a category is not at the top. -/
theorem isTop_of_mem_below {p : Category} (hp : p ∈ all) (hc : c ∈ below all p.id) :
    isTop all c = false := by
  obtain ⟨-, hbelow⟩ := List.mem_filter.mp hc
  rw [Bool.and_eq_true, Bool.not_eq_true', beq_iff_eq] at hbelow
  rw [isTop, hbelow.1, Bool.false_or, List.all_eq_false]
  exact ⟨p, hp, by rw [hbelow.2]; simp⟩

/-- What is below an id has it as its parent. -/
theorem parentId_of_mem_below {id : Int} (hc : c ∈ below all id) : c.parentId = id :=
  beq_iff_eq.mp (Bool.and_eq_true_iff.mp (List.mem_filter.mp hc).2).2

namespace Hangs

variable {above' : List Category}

/-- A category hangs by one chain only. -/
theorem unique (hnodup : (all.map Columns.id).Nodup) (h : Hangs all c above)
    (h' : Hangs all c above') : above = above' := by
  induction h generalizing above' with
  | top _ htop =>
    cases h' with
    | top => rfl
    | under hp hc => exact absurd (htop.symm.trans (isTop_of_mem_below hp.mem hc)) nofun
  | @under p c above hp hc ih =>
    cases h' with
    | top _ htop => exact absurd (htop.symm.trans (isTop_of_mem_below hp.mem hc)) nofun
    | @under q _ above' hq hc' =>
      have hid : p.id = q.id :=
        (parentId_of_mem_below hc).symm.trans (parentId_of_mem_below hc')
      obtain rfl := eq_of_id hnodup hp.mem hq.mem hid
      rw [ih hq]

/-- Every parent in the chain hangs by a shorter one. -/
theorem of_mem (h : Hangs all c above) {p : Category} (hp : p ∈ above) :
    ∃ rest, Hangs all p rest ∧ rest.length < above.length := by
  induction h with
  | top => cases hp
  | under hparent _ ih =>
    rcases List.mem_cons.mp hp with rfl | hp
    · exact ⟨_, hparent, Nat.lt_succ_self _⟩
    · obtain ⟨rest, hrest, hlength⟩ := ih hp
      exact ⟨rest, hrest, Nat.lt_succ_of_lt hlength⟩

/-- Nothing hangs below itself: it would hang below fewer categories than it does. -/
theorem nodup (hnodup : (all.map Columns.id).Nodup) (h : Hangs all c above) :
    ((c :: above).map Columns.id).Nodup := by
  have hnot : ∀ {d : Category} {rest : List Category}, Hangs all d rest →
      d.id ∉ rest.map Columns.id := by
    intro d rest hd hmem
    obtain ⟨p, hp, hid⟩ := List.mem_map.mp hmem
    obtain ⟨rest', hrest', hlength⟩ := hd.of_mem hp
    obtain rfl := eq_of_id hnodup hrest'.mem hd.mem hid
    rw [hrest'.unique hnodup hd] at hlength
    omega
  refine List.nodup_cons.mpr ⟨hnot h, ?_⟩
  induction h with
  | top => exact List.nodup_nil
  | under hp _ ih => exact List.nodup_cons.mpr ⟨hnot hp, ih⟩

/-- A chain has no category twice, nor its own; so it is shorter than the list. -/
theorem length_lt (hnodup : (all.map Columns.id).Nodup) (h : Hangs all c above) :
    above.length < all.length := by
  have hsub : (c :: above).map Columns.id ⊆ all.map Columns.id :=
    List.map_subset _ (List.cons_subset.mpr ⟨h.mem, h.subset⟩)
  have hle := (h.nodup hnodup).length_le_of_subset hsub
  rw [List.length_map, List.length_map, List.length_cons] at hle
  omega

end Hangs

/-- The way down to a category is what it hangs below, read from the root on. -/
theorem leads_forest_iff (hnodup : (all.map Columns.id).Nodup) :
    (∃ node, Leads (forest all) path node ∧ node.category = c) ↔
    Hangs all c path.reverse := by
  constructor
  · rintro ⟨node, hnode, rfl⟩
    exact hnode.hangs_of_forest
  · intro h
    have hleads := h.leads (Nat.le_of_lt (h.length_lt hnodup))
    rw [List.reverse_reverse] at hleads
    exact ⟨_, hleads, category_grow _ _ _⟩

/-! ## What is stranded -/

mutual

/-- What is listed below a node is the node, or is found further down. -/
theorem leads_of_mem_preorder {x : Category × Nat × Nat} :
    ∀ {n : CategoryNode} {depth : Nat}, x ∈ preorder depth n →
      ∃ path node, Leads [n] path node ∧ node.category = x.1
  | .node c ns, depth, h => by
    rw [preorder] at h
    rcases List.mem_cons.mp h with rfl | h
    · exact ⟨[], _, .here (List.mem_singleton_self _), rfl⟩
    · obtain ⟨path, node, hnode, hx⟩ := leads_of_mem_preorders h
      exact ⟨_, node, .further (List.mem_singleton_self _) hnode, hx⟩

/-- Whatever a walk meets, a path leads to. -/
theorem leads_of_mem_preorders {x : Category × Nat × Nat} :
    ∀ {ns : List CategoryNode} {depth : Nat}, x ∈ preorders depth ns →
      ∃ path node, Leads ns path node ∧ node.category = x.1
  | [], _, h => by cases h
  | n :: ns, depth, h => by
    rw [preorders] at h
    rcases List.mem_append.mp h with h | h
    · obtain ⟨path, node, hnode, hx⟩ := leads_of_mem_preorder h
      exact ⟨path, node,
        hnode.mono (fun m hm => List.mem_singleton.mp hm ▸ List.mem_cons_self), hx⟩
    · obtain ⟨path, node, hnode, hx⟩ := leads_of_mem_preorders h
      exact ⟨path, node, hnode.mono (List.subset_cons_self _ _), hx⟩

end

/-- A category is stranded if and only if it hangs nowhere. -/
theorem mem_stranded_iff (hnodup : (all.map Columns.id).Nodup) :
    c ∈ stranded all ↔ c ∈ all ∧ ∀ above, ¬Hangs all c above := by
  have hreached : c ∈ all → (c.id ∈ (preorders 0 (forest all)).map (fun x => x.1.id) ↔
      ∃ above, Hangs all c above) := by
    intro hc
    constructor
    · intro hmem
      obtain ⟨x, hx, hid⟩ := List.mem_map.mp hmem
      obtain ⟨path, node, hnode, hcategory⟩ := leads_of_mem_preorders hx
      have hhangs := hnode.hangs_of_forest
      rw [hcategory] at hhangs
      exact ⟨_, eq_of_id hnodup hhangs.mem hc hid ▸ hhangs⟩
    · rintro ⟨above, h⟩
      obtain ⟨depth, hgrown⟩ := h.grown (Nat.le_of_lt (h.length_lt hnodup))
      obtain ⟨size, hmem⟩ := mem_preorder_grow all c depth (all.length - above.length)
      exact List.mem_map.mpr ⟨_, hgrown hmem, rfl⟩
  unfold stranded
  rw [List.mem_filter, Bool.not_eq_true', List.contains_eq_mem, decide_eq_false_iff_not]
  refine and_congr_right fun hc => ?_
  rw [hreached hc, not_exists]

end Community.Category

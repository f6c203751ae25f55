import Community.Proofs.Cache.Values
import Community.Proofs.Json.Flattened

/-!
# How deep a forest may be

A node takes two levels of its text: the object that it is, and the list of its
children in it. The forest takes one more. A text may have 127 levels, so that there is
room for 63 generations:

> `CategoryNode.parse_render`: a forest in which no chain of nodes is longer than 63 is
> decoded from its text.

> `CategoryNode.parse_render_of_deep`: any other is refused. What is decoded at a place
> with `depth` levels has `2 * height < depth` (`height_lt_of_decodeNode`), and nothing but
> the forest could be.
-/

namespace Community

open Json Text

/-- A signed 32-bit number. -/
def Text.IsInt32 (n : Int) : Prop :=
  int32Min ≤ n ∧ n ≤ int32Max

/-- A number of 32 bits is read as itself. -/
theorem Json.Yields.int32 {k : Nat} {n : Int} (h : IsInt32 n) :
    Yields decodeInt32 k (.int n) n :=
  .int h.1 h.2 (by decide) (by decide)

/-! ## Categories -/

/-- The numbers of a category are of 64 bits, its place among others is of 32 bits, and its
timestamps are of the calendar. -/
structure Category.Columns.Fits {col : Type → Type} (c : Category.Columns col) : Prop where
  id : IsInt64 c.id
  parentId : IsInt64 c.parentId
  sort : IsInt32 c.sort
  contentCount : IsInt64 c.contentCount
  createdAt : c.createdAt.Valid
  updatedAt : c.updatedAt.Valid

namespace Category

variable {c : Category}

/-- A category whose numbers and times are in range is dated. -/
theorem Columns.Fits.dated (h : c.Fits) : c.Dated :=
  ⟨h.createdAt, h.updatedAt⟩

theorem reads {k : Nat} (h : c.Fits) : fields.Reads k c.members c :=
  (Fields.Reads.pure (@Columns.mk Plain)).member "id" (.int64 h.id)
    |>.member "name" (.str c.name)
    |>.member "description" (.text? c.description)
    |>.member "parent_id" (.int64 h.parentId)
    |>.member "icon_url" (.text? c.iconUrl)
    |>.seq (.one "sort" (.int32 h.sort))
    |>.member "content_count" (.int64 h.contentCount)
    |>.member "status" (.tag (ActiveStatus.ofText?_spelling c.status))
    |>.member "created_at" (.timestamp h.createdAt)
    |>.member "updated_at" (.timestamp h.updatedAt)

/-- A category comes back from its JSON. -/
theorem readsBack {k : Nat} (h : c.Fits) : ReadsBack (k + 1) c :=
  (reads h).readsBack (by decide) rfl rfl

/-- Nothing lies below the members of a category. -/
theorem isFlat_of_mem_members (h : c.Fits) : ∀ e ∈ c.members, IsFlat e.2 := by
  have hsort : IsFlat (encode c.sort) :=
    .int (Int.le_trans (by decide) h.sort.1) (Int.le_trans h.sort.2 (by decide))
  simp only [Columns.members, List.forall_mem_cons]
  exact ⟨.int h.id.1 h.id.2, .str _, .text? _, .int h.parentId.1 h.parentId.2,
    .text? _, hsort, .int h.contentCount.1 h.contentCount.2, .str _, .str _, .str _, nofun⟩

end Category

/-! ## Chains of nodes -/

namespace CategoryNode

/-- A chain of nodes from the top of a forest down, each of them a child
of the one before. -/
inductive Chain : List CategoryNode → List CategoryNode → Prop
  | nil (ns : List CategoryNode) : Chain ns []
  | cons {n : CategoryNode} {ns chain : List CategoryNode} (hn : n ∈ ns)
    (h : Chain n.children chain) :
      Chain ns (n :: chain)

mutual

/-- How many generations there are from a node down. -/
def height : CategoryNode → Nat
  | node _ ns => 1 + heights ns

@[inherit_doc height]
def heights : List CategoryNode → Nat
  | [] => 0
  | n :: ns => max (height n) (heights ns)

end

variable {n : CategoryNode} {ns : List CategoryNode}

/-- A tree is one level higher than the forest below it. -/
theorem height_eq (n : CategoryNode) : height n = 1 + heights n.children := by
  cases n with
  | node c ns => rw [height, children]

/-- No tree is higher than its forest. -/
theorem height_le_heights (h : n ∈ ns) : height n ≤ heights ns := by
  induction ns with
  | nil => cases h
  | cons m ns ih =>
    rw [heights]
    rcases List.mem_cons.mp h with rfl | h
    · exact Nat.le_max_left _ _
    · exact Nat.le_trans (ih h) (Nat.le_max_right _ _)

/-- A forest is as high as one of its trees. -/
theorem exists_height_eq (h : 0 < heights ns) : ∃ n ∈ ns, height n = heights ns := by
  induction ns with
  | nil => cases h
  | cons m ns ih =>
    rw [heights] at h ⊢
    by_cases hm : heights ns ≤ height m
    · exact ⟨m, List.mem_cons_self, (Nat.max_eq_left hm).symm⟩
    · obtain ⟨n, hn, hheight⟩ := ih (by omega)
      exact ⟨n, List.mem_cons_of_mem m hn, hheight.trans (Nat.max_eq_right (by omega)).symm⟩

/-- No chain is longer than the forest is high. -/
theorem Chain.length_le {chain : List CategoryNode} (h : Chain ns chain) :
    chain.length ≤ heights ns := by
  induction h with
  | nil => exact Nat.zero_le _
  | @cons n ns chain hn _ ih =>
    have hle := height_le_heights hn
    rw [height_eq] at hle
    rw [List.length_cons]
    omega

/-- Some chain is as long as the forest is high. -/
theorem exists_chain_length_eq {k : Nat} (h : heights ns = k) :
    ∃ chain, Chain ns chain ∧ chain.length = k := by
  induction k generalizing ns with
  | zero => exact ⟨[], .nil ns, rfl⟩
  | succ k ih =>
    obtain ⟨n, hn, hheight⟩ := exists_height_eq (show 0 < heights ns by omega)
    rw [height_eq] at hheight
    obtain ⟨chain, hchain, hlength⟩ := ih (show heights n.children = k by omega)
    exact ⟨n :: chain, .cons hn hchain, congrArg (· + 1) hlength⟩

/-- The generations of a forest are as many as nodes in its longest chain. -/
theorem heights_le_iff {k : Nat} :
    heights ns ≤ k ↔ ∀ chain, Chain ns chain → chain.length ≤ k := by
  constructor
  · exact fun h chain hchain => Nat.le_trans hchain.length_le h
  · intro h
    obtain ⟨chain, hchain, hlength⟩ := exists_chain_length_eq (rfl : heights ns = heights ns)
    exact hlength ▸ h chain hchain

/-! ## Levels enough -/

mutual

/-- A node is decoded wherever there are two levels for each generation. -/
theorem yields (n : CategoryNode) (level : Nat) (h : ∀ x ∈ preorder level n, x.1.Fits)
    {levels : Nat} (hlevels : height n ≤ levels) :
    Yields (decodeNode levels) (2 * height n) (toJson n) n := by
  cases n with
  | node c ns =>
    rw [preorder] at h
    rw [height] at hlevels ⊢
    cases levels with
    | zero => omega
    | succ levels =>
      have hbelow := yields_each ns (level + 1) (fun x hx => h x (List.mem_cons_of_mem _ hx))
        (show heights ns ≤ levels by omega)
      have hc := h _ List.mem_cons_self
      have hnode : Yields (decodeNode (levels + 1)) (2 * heights ns + 1 + 1)
          (toJson (node c ns)) (node c ns) := by
        refine Yields.flattened _ (Category.reads hc) ?_ (.refl _) ?_ fun e he =>
          (Category.isFlat_of_mem_members hc e he).legible
        · exact .one "children" (Yields.list hbelow fun _ => opens_of_mem)
        · show (Category.fields.names ++ ["children"]).Nodup
          decide
      exact hnode.mono (by omega)

/-- With enough levels left the nodes of a forest are read one by one as themselves. -/
theorem yields_each (ns : List CategoryNode) (level : Nat)
    (h : ∀ x ∈ preorders level ns, x.1.Fits) {levels : Nat} (hlevels : heights ns ≤ levels) :
    List.Forall₂ (Yields (decodeNode levels) (2 * heights ns)) (toJsons ns) ns := by
  cases ns with
  | nil => exact .nil
  | cons n ns =>
    rw [preorders] at h
    rw [heights] at hlevels ⊢
    have hfirst := yields n level (fun x hx => h x (List.mem_append_left _ hx))
      (Nat.le_trans (Nat.le_max_left _ _) hlevels)
    have hrest := yields_each ns level (fun x hx => h x (List.mem_append_right _ hx))
      (Nat.le_trans (Nat.le_max_right _ _) hlevels)
    exact .cons (hfirst.mono (by omega)) (hrest.imp fun _ _ hm => hm.mono (by omega))

end

theorem readsBack (h : ∀ x ∈ preorder 0 n, x.1.Fits) : ReadsBack (2 * height n) n := by
  obtain ⟨d, hread, hnull, -⟩ := yields n 0 h (Nat.le_refl _)
  refine ⟨d, hread, hnull, fun m hm => ?_⟩
  obtain ⟨d', hread', -, hdecode⟩ := yields n 0 h (show height n ≤ m.depth + 1 by omega)
  obtain rfl := hread.unique hread'
  exact hdecode m hm

/-- A forest of at most 63 generations is decoded from its text. -/
theorem parse_render (h : ∀ x ∈ preorders 0 ns, x.1.Fits) (hheight : heights ns ≤ 63) :
    parse (encode ns).render = .ok ns := by
  have hback : ReadsBack (2 * heights ns + 1) ns := by
    refine ReadsBack.list (fun n hn => ?_) fun n _ => opens_toJson n
    have hnode := readsBack fun x hx => h x (Category.preorder_subset_preorders hn 0 hx)
    exact hnode.mono (Nat.mul_le_mul_left 2 (height_le_heights hn))
  exact hback.parse_render (by omega)

/-! ## Too few levels -/

/-- What is decoded has two levels for each of its generations. -/
theorem height_lt_of_decodeNode {levels : Nat} {m : Mode} {d : Draft}
    (h : decodeNode levels m d = .ok n) : 2 * height n < m.depth := by
  induction levels generalizing m d n with
  | zero => cases h
  | succ levels ih =>
    obtain ⟨m', src, i, below, c, hm, hbuild, rfl⟩ := decodeFlattened_eq_ok h
    obtain ⟨d', hlist⟩ := Fields.build_one_eq_ok hbuild
    obtain ⟨m'', hm', heach⟩ := decodeList_eq_ok hlist
    obtain ⟨hdepth, -⟩ := Mode.enter?_eq_some hm
    obtain ⟨hdepth', hpos⟩ := Mode.enter?_eq_some hm'
    have hbelow : 2 * heights below < m''.depth := by
      rcases Nat.eq_zero_or_pos (heights below) with hnone | hsome
      · rwa [hnone]
      · obtain ⟨b, hb, hheight⟩ := exists_height_eq hsome
        obtain ⟨d'', hchild⟩ := heach b hb
        exact hheight ▸ ih hchild
    rw [height]
    omega

/-- What is decoded from a text has at most 63 generations. -/
theorem heights_le_of_parse {s : String} (h : parse s = .ok ns) : heights ns ≤ 63 := by
  unfold parse at h
  dsimp only at h
  split at h
  · cases h
  · next ns' hdecode =>
    split at h
    · cases h
      obtain ⟨m, hm, heach⟩ := decodeList_eq_ok hdecode
      obtain ⟨hdepth, -⟩ := Mode.enter?_eq_some hm
      rcases Nat.eq_zero_or_pos (heights ns) with hnone | hsome
      · omega
      · obtain ⟨n, hn, hheight⟩ := exists_height_eq hsome
        obtain ⟨d, hnode⟩ := heach n hn
        have hlt := height_lt_of_decodeNode hnode
        have hstart : Mode.start.depth = 128 := rfl
        omega
    · cases h

/-- A forest of more than 63 generations is not decoded, neither as it is nor in part. -/
theorem parse_render_of_deep (h : ∀ x ∈ preorders 0 ns, x.1.Dated)
    (hheight : 63 < heights ns) :
    ∃ f, (parse (encode ns).render : Except Json.Fault (List CategoryNode)) = .error f := by
  cases hparse : (parse (encode ns).render : Except Json.Fault (List CategoryNode)) with
  | error f => exact ⟨f, rfl⟩
  | ok ns' =>
    have hle := heights_le_of_parse hparse
    rw [(faithful h).eq_of_parse hparse] at hle
    omega

end CategoryNode

end Community

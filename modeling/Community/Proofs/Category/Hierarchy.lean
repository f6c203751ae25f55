import Community.Proofs.Category.Change
import Community.Proofs.Category.Forest

/-!
# Categories stay a forest

From an empty table on, whatever is asked of the service, the way up from every category
ends, be it active or not. The table is then *orderly*, which is more than that: no row
refers to an identifier that has not been given yet, so that a row that comes later cannot
close a circle, and every row can be read.

> `IsOrderly.add`, `IsOrderly.replace`, `IsOrderly.erase`: the three changes of the table
> keep it orderly. A move is only made after the walk up from the new parent has missed
> the moved category.

In an orderly table the forest can always be grown, the ancestors can always be listed,
and no change fails for a circle (`categories_stay_a_forest`).
-/

namespace Community.Category

open Database Procedure

/-- A table of categories in which every way up ends, and stays so when rows are added. -/
structure IsOrderly (t : Table Row) : Prop where
  readable : ∀ r ∈ t.rows, ∃ c : Category, c.stored = r
  distinct : t.rows.Pairwise fun a b => a.id ≠ b.id
  id_le : ∀ r ∈ t.rows, r.id ≤ t.lastId
  /-- No row refers to an identifier that is still to be given. -/
  parent_le : ∀ r ∈ t.rows, r.parentId = rootParent ∨ r.parentId ≤ t.lastId
  grounded : ∀ r ∈ t.rows, IsGrounded t.rows r.parentId

variable {db db' : Database} {t : Table Row}

theorem IsOrderly.of_empty (h : t.rows = []) : IsOrderly t := by
  constructor <;> simp [h]

/-- A parent that is there is an identifier that was given, and the way up from it ends. -/
theorem IsOrderly.hasParent (h : IsOrderly t) (ht : db.table Row = .ok t) {parentId : Int}
    (hparent : HasParent db parentId) :
    (parentId = rootParent ∨ parentId ≤ t.lastId) ∧ IsGrounded t.rows parentId := by
  rcases hparent with rfl | ⟨p, hp⟩
  · exact ⟨Or.inl rfl, [], .root⟩
  · obtain ⟨hmem, hid⟩ := rowOf?_eq_some (find_eq_ok ht hp)
    refine ⟨Or.inr (hid ▸ h.id_le _ hmem), ?_⟩
    exact hid ▸ (h.grounded _ hmem).of_parent h.distinct hmem

/-! ## The three changes of the table -/

section Rows

variable {x old : Row}

/-- A new row hangs below one that is there, and nothing hangs below it. -/
theorem IsOrderly.append (h : IsOrderly t) (hread : ∃ c : Category, c.stored = x)
    (hid : t.lastId < x.id) (hgiven : x.parentId = rootParent ∨ x.parentId ≤ t.lastId)
    (hground : IsGrounded t.rows x.parentId) :
    IsOrderly ⟨t.rows ++ [x], max t.lastId x.id⟩ := by
  -- the new identifier has not been given before, so that no row can refer to it
  have hfree : ∀ r ∈ t.rows, r.parentId = rootParent ∨ r.parentId ≠ x.id := by
    intro r hr
    have := h.parent_le r hr
    omega
  have hgrow : ∀ {n : Int}, n = rootParent ∨ n ≤ t.lastId → IsGrounded t.rows n →
      IsGrounded (t.rows ++ [x]) n := fun hn => grounded_append hfree (by omega)
  constructor
  · intro r hr
    rcases List.mem_append.mp hr with hr | hr
    · exact h.readable r hr
    · exact List.mem_singleton.mp hr ▸ hread
  · refine List.pairwise_append.mpr ⟨h.distinct, List.pairwise_singleton _ _, ?_⟩
    intro a ha b hb he
    have := h.id_le a ha
    rw [List.mem_singleton.mp hb] at he
    omega
  · intro r hr
    show r.id ≤ max t.lastId x.id
    rcases List.mem_append.mp hr with hr | hr
    · have := h.id_le r hr
      omega
    · rw [List.mem_singleton.mp hr]
      omega
  · intro r hr
    show r.parentId = rootParent ∨ r.parentId ≤ max t.lastId x.id
    rcases List.mem_append.mp hr with hr | hr
    · have := h.parent_le r hr
      omega
    · rw [List.mem_singleton.mp hr]
      omega
  · intro r hr
    rcases List.mem_append.mp hr with hr | hr
    · exact hgrow (h.parent_le r hr) (h.grounded r hr)
    · rw [List.mem_singleton.mp hr]
      exact hgrow hgiven hground

/-- A row may be put in the place of another whose way up does not meet that other one. -/
theorem IsOrderly.exchange {before after above : List Row} (h : IsOrderly t)
    (hrows : t.rows = before ++ old :: after) (hread : ∃ c : Category, c.stored = x)
    (hid : x.id = old.id) (hgiven : x.parentId = rootParent ∨ x.parentId ≤ t.lastId)
    (hpath : Path t.rows x.parentId above) (hnot : old.id ∉ above.map Columns.id) :
    IsOrderly { t with rows := before ++ x :: after } := by
  have hold : old ∈ t.rows := by rw [hrows]; exact List.mem_append_right _ List.mem_cons_self
  have hmem : ∀ r ∈ before ++ x :: after, r = x ∨ r ∈ t.rows :=
    fun r hr => mem_exchange hrows hr
  have hdistinct := h.distinct
  rw [hrows] at hdistinct
  obtain ⟨hbefore, hafter, hcross⟩ := List.pairwise_append.mp hdistinct
  obtain ⟨hhead, hafter⟩ := List.pairwise_cons.mp hafter
  constructor
  · intro r hr
    rcases hmem r hr with rfl | hr
    · exact hread
    · exact h.readable r hr
  · refine List.pairwise_append.mpr ⟨hbefore, List.pairwise_cons.mpr ⟨?_, hafter⟩, ?_⟩
    · exact fun r hr => hid ▸ hhead r hr
    · intro a ha b hb
      rcases List.mem_cons.mp hb with rfl | hb
      · rw [hid]
        exact hcross a ha old List.mem_cons_self
      · exact hcross a ha b (List.mem_cons_of_mem _ hb)
  · intro r hr
    rcases hmem r hr with rfl | hr
    · exact hid ▸ h.id_le old hold
    · exact h.id_le r hr
  · intro r hr
    rcases hmem r hr with rfl | hr
    · exact hgiven
    · exact h.parent_le r hr
  · have hfirst : ∀ r ∈ before, r.id ≠ old.id :=
      fun r hr => hcross r hr old List.mem_cons_self
    intro r hr
    rw [hrows] at hpath
    rcases hmem r hr with rfl | hr
    · -- the way up from the new row does not come back to it
      exact ⟨above, hpath.replace hid hfirst hnot⟩
    · have hground := h.grounded r hr
      rw [hrows] at hground
      exact grounded_replace hid hfirst hpath hnot hground

/-- What hung below a removed row hangs below a missing one. -/
theorem IsOrderly.filter (h : IsOrderly t) (id : Int) :
    IsOrderly { t with rows := t.rows.filter fun r => !(r.id == id) } := by
  have hmem : ∀ r ∈ t.rows.filter (fun r => !(r.id == id)), r ∈ t.rows := fun r hr =>
    (List.mem_filter.mp hr).1
  constructor
  · exact fun r hr => h.readable r (hmem r hr)
  · exact h.distinct.filter _
  · exact fun r hr => h.id_le r (hmem r hr)
  · exact fun r hr => h.parent_le r (hmem r hr)
  · exact fun r hr => grounded_erase (h.grounded r (hmem r hr))

end Rows

/-- A category that is added under a parent leaves the table orderly. -/
theorem IsOrderly.add (h : IsOrderly t) (ht : db.table Row = .ok t) {r : NewCategory}
    {now : Time.Timestamp} {row : Row} (hparent : HasParent db r.parentId)
    (hadd : Category.add r now db = .ok (row, db')) :
    ∃ t', db'.table Row = .ok t' ∧ IsOrderly t' := by
  obtain ⟨t', id, ht', hid, rfl, -, -, rfl⟩ := insert_eq_ok hadd
  cases ht.symm.trans ht'
  obtain ⟨hgiven, hground⟩ := h.hasParent ht hparent
  exact ⟨_, table_withTable _, h.append ⟨_, rfl⟩ (nextId?_gt hid).1 hgiven hground⟩

/-- So does one that is moved where it may be. -/
theorem IsOrderly.replace (h : IsOrderly t) (ht : db.table Row = .ok t) {c next : Category}
    {row : Row} {id : Int} (hfind : find id db = .ok (some c)) (hid : next.id = c.id)
    (hmove : MayMove db id c next.parentId)
    (hreplace : Category.replace next db = .ok (row, db')) :
    ∃ t', db'.table Row = .ok t' ∧ IsOrderly t' := by
  obtain ⟨t', before, old, after, ht', hrows, hold, honly, -, -, rfl⟩ :=
    replace_eq_ok hreplace
  cases ht.symm.trans ht'
  obtain ⟨hc, hcid⟩ := rowOf?_eq_some (find_eq_ok ht hfind)
  obtain rfl := honly c.stored hc hid.symm
  refine ⟨_, table_withTable _, ?_⟩
  rcases hmove with hsame | ⟨hparent, hwithin⟩
  · -- the parent stays, and no row is on the way up from its own parent
    obtain ⟨above, habove⟩ := h.grounded c.stored hc
    have hnot := (List.nodup_cons.mp (habove.nodup_cons h.distinct hc)).1
    refine h.exchange hrows ⟨next, rfl⟩ hid ?_ (hsame ▸ habove) hnot
    exact hsame ▸ h.parent_le c.stored hc
  · -- the parent is another, and the walk up from it has missed the category
    obtain ⟨above, habove, hnot⟩ := path_of_isAbove ht hwithin
    exact h.exchange hrows ⟨next, rfl⟩ hid (h.hasParent ht hparent).1 habove
      (hcid.symm ▸ hnot)

/-- So does an erasure. -/
theorem IsOrderly.erase (h : IsOrderly t) (ht : db.table Row = .ok t) {id : Int} {was : Bool}
    (herase : Category.erase id db = .ok (was, db')) :
    ∃ t', db'.table Row = .ok t' ∧ IsOrderly t' := by
  obtain ⟨⟨n, db₁⟩, hdelete, herase⟩ := bind_eq_ok herase
  cases herase
  obtain ⟨t', ht', rfl⟩ := delete_eq_ok hdelete
  cases ht.symm.trans ht'
  exact ⟨_, table_withTable _, h.filter id⟩

/-! ## What an orderly table answers -/

section Answers

variable {w : World}

/-- The walk up from a parent that is there comes to an answer. -/
theorem IsOrderly.isWithin (h : IsOrderly t) (ht : db.table Row = .ok t) {parentId : Int}
    (hparent : HasParent db parentId) (id : Int) :
    ∃ answer, isWithin db parentId id = .ok answer := by
  obtain ⟨above, habove⟩ := (h.hasParent ht hparent).2
  have hcount : rowCount db = t.rows.length := by rw [rowCount, ht]
  have := habove.length_le
  exact isAbove_of_path ht h.readable habove (by omega) fun n hn =>
    absurd hn List.not_mem_nil

/-- The active categories can be read, and are a forest. -/
theorem IsOrderly.buildForest (h : IsOrderly t) (ht : db.table Row = .ok t) :
    ∃ all, allActive db = .ok all ∧ buildForest all = .ok (forest all) := by
  obtain ⟨all, hactive, hholds, hnodup⟩ := exists_allActive ht h.distinct h.readable
  exact ⟨all, hactive,
    buildForest_of_grounded h.distinct hholds hnodup h.readable h.grounded⟩

/-- The tree of an orderly table can be shown. -/
theorem IsOrderly.tree (h : IsOrderly t) (ht : w.database.table Row = .ok t) :
    ∃ nodes, (Category.tree.perform w).1 = .ok nodes := by
  obtain ⟨all, hall, hforest⟩ := h.buildForest ht
  have hcompute : ∀ c : Cache, (do
      let rows ← query allActive
      check ((Category.buildForest rows).mapError .hierarchy)).perform { w with cache := c }
        = (.ok (forest all), { w with cache := c }) := by
    intro c
    have hquery : (query allActive).perform { w with cache := c } =
        (.ok all, { w with cache := c }) := by
      rw [perform_query]
      show (Problem.ofStatement (allActive w.database), _) = _
      rw [hall]
      rfl
    rw [perform_bind_ok hquery, perform_check, hforest]
    rfl
  rw [Category.tree, perform_readThrough]
  rcases (w.cache.get w.clock treeKey :
    Option (List CategoryNode) × Cache) with ⟨_ | nodes, c⟩
  · dsimp only
    rw [hcompute c]
    exact ⟨_, rfl⟩
  · -- what is kept is served as it is, whatever the table has become
    exact ⟨nodes, rfl⟩

/-- The climb from a category that is there comes to its end. -/
theorem IsOrderly.climb (h : IsOrderly t) (ht : db.table Row = .ok t) {id : Int}
    {c : Category} (hfind : Category.find id db = .ok (some c)) :
    ∃ parents, climb db id (rowCount db + 1) [c.id] c = .ok parents := by
  have hrow := find_eq_ok ht hfind
  obtain ⟨hmem, hid⟩ := rowOf?_eq_some hrow
  obtain ⟨above, habove⟩ := h.grounded _ hmem
  have hcount : rowCount db = t.rows.length := by rw [rowCount, ht]
  have hlength := habove.length_le
  refine climb_of_path ht h.readable habove rfl (by omega) fun n hn => ?_
  rw [List.mem_singleton.mp hn]
  refine ⟨?_, (List.nodup_cons.mp (habove.nodup_cons h.distinct hmem)).1⟩
  rw [show c.id = id from hid, hrow]
  exact Option.some_ne_none _

/-- So can the way up from every id. -/
theorem IsOrderly.ancestors (h : IsOrderly t) (ht : w.database.table Row = .ok t)
    (id : Int) : ∃ parents, ((Category.ancestors id).perform w).1 = .ok parents := by
  obtain ⟨found, hfound⟩ := exists_found ht h.readable id
  have hactive := findActive_of_find hfound
  cases hfilter : found.filter Columns.isActive with
  | none =>
    rw [hfilter] at hactive
    rw [Category.ancestors, perform_bind_ok hactive]
    exact ⟨[], rfl⟩
  | some c =>
    obtain ⟨rfl, hshown⟩ := Option.filter_eq_some_iff.mp hfilter
    obtain ⟨parents, hparents⟩ := h.climb ht hfound
    rw [ancestors_of_active hfound hshown, hparents]
    exact ⟨parents.reverse, rfl⟩

theorem IsOrderly.change (h : IsOrderly t) (ht : w.database.table Row = .ok t) (id : Int)
    (r : CategoryChange) (start through : Int) :
    ((Category.change id r).perform w).1 ≠ .error (.circularParents start through) := by
  intro herror
  obtain ⟨parentId, hparent, hwithin⟩ := change_eq_circular (Prod.ext herror rfl)
  obtain ⟨answer, hanswer⟩ := h.isWithin ht hparent id
  cases hanswer.symm.trans hwithin

end Answers

/-! ## Runs -/

section Runs

variable {w : World}

/-- A change of categories keeps the table orderly, whether it succeeds or not. -/
theorem IsOrderly.changed {w' : World} (h : IsOrderly t) (ht : w.database.table Row = .ok t)
    (hchanged : Changed w w') : ∃ t', w'.database.table Row = .ok t' ∧ IsOrderly t' := by
  cases hchanged with
  | refused => exact ⟨t, ht, h⟩
  | created hparent hadd => exact h.add ht hparent hadd
  | @replaced id r c row db hfind hmove hreplace =>
    have hid : (c.changed r w.now).id = c.id := rfl
    exact h.replace ht hfind hid hmove hreplace
  | removed herase => exact h.erase ht herase

/-- The table stays orderly along every run. -/
theorem IsOrderly.after (h : IsOrderly t) (ht : w.database.table Row = .ok t)
    (events : List Event) :
    ∃ t', (w.after events).database.table Row = .ok t' ∧ IsOrderly t' :=
  table_after (fun ht h hchanged => h.changed ht hchanged) ht h events

end Runs

/-- From an empty table of categories on, every way up ends: no run closes a circle. So the
forest and all ancestors can be shown, and no change is refused because of a circle. -/
theorem categories_stay_a_forest (w : World) (events : List Event)
    (hstart : ∃ t, w.database.table Row = .ok t ∧ t.rows = []) :
    let v := w.after events
    (∀ r ∈ rowsOf Row v.database, ∃ above, Path (rowsOf Row v.database) r.parentId above) ∧
    (∃ nodes, (tree.perform v).1 = .ok nodes) ∧
    (∀ id, ∃ parents, ((ancestors id).perform v).1 = .ok parents) ∧
    (∀ id r start through,
      ((change id r).perform v).1 ≠ .error (.circularParents start through)) := by
  intro v
  obtain ⟨t, ht, hempty⟩ := hstart
  obtain ⟨t', ht', h⟩ := (IsOrderly.of_empty hempty).after ht events
  refine ⟨?_, h.tree ht', h.ancestors ht', h.change ht'⟩
  intro r hr
  rw [rowsOf_eq ht'] at hr ⊢
  exact h.grounded r hr

/-- Two categories are made, and the first is to be moved below the second. -/
theorem categories_stay_a_forest_sample :
    let make name parentId : Event := .call (.createCategory ⟨name, none, parentId, none, 0⟩)
    let move : Event := .call (.changeCategory 1 ⟨none, none, some 2, none, none, none⟩)
    ∃ nodes,
      (tree.perform (World.sample.after [make "a" 0, make "b" 1, move])).1 = .ok nodes :=
  (categories_stay_a_forest World.sample _ ⟨_, rfl, rfl⟩).2.1

end Community.Category

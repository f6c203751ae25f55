import Community.Proofs.Category.Position
import Community.Proofs.Operation

/-!
# Breadcrumbs agree with the forest

The categories above a category are found in two ways: the service climbs from parent to
parent, one row at a time, and the forest shows them on the way down. Both are compared with
`Hangs` in a table that may hold anything, circles included.

> `climb_eq_ok_iff`: a climb comes to its end with what the category hangs below, and fails
> if and only if it hangs nowhere.

So the breadcrumbs of a category are its way down in the forest, and where there is no
forest the categories that are reported are those without breadcrumbs
(`breadcrumbs_agree_with_forest`).

`Climbs` is the climb without a bound on its steps. The bound of the service is never what
ends it, in no table: every step passes a row that was not passed before (`HasSteps`). What
comes of a climb is therefore proved along its steps, and the bound is counted only there.
-/

namespace Community.Category

open Database Procedure

/-! ## The climb without a bound -/

/-- How a climb goes from a category on, and what comes of it. -/
inductive Climbs (db : Database) (start : Int) :
    List Int → Category → Except Problem (List Category) → Prop
  | root {passed : List Int} {c : Category} (hroot : c.isRoot = true) :
    Climbs db start passed c (.ok [])
  | circle {passed : List Int} {c : Category} (hroot : c.isRoot = false)
    (hpassed : c.parentId ∈ passed) :
    Climbs db start passed c (.error (.circularParents start c.parentId))
  | fault {passed : List Int} {c : Category} {f : Fault} (hroot : c.isRoot = false)
    (hpassed : c.parentId ∉ passed) (hfind : find c.parentId db = .error f) :
    Climbs db start passed c (.error (.database f))
  | missing {passed : List Int} {c : Category} (hroot : c.isRoot = false)
    (hpassed : c.parentId ∉ passed) (hfind : find c.parentId db = .ok none) :
    Climbs db start passed c (.ok [])
  | inactive {passed : List Int} {c parent : Category} (hroot : c.isRoot = false)
    (hpassed : c.parentId ∉ passed) (hfind : find c.parentId db = .ok (some parent))
    (hactive : parent.isActive = false) : Climbs db start passed c (.ok [])
  | step {passed : List Int} {c parent : Category} {result : Except Problem (List Category)}
    (hroot : c.isRoot = false) (hpassed : c.parentId ∉ passed)
    (hfind : find c.parentId db = .ok (some parent)) (hactive : parent.isActive = true)
    (hrest : Climbs db start (c.parentId :: passed) parent result) :
    Climbs db start passed c (result.map (parent :: ·))

variable {db : Database} {start : Int} {passed : List Int} {c : Category} {fuel : Nat}

/-- What is found is a row of the table. -/
theorem mem_ids_of_find {id : Int} (h : find id db = .ok (some c)) :
    id ∈ (rowsOf Row db).map Columns.id := by
  obtain ⟨t, ht, -⟩ := findFirst_eq_ok h
  obtain ⟨hmem, hid⟩ := rowOf?_eq_some (find_eq_ok ht h)
  rw [rowsOf_eq ht]
  exact List.mem_map.mpr ⟨_, hmem, hid⟩

/-- The rows that have been passed are different ones, and there are more steps left than
rows that have not been passed. -/
structure HasSteps (db : Database) (fuel : Nat) (passed : List Int) : Prop where
  nodup : passed.Nodup
  subset : passed ⊆ (rowsOf Row db).map Columns.id
  enough : (rowsOf Row db).length < fuel + passed.length

namespace HasSteps

/-- No way is that long: more different rows would have been passed than there are. -/
theorem not_zero : ¬ HasSteps db 0 passed := by
  intro h
  have hle := h.nodup.length_le_of_subset h.subset
  have henough := h.enough
  rw [List.length_map] at hle
  omega

theorem next {id : Int} (h : HasSteps db (fuel + 1) passed) (hid : id ∉ passed)
    (hfind : find id db = .ok (some c)) : HasSteps db fuel (id :: passed) := by
  refine ⟨h.nodup.cons hid, List.cons_subset.mpr ⟨mem_ids_of_find hfind, h.subset⟩, ?_⟩
  have henough := h.enough
  rw [List.length_cons]
  omega

end HasSteps

/-- The climb of the service does not end before the climb without a bound does. -/
theorem climbs_climb (h : HasSteps db fuel passed) :
    Climbs db start passed c (climb db start fuel passed c) := by
  induction fuel generalizing passed c with
  | zero => exact absurd h HasSteps.not_zero
  | succ fuel ih =>
    rw [climb]
    by_cases hroot : c.isRoot = true
    · rw [if_pos hroot]
      exact .root hroot
    rw [if_neg hroot]
    rw [Bool.not_eq_true] at hroot
    by_cases hpassed : c.parentId ∈ passed
    · rw [if_pos hpassed]
      exact .circle hroot hpassed
    rw [if_neg hpassed]
    split
    · next hfind => exact .fault hroot hpassed hfind
    · next hfind => exact .missing hroot hpassed hfind
    · next parent hfind =>
      by_cases hactive : parent.isActive = true
      · rw [if_pos hactive]
        exact .step hroot hpassed hfind hactive (ih (h.next hpassed hfind))
      · rw [if_neg hactive]
        exact .inactive hroot hpassed hfind (Bool.not_eq_true _ ▸ hactive)

/-- The climb from a category that is found ends, in every table. -/
theorem climbs_of_found {id : Int} (h : find id db = .ok (some c)) :
    Climbs db id [c.id] c (climb db id (rowCount db + 1) [c.id] c) := by
  obtain ⟨t, ht, -⟩ := findFirst_eq_ok h
  obtain ⟨hmem, -⟩ := rowOf?_eq_some (find_eq_ok ht h)
  refine climbs_climb ⟨List.nodup_singleton _, fun n hn => ?_, ?_⟩
  · rw [List.mem_singleton.mp hn, rowsOf_eq ht]
    exact List.mem_map.mpr ⟨_, hmem, rfl⟩
  · rw [rowsOf_eq ht, rowCount, ht, List.length_singleton]
    show t.rows.length < t.rows.length + 1 + 1
    omega

/-! ## A climb and what hangs -/

/-- The active categories of rows that can all be read and have different identifiers. -/
structure Reading (rows : List Row) (all : List Category) : Prop where
  distinct : rows.Pairwise fun a b => a.id ≠ b.id
  readable : ∀ r ∈ rows, ∃ c : Category, c.stored = r
  holds : HoldsActive all rows
  nodup : (all.map Columns.id).Nodup

section Readable

variable {t : Table Row} {all above : List Category}
  {result : Except Problem (List Category)}

/-- A category is found under its identifier. -/
theorem Reading.find (h : Reading t.rows all) (ht : db.table Row = .ok t) {p : Category}
    (hp : p ∈ all) : Category.find p.id db = .ok (some p) :=
  find_of_stored ht (rowOf?_of_mem h.distinct ((h.holds p).mp hp).1)

theorem Reading.mem_of_find (h : Reading t.rows all) (ht : db.table Row = .ok t)
    {p : Category} {id : Int} (hfind : Category.find id db = .ok (some p))
    (hactive : p.isActive = true) : p ∈ all ∧ p.id = id := by
  obtain ⟨hmem, hid⟩ := rowOf?_eq_some (find_eq_ok ht hfind)
  exact ⟨(h.holds p).mpr ⟨hmem, hactive⟩, hid⟩

/-- A climb that comes to its end has passed what the category hangs below. -/
theorem Climbs.hangs (hr : Reading t.rows all) (ht : db.table Row = .ok t)
    (h : Climbs db start passed c result) (hc : c ∈ all) (hok : result = .ok above) :
    Hangs all c above := by
  induction h generalizing above with
  | root hroot =>
    cases hok
    exact .top hc (by rw [isTop, hroot]; rfl)
  | circle | fault => cases hok
  | missing _ _ hfind =>
    -- no category of the list is the parent, for there is no such row
    cases hok
    refine .of_no_parent hc fun p hp hid => ?_
    have hparent := hr.find ht hp
    rw [hid, hfind] at hparent
    cases hparent
  | inactive _ _ hfind hactive =>
    -- the one row with the identifier of the parent is not active
    cases hok
    refine .of_no_parent hc fun p hp hid => ?_
    have hparent := hr.find ht hp
    rw [hid, hfind] at hparent
    cases hparent
    rw [((hr.holds _).mp hp).2] at hactive
    cases hactive
  | @step _ c parent rest hroot _ hfind hactive _ ih =>
    obtain ⟨hparent, hid⟩ := hr.mem_of_find ht hfind hactive
    cases rest with
    | error p => cases hok
    | ok rest =>
      cases hok
      refine .under (ih hparent rfl) (List.mem_filter.mpr ⟨hc, ?_⟩)
      rw [hroot, hid]
      simp

/-- Whether the identifiers passed so far are those of categories of the list,
and none is above. -/
def IsPassed (all : List Category) (passed : List Int) (above : List Category) : Prop :=
  ∀ n ∈ passed, (∃ p ∈ all, p.id = n) ∧ n ∉ above.map Columns.id

theorem ne_parentId_of_isTop (hroot : c.isRoot = false) (htop : isTop all c = true) :
    ∀ p ∈ all, p.id ≠ c.parentId := by
  rw [isTop, hroot, Bool.false_or, List.all_eq_true] at htop
  exact fun p hp => bne_iff_ne.mp (htop p hp)

/-- A climb that fails starts from a category that hangs nowhere. -/
theorem Climbs.not_hangs (hr : Reading t.rows all) (ht : db.table Row = .ok t) {p : Problem}
    (h : Climbs db start passed c result) (herror : result = .error p)
    (hpassed : IsPassed all passed above) : ¬Hangs all c above := by
  intro hhangs
  induction h generalizing above with
  | root | missing | inactive => cases herror
  | fault _ _ hfind =>
    -- every row can be read, so the search for the parent comes to an answer
    obtain ⟨found, hfound⟩ := exists_found ht hr.readable _
    cases hfind.symm.trans hfound
  | circle hroot hmem =>
    obtain ⟨⟨q, hq, hid⟩, hnot⟩ := hpassed _ hmem
    cases hhangs with
    | top _ htop => exact ne_parentId_of_isTop hroot htop q hq hid
    | under _ hbelow =>
      rw [parentId_of_mem_below hbelow] at hnot
      exact hnot (List.mem_map_of_mem List.mem_cons_self)
  | @step _ c parent rest hroot _ hfind hactive _ ih =>
    obtain ⟨hparent, hid⟩ := hr.mem_of_find ht hfind hactive
    cases rest with
    | ok rest => cases herror
    | error q =>
      cases herror
      cases hhangs with
      | top _ htop => exact ne_parentId_of_isTop hroot htop parent hparent hid
      | @under d _ above hd hbelow =>
        obtain rfl : d = parent :=
          eq_of_id hr.nodup hd.mem hparent
            ((parentId_of_mem_below hbelow).symm.trans hid.symm)
        -- the rest of the climb has passed the parent too, which is not above itself
        refine ih rfl (fun n hn => ?_) hd
        rcases List.mem_cons.mp hn with rfl | hn
        · exact ⟨⟨d, hparent, hid⟩, hid ▸ (List.nodup_cons.mp (hd.nodup hr.nodup)).1⟩
        · obtain ⟨hknown, hnot⟩ := hpassed n hn
          exact ⟨hknown, fun hmem => hnot (List.mem_cons_of_mem _ hmem)⟩

/-- A climb fails where it comes back to what it has passed, and nowhere else. -/
theorem Climbs.eq_circular (hr : Reading t.rows all) (ht : db.table Row = .ok t)
    {p : Problem} (h : Climbs db start passed c result) (herror : result = .error p) :
    ∃ through, p = .circularParents start through := by
  induction h with
  | root | missing | inactive => cases herror
  | circle =>
    cases herror
    exact ⟨_, rfl⟩
  | fault _ _ hfind =>
    obtain ⟨found, hfound⟩ := exists_found ht hr.readable _
    cases hfind.symm.trans hfound
  | @step _ _ _ rest _ _ _ _ _ ih =>
    cases rest with
    | ok rest => cases herror
    | error q =>
      cases herror
      exact ih rfl

/-- A climb from a category comes to its end with what the category hangs below. -/
theorem climb_eq_ok_iff (hr : Reading t.rows all) (ht : db.table Row = .ok t)
    (hc : c ∈ all) :
    climb db c.id (rowCount db + 1) [c.id] c = .ok above ↔ Hangs all c above := by
  have hclimbs := climbs_of_found (hr.find ht hc)
  refine ⟨hclimbs.hangs hr ht hc, fun h => ?_⟩
  cases hresult : climb db c.id (rowCount db + 1) [c.id] c with
  | ok found => rw [(hclimbs.hangs hr ht hc hresult).unique hr.nodup h]
  | error p =>
    refine absurd h (hclimbs.not_hangs hr ht hresult fun n hn => ?_)
    rw [List.mem_singleton.mp hn]
    exact ⟨⟨c, hc, rfl⟩, (List.nodup_cons.mp (h.nodup hr.nodup)).1⟩

/-! ## What the service answers -/

variable {w : World}

/-- The breadcrumbs of an active category are what it hangs below, read from the root on. -/
theorem ancestors_eq_ok_iff (hr : Reading t.rows all) (ht : w.database.table Row = .ok t)
    (hc : c ∈ all) :
    ((ancestors c.id).perform w).1 = .ok above.reverse ↔ Hangs all c above := by
  rw [ancestors_of_active (hr.find ht hc) ((hr.holds c).mp hc).2, ← climb_eq_ok_iff hr ht hc]
  cases climb w.database c.id (rowCount w.database + 1) [c.id] c with
  | ok found =>
    constructor
    · intro h
      rw [Except.map, Except.ok.injEq, List.reverse_inj] at h
      rw [h]
    · intro h
      cases h
      rfl
  | error p => constructor <;> exact nofun

/-- Nothing is above a category that is missing or not active. -/
theorem ancestors_of_not_active (hr : Reading t.rows all) (ht : w.database.table Row = .ok t)
    {id : Int} (h : ∀ c ∈ all, c.id ≠ id) : ((ancestors id).perform w).1 = .ok [] := by
  have hnone : (findActive id).perform w = (.ok none, w) := by
    cases hrow : Category.rowOf? t.rows id with
    | none => exact findActive_of_find (find_of_missing ht hrow)
    | some r =>
      obtain ⟨hmem, hid⟩ := rowOf?_eq_some hrow
      obtain ⟨c, rfl⟩ := hr.readable r hmem
      have hactive : ¬c.isActive = true := fun hactive =>
        h c ((hr.holds c).mpr ⟨hmem, hactive⟩) hid
      have hfound := findActive_of_find (find_of_stored ht hrow)
      rwa [Option.filter_some, if_neg hactive] at hfound
  rw [ancestors, perform_bind_ok hnone]
  rfl

/-- What comes of building the forest is decided by what is stranded. -/
theorem Reading.buildForest (h : Reading t.rows all) :
    (stranded all = [] ∧ Category.buildForest all = .ok (forest all)) ∨
      (stranded all ≠ [] ∧
        Category.buildForest all = .error (.circle ((stranded all).map Columns.id))) := by
  have hfilter : all.filter Columns.isActive = all :=
    List.filter_eq_self.mpr fun c hc => ((h.holds c).mp hc).2
  rw [Category.buildForest, hfilter,
    firstRepeated?_eq_none h.nodup fun _ _ => List.not_mem_nil]
  cases stranded all with
  | nil => exact Or.inl ⟨rfl, rfl⟩
  | cons c cs => exact Or.inr ⟨List.cons_ne_nil _ _, rfl⟩

/-- In a forest the breadcrumbs of a category are its one way down. -/
theorem Reading.ancestors (h : Reading t.rows all) (ht : w.database.table Row = .ok t)
    {nodes : List CategoryNode} (hnodes : Category.buildForest all = .ok nodes)
    (hc : c ∈ all) :
    ∃ path, ((Category.ancestors c.id).perform w).1 = .ok path ∧
      ∀ path', (∃ node, Leads nodes path' node ∧ node.category.id = c.id) ↔
        path' = path := by
  obtain ⟨hnone, hforest⟩ | ⟨-, hforest⟩ := h.buildForest
  · rw [hforest] at hnodes
    cases hnodes
    -- nothing is stranded, so the category hangs
    have hnot : c ∉ stranded all := by
      rw [hnone]
      exact List.not_mem_nil
    rw [mem_stranded_iff h.nodup, not_and, Classical.not_forall_not] at hnot
    obtain ⟨above, habove⟩ := hnot hc
    refine ⟨above.reverse, (ancestors_eq_ok_iff h ht hc).mpr habove, fun path' => ⟨?_, ?_⟩⟩
    · rintro ⟨node, hnode, hid⟩
      have hhangs := hnode.hangs_of_forest
      rw [eq_of_id h.nodup hhangs.mem hc hid] at hhangs
      rw [habove.unique h.nodup hhangs, List.reverse_reverse]
    · rintro rfl
      have hreverse : Hangs all c above.reverse.reverse := by rwa [List.reverse_reverse]
      obtain ⟨node, hnode, rfl⟩ := (leads_forest_iff h.nodup).mpr hreverse
      exact ⟨node, hnode, rfl⟩
  · rw [hforest] at hnodes
    cases hnodes

/-- Where there is no forest, the categories that are reported are those
without breadcrumbs. -/
theorem Reading.mem_circle_iff (h : Reading t.rows all) (ht : w.database.table Row = .ok t)
    {ids : List Int} (hids : Category.buildForest all = .error (.circle ids)) {id : Int} :
    id ∈ ids ↔ (∃ c ∈ all, c.id = id) ∧
      ∃ p, ((Category.ancestors id).perform w).1 = .error p ∧ p.report.kind = .internal := by
  obtain ⟨-, hforest⟩ | ⟨-, hforest⟩ := h.buildForest
  · rw [hforest] at hids
    cases hids
  rw [hforest] at hids
  cases hids
  constructor
  · intro hmem
    obtain ⟨c, hc, rfl⟩ := List.mem_map.mp hmem
    obtain ⟨hc, hnowhere⟩ := (mem_stranded_iff h.nodup).mp hc
    refine ⟨⟨c, hc, rfl⟩, ?_⟩
    rw [ancestors_of_active (h.find ht hc) ((h.holds c).mp hc).2]
    cases hclimb : climb w.database c.id (rowCount w.database + 1) [c.id] c with
    | ok above => exact absurd ((climb_eq_ok_iff h ht hc).mp hclimb) (hnowhere above)
    | error p =>
      obtain ⟨through, rfl⟩ := (climbs_of_found (h.find ht hc)).eq_circular h ht hclimb
      exact ⟨.circularParents c.id through, rfl, rfl⟩
  · rintro ⟨⟨c, hc, rfl⟩, p, hp, -⟩
    refine List.mem_map.mpr
      ⟨c, (mem_stranded_iff h.nodup).mpr ⟨hc, fun above habove => ?_⟩, rfl⟩
    rw [(ancestors_eq_ok_iff h ht hc).mpr habove] at hp
    cases hp

end Readable

/-- Breadcrumbs agree with the forest, whatever the parents in the table are. The climb ends
in every table. If the active categories are a forest, then the breadcrumbs of each are its
one way down, and any other identifier has none. If they are not, the categories that are
reported are those for which breadcrumbs fail. -/
theorem breadcrumbs_agree_with_forest (w : World) :
    (∀ id c, find id w.database = .ok (some c) → c.isActive = true →
      ∃ result, Climbs w.database id [c.id] c result ∧
        ((ancestors id).perform w).1 = result.map List.reverse) ∧
    ∀ t : Table Row, w.database.table Row = .ok t →
      t.rows.Pairwise (fun a b => a.id ≠ b.id) →
      (∀ r ∈ t.rows, ∃ c : Category, r.read? = some c) →
      ∃ all, allActive w.database = .ok all ∧
        (∀ c : Category, c ∈ all ↔ c.stored ∈ t.rows ∧ c.isActive = true) ∧
        (∀ id, (∀ c ∈ all, c.id ≠ id) → ((ancestors id).perform w).1 = .ok []) ∧
        (∀ nodes, buildForest all = .ok nodes → ∀ c ∈ all,
          ∃ path, ((ancestors c.id).perform w).1 = .ok path ∧
            ∀ path', (∃ node, Leads nodes path' node ∧ node.category.id = c.id) ↔
              path' = path) ∧
        (∀ ids, buildForest all = .error (.circle ids) → ∀ id, id ∈ ids ↔
          (∃ c ∈ all, c.id = id) ∧
            ∃ p, ((ancestors id).perform w).1 = .error p ∧ p.report.kind = .internal) := by
  refine ⟨?_, ?_⟩
  · intro id c hfind hactive
    exact ⟨_, climbs_of_found hfind, ancestors_of_active hfind hactive⟩
  · intro t ht hdistinct hdecodes
    have hread : ∀ r ∈ t.rows, ∃ c : Category, c.stored = r := by
      intro r hr
      obtain ⟨c, hc⟩ := hdecodes r hr
      exact ⟨c, Columns.stored_of_read? hc⟩
    obtain ⟨all, hactive, hall, hnodup⟩ := exists_allActive ht hdistinct hread
    have hreading : Reading t.rows all := ⟨hdistinct, hread, hall, hnodup⟩
    refine ⟨all, hactive, hall, fun id => ancestors_of_not_active hreading ht, ?_, ?_⟩
    · intro nodes hnodes c hc
      exact hreading.ancestors ht hnodes hc
    · intro ids hids id
      exact hreading.mem_circle_iff ht hids

/-- A category that hangs below itself. -/
def looped : Category where
  id := 1
  name := "a"
  description := none
  parentId := 1
  iconUrl := none
  sort := 0
  contentCount := 0
  status := ActiveStatus.active
  createdAt := .ofMicros 0
  updatedAt := .ofMicros 0

/-- A world with that category alone. -/
def loopedWorld : World :=
  { World.sample with
    database := { Database.fresh with categories := ⟨some ⟨[looped.stored], 1⟩, none⟩ } }

/-- The category that hangs below itself is reported, and has no breadcrumbs. -/
theorem breadcrumbs_agree_with_forest_looped :
    ∃ p, ((ancestors 1).perform loopedWorld).1 = .error p ∧ p.report.kind = .internal := by
  obtain ⟨all, hactive, -, -, -, hcircle⟩ := (breadcrumbs_agree_with_forest loopedWorld).2
    ⟨[looped.stored], 1⟩ rfl (List.pairwise_singleton _ _)
    fun r hr => ⟨looped, by rw [List.mem_singleton.mp hr]; rfl⟩
  have hlooped : allActive loopedWorld.database = .ok [looped] := by
    show (do
      let rows ← select Columns.isShown listOrder loopedWorld.database
      rows.mapM readRow : Except Fault (List Category)) = _
    rw [select_of_table (t := ⟨[looped.stored], 1⟩) rfl,
      show [looped.stored].filter Columns.isShown = [looped.stored] from rfl,
      List.mergeSort_singleton]
    show ([looped].map Columns.stored).mapM readRow = _
    exact mapM_readRow Columns.read?_stored [looped]
  cases hactive.symm.trans hlooped
  exact ((hcircle [1] rfl 1).mp (List.mem_singleton_self 1)).2

end Community.Category

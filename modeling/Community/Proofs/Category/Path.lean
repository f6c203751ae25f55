import Community.Category.Service
import Community.Proofs.Procedure
import Community.Proofs.Statement

/-!
# The way up from a category

The parents above an identifier form a path: it ends at the parent of the roots, or at an
identifier that no row has. `Path rows id above` says that the way up from `id` ends, and
that it meets the rows `above`, those of inactive categories too. Every identifier has one
path at most, and a path meets no identifier twice, so it is no longer than the table.

> `isAbove_of_path`, `climb_of_path`: where the way up ends, the walks of the service end
> too, before they run out of steps and without coming back to where they were.

> `grounded_append`, `grounded_erase`, `grounded_replace`: what becomes of the paths
> when a row is added, removed, or put in the place of another.

> `ancestors_of_active`: what the service shows above a category is its climb, read from the
> root on.
-/

namespace Community.Category

open Database

/-- The row with an identifier. -/
def rowOf? (rows : List Row) (id : Int) : Option Row :=
  rows.find? fun r => r.id == id

/-- The way up from an identifier, and the rows on it. -/
inductive Path (rows : List Row) : Int → List Row → Prop
  | root : Path rows rootParent []
  | missing {id : Int} (hid : id ≠ rootParent) (hrow : rowOf? rows id = none) :
      Path rows id []
  | step {id : Int} {r : Row} {above : List Row} (hid : id ≠ rootParent)
    (hrow : rowOf? rows id = some r) (habove : Path rows r.parentId above) :
    Path rows id (r :: above)

/-- Whether the way up from an identifier ends. -/
def IsGrounded (rows : List Row) (id : Int) : Prop :=
  ∃ above, Path rows id above

variable {rows : List Row} {id : Int}

/-- A row that is looked up is of the table and has the id. -/
theorem rowOf?_eq_some {r : Row} (h : rowOf? rows id = some r) : r ∈ rows ∧ r.id = id := by
  have hid : (r.id == id) = true := List.find?_some (p := fun s : Row => s.id == id) h
  exact ⟨List.mem_of_find?_eq_some h, beq_iff_eq.mp hid⟩

theorem rowOf?_eq_none : rowOf? rows id = none ↔ ∀ r ∈ rows, r.id ≠ id := by
  rw [rowOf?, List.find?_eq_none]
  exact forall_congr' fun r => forall_congr' fun _ => not_congr beq_iff_eq

namespace Path

variable {above above' : List Row}

/-- There is one way up only. -/
theorem unique (h : Path rows id above) (h' : Path rows id above') : above = above' := by
  -- where the one way ends or goes on, the row of the identifier decides
  -- the same for the other
  induction h generalizing above' with
  | root =>
    cases h' with
    | root => rfl
    | missing hid => exact absurd rfl hid
    | step hid => exact absurd rfl hid
  | missing hid hrow =>
    cases h' with
    | root => exact absurd rfl hid
    | missing => rfl
    | step _ hrow' => cases hrow.symm.trans hrow'
  | step hid hrow _ ih =>
    cases h' with
    | root => exact absurd rfl hid
    | missing _ hrow' => cases hrow.symm.trans hrow'
    | step _ hrow' habove' =>
      cases hrow.symm.trans hrow'
      rw [ih habove']

/-- The rows above are rows of the table. -/
theorem subset (h : Path rows id above) : above ⊆ rows := by
  induction h with
  | root | missing => exact List.nil_subset _
  | step _ hrow _ ih => exact List.cons_subset.mpr ⟨(rowOf?_eq_some hrow).1, ih⟩

/-- From a row on the way, the way up is the rest of it. -/
theorem of_mem (h : Path rows id above) {r : Row} (hr : r ∈ above) :
    ∃ rest, Path rows r.id (r :: rest) ∧ (r :: rest).length ≤ above.length := by
  induction h with
  | root | missing => cases hr
  | step hid hrow habove ih =>
    rcases List.mem_cons.mp hr with rfl | hr
    · rw [← (rowOf?_eq_some hrow).2] at hid hrow
      exact ⟨_, .step hid hrow habove, Nat.le_refl _⟩
    · obtain ⟨rest, hrest, hlength⟩ := ih hr
      exact ⟨rest, hrest, Nat.le_succ_of_le hlength⟩

/-- No identifier is met twice: its way up would be as long as a part of itself. -/
theorem nodup (h : Path rows id above) : (above.map Columns.id).Nodup := by
  induction h with
  | root | missing => exact List.nodup_nil
  | @step id r above hid hrow habove ih =>
    rw [List.map_cons, List.nodup_cons]
    refine ⟨fun hmem => ?_, ih⟩
    obtain ⟨s, hs, hsid⟩ := List.mem_map.mp hmem
    -- the way up from `s` is a part of `above`, and is all of `r :: above`
    obtain ⟨rest, hrest, hlength⟩ := habove.of_mem hs
    have hself : Path rows s.id (r :: above) := by
      rw [hsid, (rowOf?_eq_some hrow).2]
      exact .step hid hrow habove
    rw [hrest.unique hself, List.length_cons] at hlength
    omega

theorem ne_root (h : Path rows id above) {r : Row} (hr : r ∈ above) : r.id ≠ rootParent := by
  induction h with
  | root | missing => cases hr
  | step hid hrow _ ih =>
    rcases List.mem_cons.mp hr with rfl | hr
    · rw [(rowOf?_eq_some hrow).2]
      exact hid
    · exact ih hr

/-- The way up is no longer than the table. -/
theorem length_le (h : Path rows id above) : above.length ≤ rows.length := by
  have hle := h.nodup.length_le_of_subset (List.map_subset Columns.id h.subset)
  rwa [List.length_map, List.length_map] at hle

end Path

/-- Where identifiers are distinct, every row is found under its own. -/
theorem rowOf?_of_mem (hdistinct : rows.Pairwise fun a b => a.id ≠ b.id) {r : Row}
    (hr : r ∈ rows) : rowOf? rows r.id = some r := by
  induction rows with
  | nil => cases hr
  | cons s rows ih =>
    obtain ⟨hs, hrows⟩ := List.pairwise_cons.mp hdistinct
    rcases List.mem_cons.mp hr with rfl | hr
    · exact List.find?_cons_of_pos (beq_self_eq_true r.id)
    · have hne : ¬(s.id == r.id) = true := fun he => hs r hr (beq_iff_eq.mp he)
      rw [rowOf?, List.find?_cons_of_neg (p := fun x : Row => x.id == r.id) hne]
      exact ih hrows hr

/-- A row is not on the way up from its parent. -/
theorem Path.nodup_cons (hdistinct : rows.Pairwise fun a b => a.id ≠ b.id) {r : Row}
    {above : List Row} (hr : r ∈ rows) (h : Path rows r.parentId above) :
    ((r :: above).map Columns.id).Nodup := by
  by_cases hroot : r.id = rootParent
  · refine List.nodup_cons.mpr ⟨fun hmem => ?_, h.nodup⟩
    obtain ⟨s, hs, hsid⟩ := List.mem_map.mp hmem
    exact h.ne_root hs (hsid.trans hroot)
  · exact (Path.step hroot (rowOf?_of_mem hdistinct hr) h).nodup

/-- The way up from a row ends if the one from its parent does. -/
theorem IsGrounded.of_parent (hdistinct : rows.Pairwise fun a b => a.id ≠ b.id) {r : Row}
    (hr : r ∈ rows) (h : IsGrounded rows r.parentId) : IsGrounded rows r.id := by
  obtain ⟨above, habove⟩ := h
  by_cases hroot : r.id = rootParent
  · rw [hroot]
    exact ⟨[], .root⟩
  · exact ⟨_, .step hroot (rowOf?_of_mem hdistinct hr) habove⟩

/-! ## When rows change -/

section Changes

variable {x old : Row} {before after above : List Row} {n : Int}

/-- A row that is added leaves the lookups of other ids. -/
theorem rowOf?_append_ne (h : n ≠ x.id) : rowOf? (rows ++ [x]) n = rowOf? rows n := by
  rw [rowOf?, List.find?_append, List.find?_cons_of_neg (by simpa using Ne.symm h),
    List.find?_nil, Option.or_none]
  rfl

/-- A new row to which no row refers is on no path but its own. -/
theorem grounded_append (hparents : ∀ r ∈ rows, r.parentId = rootParent ∨ r.parentId ≠ x.id)
    (hn : n = rootParent ∨ n ≠ x.id) (h : IsGrounded rows n) :
    IsGrounded (rows ++ [x]) n := by
  obtain ⟨above, habove⟩ := h
  refine ⟨above, ?_⟩
  -- the way is the same as before: all that rows refer to is older than `x`
  induction habove with
  | root => exact .root
  | missing hroot hrow =>
    have hne := hn.resolve_left hroot
    exact .missing hroot ((rowOf?_append_ne hne).trans hrow)
  | step hroot hrow _ ih =>
    have hne := hn.resolve_left hroot
    exact .step hroot ((rowOf?_append_ne hne).trans hrow)
      (ih (hparents _ (rowOf?_eq_some hrow).1))

/-- After an erasure the id is not found. -/
theorem rowOf?_erase_self : rowOf? (rows.filter fun r => !(r.id == id)) id = none := by
  rw [rowOf?_eq_none]
  intro r hr
  have := (List.mem_filter.mp hr).2
  simpa using this

/-- An erasure leaves the lookups of other ids. -/
theorem rowOf?_erase_ne (h : n ≠ id) :
    rowOf? (rows.filter fun r => !(r.id == id)) n = rowOf? rows n := by
  rw [rowOf?, List.find?_filter, rowOf?]
  refine congrArg (rows.find? ·) (funext fun r => ?_)
  by_cases hr : r.id = n
  · simp [hr, h]
  · simp [hr]

/-- Where a row is removed the paths through it end. -/
theorem grounded_erase (h : IsGrounded rows n) :
    IsGrounded (rows.filter fun r => !(r.id == id)) n := by
  obtain ⟨above, habove⟩ := h
  induction habove with
  | root => exact ⟨_, .root⟩
  | @missing n hroot hrow =>
    by_cases hn : n = id
    · subst hn
      exact ⟨_, .missing hroot rowOf?_erase_self⟩
    · exact ⟨_, .missing hroot ((rowOf?_erase_ne hn).trans hrow)⟩
  | @step n r above hroot hrow _ ih =>
    by_cases hn : n = id
    · subst hn
      exact ⟨_, .missing hroot rowOf?_erase_self⟩
    · obtain ⟨above', habove'⟩ := ih
      exact ⟨_, .step hroot ((rowOf?_erase_ne hn).trans hrow) habove'⟩

/-- A row that is written back in its place is found. -/
theorem rowOf?_replace_self (hid : x.id = old.id) (h : ∀ r ∈ before, r.id ≠ old.id) :
    rowOf? (before ++ x :: after) old.id = some x := by
  rw [rowOf?, List.find?_append,
    show before.find? (fun r => r.id == old.id) = none from rowOf?_eq_none.mpr h,
    Option.none_or]
  exact List.find?_cons_of_pos (beq_iff_eq.mpr hid)

/-- A row that is written back leaves the lookups of other ids. -/
theorem rowOf?_replace_ne (hid : x.id = old.id) (hn : n ≠ old.id) :
    rowOf? (before ++ x :: after) n = rowOf? (before ++ old :: after) n := by
  have hx : ¬(x.id == n) = true := fun he => hn (hid ▸ (beq_iff_eq.mp he).symm)
  have hold : ¬(old.id == n) = true := fun he => hn (beq_iff_eq.mp he).symm
  rw [rowOf?, rowOf?, List.find?_append, List.find?_append,
    List.find?_cons_of_neg (p := fun r : Row => r.id == n) hx,
    List.find?_cons_of_neg (p := fun r : Row => r.id == n) hold]

/-- A path that does not meet the replaced row is what it was. -/
theorem Path.replace (hid : x.id = old.id) (hbefore : ∀ r ∈ before, r.id ≠ old.id)
    (h : Path (before ++ old :: after) n above) (hnot : old.id ∉ above.map Columns.id) :
    Path (before ++ x :: after) n above := by
  induction h with
  | root => exact .root
  | @missing n hroot hrow =>
    have hn : n ≠ old.id := by
      rintro rfl
      rw [rowOf?_replace_self rfl hbefore] at hrow
      cases hrow
    exact .missing hroot ((rowOf?_replace_ne hid hn).trans hrow)
  | @step n r above hroot hrow _ ih =>
    rw [List.map_cons, List.mem_cons, not_or, (rowOf?_eq_some hrow).2] at hnot
    exact .step hroot ((rowOf?_replace_ne hid (Ne.symm hnot.1)).trans hrow) (ih hnot.2)

/-- A row may be put in the place of another if the way up from its parent
does not meet it. -/
theorem grounded_replace (hid : x.id = old.id) (hbefore : ∀ r ∈ before, r.id ≠ old.id)
    (hx : Path (before ++ old :: after) x.parentId above)
    (hnot : old.id ∉ above.map Columns.id) (h : IsGrounded (before ++ old :: after) n) :
    IsGrounded (before ++ x :: after) n := by
  obtain ⟨path, hpath⟩ := h
  have hparent := hx.replace hid hbefore hnot
  induction hpath with
  | root => exact ⟨_, .root⟩
  | @missing n hroot hrow =>
    have hn : n ≠ old.id := by
      rintro rfl
      rw [rowOf?_replace_self rfl hbefore] at hrow
      cases hrow
    exact ⟨_, .missing hroot ((rowOf?_replace_ne hid hn).trans hrow)⟩
  | @step n r path hroot hrow _ ih =>
    by_cases hn : n = old.id
    · -- the old way is left here for the one from the new parent
      subst hn
      exact ⟨_, .step hroot (rowOf?_replace_self hid hbefore) hparent⟩
    · -- elsewhere the step is the old one, and what is above it may have changed
      obtain ⟨path', hpath'⟩ := ih
      exact ⟨_, .step hroot ((rowOf?_replace_ne hid hn).trans hrow) hpath'⟩

end Changes

/-- Whether the identifiers passed so far are those of rows, and none is on the way ahead. -/
def IsBehind (rows : List Row) (passed : List Int) (above : List Row) : Prop :=
  ∀ n ∈ passed, rowOf? rows n ≠ none ∧ n ∉ above.map Columns.id

/-- One step up: the identifier was not passed yet, and is passed from then on. -/
theorem IsBehind.step {passed : List Int} {r : Row} {above : List Row}
    (hpassed : IsBehind rows passed (r :: above)) (hpath : Path rows id (r :: above))
    (hrow : rowOf? rows id = some r) : id ∉ passed ∧ IsBehind rows (id :: passed) above := by
  have hrid := (rowOf?_eq_some hrow).2
  have hnodup := hpath.nodup
  rw [List.map_cons, List.nodup_cons, hrid] at hnodup
  refine ⟨fun hmem => (hpassed id hmem).2 ?_, fun n hn => ?_⟩
  · rw [List.map_cons, hrid]
    exact List.mem_cons_self
  · rcases List.mem_cons.mp hn with rfl | hn
    · exact ⟨by rw [hrow]; exact Option.some_ne_none _, hnodup.1⟩
    · obtain ⟨hrow', habove⟩ := hpassed n hn
      exact ⟨hrow', fun hmem => habove (List.mem_cons_of_mem _ hmem)⟩

/-! ## The walks of the service -/

section Walks

variable {db : Database} {t : Table Row} {start current : Int} {fuel : Nat}
  {passed : List Int} {above : List Row}

theorem Columns.read?_stored (c : Category) : Columns.read? c.stored = some c := rfl

/-- What is read of a row is all there is in it. -/
theorem Columns.stored_of_read? {r : Row} {c : Category} (h : r.read? = some c) :
    c.stored = r := by
  obtain ⟨_, _, _, _, _, _, _, status, _, _⟩ := r
  cases status <;> cases h
  rfl

theorem Columns.id_of_read? {r : Row} {c : Category} (h : r.read? = some c) :
    c.id = r.id := by
  rw [← stored_of_read? h]
  rfl

/-- Two categories with the same row are the same. -/
theorem Columns.stored_inj {a b : Category} (h : a.stored = b.stored) : a = b :=
  Option.some.inj
    ((congrArg Columns.read? h : Columns.read? a.stored = Columns.read? b.stored))

theorem isRoot_iff {c : Category} : c.isRoot = true ↔ c.parentId = rootParent := beq_iff_eq

/-- An id that no row has is not found. -/
theorem find_of_missing (ht : db.table Row = .ok t) (hrow : rowOf? t.rows id = none) :
    find id db = .ok none :=
  findFirst_of_none ht hrow

/-- A category that was stored is found as it was. -/
theorem find_of_stored {c : Category} (ht : db.table Row = .ok t)
    (hrow : rowOf? t.rows id = some c.stored) : find id db = .ok (some c) :=
  findFirst_of_some ht hrow (Columns.read?_stored c)

/-- What is found is the row with the identifier, if there is one. -/
theorem find_eq_ok {found : Option Category} (ht : db.table Row = .ok t)
    (h : find id db = .ok found) : rowOf? t.rows id = found.map Columns.stored := by
  obtain ⟨t', ht', ⟨hnone, rfl⟩ | ⟨r, c, hrow, hread, rfl⟩⟩ := findFirst_eq_ok h
  · cases ht.symm.trans ht'
    exact hnone
  · cases ht.symm.trans ht'
    rw [Option.map_some, Columns.stored_of_read? hread]
    exact hrow

/-- Where every row can be read, a search for a category comes to an answer. -/
theorem exists_found (ht : db.table Row = .ok t)
    (hread : ∀ r ∈ t.rows, ∃ c : Category, c.stored = r) (id : Int) :
    ∃ found, find id db = .ok found := by
  cases hrow : rowOf? t.rows id with
  | none => exact ⟨none, find_of_missing ht hrow⟩
  | some r =>
    obtain ⟨c, rfl⟩ := hread r (rowOf?_eq_some hrow).1
    exact ⟨some c, find_of_stored ht hrow⟩

/-- A walk that has not met `id` has found the way up to its end, and `id` is not on it. -/
theorem path_of_isAbove (ht : db.table Row = .ok t)
    (h : isAbove db id start fuel passed current = .ok false) :
    ∃ above, Path t.rows current above ∧ id ∉ above.map Columns.id := by
  induction fuel generalizing passed current with
  | zero => cases h
  | succ fuel ih =>
    rw [isAbove] at h
    split at h
    · next hroot =>
      rw [hroot]
      exact ⟨[], .root, List.not_mem_nil⟩
    · next hroot =>
      split at h
      · cases h
      · next hne =>
        split at h
        · cases h
        · -- what cannot be read is a failure and no answer
          split at h
          · cases h
          · next hfind => exact ⟨[], .missing hroot (find_eq_ok ht hfind), List.not_mem_nil⟩
          · next c hfind =>
            have hrow := find_eq_ok ht hfind
            obtain ⟨above, habove, hid⟩ := ih h
            refine ⟨_, .step hroot hrow habove, ?_⟩
            rw [List.map_cons, List.mem_cons, not_or, (rowOf?_eq_some hrow).2]
            exact ⟨fun he => hne he.symm, hid⟩

/-- Where the way up ends, the walk that looks for `id` comes to an answer. -/
theorem isAbove_of_path (ht : db.table Row = .ok t)
    (hread : ∀ r ∈ t.rows, ∃ c : Category, c.stored = r) (h : Path t.rows current above)
    (hfuel : above.length < fuel)
    (hpassed : IsBehind t.rows passed above) :
    ∃ answer, isAbove db id start fuel passed current = .ok answer := by
  -- each step of the way takes one of the fuel and passes one identifier
  induction h generalizing fuel passed with
  | root =>
    cases fuel with
    | zero => omega
    | succ fuel => exact ⟨false, by rw [isAbove, if_pos rfl]⟩
  | @missing current hroot hrow =>
    cases fuel with
    | zero => omega
    | succ fuel =>
      rw [isAbove, if_neg hroot]
      by_cases hid : current = id
      · exact ⟨true, by rw [if_pos hid]⟩
      · have hnot : current ∉ passed := fun hmem => (hpassed current hmem).1 hrow
        exact ⟨false, by rw [if_neg hid, if_neg hnot, find_of_missing ht hrow]⟩
  | @step current r above hroot hrow habove ih =>
    cases fuel with
    | zero => omega
    | succ fuel =>
      rw [isAbove, if_neg hroot]
      by_cases hid : current = id
      · exact ⟨true, by rw [if_pos hid]⟩
      · obtain ⟨c, rfl⟩ := hread r (rowOf?_eq_some hrow).1
        obtain ⟨hnot, hnext⟩ := hpassed.step (.step hroot hrow habove) hrow
        rw [if_neg hid, if_neg hnot, find_of_stored ht hrow]
        exact ih (by rw [List.length_cons] at hfuel; omega) hnext

/-- Where the way up ends, the climb comes to its end. -/
theorem climb_of_path {c : Category} (ht : db.table Row = .ok t)
    (hread : ∀ r ∈ t.rows, ∃ c : Category, c.stored = r) (h : Path t.rows current above)
    (hcurrent : current = c.parentId) (hfuel : above.length < fuel)
    (hpassed : IsBehind t.rows passed above) :
    ∃ parents, climb db start fuel passed c = .ok parents := by
  induction h generalizing fuel passed c with
  | root =>
    cases fuel with
    | zero => omega
    | succ fuel =>
      have hroot : c.isRoot = true := isRoot_iff.mpr hcurrent.symm
      exact ⟨[], by rw [climb, if_pos hroot]⟩
  | @missing current hroot hrow =>
    cases fuel with
    | zero => omega
    | succ fuel =>
      subst hcurrent
      have hnot : c.parentId ∉ passed := fun hmem => (hpassed _ hmem).1 hrow
      refine ⟨[], ?_⟩
      rw [climb, if_neg (fun he => hroot (isRoot_iff.mp he)), if_neg hnot,
        find_of_missing ht hrow]
  | @step current r above hroot hrow habove ih =>
    cases fuel with
    | zero => omega
    | succ fuel =>
      subst hcurrent
      obtain ⟨parent, rfl⟩ := hread r (rowOf?_eq_some hrow).1
      obtain ⟨hnot, hnext⟩ := hpassed.step (.step hroot hrow habove) hrow
      rw [climb, if_neg (fun he => hroot (isRoot_iff.mp he)), if_neg hnot,
        find_of_stored ht hrow]
      dsimp only
      split
      · have hlength : above.length < fuel := by
          rw [List.length_cons] at hfuel
          omega
        obtain ⟨parents, hparents⟩ := ih rfl hlength hnext
        exact ⟨parent :: parents, by rw [hparents]; rfl⟩
      · -- an inactive parent ends the climb like a missing one
        exact ⟨[], rfl⟩

end Walks

/-! ## What the service answers -/

section Answers

open Procedure

variable {w : World} {c : Category}

/-- The procedure answers what is found if it is active. -/
theorem findActive_of_find {id : Int} {found : Option Category}
    (h : find id w.database = .ok found) :
    (findActive id).perform w = (.ok (found.filter Columns.isActive), w) := by
  have hquery : (query (find id)).perform w = (.ok found, w) := by
    rw [perform_query, h]
    rfl
  rw [findActive, perform_bind_ok hquery]
  rfl

/-- The breadcrumbs of an active category are its climb, read from the root on. -/
theorem ancestors_of_active {id : Int} (h : find id w.database = .ok (some c))
    (hactive : c.isActive = true) : ((ancestors id).perform w).1
      = (climb w.database id (rowCount w.database + 1) [c.id] c).map List.reverse := by
  have hfound := findActive_of_find h
  rw [Option.filter_some, if_pos hactive] at hfound
  rw [ancestors, perform_bind_ok hfound]
  dsimp only
  rw [perform_bind_ok (perform_get w), perform_bind, perform_check]
  cases climb w.database id (rowCount w.database + 1) [c.id] c <;> rfl

end Answers

end Community.Category

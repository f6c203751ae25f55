import Community.Proofs.Category.Breadcrumbs

/-!
# What the guard of a move decides

Before a category is moved, the service walks up from its new parent and looks for the
category itself. Rows count here whether they are active or not, and the table may hold
anything: parents that are missing, and circles with or without the category on them.
`ascent` is the way up as a sequence, which in a circle has no end.

> `Walks.settles`: the walk says whether the category is on the way up, and where the way up
> is a circle without the category it fails.

The walk cannot see that a way has no end. What it sees is an identifier that it has passed,
and from there on the way repeats itself (`ascent_repeats`): it has no end, and shows nothing
that has not been passed.
-/

namespace Community.Category

open Database

/-! ## The way up as a sequence -/

/-- The identifier that is reached in some number of steps from child to parent. Above the
roots there is none, nor behind an identifier that no row has. -/
def ascent (rows : List Row) (start : Int) : Nat → Option Int
  | 0 => if start = rootParent then none else some start
  | n + 1 =>
    if start = rootParent then none
    else (rowOf? rows start).bind fun r => ascent rows r.parentId n

variable {rows : List Row} {start id current m : Int} {j k n : Nat}

/-- Nothing is above the root. -/
theorem ascent_root (n : Nat) : ascent rows rootParent n = none := by
  cases n <;> rw [ascent, if_pos rfl]

theorem ascent_zero (h : start ≠ rootParent) : ascent rows start 0 = some start := by
  rw [ascent, if_neg h]

/-- Nothing is above an id that no row has. -/
theorem ascent_of_missing (h : rowOf? rows start = none) (n : Nat) :
    ascent rows start (n + 1) = none := by
  rw [ascent, h]
  exact ite_self none

/-- Above an id with a row stands the parent, and what is above that. -/
theorem ascent_of_row {r : Row} (h : start ≠ rootParent) (hrow : rowOf? rows start = some r)
    (n : Nat) : ascent rows start (n + 1) = ascent rows r.parentId n := by
  rw [ascent, if_neg h, hrow]
  rfl

/-- From an identifier on the way, the way up is the rest of it. -/
theorem ascent_add (h : ascent rows start j = some m) (n : Nat) :
    ascent rows start (j + n) = ascent rows m n := by
  induction j generalizing start with
  | zero =>
    rw [ascent, Option.ite_none_left_eq_some, Option.some.injEq] at h
    rw [Nat.zero_add, h.2]
  | succ j ih =>
    rw [ascent, Option.ite_none_left_eq_some, Option.bind_eq_some_iff] at h
    obtain ⟨hroot, r, hrow, h⟩ := h
    rw [Nat.succ_add, ascent_of_row hroot hrow, ih h]

/-- The way has no gaps. -/
theorem ascent_ne_none_of_le (h : ascent rows start k ≠ none) (hj : j ≤ k) :
    ascent rows start j ≠ none := by
  induction k generalizing start j with
  | zero =>
    rw [Nat.le_zero.mp hj]
    exact h
  | succ k ih =>
    have hroot : start ≠ rootParent := by
      rintro rfl
      exact h (ascent_root _)
    cases j with
    | zero =>
      rw [ascent_zero hroot]
      exact Option.some_ne_none _
    | succ j =>
      cases hrow : rowOf? rows start with
      | none => exact absurd (ascent_of_missing hrow k) h
      | some r =>
        rw [ascent_of_row hroot hrow] at h ⊢
        exact ih h (Nat.le_of_succ_le_succ hj)

/-- A way that comes back to where it was shows nothing that it has not shown before. -/
theorem ascent_repeats (hj : ascent rows start j = some m)
    (hk : ascent rows start k = some m) (hlt : j < k) (n : Nat) :
    ∃ i < k, ascent rows start n = ascent rows start i := by
  induction n using Nat.strongRecOn with
  | ind n ih =>
    rcases Nat.lt_or_ge n k with hn | hn
    · exact ⟨n, hn, rfl⟩
    · obtain ⟨d, rfl⟩ := Nat.exists_eq_add_of_le hn
      obtain ⟨i, hi, heq⟩ := ih (j + d) (Nat.add_lt_add_right hlt d)
      exact ⟨i, hi, by rw [ascent_add hk, ← ascent_add hj, heq]⟩

/-! ## The walk without a bound -/

/-- How the walk that looks for `id` goes on from an identifier, and what comes of it. -/
inductive Walks (db : Database) (id start : Int) :
    List Int → Int → Except Problem Bool → Prop
  | root {passed : List Int} : Walks db id start passed rootParent (.ok false)
  | met {passed : List Int} (hroot : id ≠ rootParent) :
      Walks db id start passed id (.ok true)
  | circle {passed : List Int} {current : Int} (hroot : current ≠ rootParent)
    (hid : current ≠ id) (hpassed : current ∈ passed) :
    Walks db id start passed current (.error (.circularParents start current))
  | fault {passed : List Int} {current : Int} {f : Fault} (hroot : current ≠ rootParent)
    (hid : current ≠ id) (hpassed : current ∉ passed) (hfind : find current db = .error f) :
    Walks db id start passed current (.error (.database f))
  | missing {passed : List Int} {current : Int} (hroot : current ≠ rootParent)
    (hid : current ≠ id) (hpassed : current ∉ passed) (hfind : find current db = .ok none) :
    Walks db id start passed current (.ok false)
  | step {passed : List Int} {current : Int} {c : Category} {result : Except Problem Bool}
    (hroot : current ≠ rootParent) (hid : current ≠ id) (hpassed : current ∉ passed)
    (hfind : find current db = .ok (some c))
    (hrest : Walks db id start (current :: passed) c.parentId result) :
    Walks db id start passed current result

variable {db : Database} {passed : List Int} {fuel : Nat}

/-- The walk of the service does not end before the walk without a bound does. -/
theorem walks_isAbove (h : HasSteps db fuel passed) :
    Walks db id start passed current (isAbove db id start fuel passed current) := by
  induction fuel generalizing passed current with
  | zero => exact absurd h HasSteps.not_zero
  | succ fuel ih =>
    rw [isAbove]
    by_cases hroot : current = rootParent
    · rw [if_pos hroot, hroot]
      exact .root
    rw [if_neg hroot]
    by_cases hid : current = id
    · rw [if_pos hid]
      subst hid
      exact .met hroot
    rw [if_neg hid]
    by_cases hpassed : current ∈ passed
    · rw [if_pos hpassed]
      exact .circle hroot hid hpassed
    rw [if_neg hpassed]
    split
    · next hfind => exact .fault hroot hid hpassed hfind
    · next hfind => exact .missing hroot hid hpassed hfind
    · next hfind => exact .step hroot hid hpassed hfind (ih (h.next hpassed hfind))

theorem rowCount_eq (db : Database) : rowCount db = (rowsOf Row db).length := by
  rw [rowCount, Database.table, rowsOf]
  cases (Entity.slot db : Slot Row).table? <;> rfl

/-- The walk ends, in every table. -/
theorem walks_isWithin (db : Database) (start id : Int) :
    Walks db id start [] start (isWithin db start id) := by
  refine walks_isAbove ⟨List.nodup_nil, List.nil_subset _, ?_⟩
  rw [rowCount_eq, List.length_nil]
  omega

/-! ## What comes of the walk -/

/-- What the way up from `start` says of `id`. -/
inductive Settles (rows : List Row) (start id : Int) : Except Problem Bool → Prop
  | met (h : ∃ n, ascent rows start n = some id) : Settles rows start id (.ok true)
  | missed (hnot : ∀ n, ascent rows start n ≠ some id)
    (hend : ∃ n, ascent rows start n = none) :
    Settles rows start id (.ok false)
  | circle (through : Int) (hnot : ∀ n, ascent rows start n ≠ some id)
    (hendless : ∀ n, ascent rows start n ≠ none) :
    Settles rows start id (.error (.circularParents start through))

/-- The walk has come to `current` in `k` steps, and has not met `id` so far. -/
structure IsAt (rows : List Row) (start id : Int) (k : Nat) (passed : List Int)
    (current : Int) : Prop where
  ahead : ∀ n, ascent rows start (k + n) = ascent rows current n
  behind : ∀ m, m ∈ passed ↔ ∃ j < k, ascent rows start j = some m
  not_met : id ∉ passed

namespace IsAt

/-- The walk starts at its start, with nothing passed. -/
theorem init (rows : List Row) (start id : Int) : IsAt rows start id 0 [] start :=
  ⟨fun n => by rw [Nat.zero_add], fun m => by simp, List.not_mem_nil⟩

/-- What has not been met is not on the way if it is not ahead. -/
theorem not_on_way (h : IsAt rows start id k passed current)
    (hahead : ∀ n, ascent rows current n ≠ some id) (n : Nat) :
    ascent rows start n ≠ some id := by
  rcases Nat.lt_or_ge n k with hn | hn
  · exact fun hid => h.not_met ((h.behind id).mpr ⟨n, hn, hid⟩)
  · obtain ⟨d, rfl⟩ := Nat.exists_eq_add_of_le hn
    rw [h.ahead]
    exact hahead d

/-- It goes on to the parent of the row it is at. -/
theorem step (h : IsAt rows start id k passed current) (hroot : current ≠ rootParent)
    (hid : current ≠ id) {r : Row} (hrow : rowOf? rows current = some r) :
    IsAt rows start id (k + 1) (current :: passed) r.parentId := by
  have hhere : ascent rows start k = some current := (h.ahead 0).trans (ascent_zero hroot)
  refine ⟨fun n => ?_, fun m => ?_, ?_⟩
  · rw [Nat.add_assoc, Nat.add_comm 1, h.ahead, ascent_of_row hroot hrow]
  · rw [List.mem_cons, h.behind]
    simp only [Nat.lt_succ_iff_lt_or_eq, or_and_right, exists_or, exists_eq_left, hhere,
      Option.some.injEq, eq_comm (a := m), or_comm]
  · exact List.not_mem_cons_of_ne_of_not_mem (Ne.symm hid) h.not_met

/-- Where the walk is at an identifier that it has passed, the way has no end and
does not meet `id`. -/
theorem endless (h : IsAt rows start id k passed current) (hroot : current ≠ rootParent)
    (hpassed : current ∈ passed) (n : Nat) :
    ascent rows start n ≠ some id ∧ ascent rows start n ≠ none := by
  have hhere : ascent rows start k = some current := (h.ahead 0).trans (ascent_zero hroot)
  obtain ⟨j, hj, hagain⟩ := (h.behind current).mp hpassed
  obtain ⟨i, hi, hn⟩ := ascent_repeats hagain hhere hj n
  rw [hn]
  refine ⟨fun hid => h.not_met ((h.behind id).mpr ⟨i, hi, hid⟩),
    ascent_ne_none_of_le ?_ (Nat.le_of_lt hi)⟩
  rw [hhere]
  exact Option.some_ne_none _

end IsAt

/-- What comes of the walk is what the way up says. -/
theorem Walks.settles {t : Table Row} {result : Except Problem Bool}
    (ht : db.table Row = .ok t) (hread : ∀ r ∈ t.rows, ∃ c : Category, c.stored = r)
    (h : Walks db id start passed current result)
    (hat : IsAt t.rows start id k passed current) : Settles t.rows start id result := by
  induction h generalizing k with
  | root =>
    refine .missed (hat.not_on_way fun n => ?_) ⟨k, (hat.ahead 0).trans (ascent_root 0)⟩
    rw [ascent_root]
    exact (Option.some_ne_none id).symm
  | met hroot => exact .met ⟨k, (hat.ahead 0).trans (ascent_zero hroot)⟩
  | circle hroot hid hpassed =>
    exact .circle _ (fun n => (hat.endless hroot hpassed n).1) fun n =>
      (hat.endless hroot hpassed n).2
  | fault _ _ _ hfind =>
    -- every row can be read, so the search for it comes to an answer
    obtain ⟨found, hfound⟩ := exists_found ht hread _
    cases hfind.symm.trans hfound
  | missing hroot hid _ hfind =>
    have hrow := find_eq_ok ht hfind
    refine .missed (hat.not_on_way fun n => ?_)
      ⟨k + 1, (hat.ahead 1).trans (ascent_of_missing hrow 0)⟩
    cases n with
    | zero =>
      rw [ascent_zero hroot]
      exact fun heq => hid (Option.some.inj heq)
    | succ n =>
      rw [ascent_of_missing hrow]
      exact (Option.some_ne_none id).symm
  | step hroot hid _ hfind _ ih => exact ih (hat.step hroot hid (find_eq_ok ht hfind))

/-- The guard of a move decides what is on the way up from `start`, in every table of which
all rows can be read. The walk ends. It says yes if the way up meets `id`, fails if the way
up has no end and does not meet `id`, and says no if the way up ends without meeting it. -/
theorem move_guard_decides_reachability {db : Database} {t : Table Row}
    (ht : db.table Row = .ok t) (hread : ∀ r ∈ t.rows, ∃ c : Category, r.read? = some c)
    (start id : Int) :
    Walks db id start [] start (isWithin db start id) ∧
    (isWithin db start id = .ok true ↔ ∃ n, ascent t.rows start n = some id) ∧
    ((∃ p, isWithin db start id = .error p ∧ p.report.kind = .internal) ↔
      (∀ n, ascent t.rows start n ≠ some id) ∧ ∀ n, ascent t.rows start n ≠ none) ∧
    (isWithin db start id = .ok false ↔
      (∀ n, ascent t.rows start n ≠ some id) ∧ ∃ n, ascent t.rows start n = none) := by
  have hwalk := walks_isWithin db start id
  have hstored : ∀ r ∈ t.rows, ∃ c : Category, c.stored = r := by
    intro r hr
    obtain ⟨c, hc⟩ := hread r hr
    exact ⟨c, Columns.stored_of_read? hc⟩
  have hsettles := hwalk.settles ht hstored (.init t.rows start id)
  refine ⟨hwalk, ?_⟩
  generalize isWithin db start id = result at hsettles
  cases hsettles with
  | met h =>
    obtain ⟨n, hn⟩ := h
    exact ⟨⟨fun _ => ⟨n, hn⟩, fun _ => rfl⟩, ⟨nofun, fun h => absurd hn (h.1 n)⟩,
      ⟨nofun, fun h => absurd hn (h.1 n)⟩⟩
  | missed hnot hend =>
    obtain ⟨n, hn⟩ := hend
    exact ⟨⟨nofun, fun ⟨n, hn⟩ => absurd hn (hnot n)⟩, ⟨nofun, fun h => absurd hn (h.2 n)⟩,
      ⟨fun _ => ⟨hnot, n, hn⟩, fun _ => rfl⟩⟩
  | circle through hnot hendless =>
    exact ⟨⟨nofun, fun ⟨n, hn⟩ => absurd hn (hnot n)⟩,
      ⟨fun _ => ⟨hnot, hendless⟩, fun _ => ⟨_, rfl, rfl⟩⟩,
      ⟨nofun, fun ⟨_, n, hn⟩ => absurd hn (hendless n)⟩⟩

/-- Above the category that hangs below itself there is nothing but the
category, over and over. -/
theorem ascent_looped (n : Nat) : ascent [looped.stored] 1 n = some 1 := by
  induction n with
  | zero => rfl
  | succ n ih => exact ih

/-- A category may not be moved below the one that hangs below itself: if it is this one that
is moved, it is found, and if it is any other, the way up from there has no end. -/
theorem move_guard_decides_reachability_looped :
    isWithin loopedWorld.database 1 1 = .ok true ∧
      ∃ p, isWithin loopedWorld.database 1 2 = .error p ∧ p.report.kind = .internal := by
  have htable : loopedWorld.database.table Row = .ok ⟨[looped.stored], 1⟩ := rfl
  have hguard := move_guard_decides_reachability htable
    (fun r hr => ⟨looped, by rw [List.mem_singleton.mp hr]; rfl⟩) 1
  refine ⟨(hguard 1).2.1.mpr ⟨0, ascent_looped 0⟩,
    (hguard 2).2.2.1.mpr ⟨fun n => ?_, fun n => ?_⟩⟩
  · rw [ascent_looped]
    decide
  · rw [ascent_looped]
    exact Option.some_ne_none 1

end Community.Category

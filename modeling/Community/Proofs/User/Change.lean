import Community.Proofs.Category.Change

/-!
# What a change of a profile has done

A change of a profile asks whether the user is there and whether the new names are free. Then
it writes the row of the user and removes what is kept about the profile and about lists:

> `change_eq_ok`: the row that was there, the statement that was made, and the cache after.
-/

namespace Community.User

open Database Procedure

variable {w w' : World} {id : Int}

/-- What is read of a row is all there is in it. -/
theorem Columns.stored_of_read? {r : Row} {u : User} (h : r.read? = some u) :
    u.stored = r := by
  obtain ⟨_, _, _, _, _, _, _, _, gender, _, status, role, _, _, _, _⟩ := r
  cases gender <;> cases status <;> cases role <;> cases h
  rfl

theorem Columns.id_of_read? {r : Row} {u : User} (h : r.read? = some u) : u.id = r.id := by
  rw [← stored_of_read? h]
  rfl

/-- What is found has the identifier that was asked for. -/
theorem id_of_find {db : Database} {u : User} (h : find id db = .ok (some u)) :
    u.id = id := by
  obtain ⟨t, -, ⟨-, hnone⟩ | ⟨r, a, hr, hread, ha⟩⟩ := findFirst_eq_ok h
  · cases hnone
  · cases ha
    have hid : (r.id == id) = true := List.find?_some (p := fun x : Row => x.id == id) hr
    exact (Columns.id_of_read? hread).trans (beq_iff_eq.mp hid)

/-- A changed profile is that of the user, in the place of the one that was there. -/
theorem change_eq_ok {r : ProfileChange} {p : Profile}
    (h : (change id r).perform w = (.ok p, w')) :
    ∃ u row db, find id w.database = .ok (some u) ∧
      replace (u.changed r w.now) w.database = .ok (row, db) ∧
      p = .owned (u.changed r w.now) ∧
      w' = { w with
        database := db
        cache := (w.cache.delete (infoKey id)).deletePatterns [listFamily] } := by
  obtain ⟨_, -, h⟩ := perform_asked_eq_ok (.check _) h
  obtain ⟨found, hfound, h⟩ := perform_asked_eq_ok (.query _) h
  cases found with
  | none => cases h
  | some u =>
    obtain ⟨_, -, h⟩ := perform_asked_eq_ok (leaves_ensureFreeUsername u r) h
    obtain ⟨_, -, h⟩ := perform_asked_eq_ok (leaves_ensureFreeEmail u r) h
    obtain ⟨now, hnow, h⟩ := perform_asked_eq_ok .now h
    cases hnow
    obtain ⟨stored, v, hwrite, h⟩ := perform_bind_eq_ok h
    obtain ⟨row, db, hreplace, hread, rfl⟩ := perform_writeRow_eq_ok hwrite
    cases h
    obtain ⟨-, -, -, -, -, -, -, -, hrow, -⟩ := replace_eq_ok hreplace
    have hstored : stored = u.changed r w.now := by
      rw [hrow, Database.readRow_eq_ok.mpr (Columns.read?_stored _)] at hread
      exact (Except.ok.inj hread).symm
    rw [hstored]
    exact ⟨u, row, db, Category.ofStatement_query_eq_ok hfound, hreplace, rfl, rfl⟩

/-- A change of a profile leaves the database alone or stores the row of the user. -/
theorem database_change (id : Int) (r : ProfileChange) (w : World) :
    ((change id r).perform w).2.database = w.database ∨
      ∃ u row, find id w.database = .ok (some u) ∧
        replace (u.changed r w.now) w.database =
          .ok (row, ((change id r).perform w).2.database) := by
  rcases hperform : (change id r).perform w with ⟨p | p, w'⟩
  · exact Or.inl (congrArg World.database (failsCleanly_change id r w p w' hperform))
  · obtain ⟨u, row, db, hfind, hreplace, -, rfl⟩ := change_eq_ok hperform
    exact Or.inr ⟨u, row, hfind, hreplace⟩

end Community.User

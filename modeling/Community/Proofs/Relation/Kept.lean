import Community.Proofs.Page.Listed
import Community.Proofs.Relation.Fits
import Community.Proofs.Relation.Margin
import Mathlib.Data.Int.Interval

/-!
# The tables of relations stay sound

What a toggle writes can be read again, and the identifier of a new row is one that its table
gives. So both tables of relations, once they are there, can be listed after every run:

> `World.keepsRelations_after`: rows of relations stay readable, under
> identifiers of 64 bits.

> `Database.Keeps.isSound`: a table with such rows that are distinct is sound.
> There are fewer identifiers that can be given than there are numbers of 64 bits,
> which bounds the rows.
-/

namespace Community

open Database Time

namespace Database

variable {ρ α : Type} [Entity ρ α] {db db' : Database}

/-- A row that can be read, under an identifier that a table can give. -/
def IsGiven (r : ρ) : Prop :=
  (∃ a : α, Reads r a) ∧ Text.int64Min < Entity.id r ∧ Entity.id r ≤ Text.int64Max

/-- The table is there, and its rows can be read. -/
def Keeps (ρ : Type) {α : Type} [Entity ρ α] (db : Database) : Prop :=
  (∃ t : Table ρ, db.table ρ = .ok t) ∧ Holds ρ IsGiven db

/-- A change of other tables leaves the relations kept. -/
theorem Keeps.agreeOff [LawfulEntity ρ] {names : List TableName} (h : Keeps ρ db)
    (hagree : AgreeOff names db db') (hname : Entity.name ρ ∉ names) : Keeps ρ db' := by
  obtain ⟨⟨t, ht⟩, hholds⟩ := h
  exact ⟨⟨t, (table_agreeOff hagree hname).trans ht⟩, hholds.agreeOff hagree hname⟩

/-- What a toggle writes can be read again, under an identifier that the table gives. -/
theorem Keeps.run [LawfulEntity ρ] {a : α} (t : Relation.Toggling ρ α) (hdb : Keeps ρ db)
    (hreads : ∀ b, Reads (t.write b) b) (h : t.run db = .ok (a, db')) : Keeps ρ db' := by
  obtain ⟨db₁, hflip, hcount⟩ := t.run_eq_ok h
  obtain ⟨n, hadjusted⟩ := Counter.count_eq_ok hcount
  have htable : ∃ table, db'.table ρ = .ok table := by
    obtain ⟨-, -, rows, lastId, -, rfl, -⟩ := t.flip_eq_ok hflip
    exact ⟨_, (table_agreeOff hadjusted.agreeOff t.name_not_mem).trans (table_withTable _)⟩
  refine ⟨htable, (t.holds_run hdb.2 (fun id hlow hhigh => ?_) (fun b hb => ?_) h).1⟩
  · exact ⟨⟨_, hreads _⟩, (t.id_make id).symm ▸ hlow, (t.id_make id).symm ▸ hhigh⟩
  · exact ⟨⟨_, hreads _⟩, (t.id_turn b).symm ▸ hb.2.1, (t.id_turn b).symm ▸ hb.2.2⟩

/-- There are fewer different rows than numbers of 64 bits. -/
theorem length_le_of_isGiven {rows : List ρ} (hgiven : ∀ r ∈ rows, IsGiven r)
    (hkeyed : rows.Pairwise fun a b => Entity.id a ≠ Entity.id b) :
    rows.length ≤ Text.word64Max := by
  have hnodup : (rows.map Entity.id).Nodup := List.pairwise_map.mpr hkeyed
  have hsub : (rows.map Entity.id).toFinset ⊆ Finset.Ioc Text.int64Min Text.int64Max := by
    intro id hid
    obtain ⟨r, hr, rfl⟩ := List.mem_map.mp (List.mem_toFinset.mp hid)
    exact Finset.mem_Ioc.mpr (hgiven r hr).2
  have hcard := Finset.card_le_card hsub
  rwa [List.toFinset_card_of_nodup hnodup, List.length_map, Int.card_Ioc] at hcard

/-- A table of kept and distinct relations is sound. -/
theorem Keeps.isSound (h : Keeps ρ db) (hdistinct : distinct (rowsOf ρ db) = true) :
    ∃ t : Table ρ, db.table ρ = .ok t ∧ t.IsSound ∧ distinct t.rows = true := by
  obtain ⟨⟨t, ht⟩, hholds⟩ := h
  rw [rowsOf_eq ht] at hdistinct
  have hgiven := (hholds t ht).2
  have hkeyed := pairwise_id hdistinct
  exact ⟨t, ht,
    ⟨fun r hr => (hgiven r hr).1, hkeyed, length_le_of_isGiven hgiven hkeyed⟩, hdistinct⟩

end Database

/-- Both tables of relations are there, and their rows can be read. -/
structure Database.KeepsRelations (db : Database) : Prop where
  likes : Keeps Like.Row db
  favorites : Keeps Favorite.Row db

section Toggles

variable {userId : Int} {now : Timestamp} {db db' : Database}

/-- A toggle of a like leaves the relations kept. -/
theorem Like.keeps_toggle {r : LikeToggle} {l : Like} (hdb : db.KeepsRelations)
    (h : toggle userId r now db = .ok (l, db')) : db'.KeepsRelations := by
  refine ⟨hdb.likes.run (toggling userId r now) (fun _ => rfl) h, ?_⟩
  exact hdb.favorites.agreeOff ((toggling userId r now).agreeOff_run h)
    (Counter.not_mem_tables (by decide) (by decide))

/-- So does a toggle of a favorite. -/
theorem Favorite.keeps_toggle {r : FavoriteToggle} {f : Favorite} (hdb : db.KeepsRelations)
    (h : toggle userId r now db = .ok (f, db')) : db'.KeepsRelations := by
  refine ⟨?_, hdb.favorites.run (toggling userId r now) (fun _ => rfl) h⟩
  exact hdb.likes.agreeOff ((toggling userId r now).agreeOff_run h)
    (Counter.not_mem_tables (by decide) (by decide))

end Toggles

namespace World

variable {w : World}

/-- So does every event. -/
theorem keepsRelations_next (e : Event) (hw : w.database.KeepsRelations) :
    (e.next w).database.KeepsRelations := by
  cases e with
  | wait | closeCache => exact hw
  | call op =>
    rcases op.toggle_or_agreeOff w with
      ⟨userId, r, requestId, l, rfl, hchange⟩ |
      ⟨userId, r, requestId, f, rfl, hchange⟩ | hagree
    · exact Like.keeps_toggle hw hchange
    · exact Favorite.keeps_toggle hw hchange
    · exact ⟨hw.likes.agreeOff hagree (by decide), hw.favorites.agreeOff hagree (by decide)⟩

/-- The relations are kept along every run. -/
theorem keepsRelations_after (events : List Event) (hw : w.database.KeepsRelations) :
    (w.after events).database.KeepsRelations :=
  after_induction (I := fun v => v.database.KeepsRelations) hw fun _ e _ =>
    keepsRelations_next e

end World

end Community

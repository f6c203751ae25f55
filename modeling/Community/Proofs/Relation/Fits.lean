import Community.Proofs.Footprint
import Community.Proofs.Relation.Outcome
import Community.Proofs.Time.Civil

/-!
# The rows of relations fit their columns

Numbers of 64 bits and timestamps of the calendar are what the columns of the database can
hold. If the rows of the start fit, and the clients send numbers of 64 bits, then all rows
fit as long as the calendar lasts, since a toggle takes its numbers from the request, from
the row before it, and from the next identifier, and its timestamps from the clock:

> `World.fits_after`: the rows of relations fit after every run.

What is behind it for one toggle is `Like.fits_toggle` and `Favorite.fits_toggle`; they also
say that the outcome fits, and with it can be read back.
-/

namespace Community

open Procedure Database Time

/-! ## One table -/

namespace Database

variable {ρ α : Type} [Entity ρ α] {P : ρ → Prop} {db db' : Database}

/-- All rows of a table have the property, as far as statements see them, and identifiers do
not begin below the numbers of 64 bits. -/
def Holds (ρ : Type) {α : Type} [Entity ρ α] (P : ρ → Prop) (db : Database) : Prop :=
  ∀ t : Table ρ, db.table ρ = .ok t → Text.int64Min ≤ t.lastId ∧ ∀ r ∈ t.rows, P r

/-- A change of other tables keeps what holds of a table. -/
theorem Holds.agreeOff [LawfulEntity ρ] {names : List TableName} (h : Holds ρ P db)
    (hagree : AgreeOff names db db') (hname : Entity.name ρ ∉ names) : Holds ρ P db' := by
  intro t ht
  rw [table_agreeOff hagree hname] at ht
  exact h t ht

/-- A row that is made or changed has the property if making and changing see to it. -/
theorem Holds.upsert [LawfulEntity ρ] {pick : ρ → Bool} {make : Int → ρ} {change : α → ρ}
    {a : α} (hdb : Holds ρ P db)
    (hkeep : ∀ (r : ρ) (b : α), Entity.read? r = some b → Entity.id (change b) = Entity.id r)
    (hmake : ∀ id, Text.int64Min < id → id ≤ Text.int64Max → P (make id))
    (hchange : ∀ r b, Entity.read? r = some b → P r → P (change b))
    (h : upsert pick make change db = .ok (a, db')) :
    Holds ρ P db' ∧ ∃ r, Entity.read? r = some a ∧ P r := by
  obtain ⟨t, rows, lastId, x, ht, rfl, hlast, -, hx, hrows⟩ := upsert_eq_ok hkeep h
  obtain ⟨hlow, hall⟩ := hdb t ht
  -- made or changed, `x` is the only row that was not there before
  have hxrow : P x ∧ ∀ r ∈ rows, r = x ∨ r ∈ t.rows := by
    rcases hrows with ⟨id, hid, rfl, rfl⟩ | ⟨before, r, after, b, htrows, rfl, -, hb, rfl⟩
    · obtain ⟨hgt, -, hhigh⟩ := nextId?_gt hid
      refine ⟨hmake id (by omega) hhigh, fun r hr => ?_⟩
      rcases List.mem_append.mp hr with hr | hr
      · exact Or.inr hr
      · exact Or.inl (List.mem_singleton.mp hr)
    · have hr : r ∈ t.rows := htrows ▸ List.mem_append_right _ List.mem_cons_self
      exact ⟨hchange r b hb (hall r hr), fun s hs => mem_exchange htrows hs⟩
  obtain ⟨hpx, hmem⟩ := hxrow
  refine ⟨fun t' ht' => ?_, x, hx, hpx⟩
  rw [table_withTable] at ht'
  cases ht'
  refine ⟨Int.le_trans hlow hlast, fun r hr => ?_⟩
  rcases hmem r hr with rfl | hr
  · exact hpx
  · exact hall r hr

end Database

/-! ## Toggles -/

/-- The numbers of the request are of 64 bits. -/
structure LikeToggle.Fits (r : LikeToggle) : Prop where
  targetId : Text.IsInt64 r.targetId
  targetAuthorId : ∀ a, r.targetAuthorId = some a → Text.IsInt64 a

@[inherit_doc LikeToggle.Fits]
structure FavoriteToggle.Fits (r : FavoriteToggle) : Prop where
  targetId : Text.IsInt64 r.targetId
  targetAuthorId : ∀ a, r.targetAuthorId = some a → Text.IsInt64 a

/-- The rows of likes and favourites fit their columns. -/
structure Database.Fits (db : Database) : Prop where
  likes : Holds Like.Row (·.Fits) db
  favorites : Holds Favorite.Row (·.Fits) db

section Toggles

variable {userId : Int} {now : Timestamp} {db db' : Database}

/-- A toggle writes a row that has the property if making and turning over see to it. -/
theorem Relation.Toggling.holds_run {ρ α : Type} [Entity ρ α] [LawfulEntity ρ]
    (t : Toggling ρ α) {a : α} {P : ρ → Prop} (hdb : Holds ρ P db)
    (hmake : ∀ id, Text.int64Min < id → id ≤ Text.int64Max → P (t.write (t.make id)))
    (hturn : ∀ b, P (t.write b) → P (t.write (t.turn b))) (h : t.run db = .ok (a, db')) :
    Holds ρ P db' ∧ P (t.write a) := by
  obtain ⟨db₁, hflip, hcount⟩ := t.run_eq_ok h
  obtain ⟨n, hadjusted⟩ := Counter.count_eq_ok hcount
  obtain ⟨hrows, row, hread, hrow⟩ := hdb.upsert (fun _ _ => t.id_of_read?) hmake
    (fun row b hb hrow => hturn b (t.write_of_read? hb ▸ hrow)) hflip
  exact ⟨hrows.agreeOff hadjusted.agreeOff t.name_not_mem, t.write_of_read? hread ▸ hrow⟩

/-- A toggle of a like keeps the numbers and times in range, and answers a like in range. -/
theorem Like.fits_toggle {r : LikeToggle} {l : Like} (hdb : db.Fits)
    (huser : Text.IsInt64 userId) (hr : r.Fits) (hnow : now.Valid)
    (h : toggle userId r now db = .ok (l, db')) : db'.Fits ∧ l.Fits := by
  obtain ⟨hlikes, hl⟩ := (toggling userId r now).holds_run hdb.likes
    (fun id hlow hhigh =>
      ⟨⟨Int.le_of_lt hlow, hhigh⟩, hr.targetId, huser, hr.targetAuthorId, hnow, hnow⟩)
    (fun b hb => ⟨hb.id, hb.targetId, hb.userId, hb.targetAuthorId, hb.createdAt, hnow⟩) h
  have hfavorites := hdb.favorites.agreeOff ((toggling userId r now).agreeOff_run h)
    (Counter.not_mem_tables (by decide) (by decide))
  exact ⟨⟨hlikes, hfavorites⟩,
    hl.id, hl.targetId, hl.userId, hl.targetAuthorId, hl.createdAt, hl.updatedAt⟩

/-- So does a toggle of a favorite. -/
theorem Favorite.fits_toggle {r : FavoriteToggle} {f : Favorite} (hdb : db.Fits)
    (huser : Text.IsInt64 userId) (hr : r.Fits) (hnow : now.Valid)
    (h : toggle userId r now db = .ok (f, db')) : db'.Fits ∧ f.Fits := by
  obtain ⟨hfavorites, hf⟩ := (toggling userId r now).holds_run hdb.favorites
    (fun id hlow hhigh =>
      ⟨⟨Int.le_of_lt hlow, hhigh⟩, hr.targetId, huser, hr.targetAuthorId, hnow, hnow⟩)
    (fun b hb => ⟨hb.id, hb.targetId, hb.userId, hb.targetAuthorId, hb.createdAt, hnow⟩) h
  have hlikes := hdb.likes.agreeOff ((toggling userId r now).agreeOff_run h)
    (Counter.not_mem_tables (by decide) (by decide))
  exact ⟨⟨hlikes, hfavorites⟩,
    hf.id, hf.targetId, hf.userId, hf.targetAuthorId, hf.createdAt, hf.updatedAt⟩

end Toggles

/-! ## Runs -/

/-- The numbers of a toggle are of 64 bits. -/
def Operation.Fits : Operation → Prop
  | toggleLike userId r _ => Text.IsInt64 userId ∧ r.Fits
  | toggleFavorite userId r _ => Text.IsInt64 userId ∧ r.Fits
  | _ => True

@[inherit_doc Operation.Fits]
def Event.Fits : Event → Prop
  | call op => op.Fits
  | _ => True

namespace World

variable {w : World}

theorem clock_next_call (op : Operation) (w : World) : (op.next w).clock = w.clock :=
  congrArg Prod.fst (Operation.leaves Blind.setting w)

/-- The clock does not go back in an event. -/
theorem clock_le_next (e : Event) (w : World) : w.clock ≤ (e.next w).clock := by
  cases e with
  | call op => exact Nat.le_of_eq (clock_next_call op w).symm
  | wait time => exact Nat.le_add_right _ _
  | closeCache => exact Nat.le_refl _

/-- Time does not run backwards. -/
theorem clock_le_after (w : World) (events : List Event) :
    w.clock ≤ (w.after events).clock :=
  after_induction (I := fun v => w.clock ≤ v.clock) (Nat.le_refl _) fun v e _ hv =>
    Nat.le_trans hv (clock_le_next e v)

/-- Before the end of the calendar the time is one of the calendar. -/
theorem valid_now (h : w.clock < calendarEnd) : w.now.Valid :=
  Timestamp.ofMicros_valid h

/-- What every event keeps that comes before the end of the calendar is kept in every run
that ends before it. -/
theorem after_induction_in_time {I : World → Prop} {events : List Event}
    (htime : (w.after events).clock < calendarEnd) (hstart : I w)
    (hstep : ∀ v e, e ∈ events → I v → v.clock < calendarEnd → I (e.next v)) :
    I (w.after events) := by
  induction events generalizing w with
  | nil => exact hstart
  | cons e events ih =>
    rw [after_cons] at htime ⊢
    have hnext := clock_le_after (e.next w) events
    have hclock := clock_le_next e w
    have hfirst := hstep w e List.mem_cons_self hstart (by omega)
    exact ih htime hfirst fun v e' he' => hstep v e' (List.mem_cons_of_mem e he')

/-- No event spoils the rows, as long as the calendar lasts. -/
theorem fits_next {e : Event} (hw : w.database.Fits) (he : e.Fits)
    (htime : w.clock < calendarEnd) : (e.next w).database.Fits := by
  cases e with
  | wait time => exact hw
  | closeCache => exact hw
  | call op =>
    rcases op.toggle_or_agreeOff w with
      ⟨userId, r, requestId, l, rfl, hchange⟩ |
      ⟨userId, r, requestId, f, rfl, hchange⟩ | hagree
    · exact (Like.fits_toggle hw he.1 he.2 (valid_now htime) hchange).1
    · exact (Favorite.fits_toggle hw he.1 he.2 (valid_now htime) hchange).1
    · exact ⟨hw.likes.agreeOff hagree (by decide), hw.favorites.agreeOff hagree (by decide)⟩

/-- What is stored stays in range along every run that ends within the calendar. -/
theorem fits_after {events : List Event} (hw : w.database.Fits)
    (hevents : ∀ e ∈ events, e.Fits) (htime : (w.after events).clock < calendarEnd) :
    (w.after events).database.Fits :=
  after_induction_in_time (I := fun v => v.database.Fits) htime hw fun _ e he hv hclock =>
    fits_next hv (hevents e he) hclock

end World

end Community

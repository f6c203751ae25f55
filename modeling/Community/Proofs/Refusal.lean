import Community.Proofs.Category.Path
import Community.Proofs.Footprint
import Community.Proofs.Relation.Request

/-!
# A refusal leaves no trace

An operation that changes something either does all of it or, if it fails, nothing:

> `refusal_leaves_no_trace`: after a failure every table is what it was, and so is the
> cache, except that a toggle has looked for its marker.

Changes of categories and profiles ask first, then write one row, and then only remove
what is kept; the row that they write can always be read back, since it is made from
values and not from columns. A toggle changes two tables by one transaction, and the
second change is where most of its failures are.
-/

namespace Community

open Procedure Database

/-! ## Changes of categories and profiles -/

namespace Category

/-- A category that is not created leaves everything as it was. -/
theorem failsCleanly_create (r : NewCategory) : FailsCleanly (create r) := by
  refine .bind_asked (.check _) fun _ => .bind_asked (leaves_ensureParent _) fun _ => ?_
  refine .bind_asked (leaves_ensureFreeName _ _ _) fun _ => .bind_asked .now fun now => ?_
  refine .bind_succeeds (.writeRow fun db row db' h => ?_) fun c => ?_
  · -- the row is written from a category, and is read as that category
    obtain ⟨t, id, -, -, rfl, -⟩ := insert_eq_ok h
    exact ⟨_, Columns.read?_stored _⟩
  · exact .bind (.forgetFamilies _) fun _ => .pure _

/-- So does one that is not changed. -/
theorem failsCleanly_change (id : Int) (r : CategoryChange) :
    FailsCleanly (change id r) := by
  refine .bind_asked (.check _) fun _ => .bind_asked (.query _) fun found => ?_
  cases found with
  | none => exact .throw _
  | some c =>
    refine .bind_asked .now fun now => .bind_asked (leaves_ensureChange id c _) fun _ => ?_
    refine .bind_succeeds (.writeRow fun db row db' h => ?_) fun c => ?_
    · obtain ⟨t, _, _, _, -, -, -, -, rfl, -⟩ := replace_eq_ok h
      exact ⟨_, Columns.read?_stored _⟩
    · exact .bind (.forgetFamilies _) fun _ => .pure _

/-- So does one that is not removed. -/
theorem failsCleanly_remove (id : Int) : FailsCleanly (remove id) := by
  refine .bind_asked (leaves_ensureUnused id) fun _ =>
    .bind_succeeds (.transact _) fun _ => ?_
  exact .forgetFamilies _

end Category

namespace User

theorem Columns.read?_stored (u : User) : Columns.read? u.stored = some u := rfl

/-- A profile that is not changed leaves everything as it was. -/
theorem failsCleanly_change (id : Int) (r : ProfileChange) : FailsCleanly (change id r) := by
  refine .bind_asked (.check _) fun _ => .bind_asked (.query _) fun found => ?_
  cases found with
  | none => exact .throw _
  | some u =>
    refine .bind_asked (leaves_ensureFreeUsername u r) fun _ => ?_
    refine .bind_asked (leaves_ensureFreeEmail u r) fun _ => .bind_asked .now fun now => ?_
    refine .bind_succeeds (.writeRow fun db row db' h => ?_) fun u => ?_
    · obtain ⟨t, _, _, _, -, -, -, -, rfl, -⟩ := replace_eq_ok h
      exact ⟨_, Columns.read?_stored _⟩
    · exact .bind (.forget _) fun _ => .bind (.forgetFamilies _) fun _ => .pure _

end User

/-! ## Toggles -/

/-- What a look for a value can do to the cache: nothing is asked, or the text is read, or it
is read, does not decode, and is removed. -/
inductive Cache.Looked (α : Type) [Json.Decode α] (now : Nat) (key : String) (c : Cache) :
    Cache → Prop
  | not : Looked α now key c c
  | read : Looked α now key c (c.getText now key).2
  | removed {text : String} {fault : Json.Fault} (htext : (c.getText now key).1 = some text)
    (hparse : (Json.parse text : Except Json.Fault α) = .error fault) :
    Looked α now key c ((c.getText now key).2.delete key)

/-- A lookup of a value is a look at its key. -/
theorem Cache.looked_get {α : Type} [Json.Decode α] (c : Cache) (now : Nat) (key : String) :
    Looked α now key c (c.get now key : Option α × Cache).2 := by
  rcases get_cases (α := α) c now key with h | ⟨⟨text, fault, htext, hparse⟩, h⟩
  · rw [h]
    exact .read
  · rw [h]
    exact .removed htext hparse

/-- A lookup is one call, and a hit is recorded as one. -/
theorem Cache.calls_getText (c : Cache) (now : Nat) (key : String) :
    ∃ finding, (c.getText now key).2.calls = c.calls ++ [.get key finding] ∧
      (∀ text, (c.getText now key).1 = some text → finding = .hit) := by
  unfold getText
  split
  · exact ⟨.error, rfl, fun text h => by cases h⟩
  · rcases c.store.get now key with ⟨_ | text, store⟩
    · exact ⟨.miss, rfl, fun text h => by cases h⟩
    · exact ⟨.hit, rfl, fun _ _ => rfl⟩

/-- A deletion is one call. -/
theorem Cache.calls_delete (c : Cache) (key : String) :
    ∃ count, (c.delete key).calls = c.calls ++ [.delete key count] := by
  unfold delete
  split
  · exact ⟨none, rfl⟩
  · exact ⟨some _, rfl⟩

/-- The calls of the store that a look makes: a read of the key, and its removal only after a
text was found there. -/
theorem Cache.Looked.calls {α : Type} [Json.Decode α] {now : Nat} {key : String}
    {c c' : Cache} (h : Looked α now key c c') :
    c'.calls = c.calls ∨ (∃ finding, c'.calls = c.calls ++ [.get key finding]) ∨
      ∃ count, c'.calls = c.calls ++ [.get key .hit, .delete key count] := by
  obtain ⟨finding, hget, hhit⟩ := c.calls_getText now key
  cases h with
  | not => exact Or.inl rfl
  | read => exact Or.inr (Or.inl ⟨finding, hget⟩)
  | removed htext _ =>
    -- there was a text to decode, so the read was a hit
    obtain ⟨count, hdelete⟩ := (c.getText now key).2.calls_delete key
    refine Or.inr (Or.inr ⟨count, ?_⟩)
    rw [hdelete, hget, hhit _ htext, List.append_assoc]
    rfl

/-- What a failed toggle leaves: the world as it was, but for a look for the marker. The
calls of the store tell the same: no family is removed, and nothing is kept. -/
def World.OnlyLooked (α : Type) [Json.Decode α] (marker : String) (w w' : World) : Prop :=
  ∃ c, w' = { w with cache := c } ∧ Cache.Looked α w.clock marker w.cache c ∧
    (c.calls = w.cache.calls ∨
      (∃ finding, c.calls = w.cache.calls ++ [.get marker finding]) ∨
      ∃ count, c.calls = w.cache.calls ++ [.get marker .hit, .delete marker count])

/-- A toggle that fails has done no more than look for its marker. -/
theorem Relation.onlyLooked_request {ρ ω : Type} [Encode ω] [Json.Decode ω]
    {issues : List Issue} {marker : String}
    {change : Time.Timestamp → Database → Except Problem (ρ × Database)}
    {families : List String} {outcome : ρ → ω} {w w' : World} {p : Problem}
    (h : (request issues marker (carryOut change families outcome)).perform w =
      (.error p, w')) : World.OnlyLooked ω marker w w' := by
  have hanswered : Answered issues marker change families outcome w (.error p, w') := by
    rw [← h]
    exact request_answered w
  -- the other two answers are successes
  cases hanswered with
  | refused =>
    have hlooked : Cache.Looked ω w.clock marker w.cache w.cache := .not
    exact ⟨_, rfl, hlooked, hlooked.calls⟩
  | failed _ hget _ =>
    have hlooked := Cache.looked_get (α := ω) w.cache w.clock marker
    rw [hget] at hlooked
    exact ⟨_, rfl, hlooked, hlooked.calls⟩

/-! ## All of them -/

/-- An operation that fails changes no table, and has made no call of the cache, except that
a toggle has looked for its marker. -/
theorem refusal_leaves_no_trace (w : World) :
    (∀ userId r requestId p w',
      (Like.request userId r requestId).perform w = (.error p, w') →
        w'.database = w.database ∧
        World.OnlyLooked LikeOutcome (Like.markerKey userId r requestId) w w') ∧
    (∀ userId r requestId p w',
      (Favorite.request userId r requestId).perform w = (.error p, w') →
        w'.database = w.database ∧
        World.OnlyLooked FavoriteOutcome (Favorite.markerKey userId r requestId) w w') ∧
    (∀ r p w', (Category.create r).perform w = (.error p, w') → w' = w) ∧
    (∀ id r p w', (Category.change id r).perform w = (.error p, w') → w' = w) ∧
    (∀ id p w', (Category.remove id).perform w = (.error p, w') → w' = w) ∧
    (∀ id r p w', (User.change id r).perform w = (.error p, w') → w' = w) := by
  refine ⟨?_, ?_, ?_, ?_, ?_, ?_⟩
  · intro userId r requestId p w' h
    obtain ⟨c, rfl, hlooked⟩ := Relation.onlyLooked_request h
    exact ⟨rfl, c, rfl, hlooked⟩
  · intro userId r requestId p w' h
    obtain ⟨c, rfl, hlooked⟩ := Relation.onlyLooked_request h
    exact ⟨rfl, c, rfl, hlooked⟩
  · exact fun r => Category.failsCleanly_create r w
  · exact fun id r => Category.failsCleanly_change id r w
  · exact fun id => Category.failsCleanly_remove id w
  · exact fun id r => User.failsCleanly_change id r w

/-- A like of a comment that is not there: the row of the like is written
first, and is gone. -/
theorem refusal_leaves_no_trace_sample :
    ∃ w', (Like.request 1 ⟨.comment, 3, none, none, none, none⟩ none).perform World.sample
        = (.error (.targetMissing .commentLikes 3), w') ∧
      w'.database = World.sample.database := by
  have hfails :
      (Like.request 1 ⟨.comment, 3, none, none, none, none⟩ none).perform World.sample
      = (.error (.targetMissing .commentLikes 3), _) := rfl
  exact ⟨_, hfails, ((refusal_leaves_no_trace World.sample).1 _ _ _ _ _ hfails).1⟩

end Community

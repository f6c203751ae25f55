import Community.Proofs.Cache.Cached
import Community.Proofs.Relation.Call
import Community.Proofs.User.Change

/-!
# Where the entries of the cache come from

A value gets into the cache in one way. It was asked for and not found there; then it is
what the database says, and it is kept under its key for the time that its kind is kept:

> `Operation.origin_next`: an entry under the key of a value that is there after an
> operation was there before, or was written by it, in this way.

Nothing is taken from one entry and kept in another, and an entry that is read is not kept
anew. Whatever fails, entries are only lost.
-/

namespace Community

open Json Procedure Database

namespace Cached

/-- How long a value is kept, in milliseconds. -/
def ttl : Cached → Cache.Policy → Nat
  | category _ | forest | profile _ => Cache.Policy.detail
  | users .. | favorites .. => Cache.Policy.list

/-- `a` is the reading of a value through the cache. If the value is not found there, it is
what the database says, and nothing else happens. -/
def ReadBy (c : Cached) (a : Procedure c.Value) : Prop :=
  ∃ compute : Procedure c.Value, a = readThrough c.key c.ttl compute ∧
    ∀ w, compute.perform w = (c.answer w.database, w)

/-- A category is read through the entry of its key. -/
theorem readBy_view (id : Int) : (category id).ReadBy (Category.view id) := by
  refine ⟨_, rfl, fun w => ?_⟩
  have hactive : (Category.findActive id).perform w = (active id w.database, w) :=
    perform_bind_asked (perform_query _ w) fun _ => rfl
  refine perform_bind_asked hactive fun found => ?_
  cases found <;> rfl

/-- The tree is read through its one entry. -/
theorem readBy_tree : forest.ReadBy Category.tree :=
  ⟨_, rfl, fun w => perform_bind_asked (perform_query _ w) fun _ => rfl⟩

/-- The profile as it is kept, before it is shown to a viewer. -/
theorem readBy_profile (id : Int) : ∃ a : Procedure Profile, (profile id).ReadBy a ∧
    ∀ viewer, User.profile id viewer = (do let p ← a; return User.shownTo viewer id p) := by
  refine ⟨_, ⟨_, rfl, fun w => ?_⟩, fun viewer => rfl⟩
  refine perform_bind_asked (perform_query _ w) fun found => ?_
  cases found <;> rfl

/-- A page of users is read through the entry of its filter and page. -/
theorem readBy_users (filter : UserFilter) (p : Page) :
    (users (User.keywordOf filter) filter.status filter.role p).ReadBy
      (User.list filter p) :=
  ⟨_, rfl, fun w => perform_bind_asked (perform_query _ w) fun _ => rfl⟩

/-- So is a page of favorites, with the user besides. -/
theorem readBy_favorites (userId : Int) (filter : FavoriteFilter) (p : Page) :
    (favorites userId filter.favoriteType filter.wanted p).ReadBy
      (Favorite.list userId filter p) :=
  ⟨_, rfl, fun w => perform_bind_asked (perform_query _ w) fun _ => rfl⟩

/-- The entry of the value that is kept of an answer of the database. -/
def IsWrittenIn (c : Cached) (w : World) (e : Cache.Entry) : Prop :=
  ∃ a : c.Value, c.answer w.database = .ok a ∧
    e = ⟨c.key, (encode a).render, w.clock + 1000 * c.ttl w.cache.policy⟩

variable {c c' : Cached} {a : Procedure c'.Value} {w : World} {e : Cache.Entry}

/-- A reading leaves the database alone. -/
theorem ReadBy.database (h : c'.ReadBy a) (w : World) :
    (a.perform w).2.database = w.database := by
  obtain ⟨compute, rfl, hcompute⟩ := h
  rw [perform_readThrough]
  rcases (w.cache.get w.clock c'.key : Option c'.Value × Cache) with ⟨_ | b, cache⟩
  · dsimp only
    rw [hcompute]
    cases c'.answer w.database <;> rfl
  · rfl

/-- A reading keeps the answer of the database, if anything. -/
theorem ReadBy.origin (h : c'.ReadBy a)
    (he : (a.perform w).2.cache.store.find? c.key = some e) :
    w.cache.store.find? c.key = some e ∨ c.IsWrittenIn w e := by
  obtain ⟨compute, rfl, hcompute⟩ := h
  rw [perform_readThrough] at he
  have hsheds : w.cache.Sheds (w.cache.get w.clock c'.key : Option c'.Value × Cache).2 :=
    Cache.sheds_get
  have hsetup : (w.cache.get w.clock c'.key : Option c'.Value × Cache).2.setup =
      w.cache.setup :=
    Cache.setup_get
  rcases hget : (w.cache.get w.clock c'.key : Option c'.Value × Cache) with ⟨_ | b, cache⟩
  · rw [hget] at hsheds hsetup he
    dsimp only at he
    rw [hcompute] at he
    cases hanswer : c'.answer w.database with
    | error p =>
      rw [hanswer] at he
      exact Or.inl (hsheds _ e he)
    | ok b =>
      rw [hanswer] at he
      rcases Cache.find?_of_find?_set he with hbefore | ⟨hkey, rfl⟩
      · exact Or.inl (hsheds _ e hbefore)
      · cases key_injective hkey
        have hpolicy : cache.policy = w.cache.policy := congrArg Prod.fst hsetup
        exact Or.inr ⟨b, hanswer, by rw [← hpolicy]⟩
  · rw [hget] at hsheds he
    exact Or.inl (hsheds _ e he)

/-- No value is kept under a marker. -/
theorem key_ne_marker (c : Cached) (i : Toggle.Identity) : c.key ≠ i.marker := by
  intro h
  cases c with
  | category | profile | users | favorites =>
    exact Toggle.Identity.marker_ne_keyOf rfl (by decide) h.symm
  | forest => exact Toggle.Identity.marker_ne (c := 'c') rfl (by decide) h.symm

end Cached

/-! ## Changes only take away -/

section Changes

variable {w w' : World}

/-- A change of categories brings nothing into the cache. -/
theorem Category.Changed.sheds (h : Changed w w') : w.cache.Sheds w'.cache := by
  cases h with
  | refused => exact fun _ _ he => he
  | created | replaced | removed => exact Cache.sheds_deletePatterns

/-- Nor does a change of the profile. -/
theorem User.sheds_change (id : Int) (r : ProfileChange) (w : World) :
    w.cache.Sheds ((change id r).perform w).2.cache := by
  rcases hperform : (change id r).perform w with ⟨p | p, w'⟩
  · rw [failsCleanly_change id r w p w' hperform]
    exact fun _ _ he => he
  · obtain ⟨u, row, db, -, -, -, rfl⟩ := change_eq_ok hperform
    exact Cache.sheds_delete.trans Cache.sheds_deletePatterns

/-- A toggle keeps nothing but its marker. -/
theorem Relation.sheds_request {ρ ω : Type} [Encode ω] [Decode ω] {issues : List Issue}
    {marker key : String}
    {change : Time.Timestamp → Database → Except Problem (ρ × Database)}
    {families : List String} {outcome : ρ → ω} {e : Cache.Entry} (hkey : key ≠ marker)
    (he :
      ((request issues marker (carryOut change families outcome)).perform
        w).2.cache.store.find? key = some e) : w.cache.store.find? key = some e := by
  have hsheds : w.cache.Sheds (w.cache.get w.clock marker : Option ω × Cache).2 :=
    Cache.sheds_get
  have hanswered : Answered issues marker change families outcome w _ := request_answered w
  generalize (request issues marker (carryOut change families outcome)).perform w = x
    at hanswered he
  cases hanswered with
  | refused => exact he
  | repeated _ hget | failed _ hget _ =>
    rw [hget] at hsheds
    exact hsheds _ e he
  | done _ hget =>
    rw [hget] at hsheds
    rw [Cache.set, Cache.find?_setText_ne hkey] at he
    exact hsheds _ e (Cache.sheds_deletePatterns _ e he)

end Changes

/-! ## Operations -/

namespace Operation

/-- An operation without keys and families has nothing to do with the cache. -/
theorem cache_next {op : Operation} (hkeys : op.keys = []) (hfamilies : op.families = [])
    (w : World) : (op.next w).cache = w.cache := by
  have hblind : Blind World.cache op.tables op.keys op.families := by
    rw [hkeys, hfamilies]
    exact ⟨fun _ _ _ => rfl, fun _ _ h => absurd h List.not_mem_nil,
      fun _ _ _ _ h => absurd h List.not_mem_nil, fun _ _ h =>
        absurd h List.not_mem_nil, fun _ => rfl⟩
  exact leaves hblind w

/-- An entry of a value that is there after an operation was there before, or is what the
database has just said. -/
theorem origin_next {c : Cached} {w : World} {e : Cache.Entry} (op : Operation)
    (he : (op.next w).cache.store.find? c.key = some e) :
    w.cache.store.find? c.key = some e ∨ c.IsWrittenIn w e := by
  cases op with
  | viewCategory id =>
    rw [next, run, snd_perform_silently] at he
    exact (Cached.readBy_view id).origin he
  | viewTree =>
    rw [next, run, snd_perform_silently] at he
    exact Cached.readBy_tree.origin he
  | viewProfile id viewer =>
    obtain ⟨a, hread, hprofile⟩ := Cached.readBy_profile id
    have hsame : ((User.profile id viewer).perform w).2 = (a.perform w).2 := by
      rw [hprofile, perform_bind]
      rcases a.perform w with ⟨_ | _, v⟩ <;> rfl
    rw [next, run, snd_perform_silently, hsame] at he
    exact hread.origin he
  | listUsers filter page =>
    rw [next, run, snd_perform_silently] at he
    exact (Cached.readBy_users filter page).origin he
  | listFavorites userId filter page =>
    rw [next, run, snd_perform_silently] at he
    exact (Cached.readBy_favorites userId filter page).origin he
  | createCategory r =>
    rw [next, run, snd_perform_silently] at he
    exact Or.inl ((Category.changed_create r w).sheds _ e he)
  | changeCategory id r =>
    rw [next, run, snd_perform_silently] at he
    exact Or.inl ((Category.changed_change id r w).sheds _ e he)
  | removeCategory id =>
    rw [next, run, snd_perform_silently] at he
    exact Or.inl ((Category.changed_remove id w).sheds _ e he)
  | changeProfile id r =>
    rw [next, run, snd_perform_silently] at he
    exact Or.inl (User.sheds_change id r w _ e he)
  | toggleLike userId r requestId =>
    rw [next, run, snd_perform_silently] at he
    exact Or.inl (Relation.sheds_request
      (c.key_ne_marker (Toggle.like userId r requestId).identity) he)
  | toggleFavorite userId r requestId =>
    rw [next, run, snd_perform_silently] at he
    exact Or.inl (Relation.sheds_request
      (c.key_ne_marker (Toggle.favorite userId r requestId).identity) he)
  | _ =>
    rw [cache_next rfl rfl] at he
    exact Or.inl he

end Operation

/-- An entry was there before an event, or was written in it. -/
theorem Event.origin_next {c : Cached} {w : World} {entry : Cache.Entry} (e : Event)
    (h : (e.next w).cache.store.find? c.key = some entry) :
    w.cache.store.find? c.key = some entry ∨ c.IsWrittenIn w entry := by
  cases e with
  | call op => exact op.origin_next h
  | wait time => exact Or.inl h
  | closeCache => exact Or.inl (Cache.sheds_close _ entry h)

end Community

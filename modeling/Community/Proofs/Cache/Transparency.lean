import Community.Proofs.Cache.Coherence
import Community.Proofs.Relation.Replay

/-!
# Caching is transparent

Five of the services answer from the cache where they can, and nobody can
tell from their answers:

> `cached_reads_are_fresh`: whatever has happened since the start, they answer what they
> would without a cache, problems included.

All that it takes is a start at which nothing can be read from the cache, and that
removals do not fail. Reads and writes of the cache may, the cache may be closed, and time
may pass, since a cache is truthful about what has expired too
(`World.Undisturbed.coherent_after`). A forest that is too deep for its text to be read
again is kept in vain and assembled anew each time.
-/

namespace Community

open Procedure

namespace World

variable {w start : World}

/-- A run from a start at which nothing can be read from the cache, in which no removal
fails. Its timestamps are of the calendar from the first to the last. -/
structure Undisturbed (start : World) (events : List Event) : Prop where
  dated : start.database.Dated
  time : (start.after events).clock < Time.calendarEnd
  removes : start.cache.Removes
  unread : ∀ (c : Cached) (a : c.Value), ¬ start.cache.Stores c.key a

/-- What every event keeps: timestamps of the calendar, removals that do not fail, and a
cache that is truthful. -/
structure Coherent (w : World) : Prop where
  dated : w.database.Dated
  removes : w.cache.Removes
  truthful : w.Truthful

theorem Undisturbed.coherent {events : List Event} (h : start.Undisturbed events) :
    start.Coherent :=
  ⟨h.dated, h.removes, fun c a hstores => absurd hstores (h.unread c a)⟩

theorem coherent_next {e : Event} (hw : w.Coherent) (htime : w.clock < Time.calendarEnd) :
    (e.next w).Coherent :=
  ⟨dated_next hw.dated htime, hw.removes.of_setup (setup_next e w),
    e.truthful_next hw.dated hw.removes hw.truthful⟩

/-- After every run the cache is truthful. -/
theorem Undisturbed.coherent_after {events : List Event} (h : start.Undisturbed events) :
    (start.after events).Coherent :=
  after_induction_in_time h.time h.coherent fun _ _ _ => coherent_next

end World

/-- Where the cache is truthful, a reader answers what it would without a cache. -/
theorem Cached.ReadBy.outcome_eq_uncached {c : Cached} {a : Procedure c.Value} {w : World}
    (h : c.ReadBy a) (hw : w.Truthful) : a.outcome w = a.uncached w := by
  rw [h.outcome_eq (hw c), h.uncached_eq]

/-- Whatever the service has done, single categories, the forest, profiles, lists of users
and lists of favourites are answered as they would be without a cache. -/
theorem cached_reads_are_fresh (start : World) (events : List Event)
    (h : start.Undisturbed events) : let now := start.after events
    (∀ id, (Category.view id).outcome now = (Category.view id).uncached now) ∧
    Category.tree.outcome now = Category.tree.uncached now ∧
    (∀ id viewer, (User.profile id viewer).outcome now =
      (User.profile id viewer).uncached now) ∧
    (∀ filter page, (User.list filter page).outcome now =
      (User.list filter page).uncached now) ∧
    ∀ userId filter page,
      (Favorite.list userId filter page).outcome now =
        (Favorite.list userId filter page).uncached now := by
  intro now
  have hnow : now.Truthful := h.coherent_after.truthful
  refine ⟨fun id => ?_, ?_, fun id viewer => ?_, fun filter page => ?_,
    fun userId filter page => ?_⟩
  · exact (Cached.readBy_view id).outcome_eq_uncached hnow
  · exact Cached.readBy_tree.outcome_eq_uncached hnow
  · -- the mask is put on after the reading, with a cache and without
    obtain ⟨a, hread, hprofile⟩ := Cached.readBy_profile id
    rw [hprofile]
    exact outcome_map_eq_uncached (hread.outcome_eq_uncached hnow) (User.shownTo viewer id)
  · exact (Cached.readBy_users filter page).outcome_eq_uncached hnow
  · exact (Cached.readBy_favorites userId filter page).outcome_eq_uncached hnow

/-- A profile that has been read and then changed is answered with the change. -/
theorem cached_reads_are_fresh_sample :
    let events : List Event := [.call (.viewProfile 1 none),
      .call (.changeProfile 1 ⟨none, none, some "Countess", none, none, none, none⟩),
      .wait 1000]
    World.sample.Undisturbed events ∧
      (User.profile 1 none).outcome (World.sample.after events)
        = (User.profile 1 none).uncached (World.sample.after events) := by
  intro events
  have hrun : World.sample.Undisturbed events := by
    refine ⟨⟨fun c hc => ?_, fun u hu => ?_, fun f hf => ?_⟩, by decide, fun _ => ⟨rfl, rfl⟩,
      fun c a hstores => ?_⟩
    · exact absurd hc List.not_mem_nil
    · cases List.mem_singleton.mp hu
      exact ⟨nofun, by decide⟩
    · exact absurd hf List.not_mem_nil
    · obtain ⟨e, hfind, -⟩ := hstores
      cases hfind
  exact ⟨hrun, (cached_reads_are_fresh World.sample events hrun).2.2.1 1 none⟩

end Community

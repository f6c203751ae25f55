import Community.Proofs.Cache.Recency

/-!
# How long the forest is kept

Lists and the forest should be no older than a list may be. The forest is kept as a single
thing is, so that this depends on which of the two times is the longer one:

> `forest_lifetime`: the forest is never older than a single thing may be; it is never older
> than a list may be if and only if single things are not kept longer than lists.

For the second half a run is needed in which the forest is too old. The forest of no
categories is read, another service adds a category, and as much time passes as lists are
kept. What has been read is still answered then (`Cached.ReadBy.lingers`).
-/

namespace Community

open Json Procedure Database

/-- What has been read and kept is answered until its time is over, whatever is
written meanwhile. -/
theorem Cached.ReadBy.lingers {c : Cached} {a : Procedure c.Value} {w : World} {b : c.Value}
    (h : c.ReadBy a) (hsteady : w.cache.IsSteady) (hnone : w.cache.store.find? c.key = none)
    (hanswer : c.answer w.database = .ok b) (hparse : parse (encode b).render = .ok b)
    (db : Database) {time : Nat} (htime : time < 1000 * c.ttl w.cache.policy) :
    (a.outcome { database := db, cache := (a.perform w).2.cache,
                 clock := w.clock + time }).1 = .ok b := by
  obtain ⟨compute, rfl, hcompute⟩ := h
  -- the first reading keeps the answer
  have hfetch : (w.cache.get w.clock c.key : Option c.Value × Cache).1 = none :=
    Cache.get_of_stale fun e he => by rw [hnone] at he; cases he
  have hsetup : (w.cache.get w.clock c.key : Option c.Value × Cache).2.setup =
      w.cache.setup :=
    Cache.setup_get
  have hfirst : ((readThrough c.key c.ttl compute).perform w).2.cache =
      (w.cache.get w.clock c.key : Option c.Value × Cache).2.set w.clock c.key b
        (c.ttl w.cache.policy) := by
    rw [perform_readThrough]
    rcases hget : (w.cache.get w.clock c.key : Option c.Value × Cache) with ⟨found, cache⟩
    rw [hget] at hfetch hsetup
    obtain rfl : found = none := hfetch
    have hpolicy : cache.policy = w.cache.policy := congrArg Prod.fst hsetup
    dsimp only
    rw [hcompute, hanswer, ← hpolicy]
  have hkept : ((readThrough c.key c.ttl compute).perform w).2.cache.store.find? c.key
      = some ⟨c.key, (encode b).render, w.clock + 1000 * c.ttl w.cache.policy⟩ := by
    rw [hfirst]
    exact Cache.find?_set_self (hsteady.of_setup hsetup)
  -- the second one finds it
  have hlater : ((readThrough c.key c.ttl compute).perform w).2.cache.IsSteady := by
    rw [hfirst]
    exact hsteady.of_setup (Cache.setup_set.trans hsetup)
  rw [outcome, perform_readThrough]
  dsimp only
  rw [Cache.get_of_kept hlater hkept (by omega) hparse]

namespace World

variable {α : Type} {start : World} {incidents : List Incident} {ttl ttl' : Nat}
  {a : Procedure α}

/-- What is recent within a ttl is recent within a longer one. -/
theorem AnswersRecently.mono (h : start.AnswersRecently incidents ttl a) (hle : ttl ≤ ttl') :
    start.AnswersRecently incidents ttl' a := by
  refine ⟨fun x hx => (h.ok x hx).imp_right ?_, h.error⟩
  rintro ⟨before, after, hincidents, hlive, hanswer⟩
  exact ⟨before, after, hincidents, by omega, hanswer⟩

/-- Nothing is older than the calendar. -/
theorem AnswersRecently.of_calendar (h : start.AnswersRecently incidents ttl a)
    (htime : (start.through incidents).clock < Time.calendarEnd)
    (hle : Time.calendarEnd ≤ 1000 * ttl') : start.AnswersRecently incidents ttl' a := by
  refine ⟨fun x hx => (h.ok x hx).imp_right ?_, h.error⟩
  rintro ⟨before, after, hincidents, -, hanswer⟩
  exact ⟨before, after, hincidents, by omega, hanswer⟩

/-! ## A forest that is too old -/

/-- A world without any rows. -/
def blank (policy : Cache.Policy) : World where
  database := .fresh
  cache := { policy := policy }
  clock := 0

/-- The database with one category. -/
def planted : Database :=
  { Database.fresh with categories := ⟨some ⟨[Category.sample.stored], 1⟩, none⟩ }

/-- The forest is read, another service adds a category, and time passes. -/
def overlooking (time : Nat) : List Incident :=
  [.event (.call .viewTree), .rewrite planted, .event (.wait time)]

variable {policy : Cache.Policy} {time : Nat}

theorem clock_viewTree : (Operation.next .viewTree (blank policy)).clock = 0 :=
  clock_next_call .viewTree (blank policy)

/-- What is left when another writer has planted a category, and time has passed. -/
theorem through_overlooking : (blank policy).through (overlooking time) =
    { database := planted, cache := (Category.tree.perform (blank policy)).2.cache
      clock := (blank policy).clock + time } := by
  have hnext : Operation.next .viewTree (blank policy) =
      (Category.tree.perform (blank policy)).2 :=
    Operation.snd_perform_silently Category.tree (blank policy)
  have hclock : (Category.tree.perform (blank policy)).2.clock = 0 := hnext ▸ clock_viewTree
  simp only [overlooking, through_cons, through_nil, Incident.next, Event.next,
    hnext, hclock]
  rfl

/-- The tree of an empty database is empty. -/
theorem answer_blank : Cached.forest.answer (blank policy).database = .ok [] := by
  have hselect : select (fun c : Category.Row => c.isShown) Category.listOrder
      (blank policy).database
      = .ok [] := by
    rw [select_of_table (t := ⟨[], 0⟩) rfl]
    exact congrArg Except.ok List.mergeSort_nil
  rw [Cached.answer, Category.allActive, Database.all, hselect]
  rfl

/-- The forest that the database has then is not empty. -/
theorem answer_planted : Cached.forest.answer planted ≠ .ok [] := by
  have hselect : select (fun c : Category.Row => c.isShown) Category.listOrder planted
      = .ok [Category.sample.stored] := by
    rw [select_of_table (t := ⟨[Category.sample.stored], 1⟩) rfl]
    exact congrArg Except.ok (List.mergeSort_singleton _)
  rw [Cached.answer, Category.allActive, Database.all, hselect]
  intro h
  cases h

theorem dated_planted : planted.Dated := by
  refine ⟨fun c hc => ?_, fun _ hu => absurd hu List.not_mem_nil,
    fun _ hf => absurd hf List.not_mem_nil⟩
  rw [List.mem_singleton.mp hc]
  exact ⟨by decide, by decide⟩

/-- This is a run of the shared database, while the clock is within the calendar. -/
theorem shared_overlooking (htime : time < Time.calendarEnd) :
    (blank policy).Shared (overlooking time) := by
  refine ⟨⟨?_, ?_, ?_⟩, fun db hdb => ?_, ?_, fun c a hstores => ?_⟩
  · exact fun _ hc => absurd hc List.not_mem_nil
  · exact fun _ hu => absurd hu List.not_mem_nil
  · exact fun _ hf => absurd hf List.not_mem_nil
  · obtain rfl : db = planted := by simpa [overlooking] using hdb
    exact dated_planted
  · rw [through_overlooking]
    exact Nat.lt_of_le_of_lt (Nat.le_of_eq (Nat.zero_add time)) htime
  · obtain ⟨e, hfind, -⟩ := hstores
    cases hfind

/-- Without the cache the tree of the planted database is not empty. -/
theorem uncached_planted {w : World} (h : w.database = planted) :
    (Category.tree.uncached w).1 ≠ .ok [] := by
  have huncached := Cached.readBy_tree.uncached_eq w
  rw [h] at huncached
  intro hempty
  exact answer_planted ((congrArg Prod.fst huncached).symm.trans hempty)

/-- The forest without the category is answered when lists are no longer kept. -/
theorem outcome_overlooking (h : time < 1000 * policy.detail) :
    (Category.tree.outcome ((blank policy).through (overlooking time))).1 = .ok [] := by
  rw [through_overlooking]
  exact Cached.readBy_tree.lingers (fun _ _ => rfl) rfl answer_blank rfl planted h

/-- It is no forest of the time since. -/
theorem not_answersRecently (h : policy.list < policy.detail) :
    ¬(blank policy).AnswersRecently (overlooking (1000 * policy.list)) policy.list
      Category.tree := by
  intro hrecent
  have hnow :
      ((blank policy).through (overlooking (1000 * policy.list))).database = planted := by
    rw [through_overlooking]
  rcases hrecent.ok [] (outcome_overlooking (by omega)) with
    hempty | ⟨before, after, hincidents, hlive, hempty⟩
  · exact uncached_planted hnow hempty
  rcases List.eq_nil_or_concat' after with rfl | ⟨after, last, rfl⟩
  · rw [List.append_nil] at hincidents
    exact uncached_planted hnow (hincidents ▸ hempty)
  · -- no time has passed before the last of the three
    have hbefore : before ++ after = [.event (.call .viewTree), .rewrite planted] := by
      have hinit := congrArg List.dropLast hincidents
      rw [← List.append_assoc, List.dropLast_concat] at hinit
      exact hinit.symm
    have hthrough : ((blank policy).through before).through after
        = (blank policy).through (before ++ after) := List.foldl_append.symm
    have hle := clock_le_through ((blank policy).through before) after
    rw [hthrough, hbefore] at hle
    have hzero : ((blank policy).through before).clock ≤ 0 :=
      Nat.le_trans hle (Nat.le_of_eq clock_viewTree)
    rw [through_overlooking] at hlive
    have hlive : 0 + 1000 * policy.list < ((blank policy).through before).clock +
        1000 * policy.list := hlive
    omega

end World

/-- The forest is never older than a single thing may be. That is not older than a list may
be, unless lists are kept for a shorter time. -/
theorem forest_lifetime (policy : Cache.Policy) :
    (∀ (start : World) (incidents : List Incident), start.cache.policy = policy →
      start.Shared incidents → start.AnswersRecently incidents policy.detail Category.tree) ∧
    ((∀ (start : World) (incidents : List Incident), start.cache.policy = policy →
        start.Shared incidents → start.AnswersRecently incidents policy.list Category.tree) ↔
      policy.detail ≤ policy.list ∨ Time.calendarEnd ≤ 1000 * policy.list) := by
  have hdetail : ∀ (start : World) (incidents : List Incident), start.cache.policy = policy →
      start.Shared incidents →
      start.AnswersRecently incidents policy.detail Category.tree := by
    rintro start incidents rfl h
    exact Cached.readBy_tree.shownBy.answersRecently h
  refine ⟨hdetail, fun h => ?_, ?_⟩
  · by_contra hnot
    obtain ⟨hshort, htime⟩ := not_or.mp hnot
    exact World.not_answersRecently (by omega)
      (h _ _ rfl (World.shared_overlooking (by omega)))
  · rintro (hle | hcalendar) start incidents hpolicy hrun
    · exact (hdetail start incidents hpolicy hrun).mono hle
    · exact (hdetail start incidents hpolicy hrun).of_calendar hrun.time hcalendar

/-- Single things are kept for half an hour and lists for five minutes, unless somebody sets
other times: then the forest is too old after five minutes. -/
theorem forest_lifetime_default :
    let policy : Cache.Policy := {}
    (World.blank policy).Shared (World.overlooking 300000000) ∧
      ¬(World.blank policy).AnswersRecently
        (World.overlooking 300000000) policy.list Category.tree :=
  ⟨World.shared_overlooking (by decide), World.not_answersRecently (by decide)⟩

end Community

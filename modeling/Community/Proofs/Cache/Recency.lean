import Community.Proofs.Cache.Coherence
import Community.Proofs.Relation.Replay

/-!
# Answers are never older than their entries live

Nothing is promised about removals here: any call of the cache may fail, and other services
may write to the database at any time, which removes nothing at all. Then what is kept may
have ceased to be true. But it was true when it was written, and it is not read once its
time is over:

> `staleness_is_bounded`: an answer is one that the database gives now, or gave at a point
> of the run that is less far back than the value is kept; and a problem is always one of
> the database now.

The argument needs no invariant about what is true, only one about where entries come from
(`World.origin_through`).
-/

namespace Community

open Json Procedure

/-- What can happen where other services write to the same database. -/
inductive Incident
  | event (e : Event)
  /-- Other services write, and the database is then this one. -/
  | rewrite (db : Database)

/-- The world after an incident. -/
def Incident.next : Incident → World → World
  | event e, w => e.next w
  | rewrite db, w => { w with database := db }

/-- The world after a run that is not the service's alone. -/
def World.through (w : World) (incidents : List Incident) : World :=
  incidents.foldl (fun v i => i.next v) w

namespace World

variable {w start : World} {incidents : List Incident}

@[simp]
theorem through_nil (w : World) : w.through [] = w := rfl

@[simp]
theorem through_cons (w : World) (i : Incident) (incidents : List Incident) :
    w.through (i :: incidents) = (i.next w).through incidents := rfl

/-! ## What every incident keeps -/

/-- No incident changes which calls of the cache fail. -/
theorem setup_through (w : World) (incidents : List Incident) :
    (w.through incidents).cache.setup = w.cache.setup := by
  induction incidents generalizing w with
  | nil => rfl
  | cons i incidents ih =>
    rw [through_cons, ih]
    cases i with
    | event e => exact setup_next e w
    | rewrite db => rfl

/-- The clock does not go back. -/
theorem clock_le_through (w : World) (incidents : List Incident) :
    w.clock ≤ (w.through incidents).clock := by
  induction incidents generalizing w with
  | nil => exact Nat.le_refl _
  | cons i incidents ih =>
    refine Nat.le_trans ?_ (ih (i.next w))
    cases i with
    | event e => exact clock_le_next e w
    | rewrite db => exact Nat.le_refl _

/-- The timestamps in the database stay of the calendar if other services write no others. -/
theorem dated_through (hw : w.database.Dated)
    (hrewrites : ∀ db, .rewrite db ∈ incidents → db.Dated)
    (htime : (w.through incidents).clock < Time.calendarEnd) :
    (w.through incidents).database.Dated := by
  induction incidents generalizing w with
  | nil => exact hw
  | cons i incidents ih =>
    rw [through_cons] at htime ⊢
    have hnext : (i.next w).database.Dated := by
      cases i with
      | rewrite db => exact hrewrites db List.mem_cons_self
      | event e =>
        have hclock := clock_le_next e w
        have hrest : (e.next w).clock ≤ _ := clock_le_through (e.next w) incidents
        have htime : ((e.next w).through incidents).clock < Time.calendarEnd := htime
        exact dated_next hw (by omega)
    exact ih hnext (fun db hdb => hrewrites db (List.mem_cons_of_mem _ hdb)) htime

/-! ## Where entries come from -/

/-- An entry was there before an incident, or was written in it. -/
theorem origin_incident {c : Cached} {entry : Cache.Entry} (i : Incident)
    (h : (i.next w).cache.store.find? c.key = some entry) :
    w.cache.store.find? c.key = some entry ∨ c.IsWrittenIn w entry := by
  cases i with
  | event e => exact e.origin_next h
  | rewrite db => exact Or.inl h

/-- An entry of a value that is there after a run was there at its start, or is what the
database said at some point of the run. -/
theorem origin_through {c : Cached} {entry : Cache.Entry}
    (h : (w.through incidents).cache.store.find? c.key = some entry) :
    w.cache.store.find? c.key = some entry ∨
      ∃ before after, incidents = before ++ after ∧
      c.IsWrittenIn (w.through before) entry := by
  induction incidents generalizing w with
  | nil => exact Or.inl h
  | cons i incidents ih =>
    rw [through_cons] at h
    rcases ih h with hnext | ⟨before, after, rfl, hwritten⟩
    · rcases origin_incident i hnext with hstart | hwritten
      · exact Or.inl hstart
      · exact Or.inr ⟨[], i :: incidents, rfl, hwritten⟩
    · exact Or.inr ⟨i :: before, after, rfl, hwritten⟩

/-- A run from a start at which nothing can be read from the cache, which may fail in every
way, on a database that other services write to. All timestamps are of the calendar. -/
structure Shared (start : World) (incidents : List Incident) : Prop where
  dated : start.database.Dated
  rewrites : ∀ db, .rewrite db ∈ incidents → db.Dated
  time : (start.through incidents).clock < Time.calendarEnd
  unread : ∀ (c : Cached) (a : c.Value), ¬ start.cache.Stores c.key a

/-- What is read from a live entry is what the database said, less far back
than the entry lives. -/
theorem Shared.serves {c : Cached} {a : c.Value} (h : start.Shared incidents)
    (hserves : (start.through incidents).cache.Serves
      (start.through incidents).clock c.key a) :
    ∃ before after, incidents = before ++ after ∧
      (start.through incidents).clock
        < (start.through before).clock + 1000 * c.ttl start.cache.policy ∧
      c.answer (start.through before).database = .ok a := by
  obtain ⟨e, hfind, hlive, hparse⟩ := hserves
  rcases origin_through hfind with hstart | ⟨before, after, rfl, b, hanswer, rfl⟩
  · exact absurd ⟨e, hstart, hparse⟩ (h.unread c a)
  · have htime : (start.through before).clock < Time.calendarEnd := by
      have hlater := clock_le_through (start.through before) after
      have hend := h.time
      rw [through, List.foldl_append] at hend
      exact Nat.lt_of_le_of_lt hlater hend
    have hdated := dated_through h.dated
      (fun db hdb => h.rewrites db (List.mem_append_left _ hdb)) htime
    have hpolicy : (start.through before).cache.policy = start.cache.policy :=
      congrArg Prod.fst (setup_through start before)
    rw [hpolicy] at hlive
    rw [(Cached.faithful_answer hdated hanswer).eq_of_parse hparse]
    exact ⟨before, after, rfl, hlive, hanswer⟩

end World

/-! ## Answers -/

/-- `a` shows the value as `view` says, from a live entry or as the database has it. -/
def Cached.ShownBy {α : Type} (c : Cached) (view : c.Value → α) (a : Procedure α) : Prop :=
  ∀ w, AnsweredFrom c.key view a w ∧ (a.uncached w).1 = (c.answer w.database).map view

/-- A reader shows what is cached as it is. -/
theorem Cached.ReadBy.shownBy {c : Cached} {a : Procedure c.Value} (h : c.ReadBy a) :
    c.ShownBy (fun b => b) a := by
  intro w
  have huncached : (a.uncached w).1 = (c.answer w.database).map fun b => b := by
    rw [h.uncached_eq]
    cases c.answer w.database <;> rfl
  refine ⟨?_, huncached⟩
  obtain ⟨compute, rfl, hcompute⟩ := h
  refine answeredFrom_readThrough (fun v v' hv => ?_) w
  rw [hcompute, hcompute, hv.database]
  exact ⟨rfl, hv⟩

/-- A function of the answer shows the same. -/
theorem Cached.ShownBy.map {α β : Type} {c : Cached} {view : c.Value → α} {a : Procedure α}
    (h : c.ShownBy view a) (f : α → β) :
    c.ShownBy (fun b => f (view b)) (do let x ← a; return f x) := by
  intro w
  obtain ⟨hfrom, huncached⟩ := h w
  refine ⟨hfrom.map f, ?_⟩
  rw [uncached, outcome_map]
  show ((a.uncached w).1.map f) = _
  rw [huncached]
  cases c.answer w.database <;> rfl

/-- After the run an answer of `a` is one that the database gives now, or gave less than
`ttl` milliseconds ago; and a problem is one of the database now. -/
structure World.AnswersRecently {α : Type} (start : World) (incidents : List Incident)
    (ttl : Nat) (a : Procedure α) : Prop where
  ok : ∀ x, (a.outcome (start.through incidents)).1 = .ok x →
    (a.uncached (start.through incidents)).1 = .ok x ∨
      ∃ before after, incidents = before ++ after ∧
        (start.through incidents).clock < (start.through before).clock + 1000 * ttl ∧
        (a.uncached (start.through before)).1 = .ok x
  error : ∀ p, (a.outcome (start.through incidents)).1 = .error p →
    (a.uncached (start.through incidents)).1 = .error p

/-- What shows something cached answers as the database did within the ttl. -/
theorem Cached.ShownBy.answersRecently {α : Type} {c : Cached} {view : c.Value → α}
    {a : Procedure α} {start : World} {incidents : List Incident} (h : c.ShownBy view a)
    (hrun : start.Shared incidents) :
    start.AnswersRecently incidents (c.ttl start.cache.policy) a := by
  obtain ⟨hfrom, -⟩ := h (start.through incidents)
  refine ⟨fun x hx => ?_, fun p hp => hfrom.uncached_eq_error hp⟩
  rcases hfrom with ⟨b, hserves, hsame⟩ | hsame
  · rw [hsame] at hx
    cases hx
    obtain ⟨before, after, hincidents, hlive, hanswer⟩ := hrun.serves hserves
    refine Or.inr ⟨before, after, hincidents, hlive, ?_⟩
    rw [(h (start.through before)).2, hanswer]
    rfl
  · rw [hsame] at hx
    exact Or.inl hx

/-- Single categories, profiles, lists of users and lists of favourites are never
older than they are kept, whatever fails and whoever writes to the database. Problems
are not kept at all. -/
theorem staleness_is_bounded (start : World) (incidents : List Incident)
    (h : start.Shared incidents) : let policy := start.cache.policy
    (∀ id, start.AnswersRecently incidents policy.detail (Category.view id)) ∧
    (∀ id viewer, start.AnswersRecently incidents policy.detail (User.profile id viewer)) ∧
    (∀ filter page, start.AnswersRecently incidents policy.list (User.list filter page)) ∧
    ∀ userId filter page,
      start.AnswersRecently incidents policy.list (Favorite.list userId filter page) := by
  intro policy
  refine ⟨fun id => ?_, fun id viewer => ?_, fun filter page => ?_,
    fun userId filter page => ?_⟩
  · exact (Cached.readBy_view id).shownBy.answersRecently h
  · -- the mask is put on after the reading, with a cache and without
    obtain ⟨a, hread, hprofile⟩ := Cached.readBy_profile id
    rw [hprofile]
    exact (hread.shownBy.map (User.shownTo viewer id)).answersRecently h
  · exact (Cached.readBy_users filter page).shownBy.answersRecently h
  · exact (Cached.readBy_favorites userId filter page).shownBy.answersRecently h

/-- A profile has been read, and another service has emptied the database since: what is
answered is from before, less than half an hour ago, or that there is no such user. -/
theorem staleness_is_bounded_sample :
    let incidents : List Incident :=
      [.event (.call (.viewProfile 1 none)), .rewrite Database.fresh, .event (.wait 1000000)]
    World.sample.Shared incidents ∧
      World.sample.AnswersRecently incidents 1800000 (User.profile 1 none) := by
  intro incidents
  have hrun : World.sample.Shared incidents := by
    refine ⟨⟨fun c hc => ?_, fun u hu => ?_, fun f hf => ?_⟩, fun db hdb => ?_, by decide,
      fun c a hstores => ?_⟩
    · exact absurd hc List.not_mem_nil
    · cases List.mem_singleton.mp hu
      exact ⟨nofun, by decide⟩
    · exact absurd hf List.not_mem_nil
    · have hfresh : db = Database.fresh := by simpa [incidents] using hdb
      rw [hfresh]
      exact ⟨fun _ hr => absurd hr List.not_mem_nil, fun _ hr => absurd hr List.not_mem_nil,
        fun _ hr => absurd hr List.not_mem_nil⟩
    · obtain ⟨e, hfind, -⟩ := hstores
      cases hfind
  exact ⟨hrun, (staleness_is_bounded World.sample incidents hrun).2.1 1 none⟩

end Community

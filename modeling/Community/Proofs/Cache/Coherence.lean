import Community.Proofs.Cache.Dated
import Community.Proofs.Cache.Origin

/-!
# The cache keeps nothing that has ceased to be true

A cache is truthful if everything that can be read from it is what the database says now,
whether it has expired or not. A value that is kept has just been read from the database, and
a change of the database is followed by the removal of all that it may have made untrue:

> `Event.truthful_next`: a cache that is truthful stays so, as long as no removal fails.

> `Operation.settled_next`: after an operation, what can be read of a value is gone, or the
> database still says the same about it.

Only tables that were written can have made a value untrue, so it is the changes that have to
be looked at, not the reads. Reads and writes of the cache may fail, since what was not kept
is not there to be wrong.
-/

namespace Community

open Json Procedure Database

/-- There is an entry under the key, live or not, and its text is read as `a`. -/
def Cache.Stores {α : Type} [Decode α] (c : Cache) (key : String) (a : α) : Prop :=
  ∃ e, c.store.find? key = some e ∧ parse e.value = .ok a

theorem Cache.Serves.stores {α : Type} [Decode α] {c : Cache} {now : Nat} {key : String}
    {a : α} (h : c.Serves now key a) : c.Stores key a := by
  obtain ⟨e, hfind, -, hparse⟩ := h
  exact ⟨e, hfind, hparse⟩

/-- Everything that can be read from the cache is what the database says. -/
def World.Truthful (w : World) : Prop :=
  ∀ (c : Cached) (a : c.Value), w.cache.Stores c.key a → c.answer w.database = .ok a

variable {w w' : World}

/-- What can be read of a value is not there afterwards, or the database still says
the same about it. -/
def Cached.Settled (c : Cached) (w w' : World) : Prop :=
  w'.cache.store.find? c.key = none ∨ c.answer w'.database = c.answer w.database

/-- A cache stays truthful if nothing is read from it but what was there before and what the
database has been asked for, and if every value is settled. -/
theorem World.Truthful.of_origin (hw : w.Truthful) (hdb : w.database.Dated)
    (horigin : ∀ (c : Cached) e, w'.cache.store.find? c.key = some e →
      w.cache.store.find? c.key = some e ∨ c.IsWrittenIn w e)
    (hsettled : ∀ c : Cached, c.Settled w w') : w'.Truthful := by
  intro c a hstores
  obtain ⟨e, hfind, hparse⟩ := hstores
  have hbefore : c.answer w.database = .ok a := by
    rcases horigin c e hfind with hbefore | ⟨b, hanswer, rfl⟩
    · exact hw c a ⟨e, hbefore, hparse⟩
    · -- what has just been kept comes back as the answer that it is
      rw [(Cached.faithful_answer hdb hanswer).eq_of_parse hparse]
      exact hanswer
  rcases hsettled c with hgone | hsame
  · cases hgone.symm.trans hfind
  · exact hsame.trans hbefore

/-! ## Reads -/

namespace Cached

variable {c : Cached} {a : Procedure c.Value}

/-- Where the cache is truthful about a value, its reader answers what the database says. -/
theorem ReadBy.outcome_eq (h : c.ReadBy a)
    (hw : ∀ b : c.Value, w.cache.Stores c.key b → c.answer w.database = .ok b) :
    a.outcome w = (c.answer w.database, w.database) := by
  obtain ⟨compute, rfl, hcompute⟩ := h
  rw [outcome, perform_readThrough]
  rcases hget : (w.cache.get w.clock c.key : Option c.Value × Cache) with ⟨_ | b, cache⟩
  · dsimp only
    rw [hcompute]
    cases c.answer w.database <;> rfl
  · rw [hw b (Cache.serves_of_get (by rw [hget])).stores]

/-- What a reader yields is kept, or is what the database says. -/
theorem ReadBy.yields (h : c.ReadBy a) {b : c.Value} (hperform : a.perform w = (.ok b, w')) :
    w.cache.Stores c.key b ∨ c.answer w.database = .ok b := by
  obtain ⟨compute, rfl, hcompute⟩ := h
  rw [perform_readThrough] at hperform
  rcases hget : (w.cache.get w.clock c.key : Option c.Value × Cache) with ⟨_ | b', cache⟩
  · rw [hget] at hperform
    dsimp only at hperform
    rw [hcompute] at hperform
    cases hanswer : c.answer w.database with
    | error p =>
      rw [hanswer] at hperform
      cases hperform
    | ok b' =>
      rw [hanswer] at hperform
      cases hperform
      exact Or.inr rfl
  · rw [hget] at hperform
    cases hperform
    exact Or.inl (Cache.serves_of_get (by rw [hget])).stores

/-- Without a cache a reader answers what the database says. -/
theorem ReadBy.uncached_eq (h : c.ReadBy a) (w : World) :
    a.uncached w = (c.answer w.database, w.database) := by
  refine h.outcome_eq (w := { w with cache := .absent }) fun b hstores => ?_
  obtain ⟨e, hfind, -⟩ := hstores
  cases hfind

end Cached

/-! ## Changes of categories and profiles -/

variable {c : Cached}

theorem Category.Changed.settled (h : Changed w w') (hremoves : w.cache.Removes)
    (hc : c.table = .category) : c.Settled w w' := by
  cases h with
  | refused => exact Or.inr rfl
  | created | replaced | removed =>
    exact Or.inl (Cache.find?_deletePatterns_of_matches hremoves (List.mem_singleton_self _)
      (Cached.matches_category hc))

theorem User.settled_change (hremoves : w.cache.Removes) (id : Int) (r : ProfileChange)
    (hc : c.table = .user) : c.Settled w ((change id r).perform w).2 := by
  rcases hperform : (change id r).perform w with ⟨p | p, w'⟩
  · rw [failsCleanly_change id r w p w' hperform]
    exact Or.inr rfl
  · obtain ⟨u, row, db, hfind, hreplace, -, rfl⟩ := change_eq_ok hperform
    cases c with
    | category | forest | favorites => cases hc
    | users keyword status role page =>
      exact Or.inl
        (Cache.find?_deletePatterns_of_matches (hremoves.of_setup Cache.setup_delete)
        (List.mem_singleton_self _) (Cached.matches_users keyword status role page))
    | profile other =>
      by_cases hother : other = id
      · -- the changed profile itself is removed by its key
        subst hother
        refine Or.inl (Option.eq_none_iff_forall_ne_some.mpr fun e he => ?_)
        have hdeleted := Cache.sheds_deletePatterns (infoKey other) e he
        cases (Cache.find?_delete_self hremoves).symm.trans hdeleted
      · -- no other row is touched, and profiles show nothing of each other
        have hu : u.id = id := id_of_find hfind
        have hid : other ≠ Entity.id (u.changed r w.now).stored :=
          fun h => hother (h.trans hu)
        have hsame : User.find other db = User.find other w.database :=
          findById_replace_ne hreplace hid
        refine Or.inr ?_
        rw [Cached.answer, Cached.answer, hsame]

/-! ## Toggles -/

/-- A toggle that is carried out removes what is in its families, and
others change nothing. -/
theorem Relation.settled_request {ρ ω : Type} [Encode ω] [Decode ω] {issues : List Issue}
    {marker : String} {change : Time.Timestamp → Database → Except Problem (ρ × Database)}
    {families : List String} {outcome : ρ → ω} (hremoves : w.cache.Removes)
    (hmarker : c.key ≠ marker) (hfamilies : ∃ p ∈ families, Glob.matchesKey p c.key = true) :
    c.Settled w
      ((request issues marker (carryOut change families outcome)).perform w).2 := by
  have hsetup : (w.cache.get w.clock marker : Option ω × Cache).2.setup = w.cache.setup :=
    Cache.setup_get
  have hanswered : Answered issues marker change families outcome w _ := request_answered w
  generalize (request issues marker (carryOut change families outcome)).perform w = x
    at hanswered
  cases hanswered with
  | refused | repeated | failed => exact Or.inr rfl
  | done _ hget =>
    rw [hget] at hsetup
    obtain ⟨p, hp, hmatches⟩ := hfamilies
    refine Or.inl ?_
    rw [Cache.set, Cache.find?_setText_ne hmarker]
    exact Cache.find?_deletePatterns_of_matches (hremoves.of_setup hsetup) hp hmatches

/-! ## Operations -/

namespace Operation

/-- Whatever the service does, no value that it makes untrue is read from the cache. -/
theorem settled_next (op : Operation) (hremoves : w.cache.Removes) (c : Cached) :
    c.Settled w (op.next w) := by
  by_cases hc : c.table ∈ op.tables
  · cases op with
    | createCategory r =>
      rw [next, run, snd_perform_silently]
      exact (Category.changed_create r w).settled hremoves (List.mem_singleton.mp hc)
    | changeCategory id r =>
      rw [next, run, snd_perform_silently]
      exact (Category.changed_change id r w).settled hremoves (List.mem_singleton.mp hc)
    | removeCategory id =>
      rw [next, run, snd_perform_silently]
      exact (Category.changed_remove id w).settled hremoves (List.mem_singleton.mp hc)
    | changeProfile id r =>
      rw [next, run, snd_perform_silently]
      exact User.settled_change hremoves id r (List.mem_singleton.mp hc)
    | toggleLike userId r requestId =>
      -- no value is read from the tables of likes and of what is liked
      have hlike : c.table ≠ .like := by
        rcases c.table_cases with h | h | h <;> rw [h] <;> decide
      exact absurd hc (Counter.not_mem_tables hlike c.table_not_target)
    | toggleFavorite userId r requestId =>
      have htable : c.table = .favorite :=
        (List.mem_cons.mp hc).resolve_right (Counter.not_mem_table c.table_not_target)
      rw [next, run, snd_perform_silently]
      exact Relation.settled_request hremoves
        (c.key_ne_marker (Toggle.favorite userId r requestId).identity)
        ⟨Favorite.family, List.mem_cons_self, Cached.matches_favorite htable⟩
    | search r userId page =>
      have htraces : c.table ∉ [TableName.history, .hotSearch] := by
        rcases c.table_cases with h | h | h <;> rw [h] <;> decide
      exact absurd hc htraces
    | _ => exact absurd hc List.not_mem_nil
  · exact Or.inr (Cached.answer_agreeOff (op.agreeOff_next w) hc)

end Operation

/-- A cache that is truthful stays so whatever happens. -/
theorem Event.truthful_next (e : Event) (hdb : w.database.Dated) (hremoves : w.cache.Removes)
    (hw : w.Truthful) : (e.next w).Truthful := by
  refine hw.of_origin hdb (fun _ _ h => e.origin_next h) fun c => ?_
  cases e with
  | call op => exact op.settled_next hremoves c
  | wait | closeCache => exact Or.inr rfl

end Community

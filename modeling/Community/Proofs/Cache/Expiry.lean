import Community.Proofs.Cache.Store
import Mathlib.Data.Finset.Card
import Mathlib.Data.List.Induction

/-!
# A store answers what was last put there, until it expires

An expired entry stays in the store until something finds it there, so that the list of
entries says little by itself. What the store answers is simpler. A step *affects* a key
if it puts a value there, or takes away whatever is there; a read affects no key, although
it may drop an entry.

> `lookup?_next`: what a step leaves under a key at any later instant is told by the step
> alone if it affects the key, and is what was there before if it does not.

Along a run only the last step that affects a key counts (`lookup?_after_iff`), and two
stores that show the same now and later cannot be told apart any more (`Alike.after`). No
key has two entries (`hasDistinctKeys_after`), so that counting the live entries counts the
keys that have a value.
-/

namespace Community.Cache

/-! ## What one call shows -/

namespace Store

variable {s : Store} {now later ttl : Nat} {key k v value : String}

/-- The answer of the store is its `lookup?`. -/
theorem fst_get : (s.get now key).1 = s.lookup? now key := by
  unfold get lookup?
  cases s.find? key with
  | none => rfl
  | some e =>
    dsimp only [Option.bind_some]
    split <;> rfl

/-- What is looked up depends on the entry of the key alone. -/
theorem lookup?_congr {s s' : Store} (h : s'.find? k = s.find? k) :
    s'.lookup? later k = s.lookup? later k := by
  rw [lookup?, lookup?, h]

/-- An absent key is not found at any time. -/
theorem lookup?_of_none (h : s.find? k = none) : s.lookup? later k = none := by
  rw [lookup?, h]
  rfl

/-- A read drops what has expired, and that is not shown any more. -/
theorem lookup?_get (h : now ≤ later) :
    (s.get now key).2.lookup? later k = s.lookup? later k := by
  by_cases hk : k = key
  · subst hk
    cases hfind : s.find? k with
    | none => rw [get_of_none hfind]
    | some e =>
      by_cases hlive : now < e.expiresAt
      · rw [get_of_live hfind hlive]
      · have hexpired : isLive later e = false := decide_eq_false (by omega)
        rw [get_of_expired hfind (Nat.le_of_not_lt hlive), lookup?_of_none find?_erase_self,
          lookup?, hfind, Option.bind_some, hexpired]
        rfl
  · exact lookup?_congr (find?_get_ne hk)

/-- A value that was set is found until its ttl is over, and not from then on. -/
theorem lookup?_set_self :
    (s.set now key value ttl).lookup? later key = if later < now + 1000 * ttl then some value
    else none := by
  rw [lookup?, find?_set_self, Option.bind_some, isLive]
  simp only [decide_eq_true_eq]

/-! ## One entry for each key -/

/-- No key has two entries. -/
def HasDistinctKeys (s : Store) : Prop :=
  (s.entries.map Entry.key).Nodup

theorem HasDistinctKeys.filter (h : s.HasDistinctKeys) (kept : Entry → Bool) :
    HasDistinctKeys ⟨s.entries.filter kept⟩ :=
  h.sublist (List.filter_sublist.map Entry.key)

theorem HasDistinctKeys.get (h : s.HasDistinctKeys) : (s.get now key).2.HasDistinctKeys := by
  unfold Store.get
  split
  · split
    · exact h
    · exact h.filter _
  · exact h

/-- A write keeps one entry for each key. -/
theorem HasDistinctKeys.set (h : s.HasDistinctKeys) :
    (s.set now key value ttl).HasDistinctKeys := by
  refine List.nodup_cons.mpr ⟨fun hmem => ?_, h.filter _⟩
  obtain ⟨e, he, hkey⟩ := List.mem_map.mp hmem
  have hne := (List.mem_filter.mp he).2
  rw [hkey] at hne
  simp at hne

/-- Each entry is the one that its key finds. -/
theorem HasDistinctKeys.find? (h : s.HasDistinctKeys) {e : Entry} (he : e ∈ s.entries) :
    s.find? e.key = some e := by
  cases hfind : s.find? e.key with
  | none =>
    have hnone := List.find?_eq_none.mp hfind e he
    exact absurd (beq_self_eq_true e.key) hnone
  | some e' =>
    have hkey : e'.key = e.key :=
      beq_iff_eq.mp (List.find?_some (p := fun x : Entry => x.key == e.key) hfind)
    rw [List.inj_on_of_nodup_map h (List.mem_of_find?_eq_some hfind) he hkey]

/-- The keys that have a value are as many as the entries that are live. -/
theorem HasDistinctKeys.exists_keys (h : s.HasDistinctKeys) (now : Nat) :
    ∃ keys : Finset String, (∀ k, k ∈ keys ↔ (s.lookup? now k).isSome) ∧
    s.size now = keys.card := by
  refine ⟨((s.purge now).entries.map Entry.key).toFinset, fun k => ?_, ?_⟩
  · rw [List.mem_toFinset, List.mem_map]
    constructor
    · rintro ⟨e, he, rfl⟩
      obtain ⟨hmem, hlive⟩ := List.mem_filter.mp he
      rw [lookup?, h.find? hmem, Option.bind_some, if_pos hlive]
      rfl
    · intro hsome
      obtain ⟨v, hv⟩ := Option.isSome_iff_exists.mp hsome
      obtain ⟨e, he, hlive⟩ := Option.bind_eq_some_iff.mp hv
      refine ⟨e, List.mem_filter.mpr ⟨List.mem_of_find?_eq_some he, ?_⟩, ?_⟩
      · by_contra hdead
        rw [if_neg hdead] at hlive
        cases hlive
      · exact beq_iff_eq.mp (List.find?_some (p := fun x : Entry => x.key == k) he)
  · have hlive : ((s.purge now).entries.map Entry.key).Nodup := h.filter _
    rw [List.toFinset_card_of_nodup hlive, List.length_map]
    rfl

end Store

/-! ## Runs of a store -/

/-- A store with the time of its clock, in microseconds. -/
structure Timed where
  store : Store := {}
  now : Nat

namespace Timed

/-- What can be asked of a store, and the passing of time. Lifetimes are milliseconds. -/
inductive Step
  | set (key value : String) (ttl : Nat)
  | get (key : String)
  | delete (key : String)
  | deletePattern (pattern : String)
  | clear
  | wait (time : Nat)

namespace Step

/-- Whether a step puts something under the key, or removes what is there. -/
def affects (k : String) : Step → Bool
  | set key .. => key == k
  | delete key => key == k
  | deletePattern pattern => Glob.matchesKey pattern k
  | clear => true
  | get _ => false
  | wait _ => false

/-- The time that a step takes. -/
def time : Step → Nat
  | wait time => time
  | _ => 0

/-- The value that a step made at `now` leaves at `later` under a key that it affects. -/
def leaves (now later : Nat) : Step → Option String
  | set _ value ttl => if later < now + 1000 * ttl then some value else none
  | _ => none

end Step

/-- The store after a step. -/
def next (s : Timed) : Step → Timed
  | .set key value ttl => { s with store := s.store.set s.now key value ttl }
  | .get key => { s with store := (s.store.get s.now key).2 }
  | .delete key => { s with store := (s.store.delete key).2 }
  | .deletePattern pattern => { s with store := (s.store.deletePattern pattern).2 }
  | .clear => { s with store := s.store.clear }
  | .wait time => { s with now := s.now + time }

/-- The store after a run. -/
def after (s : Timed) (steps : List Step) : Timed :=
  steps.foldl next s

/-- What a read of the key answers. -/
def answer (s : Timed) (key : String) : Option String :=
  (s.store.get s.now key).1

variable {s t : Timed} {e : Step} {steps before : List Step} {later ttl : Nat} {k v : String}

/-- A step takes its time. -/
theorem now_next (s : Timed) (e : Step) : (s.next e).now = s.now + e.time := by
  cases e <;> rfl

theorem after_concat (s : Timed) (steps : List Step) (e : Step) :
    s.after (steps ++ [e]) = (s.after steps).next e := by
  rw [after, List.foldl_append]
  rfl

/-- What a step leaves under a key, now and at every later instant. -/
theorem lookup?_next (hlater : (s.next e).now ≤ later) :
    (s.next e).store.lookup? later k
      = if e.affects k then e.leaves s.now later else s.store.lookup? later k := by
  cases e with
  | set key value ttl =>
    by_cases hk : k = key
    · subst hk
      rw [Step.affects, beq_self_eq_true, if_pos rfl]
      exact Store.lookup?_set_self
    · rw [Step.affects, if_neg (by simpa using Ne.symm hk)]
      exact Store.lookup?_congr (Store.find?_set_ne hk)
  | get key => exact Store.lookup?_get hlater
  | delete key =>
    by_cases hk : k = key
    · subst hk
      rw [Step.affects, beq_self_eq_true, if_pos rfl]
      exact Store.lookup?_of_none Store.find?_erase_self
    · rw [Step.affects, if_neg (by simpa using Ne.symm hk)]
      exact Store.lookup?_congr (Store.find?_erase_ne hk)
  | deletePattern pattern =>
    cases hmatch : Glob.matchesKey pattern k with
    | true =>
      rw [Step.affects, hmatch, if_pos rfl]
      exact Store.lookup?_of_none (Store.find?_deletePattern_of_matches hmatch)
    | false =>
      rw [Step.affects, hmatch, if_neg Bool.false_ne_true]
      exact Store.lookup?_congr (Store.find?_deletePattern_of_not_matches hmatch)
  | clear => rfl
  | wait time => rfl

/-! ### The last step that affects a key -/

/-- The last of the steps that affects the key puts the value there, and `before` are
the steps before it. -/
def IsLastSet (steps before : List Step) (k v : String) (ttl : Nat) : Prop :=
  ∃ rest, steps = before ++ .set k v ttl :: rest ∧ ∀ e ∈ rest, e.affects k = false

/-- After a step that touches the key the last write is that step, if it is one. -/
theorem isLastSet_concat_of_affects (h : e.affects k = true) :
    IsLastSet (steps ++ [e]) before k v ttl ↔ before = steps ∧ e = .set k v ttl := by
  constructor
  · rintro ⟨rest, heq, hrest⟩
    rcases List.eq_nil_or_concat' rest with rfl | ⟨rest, last, rfl⟩
    · obtain ⟨rfl, hlast⟩ := List.append_inj' heq rfl
      exact ⟨rfl, (List.cons.inj hlast).1⟩
    · -- a further step comes last, and it affects the key
      rw [← List.cons_append, ← List.append_assoc] at heq
      obtain ⟨-, hlast⟩ := List.append_inj' heq rfl
      have hnot := hrest last (List.mem_append_right _ (List.mem_singleton_self last))
      rw [← (List.cons.inj hlast).1, h] at hnot
      cases hnot
  · rintro ⟨rfl, rfl⟩
    exact ⟨[], rfl, fun _ he => absurd he List.not_mem_nil⟩

/-- A step that does not touch the key leaves its last write. -/
theorem isLastSet_concat_of_not_affects (h : e.affects k = false) :
    IsLastSet (steps ++ [e]) before k v ttl ↔ IsLastSet steps before k v ttl := by
  constructor
  · rintro ⟨rest, heq, hrest⟩
    rcases List.eq_nil_or_concat' rest with rfl | ⟨rest, last, rfl⟩
    · obtain ⟨-, hlast⟩ := List.append_inj' heq rfl
      rw [(List.cons.inj hlast).1, Step.affects, beq_self_eq_true] at h
      cases h
    · rw [← List.cons_append, ← List.append_assoc] at heq
      obtain ⟨hsteps, -⟩ := List.append_inj' heq rfl
      exact ⟨rest, hsteps, fun e he => hrest e (List.mem_append_left _ he)⟩
  · rintro ⟨rest, rfl, hrest⟩
    refine ⟨rest ++ [e], by rw [List.append_assoc, List.cons_append], fun e' he' => ?_⟩
    rcases List.mem_append.mp he' with he' | he'
    · exact hrest e' he'
    · rw [List.mem_singleton.mp he']
      exact h

/-- From an empty store on, what is shown at an instant is what the last step that affects
the key has put there to last until then. -/
theorem lookup?_after_iff (start : Nat)
    (hlater : ((⟨{}, start⟩ : Timed).after steps).now ≤ later) :
    ((⟨{}, start⟩ : Timed).after steps).store.lookup? later k = some v ↔
      ∃ before ttl, IsLastSet steps before k v ttl ∧
        later < ((⟨{}, start⟩ : Timed).after before).now + 1000 * ttl := by
  induction steps using List.reverseRecOn with
  | nil =>
    refine ⟨fun h => ?_, ?_⟩
    · cases h
    · rintro ⟨before, ttl, ⟨rest, heq, -⟩, -⟩
      cases before <;> cases heq
  | append_singleton steps e ih =>
    rw [after_concat] at hlater ⊢
    have hbefore : ((⟨{}, start⟩ : Timed).after steps).now ≤ later := by
      rw [now_next] at hlater
      omega
    rw [lookup?_next hlater]
    cases haffects : e.affects k with
    | false =>
      rw [if_neg Bool.false_ne_true, ih hbefore]
      simp only [isLastSet_concat_of_not_affects haffects]
    | true =>
      rw [if_pos rfl]
      simp only [isLastSet_concat_of_affects haffects]
      constructor
      · intro h
        cases e with
        | set key value ttl =>
          obtain rfl := beq_iff_eq.mp haffects
          simp only [Step.leaves, Option.ite_none_right_eq_some, Option.some.injEq] at h
          obtain ⟨hlive, rfl⟩ := h
          exact ⟨steps, ttl, ⟨rfl, rfl⟩, hlive⟩
        | _ => cases h
      · rintro ⟨before, ttl, ⟨rfl, rfl⟩, hlive⟩
        exact if_pos hlive

/-! ### Stores that cannot be told apart -/

/-- Two stores at the same instant that show the same, now and later. -/
structure Alike (s t : Timed) : Prop where
  now : s.now = t.now
  shown : ∀ later k, s.now ≤ later → s.store.lookup? later k = t.store.lookup? later k

/-- Stores that answer alike do so after a step. -/
theorem Alike.next (h : s.Alike t) (e : Step) : (s.next e).Alike (t.next e) := by
  have hnow : (s.next e).now = (t.next e).now := by rw [now_next, now_next, h.now]
  refine ⟨hnow, fun later k hlater => ?_⟩
  have hbefore : s.now ≤ later := by
    rw [now_next] at hlater
    omega
  rw [lookup?_next hlater, lookup?_next (hnow ▸ hlater), h.now, h.shown later k hbefore]

/-- So they do after a run. -/
theorem Alike.after (h : s.Alike t) (steps : List Step) :
    (s.after steps).Alike (t.after steps) := by
  induction steps generalizing s t with
  | nil => exact h
  | cons e steps ih => exact ih (h.next e)

/-- A lookup changes no answer. -/
theorem alike_get (s : Timed) (key : String) : (s.next (.get key)).Alike s :=
  ⟨rfl, fun _ _ hlater => lookup?_next hlater⟩

/-! ### One entry for each key -/

/-- Every step keeps one entry for each key. -/
theorem hasDistinctKeys_next (h : s.store.HasDistinctKeys) (e : Step) :
    (s.next e).store.HasDistinctKeys := by
  cases e with
  | set key value ttl => exact h.set
  | get key => exact h.get
  | delete key => exact h.filter _
  | deletePattern pattern => exact h.filter _
  | clear => exact List.nodup_nil
  | wait time => exact h

/-- So does every run. -/
theorem hasDistinctKeys_after (h : s.store.HasDistinctKeys) (steps : List Step) :
    (s.after steps).store.HasDistinctKeys := by
  induction steps generalizing s with
  | nil => exact h
  | cons e steps ih => exact ih (hasDistinctKeys_next h e)

/-! ### What a store answers -/

/-- A store that was empty at some time answers as a map whose values expire. After any
steps, the answer for a key is a value exactly if the last step that affects the key has put
it there and its lifetime is not over. A read changes no later answer, and the size is the
number of keys for which there is one. -/
theorem store_answers_until_expiry (start : Nat) (steps : List Step) :
    let fresh : Timed := ⟨{}, start⟩
    let s := fresh.after steps
    (∀ k v, s.answer k = some v ↔
      ∃ before ttl after, steps = before ++ .set k v ttl :: after ∧
      (∀ e ∈ after, e.affects k = false) ∧ s.now < (fresh.after before).now + 1000 * ttl) ∧
    (∀ k more j, ((s.next (.get k)).after more).answer j = (s.after more).answer j) ∧
    (∃ keys : Finset String, (∀ k, k ∈ keys ↔ (s.answer k).isSome) ∧
      s.store.size s.now = keys.card) ∧
    (s.store.isEmpty s.now = true ↔ s.store.size s.now = 0) := by
  intro fresh s
  refine ⟨fun k v => ?_, fun k more j => ?_, ?_, beq_iff_eq⟩
  · rw [answer, Store.fst_get, lookup?_after_iff start (Nat.le_refl _)]
    constructor
    · rintro ⟨before, ttl, ⟨after, heq, hafter⟩, hlive⟩
      exact ⟨before, ttl, after, heq, hafter, hlive⟩
    · rintro ⟨before, ttl, after, heq, hafter, hlive⟩
      exact ⟨before, ttl, ⟨after, heq, hafter⟩, hlive⟩
  · have halike := (alike_get s k).after more
    rw [answer, answer, Store.fst_get, Store.fst_get, ← halike.now]
    exact halike.shown _ j (Nat.le_refl _)
  · have hkeys : s.store.HasDistinctKeys :=
      hasDistinctKeys_after (s := fresh) List.nodup_nil steps
    simp only [answer, Store.fst_get]
    exact hkeys.exists_keys s.now

end Timed

end Community.Cache

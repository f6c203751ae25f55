import Community.Cache.Basic

/-!
# What the cache keeps under a key

Every call of the cache seen through one window: `find? k`, the entry of a key. A call on
another key, and the removal of a family that the key does not belong to, never show in
that window (`find?_get_ne` and its neighbours, first for the store and then for the
cache around it, where any call may fail). Whatever happens to the entries, the policy of
the cache and its failures stay what they are.
-/

namespace Community.Cache

open Json

/-! ## The store -/

namespace Store

variable {s : Store} {now ttl : Nat} {key k value pattern : String} {e : Entry}

/-- An erased key has no entry. -/
theorem find?_erase_self : (s.erase key).find? key = none := by
  rw [find?, erase, List.find?_eq_none]
  intro e he
  have := (List.mem_filter.mp he).2
  simpa using this

/-- Dropping entries of other keys does not show. -/
theorem find?_filter {kept : Entry → Bool} (h : ∀ e, e.key = k → kept e = true) :
    (⟨s.entries.filter kept⟩ : Store).find? k = s.find? k := by
  rw [find?, List.find?_filter, find?]
  refine congrArg (s.entries.find? ·) (funext fun e => ?_)
  by_cases he : e.key = k
  · simp [h e he, he]
  · simp [he]

/-- The entries of other keys survive the erasure of one. -/
theorem find?_erase_ne (h : k ≠ key) : (s.erase key).find? k = s.find? k :=
  find?_filter fun e he => by simpa [he] using h

/-- Only the entry asked for can be dropped by a read. -/
theorem find?_get_ne (h : k ≠ key) : (s.get now key).2.find? k = s.find? k := by
  unfold get
  split
  · split
    · rfl
    · exact find?_erase_ne h
  · rfl

/-- A lookup before the expiry answers the value and changes nothing. -/
theorem get_of_live (h : s.find? key = some e) (hlive : now < e.expiresAt) :
    s.get now key = (some e.value, s) := by
  rw [get, h]
  exact if_pos (decide_eq_true hlive)

/-- A lookup at or after the expiry misses, and drops the entry. -/
theorem get_of_expired (h : s.find? key = some e) (hexpired : e.expiresAt ≤ now) :
    s.get now key = (none, s.erase key) := by
  rw [get, h]
  exact if_neg (by simpa [isLive] using hexpired)

/-- Where entries are dropped by their keys, those that are left were there before. -/
theorem find?_of_find?_filter (keep : String → Bool)
    (h : (⟨s.entries.filter fun e => keep e.key⟩ : Store).find? k = some e) :
    s.find? k = some e := by
  cases hk : keep k with
  | true => rwa [find?_filter fun e he => by rw [he]; exact hk] at h
  | false =>
    obtain ⟨-, hkept⟩ := List.mem_filter.mp (List.mem_of_find?_eq_some h)
    rw [beq_iff_eq.mp (List.find?_some (p := fun e : Entry => e.key == k) h), hk] at hkept
    cases hkept

/-- Erasing a key brings no entry in. -/
theorem find?_of_find?_erase (h : (s.erase key).find? k = some e) : s.find? k = some e :=
  find?_of_find?_filter (fun k => k != key) h

/-- A read drops an entry at most. -/
theorem find?_of_find?_get (h : (s.get now key).2.find? k = some e) :
    s.find? k = some e := by
  unfold get at h
  split at h
  · split at h
    · exact h
    · exact find?_of_find?_erase h
  · exact h

/-- A lookup of an absent key misses and changes nothing. -/
theorem get_of_none (h : s.find? key = none) : s.get now key = (none, s) := by
  rw [get, h]

/-- A value just set is found with its expiry, a ttl of seconds after now. -/
theorem find?_set_self :
    (s.set now key value ttl).find? key = some ⟨key, value, now + 1000 * ttl⟩ := by
  rw [find?, set]
  exact List.find?_cons_of_pos (beq_self_eq_true key)

/-- Setting a key leaves the entries of the others. -/
theorem find?_set_ne (h : k ≠ key) : (s.set now key value ttl).find? k = s.find? k := by
  rw [find?, set, List.find?_cons_of_neg (by simpa using Ne.symm h)]
  exact find?_erase_ne h

/-- A removal by pattern leaves the keys that do not match. -/
theorem find?_deletePattern_of_not_matches (h : Glob.matchesKey pattern k = false) :
    (s.deletePattern pattern).2.find? k = s.find? k :=
  find?_filter fun e he => by rw [he, h]; rfl

/-- A family that is removed is gone, expired entries included. -/
theorem find?_deletePattern_of_matches (h : Glob.matchesKey pattern k = true) :
    (s.deletePattern pattern).2.find? k = none := by
  rw [find?, deletePattern, List.find?_eq_none]
  intro e he hkey
  obtain ⟨-, hkept⟩ := List.mem_filter.mp he
  rw [beq_iff_eq.mp hkey, h] at hkept
  cases hkept

end Store

/-! ## The cache around it -/

variable {c : Cache} {now ttl : Nat} {key k text pattern : String}

/-- What no call changes: how long values are kept, and which calls fail. -/
def setup (c : Cache) : Policy × (Nat → Operation → Bool) :=
  (c.policy, c.fails)

/-- No operation changes which calls of the cache fail, a lookup to begin with. -/
@[simp]
theorem setup_getText : (c.getText now key).2.setup = c.setup := by
  unfold getText
  split <;> rfl

@[simp]
theorem setup_setText : (c.setText now key text ttl).setup = c.setup := by
  unfold setText
  split <;> rfl

@[simp]
theorem setup_delete : (c.delete key).setup = c.setup := by
  unfold delete
  split <;> rfl

@[simp]
theorem setup_deletePattern : (c.deletePattern pattern).setup = c.setup := by
  unfold deletePattern
  split <;> rfl

/-- A read is the look at the text and, if that does not decode, its removal. -/
theorem get_cases {α : Type} [Decode α] (c : Cache) (now : Nat) (key : String) :
    ((c.get now key : Option α × Cache).2 = (c.getText now key).2) ∨
      ((∃ text f, (c.getText now key).1 = some text ∧
        (parse text : Except Fault α) = .error f) ∧
        (c.get now key : Option α × Cache) = (none, (c.getText now key).2.delete key)) := by
  unfold get
  rcases c.getText now key with ⟨_ | text, c'⟩
  · exact Or.inl rfl
  · dsimp only
    cases h : (parse text : Except Fault α) with
    | ok a => exact Or.inl rfl
    | error f => exact Or.inr ⟨⟨text, f, rfl, h⟩, rfl⟩

@[simp]
theorem setup_get {α : Type} [Decode α] :
    (c.get now key : Option α × Cache).2.setup = c.setup := by
  rcases get_cases (α := α) c now key with h | ⟨-, h⟩
  · rw [h, setup_getText]
  · rw [h, setup_delete, setup_getText]

@[simp]
theorem setup_set {α : Type} [Encode α] {a : α} : (c.set now key a ttl).setup = c.setup :=
  setup_setText

@[simp]
theorem setup_deletePatterns {patterns : List String} :
    (c.deletePatterns patterns).setup = c.setup := by
  unfold deletePatterns
  induction patterns generalizing c with
  | nil => rfl
  | cons p ps ih => rw [List.foldl_cons, ih, setup_deletePattern]

/-- A lookup touches the entry of its own key only. -/
theorem find?_getText_ne (h : k ≠ key) :
    (c.getText now key).2.store.find? k = c.store.find? k := by
  unfold getText
  split
  · rfl
  · exact Store.find?_get_ne h

/-- A write touches the entry of its own key only. -/
theorem find?_setText_ne (h : k ≠ key) :
    (c.setText now key text ttl).store.find? k = c.store.find? k := by
  unfold setText
  split
  · rfl
  · exact Store.find?_set_ne h

/-- A deletion touches the entry of its own key only. -/
theorem find?_delete_ne (h : k ≠ key) : (c.delete key).store.find? k = c.store.find? k := by
  unfold delete
  split
  · rfl
  · exact Store.find?_erase_ne h

/-- A lookup of a decoded value touches the entry of its own key only. -/
theorem find?_get_ne {α : Type} [Decode α] (h : k ≠ key) :
    (c.get now key : Option α × Cache).2.store.find? k = c.store.find? k := by
  rcases get_cases (α := α) c now key with hget | ⟨-, hget⟩
  · rw [hget, find?_getText_ne h]
  · rw [hget, find?_delete_ne h, find?_getText_ne h]

theorem find?_deletePattern_of_not_matches (h : Glob.matchesKey pattern k = false) :
    (c.deletePattern pattern).store.find? k = c.store.find? k := by
  unfold deletePattern
  split
  · rfl
  · exact Store.find?_deletePattern_of_not_matches h

/-- A key that matches none of the patterns keeps its entry. -/
theorem find?_deletePatterns_of_not_matches {patterns : List String}
    (h : ∀ p ∈ patterns, Glob.matchesKey p k = false) :
    (c.deletePatterns patterns).store.find? k = c.store.find? k := by
  unfold deletePatterns
  induction patterns generalizing c with
  | nil => rfl
  | cons p ps ih =>
    rw [List.foldl_cons, ih fun q hq => h q (List.mem_cons_of_mem p hq)]
    exact find?_deletePattern_of_not_matches (h p List.mem_cons_self)

/-! ## Calls that only take away -/

/-- What is found under a key afterwards was there before. -/
def Sheds (c c' : Cache) : Prop :=
  ∀ k e, c'.store.find? k = some e → c.store.find? k = some e

/-- Shedding entries twice is shedding entries. -/
theorem Sheds.trans {c c' c'' : Cache} (h : c.Sheds c') (h' : c'.Sheds c'') : c.Sheds c'' :=
  fun k e he => h k e (h' k e he)

/-- A lookup can drop an expired entry, and brings none in. -/
theorem sheds_getText : c.Sheds (c.getText now key).2 := by
  intro k e he
  unfold getText at he
  split at he
  · exact he
  · exact Store.find?_of_find?_get he

theorem sheds_delete : c.Sheds (c.delete key) := by
  intro k e he
  unfold delete at he
  split at he
  · exact he
  · exact Store.find?_of_find?_erase he

theorem sheds_deletePattern : c.Sheds (c.deletePattern pattern) := by
  intro k e he
  unfold deletePattern at he
  split at he
  · exact he
  · exact Store.find?_of_find?_filter (fun key => !Glob.matchesKey pattern key) he

/-- A removal by several patterns brings no entry in. -/
theorem sheds_deletePatterns {patterns : List String} :
    c.Sheds (c.deletePatterns patterns) := by
  unfold deletePatterns
  induction patterns generalizing c with
  | nil => exact fun _ _ he => he
  | cons p ps ih =>
    rw [List.foldl_cons]
    exact sheds_deletePattern.trans ih

theorem sheds_close : c.Sheds c.close := by
  intro k e he
  unfold close at he
  split at he
  · exact he
  · cases he

/-- A read takes entries away at most. -/
theorem sheds_get {α : Type} [Decode α] : c.Sheds (c.get now key : Option α × Cache).2 := by
  rcases get_cases (α := α) c now key with hget | ⟨-, hget⟩
  · rw [hget]
    exact sheds_getText
  · rw [hget]
    exact sheds_getText.trans sheds_delete

/-- What is found after a value was kept was there before, or is that value. -/
theorem find?_of_find?_set {α : Type} [Encode α] {a : α} {e : Entry}
    (h : (c.set now key a ttl).store.find? k = some e) :
    c.store.find? k = some e ∨
    (k = key ∧ e = ⟨key, (encode a).render, now + 1000 * ttl⟩) := by
  by_cases hk : k = key
  · subst hk
    unfold set setText at h
    split at h
    · exact Or.inl h
    · cases Store.find?_set_self.symm.trans h
      exact Or.inr ⟨rfl, rfl⟩
  · rw [set, find?_setText_ne hk] at h
    exact Or.inl h

/-! ## Removals that do not fail -/

/-- No removal of a key or of a family fails. -/
def Removes (c : Cache) : Prop :=
  ∀ n, c.fails n .delete = false ∧ c.fails n .deletePattern = false

/-- Whether deletions work is a matter of the set-up alone. -/
theorem Removes.of_setup {c' : Cache} (h : c.Removes) (hsetup : c'.setup = c.setup) :
    c'.Removes := by
  intro n
  rw [show c'.fails = c.fails from congrArg Prod.snd hsetup]
  exact h n

/-- Where deletions work, a deleted key has no entry. -/
theorem find?_delete_self (hremoves : c.Removes) :
    (c.delete key).store.find? key = none := by
  rw [delete, down, (hremoves _).1]
  exact Store.find?_erase_self

/-- Where deletions work, no key that matches a removed pattern has an entry. -/
theorem find?_deletePattern_of_matches (hremoves : c.Removes)
    (h : Glob.matchesKey pattern k = true) :
    (c.deletePattern pattern).store.find? k = none := by
  rw [deletePattern, down, (hremoves _).2]
  exact Store.find?_deletePattern_of_matches h

/-- A key is gone if it belongs to one of the families, whatever else is removed. -/
theorem find?_deletePatterns_of_matches {patterns : List String} (hremoves : c.Removes)
    (hp : pattern ∈ patterns) (h : Glob.matchesKey pattern k = true) :
    (c.deletePatterns patterns).store.find? k = none := by
  unfold deletePatterns
  induction patterns generalizing c with
  | nil => cases hp
  | cons p ps ih =>
    rw [List.foldl_cons]
    rcases List.mem_cons.mp hp with rfl | hp
    · refine Option.eq_none_iff_forall_ne_some.mpr fun e he => ?_
      have hbefore : (c.deletePattern pattern).store.find? k = some e :=
        sheds_deletePatterns k e he
      rw [find?_deletePattern_of_matches hremoves h] at hbefore
      cases hbefore
    · exact ih (hremoves.of_setup setup_deletePattern) hp

/-! ## A store that does not fail -/

/-- No call of the store fails. -/
def IsSteady (c : Cache) : Prop :=
  ∀ n op, c.fails n op = false

/-- Whether the cache is steady is a matter of the set-up alone. -/
theorem IsSteady.of_setup {c' : Cache} (h : c.IsSteady) (hsetup : c'.setup = c.setup) :
    c'.IsSteady := by
  intro n op
  rw [show c'.fails = c.fails from congrArg Prod.snd hsetup]
  exact h n op

/-- A value that is kept and live is found, and the read leaves the entries alone. -/
theorem get_of_kept {α : Type} [Encode α] [Decode α] {a : α} {expiresAt : Nat}
    (hsteady : c.IsSteady)
    (hfind : c.store.find? key = some ⟨key, (encode a).render, expiresAt⟩)
    (hlive : now < expiresAt) (hparse : parse (encode a).render = .ok a) :
    c.get now key = (some a, c.note (.get key .hit)) := by
  have htext : c.getText now key = (some (encode a).render, c.note (.get key .hit)) := by
    rw [getText, down, hsteady, Store.get_of_live hfind hlive]
    rfl
  rw [get, htext]
  simp only [hparse]

/-- Where nothing live is kept, nothing is found. -/
theorem get_of_stale {α : Type} [Decode α]
    (h : ∀ e, c.store.find? key = some e → e.expiresAt ≤ now) :
    (c.get now key : Option α × Cache).1 = none := by
  have htext : (c.getText now key).1 = none := by
    unfold getText
    split
    · rfl
    · cases hfind : c.store.find? key with
      | none => rw [Store.get_of_none hfind]
      | some e => rw [Store.get_of_expired hfind (h e hfind)]
  rcases hget : c.getText now key with ⟨_ | text, c'⟩
  · rw [get, hget]
  · rw [hget] at htext
    cases htext

/-- What is kept is there afterwards. -/
theorem find?_set_self {α : Type} [Encode α] {a : α} (hsteady : c.IsSteady) :
    (c.set now key a ttl).store.find? key
      = some ⟨key, (encode a).render, now + 1000 * ttl⟩ := by
  rw [set, setText, down, hsteady]
  exact Store.find?_set_self

end Community.Cache

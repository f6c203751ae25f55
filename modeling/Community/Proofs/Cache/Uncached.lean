import Community.Proofs.Operation

/-!
# The service without a cache

A cache that is not there keeps nothing, and every call of it fails. `Procedure.uncached` is
what a procedure comes to in that case, and is what the answers of the service are measured
by wherever a cache stands between it and the database.

Most procedures do not notice. `IgnoresCache a` says that `a` comes to the same in any two
worlds that differ in their caches alone. It is closed under `bind`, and the only step that
does not have it is a look at what is kept:

> `answeredFrom_readThrough`: a value that is read through the cache comes from a live entry
> under its own key, or is the one that there would be without a cache.
-/

namespace Community

open Procedure Database

/-- A cache that is not there: nothing is kept, and every call fails. -/
def Cache.absent : Cache :=
  { policy := {}, fails := fun _ _ => true }

/-- Two worlds that differ in their caches alone. -/
structure World.Similar (w w' : World) : Prop where
  database : w.database = w'.database
  clock : w.clock = w'.clock

namespace World.Similar

variable {w w' : World}

/-- A world is similar to itself with another cache. -/
theorem withCache (w : World) (c : Cache) : Similar w { w with cache := c } :=
  ⟨rfl, rfl⟩

theorem caches (h : Similar w w') (c c' : Cache) :
    Similar { w with cache := c } { w' with cache := c' } :=
  ⟨h.database, h.clock⟩

theorem databases (h : Similar w w') (db : Database) :
    Similar { w with database := db } { w' with database := db } :=
  ⟨rfl, h.clock⟩

theorem now (h : Similar w w') : w.now = w'.now :=
  congrArg Time.Timestamp.ofMicros h.clock

end World.Similar

namespace Procedure

variable {α β γ : Type}

/-- What a procedure yields, and the database that it leaves. -/
def outcome (a : Procedure α) (w : World) : Except Problem α × Database :=
  ((a.perform w).1, (a.perform w).2.database)

/-- What a procedure comes to where there is no cache. -/
def uncached (a : Procedure α) (w : World) : Except Problem α × Database :=
  a.outcome { w with cache := .absent }

/-- Showing a value in another way changes nothing of what is done. -/
theorem outcome_map (a : Procedure α) (f : α → β) (w : World) :
    (do let x ← a; return f x : Procedure β).outcome w =
      ((a.outcome w).1.map f, (a.outcome w).2) := by
  rw [outcome, perform_bind, outcome]
  rcases a.perform w with ⟨_ | _, v⟩ <;> rfl

/-- A function of the answer does not bring the cache in. -/
theorem outcome_map_eq_uncached {a : Procedure α} {w : World}
    (h : a.outcome w = a.uncached w) (f : α → β) :
    (do let x ← a; return f x : Procedure β).outcome w
      = (do let x ← a; return f x : Procedure β).uncached w := by
  rw [uncached, outcome_map, outcome_map, h]
  rfl

/-- `a` comes to the same whatever the cache is. -/
def IgnoresCache (a : Procedure α) : Prop :=
  ∀ w w' : World, w.Similar w' →
    (a.perform w).1 = (a.perform w').1 ∧ (a.perform w).2.Similar (a.perform w').2

namespace IgnoresCache

/-- A procedure that ignores the cache answers the same in similar worlds. -/
theorem outcome_eq {a : Procedure α} (h : IgnoresCache a) {w w' : World}
    (hw : w.Similar w') : a.outcome w = a.outcome w' :=
  Prod.ext (h w w' hw).1 (h w w' hw).2.database

/-- So it answers what it answers with no cache at all. -/
theorem outcome_eq_uncached {a : Procedure α} (h : IgnoresCache a) (w : World) :
    a.outcome w = a.uncached w :=
  h.outcome_eq (.withCache w .absent)

theorem pure (a : α) : IgnoresCache (Pure.pure a : Procedure α) := fun _ _ hw => ⟨rfl, hw⟩

theorem throw (p : Problem) : IgnoresCache (throw p : Procedure α) := fun _ _ hw => ⟨rfl, hw⟩

theorem check (e : Except Problem α) : IgnoresCache (check e) := fun _ _ hw => ⟨rfl, hw⟩

theorem now : IgnoresCache now := by
  intro w w' hw
  rw [perform_now, perform_now, hw.now]
  exact ⟨rfl, hw⟩

/-- A query reads the database alone. -/
theorem query (q : Database → Except Fault α) : IgnoresCache (query q) := by
  intro w w' hw
  rw [perform_query, perform_query, hw.database]
  exact ⟨rfl, hw⟩

/-- A transaction reads and writes the database alone. -/
theorem transact (q : Database → Except Problem (α × Database)) :
    IgnoresCache (transact q) := by
  intro w w' hw
  rw [perform_transact, perform_transact, hw.database]
  split
  · next a db _ => exact ⟨rfl, hw.databases db⟩
  · exact ⟨rfl, hw⟩

/-- So does the write of a row. -/
theorem writeRow {ρ : Type} [Entity ρ α] (q : Database → Except Fault (ρ × Database)) :
    IgnoresCache (writeRow q) := by
  intro w w' hw
  rw [perform_writeRow, perform_writeRow, hw.database]
  split
  · next r db _ => exact ⟨rfl, hw.databases db⟩
  · exact ⟨rfl, hw⟩

/-- A write that may fail without a trace ignores the cache too. -/
theorem attempt (q : Database → Except Fault (α × Database)) : IgnoresCache (attempt q) := by
  intro w w' hw
  rw [perform_attempt, perform_attempt, hw.database]
  split
  · next a db _ => exact ⟨rfl, hw.databases db⟩
  · exact ⟨rfl, hw⟩

/-- Dropping a key writes the cache, and reads nothing from it. -/
theorem forget (key : String) :
    IgnoresCache (forget key) := fun _ _ hw => ⟨rfl, hw.caches _ _⟩

/-- Nor does dropping the keys of some patterns. -/
theorem forgetFamilies (patterns : List String) : IgnoresCache (forgetFamilies patterns) :=
  fun _ _ hw => ⟨rfl, hw.caches _ _⟩

/-- Two procedures that ignore the cache do so in turn. -/
theorem bind {a : Procedure α} {g : α → Procedure β} (ha : IgnoresCache a)
    (hg : ∀ x, IgnoresCache (g x)) : IgnoresCache (a >>= g) := by
  intro w w' hw
  obtain ⟨hresult, hworld⟩ := ha w w' hw
  rw [perform_bind, perform_bind]
  rcases h : a.perform w with ⟨result, v⟩
  rcases h' : a.perform w' with ⟨result', v'⟩
  rw [h, h'] at hresult hworld
  -- both fail alike, or both go on with the same value
  obtain rfl : result = result' := hresult
  cases result with
  | error p => exact ⟨rfl, hworld⟩
  | ok x => exact hg x v v' hworld

/-- A part that goes on with the database alone, wherever that stands. -/
theorem bind_database {g : Database → Procedure β} (hg : ∀ db, IgnoresCache (g db)) :
    IgnoresCache ((get : Procedure World) >>= fun w => g w.database) := by
  intro w w' hw
  rw [perform_bind_ok (perform_get w), perform_bind_ok (perform_get w'), hw.database]
  exact hg w'.database w w' hw

/-- A choice of two procedures that ignore the cache ignores it. -/
theorem ite {c : Prop} [Decidable c] {a b : Procedure α} (ha : IgnoresCache a)
    (hb : IgnoresCache b) : IgnoresCache (if c then a else b) := by
  split
  · exact ha
  · exact hb

/-- Swallowing the failure of a procedure does not make it read the cache. -/
theorem silently {a : Procedure α} (h : IgnoresCache a) : IgnoresCache (silently a) :=
  h.bind fun _ => .pure ()

end IgnoresCache

end Procedure

/-! ## Reading through the cache -/

namespace Cache

variable {α : Type} [Json.Decode α] {c : Cache} {now : Nat} {key : String} {a : α}

/-- There is a live entry under the key, and its text is read as `a`. -/
def Serves (c : Cache) (now : Nat) (key : String) (a : α) : Prop :=
  ∃ e, c.store.find? key = some e ∧ now < e.expiresAt ∧ Json.parse e.value = .ok a

/-- A hit of the store is an entry that has not expired. -/
theorem Store.get_eq_some {s : Store} {text : String} (h : (s.get now key).1 = some text) :
    ∃ e, s.find? key = some e ∧ now < e.expiresAt ∧ text = e.value := by
  cases hfind : s.find? key with
  | none =>
    rw [Store.get_of_none hfind] at h
    cases h
  | some e =>
    by_cases hlive : now < e.expiresAt
    · rw [Store.get_of_live hfind hlive] at h
      cases h
      exact ⟨e, rfl, hlive, rfl⟩
    · rw [Store.get_of_expired hfind (Nat.not_lt.mp hlive)] at h
      cases h

/-- A hit of the cache is an entry of its store that has not expired. -/
theorem getText_eq_some {text : String} (h : (c.getText now key).1 = some text) :
    ∃ e, c.store.find? key = some e ∧ now < e.expiresAt ∧ text = e.value := by
  unfold getText at h
  split at h
  · cases h
  · exact Store.get_eq_some h

/-- What a read finds is what a live entry stands for. -/
theorem serves_of_get (h : (c.get now key : Option α × Cache).1 = some a) :
    c.Serves now key a := by
  unfold get at h
  rcases htext : c.getText now key with ⟨_ | text, c'⟩
  · rw [htext] at h
    cases h
  · rw [htext] at h
    dsimp only at h
    split at h
    · next b hparse =>
      cases h
      have hfound : (c.getText now key).1 = some text := by rw [htext]
      obtain ⟨e, hfind, hlive, rfl⟩ := getText_eq_some hfound
      exact ⟨e, hfind, hlive, hparse⟩
    · cases h

/-- There is nothing in a cache that is not there. -/
theorem get_absent : (absent.get now key : Option α × Cache).1 = none := rfl

end Cache

namespace Procedure

variable {α β γ : Type} [Encode β] [Json.Decode β] {key : String} {ttl : Cache.Policy → Nat}
  {compute : Procedure β} {w : World}

/-- `a` is answered from a live entry under the key, which is shown as `view` says, and
leaves the database alone; or it comes to what it comes to without a cache. -/
def AnsweredFrom (key : String) (view : β → α) (a : Procedure α) (w : World) : Prop :=
  (∃ b, w.cache.Serves w.clock key b ∧ a.outcome w = (.ok (view b), w.database)) ∨
    a.outcome w = a.uncached w

omit [Encode β] in
/-- A function of the answer is answered from the same entry. -/
theorem AnsweredFrom.map {view : β → α} {a : Procedure α} (h : AnsweredFrom key view a w)
    (f : α → γ) : AnsweredFrom key (fun b => f (view b)) (do let x ← a; return f x) w := by
  rcases h with ⟨b, hserves, hsame⟩ | hsame
  · refine Or.inl ⟨b, hserves, ?_⟩
    rw [outcome_map, hsame]
    rfl
  · exact Or.inr (outcome_map_eq_uncached hsame f)

omit [Encode β] in
/-- What comes from an entry is no failure. -/
theorem AnsweredFrom.uncached_eq_error {view : β → α} {a : Procedure α} {p : Problem}
    (h : AnsweredFrom key view a w) (hp : (a.perform w).1 = .error p) :
    (a.uncached w).1 = .error p := by
  rcases h with ⟨b, -, hsame⟩ | hsame
  · have hresult : (a.perform w).1 = .ok (view b) := congrArg Prod.fst hsame
    rw [hresult] at hp
    cases hp
  · rw [← hsame]
    exact hp

/-- Where nothing is found, the value is computed, whatever becomes of the
cache on the way. -/
theorem outcome_readThrough_of_none (hcompute : IgnoresCache compute)
    (hget : (w.cache.get w.clock key : Option β × Cache).1 = none) :
    (readThrough key ttl compute).outcome w = compute.outcome w := by
  rcases hlook : (w.cache.get w.clock key : Option β × Cache) with ⟨found, c⟩
  obtain rfl : found = none := by
    rw [hlook] at hget
    exact hget
  have hsame := hcompute.outcome_eq (World.Similar.withCache w c)
  rw [hsame, outcome, outcome, perform_readThrough, hlook]
  dsimp only
  rcases compute.perform { w with cache := c } with ⟨_ | _, v⟩ <;> rfl

/-- Without a cache every value is computed. -/
theorem uncached_readThrough (hcompute : IgnoresCache compute) :
    (readThrough key ttl compute).uncached w = compute.uncached w :=
  outcome_readThrough_of_none (w := { w with cache := .absent }) hcompute Cache.get_absent

/-- A read through the cache answers from the entry it finds, or from what it computes. -/
theorem answeredFrom_readThrough (hcompute : IgnoresCache compute) (w : World) :
    AnsweredFrom key (fun b : β => b) (readThrough key ttl compute) w := by
  rcases hget : (w.cache.get w.clock key : Option β × Cache) with ⟨_ | b, c⟩
  · refine Or.inr ?_
    rw [uncached_readThrough hcompute, outcome_readThrough_of_none hcompute (by rw [hget])]
    exact hcompute.outcome_eq_uncached w
  · refine Or.inl ⟨b, Cache.serves_of_get (by rw [hget]), ?_⟩
    rw [outcome, perform_readThrough, hget]

end Procedure

end Community

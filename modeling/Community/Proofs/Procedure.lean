import Community.World

/-!
# What a procedure does, step by step

`perform` runs a procedure in a world. This file opens it once for every step that
procedures are made of, so that no later proof looks below `perform` again:

> `perform_bind`: the second part starts in the world that the first part leaves,
> and does not start at all if the first part fails.

The other half is about what a procedure does *not* do. `Leaves f a` says that `a`
never changes what `f` shows of a world, whether it succeeds or not. It is closed
under `bind`, so that a claim about a long procedure comes down to one about each of
its steps; most steps touch neither the database nor the cache.

`FailsCleanly a` says that `a` leaves the world alone where it fails. It is not closed
under `bind`: a procedure asks first, then makes its one change, and then does only
what cannot fail.
-/

namespace Community.Procedure

open Json

variable {α β γ : Type}

/-! ## Steps that depend on nothing -/

@[simp]
theorem perform_pure (a : α) (w : World) :
    (pure a : Procedure α).perform w = (.ok a, w) := rfl

@[simp]
theorem perform_throw (p : Problem) (w : World) :
    (throw p : Procedure α).perform w = (.error p, w) := rfl

/-- One part after the other: a failure of the first part is a failure of the whole. -/
theorem perform_bind (a : Procedure α) (f : α → Procedure β) (w : World) :
    (a >>= f).perform w = match a.perform w with
      | (.ok x, v) => (f x).perform v
      | (.error p, v) => (.error p, v) := by
  show (ExceptT.bindCont f (a w).1) (a w).2 = _
  unfold perform ExceptT.run StateT.run
  rcases a w with ⟨_ | _, v⟩ <;> rfl

/-- After a step that succeeds the rest is performed in the world that it left. -/
theorem perform_bind_ok {a : Procedure α} {f : α → Procedure β} {w v : World} {x : α}
    (h : a.perform w = (.ok x, v)) : (a >>= f).perform w = (f x).perform v := by
  rw [perform_bind, h]

/-- Two questions, one after the other, are one question. -/
theorem perform_bind_asked {a : Procedure α} {f : α → Procedure β} {w : World}
    {x : Except Problem α} {g : α → Except Problem β} (ha : a.perform w = (x, w))
    (hf : ∀ y, (f y).perform w = (g y, w)) : (a >>= f).perform w = (x >>= g, w) := by
  rw [perform_bind, ha]
  cases x with
  | error p => rfl
  | ok y => exact hf y

/-- A procedure in two parts succeeds through a success of each. -/
theorem perform_bind_eq_ok {a : Procedure α} {f : α → Procedure β} {w w' : World} {y : β}
    (h : (a >>= f).perform w = (.ok y, w')) :
    ∃ x v, a.perform w = (.ok x, v) ∧ (f x).perform v = (.ok y, w') := by
  rw [perform_bind] at h
  split at h
  · next x v hx => exact ⟨x, v, hx, h⟩
  · next p v hp => cases h

/-- A procedure in two parts fails in the first or in the second. -/
theorem perform_bind_eq_error {a : Procedure α} {f : α → Procedure β} {w w' : World}
    {p : Problem} (h : (a >>= f).perform w = (.error p, w')) :
    a.perform w = (.error p, w') ∨
      ∃ x v, a.perform w = (.ok x, v) ∧ (f x).perform v = (.error p, w') := by
  rw [perform_bind] at h
  split at h
  · next x v hx => exact Or.inr ⟨x, v, hx, h⟩
  · next q v hq =>
    cases h
    exact Or.inl hq

/-- What is yielded is changed, what is done is not. -/
theorem perform_map (f : α → β) (a : Procedure α) (w : World) :
    (f <$> a).perform w = ((a.perform w).1.map f, (a.perform w).2) := by
  rw [map_eq_pure_bind, perform_bind]
  rcases a.perform w with ⟨_ | _, v⟩ <;> rfl

/-! ## Steps on the world -/

/-- A check yields its outcome and leaves the world as it is. -/
@[simp]
theorem perform_check (e : Except Problem α) (w : World) :
    (check e).perform w = (e, w) := rfl

@[simp]
theorem perform_get (w : World) : (get : Procedure World).perform w = (.ok w, w) := rfl

@[simp]
theorem perform_now (w : World) : now.perform w = (.ok w.now, w) := rfl

/-- A query looks at the database and leaves the world as it is. -/
@[simp]
theorem perform_query (q : Database → Except Database.Fault α) (w : World) :
    (query q).perform w = (Problem.ofStatement (q w.database), w) := rfl

/-- A transaction that succeeds leaves its database. -/
theorem perform_transact_ok {q : Database → Except Problem (α × Database)} {w : World}
    {a : α} {db : Database} (h : q w.database = .ok (a, db)) :
    (transact q).perform w = (.ok a, { w with database := db }) := by
  rw [transact, perform_bind_ok (perform_get w), h]
  rfl

/-- A transaction that fails leaves the database that was there. -/
theorem perform_transact_error {q : Database → Except Problem (α × Database)} {w : World}
    {p : Problem} (h : q w.database = .error p) :
    (transact q).perform w = (.error p, w) := by
  rw [transact, perform_bind_ok (perform_get w), h]
  rfl

/-- A change of the database is made as a whole or not at all. -/
theorem perform_transact (q : Database → Except Problem (α × Database)) (w : World) :
    (transact q).perform w = match q w.database with
      | .ok (a, db) => (.ok a, { w with database := db })
      | .error p => (.error p, w) := by
  cases h : q w.database with
  | ok x => exact perform_transact_ok h
  | error p => exact perform_transact_error h

/-- A row that is written and can be read is in the database, and one that is not written
leaves no trace. Between the two lies a row that is written and cannot be read. -/
theorem perform_writeRow {ρ : Type} [Database.Entity ρ α]
    (q : Database → Except Database.Fault (ρ × Database)) (w : World) :
    (writeRow q).perform w = match q w.database with
      | .ok (r, db) =>
        (Problem.ofStatement (Database.readRow r), { w with database := db })
      | .error f => (.error (.database f), w) := by
  have hwrite : (write q).perform w = match q w.database with
      | .ok (r, db) => (.ok r, { w with database := db })
      | .error f => (.error (.database f), w) := by
    rw [write, perform_transact]
    cases q w.database <;> rfl
  rw [writeRow, perform_bind, hwrite]
  cases q w.database <;> rfl

/-- An attempt succeeds whatever comes of its statement, and leaves the database of one that
succeeds. -/
theorem perform_attempt (q : Database → Except Database.Fault (α × Database)) (w : World) :
    (attempt q).perform w = (.ok (), match q w.database with
      | .ok (_, db) => { w with database := db }
      | .error _ => w) := rfl

/-- Looking for a key yields what is found, and leaves the cache without what has expired. -/
@[simp]
theorem perform_fetch [Decode α] (key : String) (w : World) :
    (fetch key : Procedure (Option α)).perform w =
      (.ok (w.cache.get w.clock key).1,
        { w with cache := (w.cache.get (α := α) w.clock key).2 }) :=
  rfl

/-- Keeping a value stores it under its key for the time that the policy gives. -/
@[simp]
theorem perform_keep [Encode α] (key : String) (a : α) (ttl : Cache.Policy → Nat)
    (w : World) :
    (keep key a ttl).perform w =
      (.ok (), { w with cache := w.cache.set w.clock key a (ttl w.cache.policy) }) := rfl

/-- Forgetting a key removes its entry. -/
@[simp]
theorem perform_forget (key : String) (w : World) :
    (forget key).perform w = (.ok (), { w with cache := w.cache.delete key }) := rfl

/-- Forgetting families removes the entries of their keys. -/
@[simp]
theorem perform_forgetFamilies (patterns : List String) (w : World) :
    (forgetFamilies patterns).perform w =
      (.ok (), { w with cache := w.cache.deletePatterns patterns }) := rfl

/-- The value that is kept, or the one that is computed and kept from then on. Nothing is
kept of a failure. -/
theorem perform_readThrough [Encode α] [Decode α] (key : String) (ttl : Cache.Policy → Nat)
    (compute : Procedure α) (w : World) :
    (readThrough key ttl compute).perform w =
      match (w.cache.get w.clock key : Option α × Cache) with
      | (some a, c) => (.ok a, { w with cache := c })
      | (none, c) =>
        match compute.perform { w with cache := c } with
        | (.ok a, v) =>
          (.ok a, { v with cache := v.cache.set v.clock key a (ttl v.cache.policy) })
        | (.error p, v) => (.error p, v) := by
  rw [readThrough, perform_bind_ok (perform_fetch key w)]
  rcases h : (w.cache.get w.clock key : Option α × Cache) with ⟨_ | a, c⟩
  · dsimp only
    rw [perform_bind]
    rcases compute.perform { w with cache := c } with ⟨_ | _, v⟩ <;> rfl
  · rfl

/-! ## What a procedure leaves alone -/

/-- `a` never changes what `f` shows of a world. -/
def Leaves (f : World → γ) (a : Procedure α) : Prop :=
  ∀ w, f (a.perform w).2 = f w

namespace Leaves

variable {f : World → γ}

theorem pure (a : α) : Leaves f (Pure.pure a : Procedure α) := fun _ => rfl

theorem throw (p : Problem) : Leaves f (throw p : Procedure α) := fun _ => rfl

theorem check (e : Except Problem α) : Leaves f (check e) := fun _ => rfl

theorem now : Leaves f now := fun _ => rfl

theorem get : Leaves f (get : Procedure World) := fun _ => rfl

theorem query (q : Database → Except Database.Fault α) : Leaves f (query q) := fun _ => rfl

/-- What both of two steps leave alone is left alone by both together. -/
theorem bind {a : Procedure α} {g : α → Procedure β} (ha : Leaves f a)
    (hg : ∀ x, Leaves f (g x)) : Leaves f (a >>= g) := by
  intro w
  have hw := ha w
  rw [perform_bind]
  rcases h : a.perform w with ⟨p | x, v⟩
  · rw [h] at hw
    exact hw
  · rw [h] at hw
    exact (hg x v).trans hw

/-- What both branches leave alone is left alone by the choice between them. -/
theorem ite {c : Prop} [Decidable c] {a b : Procedure α} (ha : Leaves f a)
    (hb : Leaves f b) : Leaves f (if c then a else b) := by
  split
  · exact ha
  · exact hb

/-- A change of the database leaves alone what every committed change leaves alone. -/
theorem transact {q : Database → Except Problem (α × Database)}
    (h : ∀ w a db, q w.database = .ok (a, db) → f { w with database := db } = f w) :
    Leaves f (transact q) := by
  intro w
  rw [perform_transact]
  split
  · next a db hq => exact h w a db hq
  · rfl

/-- A written row leaves alone what does not change with the database that it leads to. -/
theorem writeRow {ρ : Type} [Database.Entity ρ α]
    {q : Database → Except Database.Fault (ρ × Database)}
    (h : ∀ w r db, q w.database = .ok (r, db) → f { w with database := db } = f w) :
    Leaves f (writeRow q) := by
  intro w
  rw [perform_writeRow]
  split
  · next r db hq => exact h w r db hq
  · rfl

/-- An attempt leaves alone what does not change with the database that it leads to. -/
theorem attempt {q : Database → Except Database.Fault (α × Database)}
    (h : ∀ w a db, q w.database = .ok (a, db) → f { w with database := db } = f w) :
    Leaves f (attempt q) := by
  intro w
  rw [perform_attempt]
  split
  · next a db hq => exact h w a db hq
  · rfl

/-- Looking for a key leaves alone what does not change with the entries that expire. -/
theorem fetch [Decode α] {key : String}
    (h : ∀ w : World, f { w with cache := (w.cache.get (α := α) w.clock key).2 } = f w) :
    Leaves f (fetch key : Procedure (Option α)) := by
  intro w
  rw [perform_fetch]
  exact h w

/-- Keeping a value leaves alone what does not change with the entry. -/
theorem keep [Encode α] {key : String} {a : α} {ttl : Cache.Policy → Nat}
    (h : ∀ w : World,
      f { w with cache := w.cache.set w.clock key a (ttl w.cache.policy) } = f w) :
    Leaves f (keep key a ttl) := by
  intro w
  rw [perform_keep]
  exact h w

/-- Forgetting a key leaves alone what does not change with the entry. -/
theorem forget {key : String}
    (h : ∀ w : World, f { w with cache := w.cache.delete key } = f w) :
    Leaves f (forget key) := by
  intro w
  rw [perform_forget]
  exact h w

/-- Forgetting families leaves alone what does not change with their entries. -/
theorem forgetFamilies {patterns : List String}
    (h : ∀ w : World, f { w with cache := w.cache.deletePatterns patterns } = f w) :
    Leaves f (forgetFamilies patterns) := by
  intro w
  rw [perform_forgetFamilies]
  exact h w

/-- Reading through the cache leaves alone what neither the entry nor the computing changes.
-/
theorem readThrough [Encode α] [Decode α] {key : String} {ttl : Cache.Policy → Nat}
    {compute : Procedure α}
    (hget : ∀ w : World, f { w with cache := (w.cache.get (α := α) w.clock key).2 } = f w)
    (hcompute : Leaves f compute)
    (hset : ∀ (w : World) (a : α),
      f { w with cache := w.cache.set w.clock key a (ttl w.cache.policy) } = f w) :
    Leaves f (readThrough key ttl compute) := by
  refine bind (fetch hget) fun found => ?_
  cases found with
  | some a => exact pure a
  | none => exact bind hcompute fun a => bind (keep (hset · a)) fun _ => pure a

end Leaves

/-- A question is answered in the world where it is asked, and leaves it. -/
theorem perform_asked {a : Procedure α} {w : World} {x : Except Problem α}
    (ha : Leaves (fun w => w) a) (h : (a.perform w).1 = x) : a.perform w = (x, w) :=
  Prod.ext h (ha w)

/-- A procedure that asks first succeeds in the world where it asked. -/
theorem perform_asked_eq_ok {a : Procedure α} {f : α → Procedure β} {w w' : World} {y : β}
    (ha : Leaves (fun w => w) a) (h : (a >>= f).perform w = (.ok y, w')) :
    ∃ x, a.perform w = (.ok x, w) ∧ (f x).perform w = (.ok y, w') := by
  obtain ⟨x, v, hx, hy⟩ := perform_bind_eq_ok h
  have hv := ha w
  rw [hx] at hv
  obtain rfl : v = w := hv
  exact ⟨x, hx, hy⟩

/-- A procedure that asks first fails in the world where it asked. -/
theorem perform_asked_eq_error {a : Procedure α} {f : α → Procedure β} {w w' : World}
    {p : Problem} (ha : Leaves (fun w => w) a) (h : (a >>= f).perform w = (.error p, w')) :
    a.perform w = (.error p, w) ∨
      ∃ x, a.perform w = (.ok x, w) ∧ (f x).perform w = (.error p, w') := by
  have hv := ha w
  rcases perform_bind_eq_error h with herror | ⟨x, v, hx, hy⟩
  · rw [herror] at hv
    obtain rfl : w' = w := hv
    exact Or.inl herror
  · rw [hx] at hv
    obtain rfl : v = w := hv
    exact Or.inr ⟨x, hx, hy⟩

/-- A row that was written was stored and read again. -/
theorem perform_writeRow_eq_ok {ρ : Type} [Database.Entity ρ α]
    {q : Database → Except Database.Fault (ρ × Database)} {w w' : World} {a : α}
    (h : (writeRow q).perform w = (.ok a, w')) :
    ∃ r db, q w.database = .ok (r, db) ∧ Problem.ofStatement (Database.readRow r) = .ok a ∧
      w' = { w with database := db } := by
  rw [perform_writeRow] at h
  split at h
  · next r db hq =>
    obtain ⟨hread, hworld⟩ := Prod.mk.inj h
    exact ⟨r, db, hq, hread, hworld.symm⟩
  · cases h

/-! ## Procedures that fail without a trace -/

/-- `a` changes nothing if it fails. -/
def FailsCleanly (a : Procedure α) : Prop :=
  ∀ w p w', a.perform w = (.error p, w') → w' = w

/-- `a` does not fail. -/
def Succeeds (a : Procedure α) : Prop :=
  ∀ w, ∃ x w', a.perform w = (.ok x, w')

namespace Succeeds

theorem pure (a : α) :
    Succeeds (Pure.pure a : Procedure α) := fun w => ⟨a, w, perform_pure a w⟩

theorem forget (key : String) :
    Succeeds (forget key) := fun w => ⟨(), _, perform_forget key w⟩

theorem forgetFamilies (patterns : List String) :
    Succeeds (forgetFamilies patterns) := fun w =>
  ⟨(), _, perform_forgetFamilies patterns w⟩

/-- Two steps that always succeed succeed together. -/
theorem bind {a : Procedure α} {g : α → Procedure β} (ha : Succeeds a)
    (hg : ∀ x, Succeeds (g x)) : Succeeds (a >>= g) := by
  intro w
  obtain ⟨x, v, hx⟩ := ha w
  obtain ⟨y, w', hy⟩ := hg x v
  exact ⟨y, w', (perform_bind_ok hx).trans hy⟩

end Succeeds

namespace FailsCleanly

/-- A refusal leaves the world as it was. -/
theorem throw (p : Problem) : FailsCleanly (throw p : Procedure α) := by
  intro w q w' h
  rw [perform_throw] at h
  cases h
  rfl

/-- A question comes before anything else. -/
theorem bind_asked {a : Procedure α} {g : α → Procedure β} (ha : Leaves (fun w => w) a)
    (hg : ∀ x, FailsCleanly (g x)) : FailsCleanly (a >>= g) := by
  intro w p w' h
  rcases perform_bind_eq_error h with herror | ⟨x, v, hok, herror⟩
  · have hw := ha w
    rw [herror] at hw
    exact hw
  · have hw := ha w
    rw [hok] at hw
    exact (hg x v p w' herror).trans hw

/-- What cannot fail comes after everything else. -/
theorem bind_succeeds {a : Procedure α} {g : α → Procedure β} (ha : FailsCleanly a)
    (hg : ∀ x, Succeeds (g x)) : FailsCleanly (a >>= g) := by
  intro w p w' h
  rcases perform_bind_eq_error h with herror | ⟨x, v, -, herror⟩
  · exact ha w p w' herror
  · obtain ⟨y, v', hok⟩ := hg x v
    rw [hok] at herror
    cases herror

theorem transact (q : Database → Except Problem (α × Database)) :
    FailsCleanly (transact q) := by
  intro w p w' h
  rw [perform_transact] at h
  split at h <;> cases h
  rfl

/-- Writing a row that can be read fails only where nothing is written. -/
theorem writeRow {ρ : Type} [Database.Entity ρ α]
    {q : Database → Except Database.Fault (ρ × Database)}
    (hq : ∀ db r db', q db = .ok (r, db') → ∃ a, Database.Entity.read? r = some a) :
    FailsCleanly (writeRow q) := by
  intro w p w' h
  rw [perform_writeRow] at h
  split at h
  · next r db hr =>
    -- the row is in the table by now, so it must not fail to be read
    obtain ⟨a, ha⟩ := hq _ _ _ hr
    rw [Database.readRow, ha] at h
    cases h
  · cases h
    rfl

end FailsCleanly

/-! ## Problems that a procedure does not have -/

/-- `a` never fails with the problem. -/
def Spares (p : Problem) (a : Procedure α) : Prop :=
  ∀ w w', a.perform w ≠ (.error p, w')

namespace Spares

variable {p : Problem}

theorem pure (a : α) : Spares p (Pure.pure a : Procedure α) := by
  intro w w' h
  cases h

/-- A refusal for another problem is not the one that is spared. -/
theorem throw {q : Problem} (h : q ≠ p) : Spares p (throw q : Procedure α) := by
  intro w w' hthrow
  rw [perform_throw] at hthrow
  cases hthrow
  exact h rfl

/-- A question fails in the database only. -/
theorem query (h : ∀ f, .database f ≠ p) (q : Database → Except Database.Fault α) :
    Spares p (query q) := by
  intro w w' hquery
  rw [perform_query] at hquery
  cases hq : q w.database with
  | ok a => rw [hq] at hquery; cases hquery
  | error f =>
    rw [hq] at hquery
    cases hquery
    exact h f rfl

/-- A written row fails with what the database says, and with nothing else. -/
theorem writeRow {ρ : Type} [Database.Entity ρ α] (h : ∀ f, .database f ≠ p)
    (q : Database → Except Database.Fault (ρ × Database)) : Spares p (writeRow q) := by
  intro w w' hwrite
  rw [perform_writeRow] at hwrite
  split at hwrite
  · next r db hq =>
    cases hread : Database.readRow r with
    | ok a => rw [hread] at hwrite; cases hwrite
    | error f =>
      rw [hread] at hwrite
      cases hwrite
      exact h f rfl
  · cases hwrite
    exact h _ rfl

/-- What always succeeds does not fail with any problem. -/
theorem of_succeeds {a : Procedure α} (h : Succeeds a) : Spares p a := by
  intro w w' herror
  obtain ⟨x, v, hok⟩ := h w
  rw [hok] at herror
  cases herror

/-- A choice spares what both of its branches spare. -/
theorem ite {c : Prop} [Decidable c] {a b : Procedure α} (ha : Spares p a)
    (hb : Spares p b) : Spares p (if c then a else b) := by
  split
  · exact ha
  · exact hb

/-- Two steps together spare what each of them spares. -/
theorem bind {a : Procedure α} {g : α → Procedure β} (ha : Spares p a)
    (hg : ∀ x, Spares p (g x)) : Spares p (a >>= g) := by
  intro w w' h
  rcases perform_bind_eq_error h with herror | ⟨x, v, -, herror⟩
  · exact ha w w' herror
  · exact hg x v w' herror

end Spares

end Community.Procedure

import Community.Proofs.Cache.Recency
import Community.Proofs.Http.Authority

/-!
# Runs of requests

What reaches the service are requests, each of which is answered in the world that the ones
before have left. In between time passes, and the database may change by other hands.

A request never does more than one operation:

> `respond_next`: the world after a request is the world before it, or is what one operation
> leaves.

So whatever is known about operations is known about requests, above all where the entries of
the cache come from (`Turn.origin_next`). A property that every answer of the database has,
and still has when it is read from its text, is therefore one of all that can be read from
the cache (`World.recalls_served`).
-/

namespace Community

open Procedure

/-! ## Procedures that do one operation -/

namespace Procedure

variable {α β : Type}

/-- What `a` leaves is the world as it was, or as one operation leaves it. -/
def Operates (a : Procedure α) : Prop :=
  ∀ w, (a.perform w).2 = w ∨ ∃ op : Operation, (a.perform w).2 = op.next w

namespace Operates

theorem pure (a : α) : Operates (Pure.pure a : Procedure α) :=
  fun _ => Or.inl rfl

theorem throw (p : Problem) : Operates (throw p : Procedure α) :=
  fun _ => Or.inl rfl

/-- What an operation carries out, with its value in the form of an answer. -/
theorem answered {a : Procedure α} (op : Operation) (hrun : op.run = silently a)
    (f : α → β) : Operates (do let x ← a; return f x) := by
  intro w
  refine Or.inr ⟨op, ?_⟩
  rw [Operation.next, hrun, Operation.snd_perform_silently, perform_bind]
  rcases a.perform w with ⟨_ | _, v⟩ <;> rfl

end Operates

end Procedure

namespace Http

/-- What an endpoint does to the world is one operation, or nothing. -/
theorem Endpoint.operates (e : Endpoint) (v : Visit) : Operates (e.run v) := by
  obtain rfl | ⟨p, hrun⟩ | ⟨op, hserves⟩ := e.run_cases v
  · exact .pure _
  · rw [hrun]
    exact .throw p
  · obtain ⟨α, s, f, hrun, hform⟩ := hserves.exists_form
    rw [hform]
    exact .answered op hrun f

/-- So it is for every request. -/
theorem respond_next (gateway : Gateway) (r : Request) (w : World) :
    (respond gateway r w).2 = w ∨ ∃ op : Operation, (respond gateway r w).2 = op.next w := by
  obtain hsame | ⟨_, _, _, parameters, e, _, _, _, hworld⟩ := respond_cases gateway r w
  · exact Or.inl hsame
  · rw [hworld]
    exact e.operates _ w

/-! ## Runs -/

/-- What can happen to the service from outside. -/
inductive Turn
  | request (r : Request)
  /-- Time passes, in microseconds. -/
  | wait (time : Nat)
  /-- Other services write, or tables get lost or found: the database is then this one. -/
  | rewrite (db : Database)

/-- The world after a turn. -/
def Turn.next (gateway : Gateway) : Turn → World → World
  | request r, w => (respond gateway r w).2
  | wait time, w => { w with clock := w.clock + time }
  | rewrite db, w => { w with database := db }

end Http

open Http

/-- The world after a run of requests. -/
def World.served (gateway : Gateway) (w : World) (turns : List Turn) : World :=
  turns.foldl (fun v t => t.next gateway v) w

variable {gateway : Gateway} {w : World} {turns : List Turn}

theorem World.served_cons (t : Turn) :
    w.served gateway (t :: turns) = (t.next gateway w).served gateway turns := rfl

/-- What holds at the start and is kept by every turn holds after a run of requests. -/
theorem World.served_induction {I : World → Prop} (hstart : I w)
    (hstep : ∀ v t, t ∈ turns → I v → I (t.next gateway v)) :
    I (w.served gateway turns) := by
  induction turns generalizing w with
  | nil => exact hstart
  | cons t turns ih =>
    rw [served_cons]
    exact ih (hstep w t List.mem_cons_self hstart) fun v s hs =>
      hstep v s (List.mem_cons_of_mem t hs)

/-- An entry of a value that is there after a turn was there before, or is what
the database said. -/
theorem Http.Turn.origin_next {c : Cached} {entry : Cache.Entry} (t : Turn)
    (h : (t.next gateway w).cache.store.find? c.key = some entry) :
    w.cache.store.find? c.key = some entry ∨ c.IsWrittenIn w entry := by
  cases t with
  | request r =>
    rcases respond_next gateway r w with hsame | ⟨op, hop⟩
    · rw [next, hsame] at h
      exact Or.inl h
    · rw [next, hop] at h
      exact op.origin_next h
  | wait time => exact Or.inl h
  | rewrite db => exact Or.inl h

/-! ## What can be read from the cache -/

/-- Whatever can be read from the cache has the property. -/
def World.Recalls (P : (c : Cached) → c.Value → Prop) (w : World) : Prop :=
  ∀ (c : Cached) (a : c.Value), w.cache.Stores c.key a → P c a

section Recalls

variable {P : (c : Cached) → c.Value → Prop}

/-- An empty cache recalls nothing that could be wrong. -/
theorem World.recalls_of_empty (hempty : w.cache.store.entries = []) : w.Recalls P := by
  intro c a hstores
  obtain ⟨e, hfind, -⟩ := hstores
  rw [Cache.Store.find?, hempty] at hfind
  cases hfind

/-- What is recalled stays right from one turn to the next. -/
theorem World.recalls_next
    (hanswer : ∀ {c : Cached} {db : Database} {a b : c.Value}, c.answer db = .ok a →
      Json.parse (encode a).render = .ok b → P c b)
    (t : Turn) (hw : w.Recalls P) : (t.next gateway w).Recalls P := by
  intro c a hstores
  obtain ⟨e, hfind, hparse⟩ := hstores
  rcases t.origin_next hfind with hbefore | ⟨b, hb, rfl⟩
  · exact hw c a ⟨e, hbefore, hparse⟩
  · exact hanswer hb hparse

/-- What has the property when it has been written and is read again is all
that can be read. -/
theorem World.recalls_served
    (hanswer : ∀ {c : Cached} {db : Database} {a b : c.Value}, c.answer db = .ok a →
      Json.parse (encode a).render = .ok b → P c b)
    (hw : w.Recalls P) (turns : List Turn) : (w.served gateway turns).Recalls P :=
  served_induction hw fun _ t _ hv => recalls_next hanswer t hv

/-- What a reader yields can be read from the cache, or is an answer of the database. -/
theorem Cached.ReadBy.of_recalls {c : Cached} {a : Procedure c.Value} {b : c.Value}
    {w' : World} (h : c.ReadBy a) (hw : w.Recalls P)
    (hanswer : ∀ {db : Database}, c.answer db = .ok b → P c b)
    (hperform : a.perform w = (.ok b, w')) : P c b := by
  rcases h.yields hperform with hstores | hb
  · exact hw c b hstores
  · exact hanswer hb

end Recalls

end Community

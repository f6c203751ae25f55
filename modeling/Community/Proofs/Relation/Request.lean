import Community.Proofs.Cache.Store
import Community.Proofs.Procedure
import Community.Relation.Service

/-!
# The four answers to a toggle

A request to toggle is refused for its issues, or repeated from the cache, or fails in the
database, or is carried out. `Answered` lists what comes out in each case, and which world
is left:

> `Relation.request_answered`: there is no other way.

Only the last way changes the database, and only there anything is removed from or kept in
the cache; the others make at most the look at the marker.
-/

namespace Community

open Procedure Time

namespace Relation

variable {ρ ω : Type} [Encode ω] [Json.Decode ω]

/-- What a request to toggle can come to, and the world after it. -/
inductive Answered (issues : List Issue) (marker : String)
    (change : Timestamp → Database → Except Problem (ρ × Database)) (families : List String)
    (outcome : ρ → ω) (w : World) : Except Problem ω × World → Prop
  | refused (hissues : issues.isEmpty = false) :
    Answered issues marker change families outcome w (.error (.invalid issues), w)
  | repeated {o : ω} {c : Cache} (hissues : issues.isEmpty = true)
    (hget : w.cache.get w.clock marker = (some o, c)) :
    Answered issues marker change families outcome w (.ok o, { w with cache := c })
  | failed {p : Problem} {c : Cache} (hissues : issues.isEmpty = true)
    (hget : w.cache.get w.clock marker = ((none : Option ω), c))
    (hchange : change w.now w.database = .error p) :
    Answered issues marker change families outcome w (.error p, { w with cache := c })
  | done {a : ρ} {db : Database} {c : Cache} (hissues : issues.isEmpty = true)
    (hget : w.cache.get w.clock marker = ((none : Option ω), c))
    (hchange : change w.now w.database = .ok (a, db)) :
    Answered issues marker change families outcome w
      (.ok (outcome a), { w with
        database := db
        cache := (c.deletePatterns families).set w.clock marker
          (outcome a) w.cache.policy.marker })

variable {issues : List Issue} {marker : String} {families : List String} {outcome : ρ → ω}
  {change : Timestamp → Database → Except Problem (ρ × Database)}

omit [Encode ω] [Json.Decode ω] in
/-- Carrying a toggle out is the change of the database and, if it was made, the removal. -/
theorem perform_carryOut (w : World) :
    (carryOut change families outcome).perform w = match change w.now w.database with
      | .ok (a, db) =>
        (.ok (outcome a),
          { w with database := db, cache := w.cache.deletePatterns families })
      | .error p => (.error p, w) := by
  rw [carryOut, perform_bind_ok (perform_now w), perform_bind, perform_transact]
  cases change w.now w.database with
  | ok x => rfl
  | error p => rfl

/-- A toggle is refused, replayed or carried out. -/
theorem request_answered (w : World) :
    Answered issues marker change families outcome w
      ((request issues marker (carryOut change families outcome)).perform w) := by
  rw [request, perform_bind, perform_check, Problem.ofIssues]
  cases hissues : issues.isEmpty with
  | false => exact .refused hissues
  | true =>
    rw [if_pos rfl]
    show Answered _ _ _ _ _ w ((readThrough marker Cache.Policy.marker _).perform w)
    rw [perform_readThrough]
    rcases hget : (w.cache.get w.clock marker : Option ω × Cache) with ⟨_ | o, c⟩
    · dsimp only
      rw [perform_carryOut]
      have hpolicy : (c.deletePatterns families).policy = w.cache.policy := by
        have hget' : (w.cache.get w.clock marker : Option ω × Cache).2.setup =
            w.cache.setup :=
          Cache.setup_get
        rw [hget] at hget'
        exact congrArg Prod.fst (Cache.setup_deletePatterns.trans hget')
      cases hchange : change w.now w.database with
      | error p =>
        have : change { w with cache := c }.now w.database = .error p := hchange
        rw [this]
        exact .failed hissues hget hchange
      | ok x =>
        have : change { w with cache := c }.now w.database = .ok x := hchange
        rw [this]
        dsimp only
        rw [hpolicy]
        exact .done hissues hget hchange
    · exact .repeated hissues hget

/-- A request to toggle leaves the database alone or makes one change. -/
theorem database_request (w : World) :
    ((request issues marker (carryOut change families outcome)).perform w).2.database =
      w.database ∨
      ∃ a, change w.now w.database = .ok
        (a,
          ((request issues marker (carryOut change families outcome)).perform
            w).2.database) := by
  generalize hperform :
    (request issues marker (carryOut change families outcome)).perform w = x
  have hanswered : Answered issues marker change families outcome w x := by
    rw [← hperform]
    exact request_answered w
  cases hanswered with
  | refused | repeated | failed => exact Or.inl rfl
  | done _ _ hchange => exact Or.inr ⟨_, hchange⟩

end Relation

/-- A call for a like leaves the database, or toggles the like. -/
theorem Like.database_request (userId : Int) (r : LikeToggle) (requestId : Option String)
    (w : World) :
    ((request userId r requestId).perform w).2.database = w.database ∨
      ∃ l, toggle userId r w.now w.database
        = .ok (l, ((request userId r requestId).perform w).2.database) :=
  Relation.database_request w

/-- So does one for a favorite. -/
theorem Favorite.database_request (userId : Int) (r : FavoriteToggle)
    (requestId : Option String) (w : World) :
    ((request userId r requestId).perform w).2.database = w.database ∨
      ∃ f, toggle userId r w.now w.database
        = .ok (f, ((request userId r requestId).perform w).2.database) :=
  Relation.database_request w

end Community

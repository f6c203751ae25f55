import Community.Proofs.Cache.Uncached
import Community.Proofs.Refusal

/-!
# When the cache is down

The cache may fail to carry out any call, at any time. No part of the service takes notice of
a failure, and so nobody outside does either:

> `outage_changes_no_answer`: changes of categories and profiles yield and store what
> they would without a cache; a toggle and a cached read do so too, or are answered from
> a live entry under their own key and change nothing; and nothing fails that would not
> fail without a cache.

What is compared is one procedure in two worlds. For every step of a service the worlds
differ in their caches alone before and after it, so the services are covered part by part,
and only the look into the cache needs two cases.
-/

namespace Community

open Procedure Database

/-! ## What the services compute -/

namespace Category

theorem ignoresCache_findActive (id : Int) : IgnoresCache (findActive id) :=
  .bind (.query _) fun _ => .pure _

/-- The checks of a category read the database alone, that of its parent among them. -/
theorem ignoresCache_ensureParent (parentId : Int) :
    IgnoresCache (ensureParent parentId) := by
  unfold ensureParent
  split
  · exact .pure _
  · exact .bind (ignoresCache_findActive parentId) fun _ => .ite (.throw _) (.pure _)

/-- The search for a sibling of the same name reads the database alone. -/
theorem ignoresCache_ensureFreeName (parentId : Int) (name : String) (except? : Option Int) :
    IgnoresCache (ensureFreeName parentId name except?) := by
  refine .bind (.query _) fun found => ?_
  cases found with
  | none => exact .pure _
  | some other => exact .ite (.throw _) (.pure _)

theorem ignoresCache_ensureMove (id parentId : Int) :
    IgnoresCache (ensureMove id parentId) := by
  have hrest : IgnoresCache (do
      ensureParent parentId
      if ← check (isWithin (← get).database parentId id) then throw .descendantParent) := by
    refine .bind (ignoresCache_ensureParent parentId) fun _ => ?_
    refine IgnoresCache.bind_database (g := fun db => do
      if ← check (isWithin db parentId id) then throw .descendantParent) fun db => ?_
    exact .bind (.check _) fun _ => .ite (.throw _) (.pure _)
  unfold ensureMove
  split
  · exact .bind (.throw _) fun _ => hrest
  · exact hrest

/-- So do the checks of a change together. -/
theorem ignoresCache_ensureChange (id : Int) (c next : Category) :
    IgnoresCache (ensureChange id c next) := by
  have hname : IgnoresCache (do
      if next.name ≠ c.name ∨ next.parentId ≠ c.parentId then
        ensureFreeName next.parentId next.name (some id)) :=
    .ite (ignoresCache_ensureFreeName _ _ _) (.pure _)
  exact .ite (.bind (ignoresCache_ensureMove id next.parentId) fun _ => hname) hname

theorem ignoresCache_ensureUnused (id : Int) : IgnoresCache (ensureUnused id) := by
  have hchildren : IgnoresCache (do
      let children ← query (childCount id)
      if children > 0 then throw (.activeChildren id children)) :=
    .bind (.query _) fun _ => .ite (.throw _) (.pure _)
  refine .bind (.query _) fun found => ?_
  split
  · exact .bind (.throw _) fun _ => hchildren
  · exact hchildren

/-- Creating a category drops keys of the cache, and reads none. -/
theorem ignoresCache_create (r : NewCategory) : IgnoresCache (create r) := by
  refine .bind (.check _) fun _ => .bind (ignoresCache_ensureParent _) fun _ => ?_
  refine .bind (ignoresCache_ensureFreeName _ _ _) fun _ => .bind .now fun now => ?_
  exact .bind (.writeRow _) fun c => .bind (.forgetFamilies _) fun _ => .pure _

/-- Changing a category reads none either. -/
theorem ignoresCache_change (id : Int) (r : CategoryChange) :
    IgnoresCache (change id r) := by
  refine .bind (.check _) fun _ => .bind (.query _) fun found => ?_
  cases found with
  | none => exact .throw _
  | some c =>
    refine .bind .now fun now => .bind (ignoresCache_ensureChange id c _) fun _ => ?_
    exact .bind (.writeRow _) fun c => .bind (.forgetFamilies _) fun _ => .pure _

/-- Nor does removing one. -/
theorem ignoresCache_remove (id : Int) : IgnoresCache (remove id) :=
  .bind (ignoresCache_ensureUnused id) fun _ => .bind (.transact _) fun _ =>
    .forgetFamilies _

/-- The way up from a category is always read from the database. -/
theorem ignoresCache_ancestors (id : Int) : IgnoresCache (ancestors id) := by
  refine .bind (ignoresCache_findActive id) fun found => ?_
  cases found with
  | none => exact .pure _
  | some c =>
    refine IgnoresCache.bind_database (g := fun db => do
      return (← check (climb db id (rowCount db + 1) [c.id] c)).reverse) fun db => ?_
    exact .bind (.check _) fun _ => .pure _

/-- A category is shown from its entry, or from the database. -/
theorem answeredFrom_view (id : Int) (w : World) :
    AnsweredFrom (infoKey id) (fun c : Category => c) (view id) w := by
  refine answeredFrom_readThrough (.bind (ignoresCache_findActive id) fun found => ?_) w
  cases found with
  | some c => exact .pure _
  | none => exact .throw _

/-- The tree is shown from its entry, or from the database. -/
theorem answeredFrom_tree (w : World) :
    AnsweredFrom treeKey (fun nodes : List CategoryNode => nodes) tree w :=
  answeredFrom_readThrough (.bind (.query _) fun _ => .check _) w

end Category

namespace User

theorem ignoresCache_ensureFreeUsername (u : User) (r : ProfileChange) :
    IgnoresCache (ensureFreeUsername u r) := by
  unfold ensureFreeUsername
  split
  · exact .pure _
  · exact .ite (.bind (.query _) fun _ => .ite (.throw _) (.pure _)) (.pure _)

theorem ignoresCache_ensureFreeEmail (u : User) (r : ProfileChange) :
    IgnoresCache (ensureFreeEmail u r) := by
  unfold ensureFreeEmail
  split
  · exact .pure _
  · exact .ite (.bind (.query _) fun _ => .ite (.throw _) (.pure _)) (.pure _)

/-- Changing a profile drops keys of the cache, and reads none. -/
theorem ignoresCache_change (id : Int) (r : ProfileChange) : IgnoresCache (change id r) := by
  refine .bind (.check _) fun _ => .bind (.query _) fun found => ?_
  cases found with
  | none => exact .throw _
  | some u =>
    refine .bind (ignoresCache_ensureFreeUsername u r) fun _ => ?_
    refine .bind (ignoresCache_ensureFreeEmail u r) fun _ => .bind .now fun now => ?_
    refine .bind (.writeRow _) fun u => .bind (.forget _) fun _ => ?_
    exact .bind (.forgetFamilies _) fun _ => .pure _

/-- A profile is shown from its entry, veiled for others, or from the database. -/
theorem answeredFrom_profile (id : Int) (viewer : Option Int) (w : World) :
    AnsweredFrom (infoKey id) (shownTo viewer id) (profile id viewer) w := by
  refine (answeredFrom_readThrough (.bind (.query _) fun found => ?_) w).map
    (shownTo viewer id)
  cases found with
  | some u => exact .pure _
  | none => exact .throw _

/-- A page of users is shown from its entry, or from the database. -/
theorem answeredFrom_list (filter : UserFilter) (p : Page) (w : World) :
    AnsweredFrom (listKey filter p) (fun l : Listing Profile => l) (list filter p) w :=
  answeredFrom_readThrough (.bind (.query _) fun _ => .pure _) w

end User

namespace Relation

variable {ρ ω : Type} [Encode ω] [Json.Decode ω]

omit [Encode ω] [Json.Decode ω] in
/-- A toggle that is carried out reads the database alone. -/
theorem ignoresCache_carryOut
    (change : Time.Timestamp → Database → Except Problem (ρ × Database))
    (families : List String) (outcome : ρ → ω) :
    IgnoresCache (carryOut change families outcome) :=
  .bind .now fun _ => .bind (.transact _) fun _ => .bind (.forgetFamilies _) fun _ => .pure _

/-- A request with issues is refused before the marker is looked for. -/
theorem answeredFrom_request {issues : List Issue} {marker : String} {carryOut : Procedure ω}
    (h : IgnoresCache carryOut) (w : World) :
    AnsweredFrom marker (fun o : ω => o) (request issues marker carryOut) w := by
  have hrest : ∀ v : World, (request issues marker carryOut).outcome v
      = match Problem.ofIssues issues with
        | .ok () => (readThrough marker Cache.Policy.marker carryOut).outcome v
        | .error p => (.error p, v.database) := by
    intro v
    rw [outcome, request, perform_bind, perform_check]
    cases Problem.ofIssues issues <;> rfl
  unfold AnsweredFrom uncached
  rw [hrest, hrest]
  cases Problem.ofIssues issues with
  | ok _ => exact answeredFrom_readThrough h w
  | error p => exact Or.inr rfl

end Relation

/-- A toggle is answered from its marker, or carried out. -/
theorem Like.answeredFrom_request (userId : Int) (r : LikeToggle) (requestId : Option String)
    (w : World) :
    AnsweredFrom (markerKey userId r requestId) (fun o : LikeOutcome => o)
      (request userId r requestId) w :=
  Relation.answeredFrom_request (Relation.ignoresCache_carryOut _ _ _) w

/-- So is that of a favorite. -/
theorem Favorite.answeredFrom_request (userId : Int) (r : FavoriteToggle)
    (requestId : Option String) (w : World) :
    AnsweredFrom (markerKey userId r requestId) (fun o : FavoriteOutcome => o)
      (request userId r requestId) w :=
  Relation.answeredFrom_request (Relation.ignoresCache_carryOut _ _ _) w

/-- A page of favorites is shown from its entry, or from the database. -/
theorem Favorite.answeredFrom_list (userId : Int) (filter : FavoriteFilter) (p : Page)
    (w : World) :
    AnsweredFrom (listKey userId filter p) (fun l : Listing Favorite => l)
      (list userId filter p) w :=
  answeredFrom_readThrough (.bind (.query _) fun _ => .pure _) w

namespace Search

/-- A search never looks at the cache. -/
theorem ignoresCache_run (r : SearchRequest) (userId : Option Int) (p : Page) :
    IgnoresCache (run r userId p) := by
  have hkeyword : IgnoresCache (ensureKeyword r) :=
    .bind (.check _) fun _ => .ite (.throw _) (.pure _)
  have hhits : IgnoresCache (hits r p) := by
    unfold hits
    split <;> exact .bind (.query _) fun _ => .pure _
  refine .bind hkeyword fun _ => .bind hhits fun found => ?_
  refine .bind (.bind ?_ fun _ => .bind .now fun now => .attempt _) fun _ => .pure _
  unfold recordFor
  split
  · exact .bind .now fun now => .attempt _
  · exact .pure _

end Search

/-! ## Operations -/

namespace Operation

/-- An operation that fails would fail in the same way without a cache. -/
theorem uncached_eq_error {op : Operation} {w : World} {p : Problem}
    (h : (op.run.perform w).1 = .error p) : (op.run.uncached w).1 = .error p := by
  have hignores : ∀ {a : Procedure Unit}, IgnoresCache a → (a.perform w).1 = .error p →
      (a.uncached w).1 = .error p := by
    intro a ha hp
    rw [← ha.outcome_eq_uncached w]
    exact hp
  have hanswered : ∀ {α β : Type} [Encode β] [Json.Decode β] {key : String} {view : β → α}
      {a : Procedure α}, AnsweredFrom key view a w → ((silently a).perform w).1 = .error p →
      ((silently a).uncached w).1 = .error p :=
    fun ha hp => (ha.map fun _ => ()).uncached_eq_error hp
  cases op with
  -- what is read through the cache, and what is done once
  | viewCategory id => exact hanswered (Category.answeredFrom_view id w) h
  | viewTree => exact hanswered (Category.answeredFrom_tree w) h
  | toggleLike userId r requestId =>
    exact hanswered (Like.answeredFrom_request userId r requestId w) h
  | toggleFavorite userId r requestId =>
    exact hanswered (Favorite.answeredFrom_request userId r requestId w) h
  | listFavorites userId filter page =>
    exact hanswered (Favorite.answeredFrom_list userId filter page w) h
  | viewProfile id viewer => exact hanswered (User.answeredFrom_profile id viewer w) h
  | listUsers filter page => exact hanswered (User.answeredFrom_list filter page w) h
  -- what the cache has no part in, or is only cleared by
  | viewAncestors id => exact hignores (.silently (Category.ignoresCache_ancestors id)) h
  | createCategory r => exact hignores (.silently (Category.ignoresCache_create r)) h
  | changeCategory id r => exact hignores (.silently (Category.ignoresCache_change id r)) h
  | removeCategory id => exact hignores (.silently (Category.ignoresCache_remove id)) h
  | search r userId page =>
    exact hignores (.silently (Search.ignoresCache_run r userId page)) h
  | changeProfile id r => exact hignores (.silently (User.ignoresCache_change id r)) h
  | listHistory => exact hignores (.silently (.bind (.check _) fun _ => .query _)) h
  | listHotKeywords =>
    exact hignores
      (.silently (.bind (.check _) fun _ => .bind (.query _) fun _ => .pure _)) h
  | _ => exact hignores (.silently (.bind (.query _) fun _ => .pure _)) h

end Operation

/-- Whatever the cache holds, and whichever of its calls fail: what is changed is changed as
it would be without a cache, what is read is read from a live entry or as it would be without
a cache, and nothing fails that would not fail without a cache. -/
theorem outage_changes_no_answer (w : World) :
    (∀ r, (Category.create r).outcome w = (Category.create r).uncached w) ∧
    (∀ id r, (Category.change id r).outcome w = (Category.change id r).uncached w) ∧
    (∀ id, (Category.remove id).outcome w = (Category.remove id).uncached w) ∧
    (∀ id r, (User.change id r).outcome w = (User.change id r).uncached w) ∧
    (∀ userId r requestId, AnsweredFrom (Like.markerKey userId r requestId)
      (fun o : LikeOutcome => o) (Like.request userId r requestId) w) ∧
    (∀ userId r requestId, AnsweredFrom (Favorite.markerKey userId r requestId)
      (fun o : FavoriteOutcome => o) (Favorite.request userId r requestId) w) ∧
    (∀ id, AnsweredFrom (Category.infoKey id) (fun c : Category => c) (Category.view id) w) ∧
    AnsweredFrom Category.treeKey (fun nodes : List CategoryNode => nodes) Category.tree w ∧
    (∀ id viewer, AnsweredFrom (User.infoKey id) (User.shownTo viewer id)
      (User.profile id viewer) w) ∧
    (∀ filter p, AnsweredFrom (User.listKey filter p) (fun l : Listing Profile => l)
      (User.list filter p) w) ∧
    (∀ userId filter p, AnsweredFrom (Favorite.listKey userId filter p)
      (fun l : Listing Favorite => l) (Favorite.list userId filter p) w) ∧
    (∀ (op : Operation) p, (op.run.perform w).1 = .error p →
      (op.run.uncached w).1 = .error p) := by
  refine ⟨?_, ?_, ?_, ?_, ?_, ?_, ?_, ?_, ?_, ?_, ?_, ?_⟩
  -- changes of categories and profiles
  · exact fun r => (Category.ignoresCache_create r).outcome_eq_uncached w
  · exact fun id r => (Category.ignoresCache_change id r).outcome_eq_uncached w
  · exact fun id => (Category.ignoresCache_remove id).outcome_eq_uncached w
  · exact fun id r => (User.ignoresCache_change id r).outcome_eq_uncached w
  -- toggles
  · exact fun userId r requestId => Like.answeredFrom_request userId r requestId w
  · exact fun userId r requestId => Favorite.answeredFrom_request userId r requestId w
  -- reads
  · exact fun id => Category.answeredFrom_view id w
  · exact Category.answeredFrom_tree w
  · exact fun id viewer => User.answeredFrom_profile id viewer w
  · exact fun filter p => User.answeredFrom_list filter p w
  · exact fun userId filter p => Favorite.answeredFrom_list userId filter p w
  -- failures
  · intro op p h
    exact Operation.uncached_eq_error h

/-- A like of a comment that is not there fails with and without a cache. -/
theorem outage_changes_no_answer_sample :
    ((Operation.toggleLike 1 ⟨.comment, 3, none, none, none, none⟩ none).run.uncached
      World.sample).1
      = .error (.targetMissing .commentLikes 3) := by
  have h := (outage_changes_no_answer World.sample).2.2.2.2.2.2.2.2.2.2.2
  exact h _ _ rfl

end Community

import Community.Http.Endpoint
import Community.Proofs.Operation

/-!
# What endpoints go on with

An endpoint reads a request part by part, each of which may refuse it. After the last one it
asks for one operation, and its answer is a form of what comes of that:

> `Endpoint.run_cases`: an endpoint refuses a visit, or tells that it is there, or serves the
> visit with an operation in the way that `Serves` lists.

So what is true of endpoints is proved along that list, whatever they
read and in which order.
-/

namespace Community.Http

open Procedure Json

variable {β : Type} {v : Visit} {e : Endpoint} {op : Operation} {a : Procedure Answer}

namespace Endpoint

/-- The operation that an endpoint asks for, on behalf of the sender of a visit,
and what it answers. -/
inductive Serves (v : Visit) : Endpoint → Operation → Procedure Answer → Prop
  | categoryList (filter : CategoryFilter) (p : Page) :
      Serves v .categoryList (.listCategories filter p)
      (do return answer (← Category.list filter p))
  | categoryTree : Serves v .categoryTree .viewTree (do return answer (← Category.tree))
  | categoryView (id : Int) : Serves v .categoryView (.viewCategory id)
      (do return answer (← Category.view id))
  | categoryAncestors (id : Int) : Serves v .categoryAncestors (.viewAncestors id)
      (do return answer (← Category.ancestors id))
  | categoryCreate (i : Identity) (r : NewCategory) (hi : v.admin = .ok i) :
      Serves v .categoryCreate (.createCategory r) (do return answer (← Category.create r))
  | categoryChange (i : Identity) (id : Int) (r : CategoryChange) (hi : v.admin = .ok i) :
      Serves v .categoryChange (.changeCategory id r)
        (do return answer (← Category.change id r))
  | categoryRemove (i : Identity) (id : Int) (hi : v.admin = .ok i) :
      Serves v .categoryRemove (.removeCategory id) (do return answer (← Category.remove id))
  | likeToggle (i : Identity) (r : LikeToggle) (requestId : Option String)
    (hi : v.user = .ok i) :
      Serves v .likeToggle (.toggleLike i.userId r requestId) (do
        let o ← Like.request i.userId r requestId
        return ⟨encode o, if o.liked then "Liked" else "Like cancelled"⟩)
  | likeMine (i : Identity) (type : Option LikeType) (p : Page) (hi : v.user = .ok i) :
      Serves v .likeMine (.listLikes i.userId type p)
        (do return answer (← Like.mine i.userId type p))
  | likeCheck (i : Identity) (type : LikeType) (id : Int) (hi : v.user = .ok i) :
      Serves v .likeCheck (.checkLike i.userId type id) (do
        let liked ← Like.isLiked i.userId type id
        return ⟨.obj [("liked", encode liked)], "success"⟩)
  | likeLikers (type : LikeType) (id : Int) (p : Page) :
      Serves v .likeLikers (.listLikers type id p)
      (do return answer (← Like.likers type id p))
  | favoriteToggle (i : Identity) (r : FavoriteToggle) (requestId : Option String)
    (hi : v.user = .ok i) :
      Serves v .favoriteToggle (.toggleFavorite i.userId r requestId) (do
        let o ← Favorite.request i.userId r requestId
        return ⟨encode o, if o.favorited then "Favorited" else "Favorite cancelled"⟩)
  | favoriteList (i : Identity) (filter : FavoriteFilter) (p : Page) (hi : v.user = .ok i) :
      Serves v .favoriteList (.listFavorites i.userId filter p)
        (do return answer (← Favorite.list i.userId filter p))
  | favoriteCheck (i : Identity) (type : FavoriteType) (id : Int) (hi : v.user = .ok i) :
      Serves v .favoriteCheck (.checkFavorite i.userId type id) (do
        let kept ← Favorite.isKept i.userId type id
        return ⟨.obj [("favorited", encode kept)], "success"⟩)
  | search (user? : Option Identity) (r : SearchRequest) (p : Page)
    (huser : v.maybeUser = .ok user?) :
      Serves v .search (.search r (user?.map Identity.userId) p)
        (do return answer (← Search.run r (user?.map Identity.userId) p))
  | searchHistory (i : Identity) (type : Option SearchType) (limit : Option Nat)
    (hi : v.user = .ok i) :
      Serves v .searchHistory (.listHistory i.userId type limit)
        (do return answer (← Search.history i.userId type limit))
  | searchHot (limit : Option Nat) : Serves v .searchHot (.listHotKeywords limit)
      (do return answer (← Search.hot limit))
  | userList (filter : UserFilter) (p : Page) : Serves v .userList (.listUsers filter p)
      (do return answer (← User.list filter p))
  | userMe (i : Identity) (hi : v.user = .ok i) :
      Serves v .userMe (.viewProfile i.userId (some i.userId))
        (do return answer (← User.profile i.userId (some i.userId)))
  | userChange (i : Identity) (r : ProfileChange) (hi : v.user = .ok i) :
      Serves v .userChange (.changeProfile i.userId r)
        (do return answer (← User.change i.userId r))
  | userView (user? : Option Identity) (id : Int) (huser : v.maybeUser = .ok user?) :
      Serves v .userView (.viewProfile id (user?.map Identity.userId))
        (do return answer (← User.profile id (user?.map Identity.userId)))

/-- The answer is a form of what the operation yields. -/
theorem Serves.exists_form (h : Serves v e op a) :
    ∃ (α : Type) (s : Procedure α) (f : α → Answer),
    op.run = silently s ∧ a = do let x ← s; return f x := by
  cases h <;> exact ⟨_, _, _, rfl, rfl⟩

/-- A procedure that refuses, or serves a visit. -/
def Settles (v : Visit) (e : Endpoint) (a : Procedure Answer) : Prop :=
  (∃ p, a = throw p) ∨ ∃ op, Serves v e op a

/-- A check comes before what settles the request. -/
theorem Settles.bind_check {outcome : Except Problem β} {g : β → Procedure Answer}
    (hg : ∀ x, outcome = .ok x → Settles v e (g x)) : Settles v e (check outcome >>= g) := by
  cases outcome with
  | ok x => exact hg x rfl
  | error p => exact Or.inl ⟨p, rfl⟩

/-- What serves a request by an operation settles it. -/
theorem Serves.settles (h : Serves v e op a) : Settles v e a :=
  Or.inr ⟨op, h⟩

/-- Every endpoint settles its requests, that of the health apart. -/
theorem settles_run (he : e ≠ .health) (v : Visit) : Settles v e (e.run v) := by
  cases e with
  | health => exact absurd rfl he
  | categoryList =>
    refine .bind_check fun filter _ => .bind_check fun _ _ => .bind_check fun p _ => ?_
    exact (Serves.categoryList filter p).settles
  | categoryTree => exact Serves.categoryTree.settles
  | categoryView => exact .bind_check fun id _ => (Serves.categoryView id).settles
  | categoryAncestors => exact .bind_check fun id _ => (Serves.categoryAncestors id).settles
  | categoryCreate =>
    exact .bind_check fun i hi => .bind_check fun r _ =>
      (Serves.categoryCreate i r hi).settles
  | categoryChange =>
    refine .bind_check fun i hi => .bind_check fun id _ => .bind_check fun r _ => ?_
    exact (Serves.categoryChange i id r hi).settles
  | categoryRemove =>
    exact .bind_check fun i hi => .bind_check fun id _ =>
      (Serves.categoryRemove i id hi).settles
  | likeToggle =>
    refine .bind_check fun i hi => .bind_check fun requestId _ => .bind_check fun r _ => ?_
    exact (Serves.likeToggle i (r.namedBy i.username) requestId hi).settles
  | likeMine =>
    refine .bind_check fun i hi => .bind_check fun type _ => .bind_check fun _ _ =>
      .bind_check fun p _ => ?_
    exact (Serves.likeMine i type p hi).settles
  | likeCheck =>
    refine .bind_check fun i hi => .bind_check fun target _ => .bind_check fun type _ => ?_
    exact (Serves.likeCheck i type target.2 hi).settles
  | likeLikers =>
    refine .bind_check fun target _ => .bind_check fun _ _ => .bind_check fun type _ => ?_
    exact .bind_check fun p _ => (Serves.likeLikers type target.2 p).settles
  | favoriteToggle =>
    refine .bind_check fun i hi => .bind_check fun requestId _ => .bind_check fun r _ => ?_
    exact (Serves.favoriteToggle i (r.namedBy i.username) requestId hi).settles
  | favoriteList =>
    refine .bind_check fun i hi => .bind_check fun filter _ => .bind_check fun _ _ => ?_
    exact .bind_check fun p _ => (Serves.favoriteList i filter p hi).settles
  | favoriteCheck =>
    refine .bind_check fun i hi => .bind_check fun target _ => .bind_check fun type _ => ?_
    exact (Serves.favoriteCheck i type target.2 hi).settles
  | search =>
    refine .bind_check fun user? huser => .bind_check fun _ _ => .bind_check fun r _ => ?_
    exact .bind_check fun p _ => (Serves.search user? r p huser).settles
  | searchHistory =>
    refine .bind_check fun i hi => .bind_check fun asked _ => ?_
    exact (Serves.searchHistory i asked.1 asked.2 hi).settles
  | searchHot => exact .bind_check fun limit _ => (Serves.searchHot limit).settles
  | userList =>
    refine .bind_check fun filter _ => .bind_check fun _ _ => .bind_check fun p _ => ?_
    exact (Serves.userList filter p).settles
  | userMe => exact .bind_check fun i hi => (Serves.userMe i hi).settles
  | userChange =>
    exact .bind_check fun i hi => .bind_check fun r _ => (Serves.userChange i r hi).settles
  | userView =>
    exact .bind_check fun user? huser => .bind_check fun id _ =>
      (Serves.userView user? id huser).settles

/-- An endpoint serves an operation, or fails with a problem. -/
theorem run_cases (e : Endpoint) (v : Visit) :
    e = .health ∨ (∃ p, e.run v = throw p) ∨ ∃ op, Serves v e op (e.run v) := by
  by_cases he : e = .health
  · exact Or.inl he
  · exact Or.inr (settles_run he v)

end Endpoint

end Community.Http

import Community.Category.Service
import Community.Http.Extract
import Community.Relation.Service
import Community.Search.Service
import Community.User.Service

/-!
# The endpoints

What each endpoint reads from a request, in which order, and what it answers.
-/

namespace Community.Http

open Procedure Json

/-- The endpoints. -/
inductive Endpoint
  | health
  | categoryList
  | categoryTree
  | categoryView
  | categoryAncestors
  | categoryCreate
  | categoryChange
  | categoryRemove
  | likeToggle
  | likeMine
  | likeCheck
  | likeLikers
  | favoriteToggle
  | favoriteList
  | favoriteCheck
  | search
  | searchHistory
  | searchHot
  | userList
  | userMe
  | userChange
  | userView
  deriving DecidableEq, Repr

/-- An answer that carries a value. -/
def answer {α : Type} [Encode α] (a : α) : Answer :=
  ⟨encode a, "success"⟩

namespace Endpoint

/-! ## Categories -/

/-- One page of the categories. -/
def listCategories (v : Visit) : Procedure Answer := do
  let filter ← check (v.query Query.categoryFilter)
  let page ← check (v.query Query.page)
  let page ← check (checkedPage page)
  return answer (← Category.list filter page)

/-- A category. -/
def viewCategory (v : Visit) : Procedure Answer := do
  let id ← check v.id
  return answer (← Category.view id)

/-- The categories above a category. -/
def listAncestors (v : Visit) : Procedure Answer := do
  let id ← check v.id
  return answer (← Category.ancestors id)

/-- A new category. -/
def createCategory (v : Visit) : Procedure Answer := do
  let _ ← check v.admin
  let request ← check (v.body NewCategory)
  return answer (← Category.create request)

/-- A changed category. -/
def changeCategory (v : Visit) : Procedure Answer := do
  let _ ← check v.admin
  let id ← check v.id
  let request ← check (v.body CategoryChange)
  return answer (← Category.change id request)

/-- A removed category. -/
def removeCategory (v : Visit) : Procedure Answer := do
  let _ ← check v.admin
  let id ← check v.id
  Category.remove id
  return answer ()

/-! ## Likes and favourites -/

/-- A like, or the end of one. -/
def toggleLike (v : Visit) : Procedure Answer := do
  let user ← check v.user
  let requestId ← check v.requestId
  let request ← check (v.body LikeToggle)
  let outcome ← Like.request user.userId (request.namedBy user.username) requestId
  return ⟨encode outcome, if outcome.liked then "Liked" else "Like cancelled"⟩

/-- One page of the sender's likes. -/
def myLikes (v : Visit) : Procedure Answer := do
  let user ← check v.user
  let type ← check (v.query Query.likeType)
  let page ← check (v.query Query.page)
  let page ← check (checkedPage page)
  return answer (← Like.mine user.userId type page)

/-- Whether the sender likes a target. -/
def checkLike (v : Visit) : Procedure Answer := do
  let user ← check v.user
  let (raw, id) ← check v.target
  let type ← check (likeTypeOf raw)
  let liked ← Like.isLiked user.userId type id
  return ⟨.obj [("liked", encode liked)], "success"⟩

/-- One page of the users who like a target. -/
def listLikers (v : Visit) : Procedure Answer := do
  let (raw, id) ← check v.target
  let page ← check (v.query Query.page)
  let type ← check (likeTypeOf raw)
  let page ← check (checkedPage page)
  return answer (← Like.likers type id page)

/-- A favourite, or the end of one. -/
def toggleFavorite (v : Visit) : Procedure Answer := do
  let user ← check v.user
  let requestId ← check v.requestId
  let request ← check (v.body FavoriteToggle)
  let outcome ← Favorite.request user.userId (request.namedBy user.username) requestId
  return ⟨encode outcome, if outcome.favorited then "Favorited" else "Favorite cancelled"⟩

/-- One page of the sender's favourites. -/
def listFavorites (v : Visit) : Procedure Answer := do
  let user ← check v.user
  let filter ← check (v.query Query.favoriteFilter)
  let page ← check (v.query Query.page)
  let page ← check (checkedPage page)
  return answer (← Favorite.list user.userId filter page)

/-- Whether a target is a favourite of the sender. -/
def checkFavorite (v : Visit) : Procedure Answer := do
  let user ← check v.user
  let (raw, id) ← check v.target
  let type ← check (favoriteTypeOf raw)
  let kept ← Favorite.isKept user.userId type id
  return ⟨.obj [("favorited", encode kept)], "success"⟩

/-! ## Searches -/

/-- One page of what a search finds. -/
def runSearch (v : Visit) : Procedure Answer := do
  let user? ← check v.maybeUser
  let page ← check (v.query Query.page)
  let request ← check (v.body SearchRequest)
  let page ← check (checkedPage page)
  return answer (← Search.run request (user?.map Identity.userId) page)

/-- The latest searches of the sender. -/
def listHistory (v : Visit) : Procedure Answer := do
  let user ← check v.user
  let (type, limit) ← check (v.query Query.history)
  return answer (← Search.history user.userId type limit)

/-- The keywords that were searched most often. -/
def listHot (v : Visit) : Procedure Answer := do
  let limit ← check (v.query Query.limit)
  return answer (← Search.hot limit)

/-! ## Users -/

/-- The sender's own profile. -/
def viewMe (v : Visit) : Procedure Answer := do
  let user ← check v.user
  return answer (← User.profile user.userId (some user.userId))

/-- The sender's own profile, changed. -/
def changeMe (v : Visit) : Procedure Answer := do
  let user ← check v.user
  let request ← check (v.body ProfileChange)
  return answer (← User.change user.userId request)

/-- A profile. -/
def viewUser (v : Visit) : Procedure Answer := do
  let user? ← check v.maybeUser
  let id ← check v.id
  return answer (← User.profile id (user?.map Identity.userId))

/-- One page of the users. -/
def listUsers (v : Visit) : Procedure Answer := do
  let filter ← check (v.query Query.userFilter)
  let page ← check (v.query Query.page)
  let page ← check (checkedPage page)
  return answer (← User.list filter page)

/-- What an endpoint answers to a visit. -/
def run : Endpoint → Visit → Procedure Answer
  | health, _ => return ⟨.obj [("status", .str "ok"), ("version", .str "0.1.0")], "success"⟩
  | categoryList, v => listCategories v
  | categoryTree, _ => return answer (← Category.tree)
  | categoryView, v => viewCategory v
  | categoryAncestors, v => listAncestors v
  | categoryCreate, v => createCategory v
  | categoryChange, v => changeCategory v
  | categoryRemove, v => removeCategory v
  | likeToggle, v => toggleLike v
  | likeMine, v => myLikes v
  | likeCheck, v => checkLike v
  | likeLikers, v => listLikers v
  | favoriteToggle, v => toggleFavorite v
  | favoriteList, v => listFavorites v
  | favoriteCheck, v => checkFavorite v
  | search, v => runSearch v
  | searchHistory, v => listHistory v
  | searchHot, v => listHot v
  | userList, v => listUsers v
  | userMe, v => viewMe v
  | userChange, v => changeMe v
  | userView, v => viewUser v

end Endpoint

end Community.Http

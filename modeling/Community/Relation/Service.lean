import Community.Relation.Storage
import Community.World

/-!
# Liking and keeping

A toggle that was carried out a short while ago is not carried out again: its outcome is
repeated. A client may name its requests, and then only a request of the same name counts as
repeated. Lists of favourites are read through the cache.
-/

namespace Community

open Procedure Time

namespace Relation

variable {ρ ω : Type}

/-- Changes the database at the time of the clock, and removes what is kept about the
things that changed. -/
def carryOut (change : Timestamp → Database → Except Problem (ρ × Database))
    (families : List String) (outcome : ρ → ω) : Procedure ω := do
  let now ← now
  let a ← transact (change now)
  forgetFamilies families
  return outcome a

/-- Carries a toggle out if there are no issues with it, or repeats the outcome
that is kept of it. -/
def request [Encode ω] [Json.Decode ω] (issues : List Issue) (marker : String)
    (carryOut : Procedure ω) : Procedure ω := do
  check (Problem.ofIssues issues)
  once marker carryOut

end Relation

namespace Like

/-- The key under which the outcome of a toggle is kept. -/
def markerKey (userId : Int) (r : LikeToggle) (requestId : Option String) : String :=
  Cache.markerKey userId "toggle_like"
    ([Tag.spelling r.likeType, toString r.targetId] ++ requestId.toList)

/-- Carries a toggle out. -/
def carryOut (userId : Int) (r : LikeToggle) : Procedure LikeOutcome :=
  Relation.carryOut (toggle userId r) ["like:*", r.likeType.counter.cachePattern] fun l =>
    ⟨RelationStatus.isActive l.status, l⟩

/-- Likes something, or takes the like back. -/
def request (userId : Int) (r : LikeToggle) (requestId : Option String) :
    Procedure LikeOutcome :=
  Relation.request r.issues (markerKey userId r requestId) (carryOut userId r)

/-- One page of the active likes of a user. -/
def mine (userId : Int) (type : Option LikeType) (p : Page) : Procedure (Listing Like) := do
  let (rows, total) ← query (ofUser userId type p)
  return .of rows total p

/-- One page of the users who like a target. -/
def likers (type : LikeType) (targetId : Int) (p : Page) : Procedure (Listing Liker) := do
  let (rows, total) ← query (onTarget type targetId p)
  return (Listing.of rows total p).map Liker.ofLike

/-- Whether a user likes a target. -/
def isLiked (userId : Int) (type : LikeType) (targetId : Int) : Procedure Bool := do
  return (← query (find userId type targetId)).any fun l => RelationStatus.isActive l.status

end Like

namespace Favorite

/-- The key under which the outcome of a toggle is kept. -/
def markerKey (userId : Int) (r : FavoriteToggle) (requestId : Option String) : String :=
  Cache.markerKey userId "toggle_favorite"
    ([Tag.spelling r.favoriteType, toString r.targetId] ++ requestId.toList)

/-- All that is kept about favourites. -/
def family : String := "favorite:*"

/-- Carries a toggle out. -/
def carryOut (userId : Int) (r : FavoriteToggle) : Procedure FavoriteOutcome :=
  Relation.carryOut (toggle userId r) [family, r.favoriteType.counter.cachePattern] fun f =>
    ⟨RelationStatus.isActive f.status, f⟩

/-- Keeps something as a favourite, or drops it. -/
def request (userId : Int) (r : FavoriteToggle) (requestId : Option String) :
    Procedure FavoriteOutcome :=
  Relation.request r.issues (markerKey userId r requestId) (carryOut userId r)

/-- The key of one page of a user's favourites. -/
def listKey (userId : Int) (filter : FavoriteFilter) (p : Page) : String :=
  Cache.keyOf "favorite:list"
    [toString userId, (filter.favoriteType.map Tag.spelling).getD "all",
      Tag.spelling filter.wanted, toString p.number, toString p.size]

/-- One page of a user's favourites. -/
def list (userId : Int) (filter : FavoriteFilter) (p : Page) :
    Procedure (Listing Favorite) :=
  readThrough (listKey userId filter p) Cache.Policy.list do
    let (rows, total) ← query (ofUser userId filter.favoriteType filter.wanted p)
    return .of rows total p

/-- Whether a target is a favourite of a user. -/
def isKept (userId : Int) (type : FavoriteType) (targetId : Int) : Procedure Bool := do
  return (← query (find userId type targetId)).any fun f => RelationStatus.isActive f.status

end Favorite

end Community

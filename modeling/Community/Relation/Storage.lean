import Community.Database.Query
import Community.Relation.Input
import Community.Target.Storage

/-!
# Likes and favourites in the database

A toggle changes the row of the relation and the counter of its target together: if either
fails, neither is changed. Lists show the newest relations first.
-/

namespace Community

open Database Time

namespace Like

/-- The order of lists. -/
def listOrder : Row → Row → Bool :=
  descending fun l => [l.createdAt.instant, l.id]

/-- Whether a row is the like of the user on the target. -/
def isOf (userId : Int) (type : LikeType) (targetId : Int) (l : Row) : Bool :=
  l.userId == userId && l.likeType == .tag type && l.targetId == targetId

/-- The like of the user on the target, active or not. -/
def find (userId : Int) (type : LikeType) (targetId : Int) :
    Database → Except Fault (Option Like) :=
  findFirst (isOf userId type targetId)

/-- The like that a user's first toggle on a target makes. -/
def ofToggle (userId : Int) (r : LikeToggle) (now : Timestamp) (id : Int) : Like :=
  { id := id, likeType := r.likeType, targetId := r.targetId, userId := userId,
    targetTitle := r.targetTitle, targetAuthorId := r.targetAuthorId,
    userNickname := r.userNickname, userAvatar := r.userAvatar,
    status := RelationStatus.active, createdAt := now, updatedAt := now }

/-- The like after a further toggle, which may bring a new nickname and avatar. -/
def Columns.toggled (l : Like) (r : LikeToggle) (now : Timestamp) : Like :=
  { l with
    status := RelationStatus.flipped l.status
    updatedAt := now
    userNickname := r.userNickname <|> l.userNickname
    userAvatar := r.userAvatar <|> l.userAvatar }

/-- Makes the like, or changes its state. -/
def flip (userId : Int) (r : LikeToggle) (now : Timestamp) :
    Database → Except Fault (Like × Database) :=
  upsert (isOf userId r.likeType r.targetId) (fun id => (ofToggle userId r now id).stored)
    fun l => (l.toggled r now).stored

/-- Makes the like or changes its state, and counts that on the target. -/
def toggle (userId : Int) (r : LikeToggle) (now : Timestamp) (db : Database) :
    Except Problem (Like × Database) := do
  let (l, db) ← Problem.ofStatement (flip userId r now db)
  let (_, db) ← r.likeType.counter.count r.targetId
      (.ofState (RelationStatus.isActive l.status)) db
  return (l, db)

/-- One page of the active likes of a user, and their number. -/
def ofUser (userId : Int) (type : Option LikeType) (p : Page) :
    Database → Except Fault (List Like × Nat) :=
  page (fun l : Row => l.userId == userId && l.status == .tag .active &&
    type.all fun t => l.likeType == .tag t) listOrder p

/-- One page of the active likes on a target, and their number. -/
def onTarget (type : LikeType) (targetId : Int) (p : Page) :
    Database → Except Fault (List Like × Nat) :=
  page (fun l : Row => l.likeType == .tag type && l.targetId == targetId &&
    l.status == .tag .active) listOrder p

end Like

namespace Favorite

/-- The order of lists. -/
def listOrder : Row → Row → Bool :=
  descending fun f => [f.createdAt.instant, f.id]

/-- Whether a row is the user's favourite of the target. -/
def isOf (userId : Int) (type : FavoriteType) (targetId : Int) (f : Row) : Bool :=
  f.userId == userId && f.favoriteType == .tag type && f.targetId == targetId

/-- The user's favourite of the target, active or not. -/
def find (userId : Int) (type : FavoriteType) (targetId : Int) :
    Database → Except Fault (Option Favorite) :=
  findFirst (isOf userId type targetId)

/-- The favourite that a user's first toggle on a target makes. -/
def ofToggle (userId : Int) (r : FavoriteToggle) (now : Timestamp) (id : Int) : Favorite :=
  { id := id, favoriteType := r.favoriteType, targetId := r.targetId, userId := userId,
    targetTitle := r.targetTitle, targetCover := r.targetCover,
    targetAuthorId := r.targetAuthorId, userNickname := r.userNickname,
    status := RelationStatus.active, createdAt := now, updatedAt := now }

/-- The favourite after a further toggle, which may bring a new title and cover. -/
def Columns.toggled (f : Favorite) (r : FavoriteToggle) (now : Timestamp) : Favorite :=
  { f with
    status := RelationStatus.flipped f.status
    updatedAt := now
    targetTitle := r.targetTitle <|> f.targetTitle
    targetCover := r.targetCover <|> f.targetCover }

/-- Makes the favourite, or changes its state. -/
def flip (userId : Int) (r : FavoriteToggle) (now : Timestamp) :
    Database → Except Fault (Favorite × Database) :=
  upsert (isOf userId r.favoriteType r.targetId)
    (fun id => (ofToggle userId r now id).stored)
    fun f => (f.toggled r now).stored

/-- Makes the favourite or changes its state, and counts that on the target. -/
def toggle (userId : Int) (r : FavoriteToggle) (now : Timestamp) (db : Database) :
    Except Problem (Favorite × Database) := do
  let (f, db) ← Problem.ofStatement (flip userId r now db)
  let (_, db) ← r.favoriteType.counter.count r.targetId
      (.ofState (RelationStatus.isActive f.status)) db
  return (f, db)

/-- One page of the favourites of a user in a state, and their number. -/
def ofUser (userId : Int) (type : Option FavoriteType) (status : RelationStatus) (p : Page) :
    Database → Except Fault (List Favorite × Nat) :=
  page (fun f : Row => f.userId == userId && f.status == .tag status &&
    type.all fun t => f.favoriteType == .tag t) listOrder p

end Favorite

end Community

import Community.Relation.Basic

/-!
# Counters of relations

Every kind of relation has one counter on its target, which counts the active relations.
-/

namespace Community

/-- The counters. -/
inductive Counter
  | contentLikes
  | commentLikes
  | dynamicLikes
  | contentFavorites
  | goodsFavorites
  deriving DecidableEq, Repr

/-- One step of a counter. -/
inductive Delta
  | increment
  | decrement
  deriving DecidableEq, Repr

namespace Delta

/-- The step that goes with the new state of a relation. -/
def ofState (active : Bool) : Delta :=
  if active then increment else decrement

/-- A counter after the step: it never goes below zero. -/
def apply : Delta → Int → Int
  | increment, n => n + 1
  | decrement, n => max (n - 1) 0

end Delta

/-- The counter of a kind of like. -/
def LikeType.counter : LikeType → Counter
  | content => .contentLikes
  | comment => .commentLikes
  | dynamic => .dynamicLikes

/-- The counter of a kind of favourite. -/
def FavoriteType.counter : FavoriteType → Counter
  | content => .contentFavorites
  | goods => .goodsFavorites

namespace Counter

/-- What the target of the counter is called. -/
def label : Counter → String
  | contentLikes | contentFavorites => "content"
  | commentLikes => "comment"
  | dynamicLikes => "dynamic"
  | goodsFavorites => "goods"

/-- The family of cache keys under which copies of the target are kept. -/
def cachePattern : Counter → String
  | contentLikes | contentFavorites => "content:*"
  | commentLikes => "comment:*"
  | dynamicLikes => "social:*"
  | goodsFavorites => "goods:*"

end Counter

end Community

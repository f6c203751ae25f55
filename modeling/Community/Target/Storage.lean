import Community.Database.Basic
import Community.Problem

/-!
# Counters in the database

Each counter is one column of one table. To count a relation is to change that column in the
row that the relation points at.
-/

namespace Community.Counter

open Database

/-- The contents with the counter of one changed. -/
def onContent (id : Int) (change : Content.Row → Content.Row) (db : Database) :
    Except Fault (Nat × Database) := do
  let (rows, db) ← update (fun c : Content.Row => c.id == id) change db
  return (rows.length, db)

/-- Changes the counter of the row with the identifier, and says how many rows that were. -/
def adjust (counter : Counter) (id : Int) (delta : Delta) (db : Database) :
    Except Fault (Nat × Database) :=
  match counter with
  | contentLikes =>
    onContent id (fun c => { c with likeCount := delta.apply c.likeCount }) db
  | contentFavorites =>
    onContent id (fun c => { c with favoriteCount := delta.apply c.favoriteCount }) db
  | commentLikes => do
    let (rows, db) ← update (fun c : Comment => c.id == id)
      (fun c => { c with likeCount := delta.apply c.likeCount }) db
    return (rows.length, db)
  | dynamicLikes => do
    let (rows, db) ← update (fun d : Dynamic => d.id == id)
      (fun d => { d with likeCount := delta.apply d.likeCount }) db
    return (rows.length, db)
  | goodsFavorites => do
    let (rows, db) ← update (fun g : Goods.Row => g.id == id)
      (fun g => { g with favoriteCount := delta.apply g.favoriteCount }) db
    return (rows.length, db)

/-- Changes the counter of a target that has to be there. -/
def count (counter : Counter) (id : Int) (delta : Delta) (db : Database) :
    Except Problem (Unit × Database) :=
  match counter.adjust id delta db with
  | .error fault => .error (.database fault)
  | .ok (0, _) => .error (.targetMissing counter id)
  | .ok (_ + 1, db) => .ok ((), db)

end Community.Counter

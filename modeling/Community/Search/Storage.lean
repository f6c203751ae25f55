import Community.Database.Query
import Community.Search.Basic

/-!
# Searches in the database

What is searched, and the traces that searches leave: the history of each user and
the counted keywords.
-/

namespace Community

open Database Time Text

namespace Content

/-- The order of lists. -/
def listOrder : Row → Row → Bool :=
  descending fun c => [c.createdAt.instant, c.id]

/-- Whether a search finds a content: it is published and approved, and its title,
description, tags or author has the keyword. -/
def found (keyword : String) (c : Row) : Bool :=
  c.status == .tag .published && c.reviewStatus == .tag .approved &&
    (hasKeyword keyword c.title || hasKeyword? keyword c.description ||
      hasKeyword? keyword c.tags ||
      hasKeyword? keyword c.authorNickname)

/-- One page of the contents that a search finds, and their number. -/
def search (keyword : String) (p : Page) : Database → Except Fault (List Content × Nat) :=
  page (found keyword) listOrder p

end Content

namespace Goods

/-- The order of lists. -/
def listOrder : Row → Row → Bool :=
  descending fun g => [g.createdAt.instant, g.id]

/-- Whether a search finds an article: it is on offer, and its name or
description has the keyword. -/
def found (keyword : String) (g : Row) : Bool :=
  g.status == .tag .active &&
    (hasKeyword keyword g.name || hasKeyword? keyword g.description)

/-- One page of the articles that a search finds, and their number. -/
def search (keyword : String) (p : Page) : Database → Except Fault (List Goods × Nat) :=
  page (found keyword) listOrder p

end Goods

namespace HistoryEntry

/-- The order of lists. -/
def listOrder : Row → Row → Bool :=
  descending fun e => [e.createdAt.instant, e.id]

/-- The entry for a search. -/
def ofSearch (userId : Int) (keyword : String) (type : SearchType) (count : Nat)
    (now : Timestamp) (id : Int) : HistoryEntry :=
  { id := id, userId := userId, keyword := keyword, searchType := type,
    resultCount := min (count : Int) int64Max, createdAt := now }

/-- Stores the entry for a search. -/
def record (userId : Int) (keyword : String) (type : SearchType) (count : Nat)
    (now : Timestamp) : Database → Except Fault (Row × Database) :=
  insert fun id => (ofSearch userId keyword type count now id).stored

/-- The latest searches of a user, at most `limit`. -/
def recent (userId : Int) (type : Option SearchType) (limit : Nat) :
    Database → Except Fault (List HistoryEntry) :=
  top (fun e : Row => e.userId == userId && type.all fun t => e.searchType == .tag t)
    listOrder limit

end HistoryEntry

namespace HotSearch

/-- The order of lists: the larger count first, then the higher score,
then by the keyword. -/
def listOrder (a b : Row) : Bool :=
  if a.searchCount = b.searchCount then
    if a.trendScore == b.trendScore then a.keyword ≤ b.keyword
      else b.trendScore < a.trendScore
  else b.searchCount < a.searchCount

/-- The count of a keyword. -/
def find (keyword : String) : Database → Except Fault (Option HotSearch) :=
  findFirst fun h : Row => h.keyword == keyword

/-- Counts one more search for a keyword that is counted already, and says whether it is. The
time of the count has no fraction. -/
def increment (keyword : String) (now : Timestamp) (db : Database) :
    Except Fault (Bool × Database) := do
  let (rows, db) ← update (fun h : Row => h.keyword == keyword)
    (fun h => { h with searchCount := h.searchCount + 1, updatedAt := now.wholeSecond }) db
  return (!rows.isEmpty, db)

/-- The first count of a keyword. -/
def ofKeyword (keyword : String) (now : Timestamp) (id : Int) : HotSearch :=
  { id := id, keyword := keyword, searchCount := 1, trendScore := 0.0,
    status := ActiveStatus.active, createdAt := now, updatedAt := now }

/-- Counts one search for a keyword. If its row appears only after the first look, it
is counted there. -/
def bump (keyword : String) (now : Timestamp) (db : Database) :
    Except Fault (Unit × Database) := do
  let (counted, db) ← increment keyword now db
  if counted then return ((), db)
  else
    match insert (fun id => (ofKeyword keyword now id).stored) db with
    | .ok (_, db) => return ((), db)
    | .error .duplicate =>
      let (_, db) ← increment keyword now db
      return ((), db)
    | .error fault => .error fault

/-- The active keywords that were searched most often, at most `limit`. -/
def popular (limit : Nat) : Database → Except Fault (List HotSearch) :=
  top (fun h : Row => h.status == .tag .active) listOrder limit

end HotSearch

end Community

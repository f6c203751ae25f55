import Community.Search.Storage
import Community.User.Storage
import Community.World

/-!
# Searching

A search answers one page of what it finds. It leaves an entry in the history of the
user, if there is one, and counts the keyword exactly as it was typed; neither can
make the search fail.
-/

namespace Community.Search

open Text Procedure

/-- One page of what a search finds, and how much there is. -/
def hits (r : SearchRequest) (p : Page) : Procedure (List SearchHit × Nat) :=
  match r.searchType with
  | .content => do
    let (rows, total) ← query (Content.search r.keyword p)
    return (rows.map .content, total)
  | .goods => do
    let (rows, total) ← query (Goods.search r.keyword p)
    return (rows.map .goods, total)
  | .user => do
    let (rows, total) ← query (User.searchActive r.keyword p)
    return (rows.map fun u => .user (.shown u), total)

/-- The entry of a search in the history of the user, if there is one. -/
def recordFor (userId : Option Int) (r : SearchRequest) (total : Nat) : Procedure Unit :=
  match userId with
  | some id => do attempt (HistoryEntry.record id r.keyword r.searchType total (← now))
  | none => return

/-- The traces of a search. -/
def leaveTraces (r : SearchRequest) (userId : Option Int) (total : Nat) :
    Procedure Unit := do
  recordFor userId r total
  attempt (HotSearch.bump r.keyword (← now))

/-- Refuses a search for nothing. -/
def ensureKeyword (r : SearchRequest) : Procedure Unit := do
  check (Problem.ofIssues r.issues)
  if (trim r.keyword).isEmpty then throw .blankKeyword

/-- Searches. -/
def run (r : SearchRequest) (userId : Option Int) (p : Page) : Procedure SearchResult := do
  ensureKeyword r
  let (found, total) ← hits r p
  leaveTraces r userId total
  return ⟨r.keyword, r.searchType, total, .of found total p⟩

/-- How many rows are asked for: from 1 to `largest`, or `default` where the
request does not say. -/
def checkedLimit (limit : Option Nat) (default largest : Nat) : Except Problem Nat :=
  match limit with
  | none => .ok default
  | some n => if 1 ≤ n ∧ n ≤ largest then .ok n else .error (.limitOutOfRange largest n)

/-- The latest searches of a user. -/
def history (userId : Int) (type : Option SearchType) (limit : Option Nat) :
    Procedure (List HistoryEntry) := do
  let n ← check (checkedLimit limit 20 100)
  query (HistoryEntry.recent userId type n)

/-- The keywords that were searched most often. -/
def hot (limit : Option Nat) : Procedure (List HotKeyword) := do
  let n ← check (checkedLimit limit 10 50)
  return (← query (HotSearch.popular n)).map HotKeyword.of

end Community.Search

import Community.Proofs.Cache.Uncached
import Community.Proofs.Relation.Fits
import Community.Proofs.Search.Trace
import Community.Proofs.User.Change
import Mathlib.Data.List.Pairwise

/-!
# The traces of all searches

Over a run the traces add up: the history is the list of the searches of users who are
there, and the hot keywords are the counts of all searches.

> `searches_are_accounted_for`: every keyword has a row with the number of its searches, the
> history of a user is their last searches, newest first, and the hot keywords are those
> with the largest counts.

The invariant is `Search.Books`: both tables, and the searches that they are the account of.
What matters about the history is its order (`HistoryEntry.Logged`), since it is read
backwards: identifiers grow, and instants do not shrink.
-/

namespace Community

open Procedure Database Time Text

/-! ## Searches of a run -/

namespace Search

/-- What the history tells of a search. -/
structure Trace where
  keyword : String
  searchType : SearchType
  resultCount : Int
  createdAt : Timestamp

/-- A search that succeeded: how much there was, and when. -/
structure Success where
  request : SearchRequest
  userId : Option Int
  total : Nat
  time : Timestamp

namespace Success

/-- What the history is to tell of the search. Counts are kept as far as 64 bits go. -/
def trace (s : Success) : Trace :=
  ⟨s.request.keyword, s.request.searchType, min (s.total : Int) int64Max, s.time⟩

/-- Whether the search is one of the user, of the type if one is asked for. -/
def isOf (userId : Int) (type : Option SearchType) (s : Success) : Bool :=
  s.userId == some userId && type.all fun t => s.request.searchType == t

end Success

/-- The search of an event, if it is one and succeeds. -/
def success? : Event → World → Option Success
  | .call (.search r userId p), w =>
    match ((run r userId p).outcome w).1 with
    | .ok result => some ⟨r, userId, result.resultCount, w.now⟩
    | .error _ => none
  | _, _ => none

end Search

/-- The searches of a run that succeed. -/
def World.searches (w : World) (events : List Event) : List Search.Success :=
  w.collect Search.success? events

/-! ## The history -/

/-- Sorting turns a list round in which each element belongs before those in front of it. -/
theorem mergeSort_eq_reverse {α : Type} {le : α → α → Bool} {l : List α}
    (htrans : ∀ a b c, le a b = true → le b c = true → le a c = true)
    (htotal : ∀ a b, (le a b || le b a) = true)
    (h : l.Pairwise fun a b => le b a = true ∧ ¬ le a b = true) :
    l.mergeSort le = l.reverse := by
  have hapart : ∀ a ∈ l, ∀ b ∈ l, a ≠ b → ¬(le a b = true ∧ le b a = true) := by
    have hpairs : l.Pairwise fun a b => ¬(le a b = true ∧ le b a = true) :=
      h.imp fun hab hboth => hab.2 hboth.1
    have : Std.Symm fun a b => ¬(le a b = true ∧ le b a = true) :=
      ⟨fun _ _ hab hba => hab hba.symm⟩
    exact fun a ha b hb hne => hpairs.forall ha hb hne
  refine List.Perm.eq_of_pairwise (fun a b ha hb hab hba => ?_)
    (List.pairwise_mergeSort htrans htotal l)
    (List.pairwise_reverse.mpr (h.imp And.left))
      ((List.mergeSort_perm l le).trans (List.reverse_perm l).symm)
  refine Classical.byContradiction fun hne => ?_
  exact hapart a (List.mem_mergeSort.mp ha) b (List.mem_reverse.mp hb) hne ⟨hab, hba⟩

namespace HistoryEntry

/-- What an entry tells. -/
def trace (e : HistoryEntry) : Search.Trace :=
  ⟨e.keyword, e.searchType, e.resultCount, e.createdAt⟩

theorem read?_stored (e : HistoryEntry) : Entity.read? (Columns.stored e) = some e := rfl

/-- The entries of a table, each newer than those before. -/
structure Logged (t : Table Row) (now : Timestamp) (entries : List HistoryEntry) : Prop where
  rows : t.rows = entries.map Columns.stored
  numbered : t.IsNumbered
  past : ∀ e ∈ entries, e.createdAt.instant ≤ now.instant
  order : entries.Pairwise fun a b => a.id < b.id ∧ a.createdAt.instant ≤ b.createdAt.instant

variable {t : Table Row} {now now' : Timestamp} {entries : List HistoryEntry}

theorem Logged.later (h : Logged t now entries) (hnow : now.instant ≤ now'.instant) :
    Logged t now' entries :=
  { h with past := fun e he => Int.le_trans (h.past e he) hnow }

theorem Logged.push (h : Logged t now entries) (userId : Int) (keyword : String)
    (type : SearchType) (count : Nat) :
    Logged (t.push fun id => (ofSearch userId keyword type count now id).stored) now
      (entries ++ [ofSearch userId keyword type count now (t.lastId + 1)]) := by
  have hid : ∀ e ∈ entries, e.id ≤ t.lastId := by
    intro e he
    exact h.numbered e.stored (by rw [h.rows]; exact List.mem_map_of_mem he)
  constructor
  · show t.rows ++ [_] = _
    rw [List.map_append, h.rows]
    rfl
  · exact h.numbered.push fun _ => rfl
  · intro e he
    rcases List.mem_append.mp he with he | he
    · exact h.past e he
    · rw [List.mem_singleton.mp he]
      exact Int.le_refl _
  · refine List.pairwise_append.mpr ⟨h.order, List.pairwise_singleton _ _,
      fun e he e' he' => ?_⟩
    rw [List.mem_singleton.mp he']
    refine ⟨?_, h.past e he⟩
    show e.id < t.lastId + 1
    have := hid e he
    omega

theorem listOrder_iff {a b : Row} :
    listOrder a b = true ↔ b.createdAt.instant < a.createdAt.instant ∨
      (b.createdAt.instant = a.createdAt.instant ∧ b.id ≤ a.id) := by
  simp only [listOrder, descending, notBelow]
  split
  · split
    · simp; omega
    · simp; omega
  · simp; omega

/-- The latest searches of a user are the last of their entries. -/
theorem Logged.recent {db : Database} (h : Logged t now entries) (ht : db.table Row = .ok t)
    (userId : Int) (type : Option SearchType) (n : Nat) :
    recent userId type n db = .ok ((entries.filter fun e =>
      e.userId == userId && type.all fun t => e.searchType == t).reverse.take n) := by
  have hpick :
      ((fun e : Row => e.userId == userId && type.all fun t => e.searchType == .tag t)
      ∘ Columns.stored) = fun e : HistoryEntry => e.userId == userId && type.all fun t =>
        e.searchType == t := by
    funext e
    refine congrArg (e.userId == userId && ·) (congrArg (type.all ·) (funext fun t => ?_))
    exact Bool.eq_iff_iff.mpr (by simp [Columns.stored])
  have hnewer : ∀ a b : HistoryEntry, a.id < b.id ∧
      a.createdAt.instant ≤ b.createdAt.instant →
      listOrder b.stored a.stored = true ∧ ¬ listOrder a.stored b.stored = true := by
    intro a b hab
    rw [listOrder_iff, listOrder_iff]
    show (a.createdAt.instant < b.createdAt.instant ∨
      (a.createdAt.instant = b.createdAt.instant ∧ a.id ≤ b.id))
      ∧ ¬(b.createdAt.instant < a.createdAt.instant ∨
        (b.createdAt.instant = a.createdAt.instant ∧ b.id ≤ a.id))
    omega
  rw [HistoryEntry.recent, Database.top, select_of_table ht, h.rows, List.filter_map, hpick]
  show ((((entries.filter _).map Columns.stored).mergeSort listOrder).take n).mapM readRow =
    _
  rw [mergeSort_eq_reverse, ← List.map_reverse, ← List.map_take, mapM_readRow read?_stored]
  · intro a b c
    rw [listOrder_iff, listOrder_iff, listOrder_iff]
    omega
  · intro a b
    rw [Bool.or_eq_true, listOrder_iff, listOrder_iff]
    omega
  · exact List.pairwise_map.mpr ((h.order.filter _).imp fun hab => hnewer _ _ hab)

end HistoryEntry

/-! ## The hot keywords -/

namespace HotSearch

/-- The counts that there are of something that happened `n` times. -/
def tallied (n : Nat) : List Int :=
  if n = 0 then [] else [(n : Int)]

/-- The rows count the keywords. -/
structure Tallied (t : Table Row) (keywords : List String) : Prop where
  distinct : distinct t.rows = true
  numbered : t.IsNumbered
  plain : ∀ h ∈ t.rows, h.status = .tag .active ∧ h.trendScore = 0.0
  counts : ∀ k, (t.rows.filter fun h => h.keyword == k).map (·.searchCount) =
    tallied (keywords.count k)

variable {t : Table Row} {keywords : List String}

/-- The counts of a keyword after one more search. -/
theorem filter_counted (keyword : String) (now : Timestamp) (k : String) (rows : List Row) :
    ((rows.map (counted keyword now)).filter fun h => h.keyword == k).map (·.searchCount)
      = ((rows.filter fun h => h.keyword == k).map (·.searchCount)).map
          (· + if keyword == k then 1 else 0) := by
  have hcomp : ((fun h : Row => h.keyword == k) ∘ counted keyword now)
      = fun h => h.keyword == k :=
    funext fun h => congrArg (· == k) (keyword_counted h)
  rw [List.filter_map, hcomp, List.map_map, List.map_map]
  refine List.map_congr_left fun h hh => ?_
  have hk : h.keyword = k := beq_iff_eq.mp (List.mem_filter.mp hh).2
  show (counted keyword now h).searchCount = h.searchCount + _
  unfold counted
  rw [hk, Bool.beq_comm (a := k)]
  split <;> simp

theorem tallied_eq_nil {n : Nat} : tallied n = [] ↔ n = 0 := by
  unfold tallied
  split
  · next h => exact ⟨fun _ => h, fun _ => rfl⟩
  · next h => exact ⟨nofun, fun hzero => absurd hzero h⟩

/-- What has been counted is counted one higher the next time. -/
theorem tallied_succ {n : Nat} (h : tallied n ≠ []) :
    tallied (n + 1) = (tallied n).map (· + 1) := by
  have hn : n ≠ 0 := mt tallied_eq_nil.mpr h
  simp [tallied, hn]

theorem count_concat (keywords : List String) (keyword k : String) :
    (keywords ++ [keyword]).count k = keywords.count k + if keyword == k then 1 else 0 := by
  rw [List.count_append, List.count_singleton]

/-- A keyword has been searched for when, and only when, it has a row. -/
theorem Tallied.tallied_eq_nil_iff (h : Tallied t keywords) (k : String) :
    tallied (keywords.count k) = [] ↔ (t.rows.any fun h => h.keyword == k) = false := by
  rw [← h.counts k, List.map_eq_nil_iff, List.filter_eq_nil_iff, List.any_eq_false]

/-- The row of a keyword that is searched for again is counted once more. -/
theorem Tallied.counted (h : Tallied t keywords) {keyword : String} (now : Timestamp)
    (hany : (t.rows.any fun h => h.keyword == keyword) = true) :
    Tallied { t with rows := t.rows.map (counted keyword now) } (keywords ++ [keyword]) where
  distinct := distinct_counted h.distinct
  numbered := by
    intro x hx
    obtain ⟨r, hr, rfl⟩ := List.mem_map.mp hx
    rw [id_counted]
    exact h.numbered r hr
  plain := by
    intro x hx
    obtain ⟨r, hr, rfl⟩ := List.mem_map.mp hx
    have hplain := h.plain r hr
    unfold HotSearch.counted
    split
    · exact hplain
    · exact hplain
  counts := by
    intro k
    rw [count_concat, filter_counted, h.counts]
    cases hk : keyword == k with
    | false => simp
    | true =>
      obtain rfl : keyword = k := beq_iff_eq.mp hk
      refine (tallied_succ fun hnil => ?_).symm
      rw [(h.tallied_eq_nil_iff keyword).mp hnil] at hany
      cases hany

/-- A keyword that is searched for the first time gets a row. -/
theorem Tallied.push (h : Tallied t keywords) {keyword : String} (now : Timestamp)
    (hany : (t.rows.any fun h => h.keyword == keyword) = false) :
    Tallied (t.push fun id => (ofKeyword keyword now id).stored)
      (keywords ++ [keyword]) where
  distinct := by
    have hnot : ∀ h ∈ t.rows, (keyword == h.keyword) = false := by
      intro r hr
      rw [Bool.beq_comm]
      simpa using List.any_eq_false.mp hany r hr
    have hid : ∀ id, Entity.id (ofKeyword keyword now id).stored = id := fun _ => rfl
    exact distinct_concat h.distinct (h.numbered.not_conflict hid hnot)
  numbered := h.numbered.push fun _ => rfl
  plain := by
    intro x hx
    rcases List.mem_append.mp hx with hx | hx
    · exact h.plain x hx
    · rw [List.mem_singleton.mp hx]
      exact ⟨rfl, rfl⟩
  counts := by
    intro k
    have hnew : [(ofKeyword keyword now (t.lastId + 1)).stored].filter
        (fun h => h.keyword == k)
        = if keyword == k then [(ofKeyword keyword now (t.lastId + 1)).stored] else [] :=
          List.filter_cons
    show ((t.rows ++ [(ofKeyword keyword now (t.lastId + 1)).stored]).filter _).map _ = _
    rw [count_concat, List.filter_append, List.map_append, h.counts, hnew]
    cases hk : keyword == k with
    | false => simp
    | true =>
      obtain rfl : keyword = k := beq_iff_eq.mp hk
      have hnone := (h.tallied_eq_nil_iff keyword).mpr hany
      rw [hnone, tallied_eq_nil.mp hnone]
      rfl

/-- One more search for a keyword shows in its count and in no other. -/
theorem Tallied.bumped (h : Tallied t keywords) (keyword : String) (now : Timestamp) :
    Tallied (bumped keyword now t) (keywords ++ [keyword]) := by
  unfold HotSearch.bumped
  cases hany : t.rows.any fun h => h.keyword == keyword with
  | true =>
    rw [if_pos rfl]
    exact h.counted now hany
  | false =>
    rw [if_neg Bool.false_ne_true]
    exact h.push now hany

/-- The order of lists where all scores are the same. -/
def unscored (a b : Int × String) : Bool :=
  if a.1 = b.1 then a.2 ≤ b.2 else b.1 < a.1

theorem unscored_trans (a b c : Int × String) (hab : unscored a b = true)
    (hbc : unscored b c = true) : unscored a c = true := by
  unfold unscored at *
  split at hab <;> split at hbc <;> split <;> simp only [decide_eq_true_eq] at *
    <;> try omega
  exact String.le_trans hab hbc

theorem unscored_total (a b : Int × String) : (unscored a b || unscored b a) = true := by
  rw [Bool.or_eq_true]
  unfold unscored
  split <;> split <;> simp only [decide_eq_true_eq] at * <;> try omega
  exact String.le_total a.2 b.2

/-- The first of the keywords in their order are the hot ones. -/
theorem Tallied.popular {db : Database} (h : Tallied t keywords) (ht : db.table Row = .ok t)
    (n : Nat) :
    ∃ all : List HotSearch, popular n db = .ok (all.take n) ∧
      all.Pairwise (fun a b => b.searchCount ≤ a.searchCount) ∧
      (all.map fun h => (h.searchCount, h.keyword)).Perm
        (t.rows.map fun h => (h.searchCount, h.keyword)) := by
  have hactive : (t.rows.filter fun h => h.status == .tag .active) = t.rows :=
    List.filter_eq_self.mpr fun r hr => by rw [(h.plain r hr).1]; rfl
  -- every row can be read, and all scores are the same
  obtain ⟨all, hall⟩ : ∃ all : List HotSearch, t.rows.mergeSort listOrder =
      all.map Columns.stored := by
    refine ⟨(t.rows.mergeSort listOrder).map fun r =>
      { r with status := ActiveStatus.active }, ?_⟩
    rw [List.map_map]
    refine ((List.map_congr_left fun r hr => ?_).trans (List.map_id _)).symm
    have hstatus : r.status = .tag .active := (h.plain r (List.mem_mergeSort.mp hr)).1
    show { r with status := .tag .active } = r
    rw [← hstatus]
  have hpairs : (t.rows.mergeSort listOrder).map (fun h => (h.searchCount, h.keyword))
      = (t.rows.map fun h => (h.searchCount, h.keyword)).mergeSort unscored := by
    refine List.map_mergeSort fun a ha b hb => ?_
    have hscores : (a.trendScore == b.trendScore) = true := by
      rw [(h.plain a ha).2, (h.plain b hb).2]
      decide
    rw [listOrder, hscores]
    rfl
  have hshown : (all.map Columns.stored).map (fun h : Row => (h.searchCount, h.keyword))
      = all.map fun h => (h.searchCount, h.keyword) := List.map_map
  rw [hall, hshown] at hpairs
  refine ⟨all, ?_, ?_, ?_⟩
  · rw [HotSearch.popular, Database.top, select_of_table ht, hactive]
    show ((t.rows.mergeSort listOrder).take n).mapM readRow = _
    rw [hall, ← List.map_take, mapM_readRow fun _ => rfl]
  · have hsorted := List.pairwise_mergeSort unscored_trans unscored_total
      (t.rows.map fun h => (h.searchCount, h.keyword))
    rw [← hpairs, List.pairwise_map] at hsorted
    refine hsorted.imp fun {a b} hab => ?_
    unfold unscored at hab
    split at hab
    · next heq => exact Int.le_of_eq heq.symm
    · exact Int.le_of_lt (of_decide_eq_true hab)
  · rw [hpairs]
    exact List.mergeSort_perm _ _

end HotSearch

/-! ## Users -/

namespace Database

variable {db db' : Database}

/-- Users are in their table and nowhere else. -/
theorem hasUser_agreeOff {names : List TableName} (h : AgreeOff names db db')
    (hname : TableName.user ∉ names) (id : Int) : db'.hasUser id = db.hasUser id := by
  have husers : db'.users = db.users := h.slotAt .user hname
  rw [hasUser, hasUser, husers]

/-- A changed row is still the row of its user. -/
theorem hasUser_replace {x y : User.Row} (h : replace x db = .ok (y, db')) (id : Int) :
    db'.hasUser id = db.hasUser id := by
  obtain ⟨t, before, r, after, ht, hrows, hid, -, -, -, rfl⟩ := replace_eq_ok h
  have hslot : db.users.table? = some t := table_eq_ok.mp ht
  have hid : r.id = x.id := hid
  rw [hasUser, hasUser, hslot]
  show ((before ++ x :: after).any (fun u => u.id == id) || _) =
    (t.rows.any (fun u => u.id == id) || _)
  rw [hrows, List.any_append, List.any_append, List.any_cons, List.any_cons, hid]
  rfl

end Database

/-- Nobody comes or goes. -/
theorem World.hasUser_next (e : Event) (w : World) (id : Int) :
    (e.next w).database.hasUser id = w.database.hasUser id := by
  cases e with
  | wait | closeCache => rfl
  | call op =>
    have hagree := op.agreeOff_next w
    cases op with
    | changeProfile user r =>
      show ((Operation.changeProfile user r).next w).database.hasUser id = _
      rw [Operation.next, Operation.run, Operation.snd_perform_silently]
      rcases User.database_change user r w with hsame | ⟨u, row, -, hreplace⟩
      · rw [hsame]
      · exact hasUser_replace hreplace id
    | toggleLike | toggleFavorite =>
      exact hasUser_agreeOff hagree (Counter.not_mem_tables (by decide) (by decide)) id
    | createCategory | changeCategory | removeCategory | search =>
      exact hasUser_agreeOff hagree (by simp [Operation.tables]) id
    | _ => exact hasUser_agreeOff hagree List.not_mem_nil id

/-! ## The books -/

namespace Search

/-- The history is that of the searches, as far as their users are there. No identifier
beyond `last` was given at the start. -/
def IsLogged (known : Int → Bool) (last : Int) (searches : List Success) (now : Timestamp)
    (db : Database) : Prop :=
  ∃ t entries, db.table HistoryEntry.Row = .ok t ∧ HistoryEntry.Logged t now entries ∧
    t.lastId ≤ last + searches.length ∧
    entries.map (fun e => (some e.userId, HistoryEntry.trace e))
      = (searches.filter fun s => s.userId.any known).map fun s => (s.userId, s.trace)

/-- The hot keywords are those of the searches. No identifier beyond `last` was
given at the start. -/
def IsCounted (last : Int) (searches : List Success) (db : Database) : Prop :=
  ∃ t, db.table HotSearch.Row = .ok t ∧
    HotSearch.Tallied t (searches.map fun s => s.request.keyword) ∧
    t.lastId ≤ last + searches.length

/-- Both tables as the account of the searches. `known` says which users are there. -/
structure Books (known : Int → Bool) (lastEntry lastKeyword : Int) (searches : List Success)
    (now : Timestamp) (db : Database) : Prop where
  users : ∀ id, db.hasUser id = known id
  history : IsLogged known lastEntry searches now db
  hot : IsCounted lastKeyword searches db

variable {known : Int → Bool} {last lastEntry lastKeyword : Int} {searches : List Success}
  {now now' : Timestamp} {db db' : Database} {s : Success}

theorem Books.later (h : Books known lastEntry lastKeyword searches now db)
    (hnow : now.instant ≤ now'.instant) :
    Books known lastEntry lastKeyword searches now' db := by
  obtain ⟨t, entries, ht, hlogged, hrest⟩ := h.history
  exact { h with history := ⟨t, entries, ht, hlogged.later hnow, hrest⟩ }

/-- What leaves both tables alone, and the users, leaves the books alone. -/
theorem Books.of_tables (h : Books known lastEntry lastKeyword searches now db)
    (husers : ∀ id, db'.hasUser id = db.hasUser id)
    (hhistory : db'.table HistoryEntry.Row = db.table HistoryEntry.Row)
    (hhot : db'.table HotSearch.Row = db.table HotSearch.Row) :
    Books known lastEntry lastKeyword searches now db' := by
  obtain ⟨t, entries, ht, hentries⟩ := h.history
  obtain ⟨t', ht', hcounts⟩ := h.hot
  exact ⟨fun id => (husers id).trans (h.users id), ⟨t, entries, hhistory.trans ht, hentries⟩,
    ⟨t', hhot.trans ht', hcounts⟩⟩

/-- A search of a user who is there gets its entry, and no other search does. -/
theorem IsLogged.logged (h : IsLogged known last searches s.time db)
    (husers : ∀ id, db.hasUser id = known id) (hroom : last + searches.length < int64Max) :
    IsLogged known last (searches ++ [s]) s.time
      (Search.logged s.request s.userId s.total s.time db) := by
  obtain ⟨t, entries, ht, hlogged, hlast, hentries⟩ := h
  have hlength : (searches ++ [s]).length = searches.length + 1 := List.length_append
  have hlonger : t.lastId ≤ last + (searches ++ [s]).length := by
    rw [hlength]
    omega
  have hsplit : (searches ++ [s]).filter (fun s => s.userId.any known)
      = searches.filter (fun s => s.userId.any known)
        ++ if s.userId.any known then [s] else [] := by
    rw [List.filter_append, List.filter_cons]
    rfl
  unfold Search.logged
  cases huser : s.userId with
  | none => exact ⟨t, entries, ht, hlogged, hlonger, by rw [hentries, hsplit, huser]; simp⟩
  | some id =>
    show IsLogged _ _ _ _ (afterTry _ db)
    cases hknown : known id with
    | false =>
      rw [HistoryEntry.record_of_unknown _ _ _ _ ((husers id).trans hknown)]
      exact ⟨t, entries, ht, hlogged,
        hlonger, by rw [hentries, hsplit, huser]; simp [hknown]⟩
    | true =>
      rw [HistoryEntry.record_eq id _ _ _ _ ht hlogged.numbered (by omega)
        ((husers id).trans hknown)]
      refine ⟨_, _, table_withTable _,
        hlogged.push id s.request.keyword s.request.searchType s.total, ?_, ?_⟩
      · show t.lastId + 1 ≤ _
        rw [hlength]
        omega
      · rw [List.map_append, hentries, hsplit, huser]
        simp [hknown, HistoryEntry.trace, HistoryEntry.ofSearch, Success.trace, huser]

/-- A search leaves books that are right. -/
theorem Books.traced (h : Books known lastEntry lastKeyword searches s.time db)
    (hentry : lastEntry + searches.length < int64Max)
    (hkeyword : lastKeyword + searches.length < int64Max) :
    Books known lastEntry lastKeyword (searches ++ [s]) s.time
      (Search.traced s.request s.userId s.total s.time db) := by
  have hagree := agreeOff_logged s.request s.userId s.total s.time db
  obtain ⟨t, entries, ht, hlogged, hlast, hentries⟩ := h.history.logged h.users hentry
  obtain ⟨t', ht', htallied, hlast'⟩ := h.hot
  -- the keyword is counted where the entry has left its table alone
  rw [← table_agreeOff hagree (by decide)] at ht'
  obtain ⟨db', hbump, hnew⟩ :=
    HotSearch.bump_eq ht' htallied.distinct htallied.numbered (by omega)
  have hbumped := HotSearch.agreeOff_bump hbump
  rw [Search.traced, afterTry_of_ok hbump]
  refine ⟨fun id => ?_, ⟨t, entries, ?_, hlogged, hlast, hentries⟩, ⟨_, hnew, ?_, ?_⟩⟩
  · rw [hasUser_agreeOff hbumped (by decide), hasUser_agreeOff hagree (by decide), h.users]
  · exact (table_agreeOff hbumped (by decide)).trans ht
  · rw [List.map_append]
    exact htallied.bumped s.request.keyword s.time
  · have hlastId : (HotSearch.bumped s.request.keyword s.time t').lastId ≤
        t'.lastId + 1 := by
      unfold HotSearch.bumped
      split
      · exact Int.le_add_of_nonneg_right (by decide)
      · exact Int.le_refl _
    rw [List.length_append, List.length_singleton]
    omega

/-- The entries of a user who is there are the searches of that user. -/
theorem trace_of_user {entries : List HistoryEntry} {userId : Int} (type : Option SearchType)
    (hknown : known userId = true)
    (h : entries.map (fun e => (some e.userId, HistoryEntry.trace e))
      = (searches.filter fun s => s.userId.any known).map fun s => (s.userId, s.trace)) :
    (entries.filter fun e => e.userId == userId && type.all fun t => e.searchType == t).map
      HistoryEntry.trace
      = (searches.filter (Success.isOf userId type)).map Success.trace := by
  -- what is looked for shows in what both lists are mapped to
  let wanted : Option Int × Trace → Bool := fun x =>
    x.1 == some userId && type.all fun t => x.2.searchType == t
  have hfilter := congrArg (List.map Prod.snd) (congrArg (List.filter wanted) h)
  rw [List.filter_map, List.filter_map, List.filter_filter, List.map_map,
    List.map_map] at hfilter
  have hentry : (wanted ∘ fun e : HistoryEntry => (some e.userId, HistoryEntry.trace e))
      = fun e => e.userId == userId && type.all fun t => e.searchType == t := by
    funext e
    show ((some e.userId == some userId) && _) = _
    rw [Option.some_beq_some]
    rfl
  have hsearch :
      (fun s : Success => (wanted ∘ fun s => (s.userId, s.trace)) s && s.userId.any known)
      = Success.isOf userId type := by
    funext s
    show (Success.isOf userId type s && _) = _
    cases hs : Success.isOf userId type s with
    | false => rfl
    | true =>
      unfold Success.isOf at hs
      rw [Bool.and_eq_true, beq_iff_eq] at hs
      rw [hs.1]
      exact hknown
  rw [hentry, hsearch] at hfilter
  exact hfilter

namespace IsLogged

/-- The latest entries of a user who is there are those of the latest searches. -/
theorem recent (h : IsLogged known last searches now db) {userId : Int}
    (hknown : known userId = true) (type : Option SearchType) (n : Nat) :
    ∃ entries, HistoryEntry.recent userId type n db = .ok entries ∧
      (∀ e ∈ entries, e.userId = userId) ∧
      entries.map HistoryEntry.trace
        = ((searches.filter (Success.isOf userId type)).reverse.take n).map
          Success.trace := by
  obtain ⟨t, entries, ht, hlogged, -, hentries⟩ := h
  refine ⟨_, hlogged.recent ht userId type n, fun e he => ?_, ?_⟩
  · have hmem := List.mem_filter.mp (List.mem_reverse.mp (List.mem_of_mem_take he))
    exact beq_iff_eq.mp (Bool.and_eq_true _ _ ▸ hmem.2).1
  · rw [List.map_take, List.map_reverse, trace_of_user type hknown hentries, List.map_take,
      List.map_reverse]

/-- Nobody else has a history. -/
theorem known_of_mem (h : IsLogged known last searches now db) :
    ∀ row ∈ rowsOf HistoryEntry.Row db, known row.userId = true := by
  obtain ⟨t, entries, ht, hlogged, -, hentries⟩ := h
  intro row hrow
  rw [rowsOf_eq ht, hlogged.rows] at hrow
  obtain ⟨e, he, rfl⟩ := List.mem_map.mp hrow
  have hmem : (some e.userId, HistoryEntry.trace e)
      ∈ (searches.filter fun s => s.userId.any known).map fun s => (s.userId, s.trace) :=
    hentries ▸ List.mem_map_of_mem he
  obtain ⟨s, hs, heq⟩ := List.mem_map.mp hmem
  have hany := (List.mem_filter.mp hs).2
  rw [(Prod.mk.inj heq).1] at hany
  exact hany

theorem length_rows (h : IsLogged known last searches now db) :
    (rowsOf HistoryEntry.Row db).length = searches.countP fun s => s.userId.any known := by
  obtain ⟨t, entries, ht, hlogged, -, hentries⟩ := h
  have hlength := congrArg List.length hentries
  rw [List.length_map, List.length_map] at hlength
  rw [rowsOf_eq ht, hlogged.rows, List.length_map, hlength, List.countP_eq_length_filter]

end IsLogged

namespace IsCounted

theorem counts (h : IsCounted last searches db) (keyword : String) :
    let n := searches.countP fun s => s.request.keyword == keyword
    ((rowsOf HotSearch.Row db).filter fun h => h.keyword == keyword).map (·.searchCount)
      = if n = 0 then [] else [(n : Int)] := by
  obtain ⟨t, ht, htallied, -⟩ := h
  have hcount : searches.countP (fun s => s.request.keyword == keyword)
      = (searches.map fun s => s.request.keyword).count keyword := by
    rw [List.count_eq_countP, List.countP_map]
    rfl
  rw [rowsOf_eq ht, htallied.counts, hcount]
  rfl

/-- The keywords that were searched most often are the first ones of a
list of all keywords. -/
theorem popular (h : IsCounted last searches db) (n : Nat) : ∃ all : List HotSearch,
    HotSearch.popular n db = .ok (all.take n) ∧
    all.Pairwise (fun a b => b.searchCount ≤ a.searchCount) ∧
    (all.map fun h => (h.searchCount, h.keyword)).Perm
      ((rowsOf HotSearch.Row db).map fun h => (h.searchCount, h.keyword)) := by
  obtain ⟨t, ht, htallied, -⟩ := h
  rw [rowsOf_eq ht]
  exact htallied.popular ht n

end IsCounted

/-! ## The questions -/

theorem outcome_history (userId : Int) (type : Option SearchType) {n : Nat} (hlow : 1 ≤ n)
    (hhigh : n ≤ 100) (w : World) : ((history userId type (some n)).outcome w).1
      = Problem.ofStatement (HistoryEntry.recent userId type n w.database) := by
  rw [outcome, history, perform_bind, perform_check, checkedLimit, if_pos ⟨hlow, hhigh⟩]
  rfl

theorem outcome_hot {n : Nat} (hlow : 1 ≤ n) (hhigh : n ≤ 50) (w : World) :
    ((hot (some n)).outcome w).1
      = (Problem.ofStatement (HotSearch.popular n w.database)).map
        (List.map HotKeyword.of) := by
  rw [outcome, hot, perform_bind, perform_check, checkedLimit, if_pos ⟨hlow, hhigh⟩]
  exact congrArg Prod.fst (perform_map _ _ _)

end Search

/-! ## Runs -/

open Search

/-- The table is there and empty, and has identifiers for `n` rows to come. -/
def Database.IsBlank (ρ : Type) {α : Type} [Entity ρ α] (n : Nat) (db : Database) : Prop :=
  ∃ lastId : Int, db.table ρ = .ok ⟨[], lastId⟩ ∧ lastId + n ≤ int64Max

namespace World

/-- What a search has left when it succeeds is its traces, and nothing when it fails. -/
theorem next_search (r : SearchRequest) (userId : Option Int) (p : Page) (w : World) :
    match success? (.call (.search r userId p)) w with
    | some s => s.time = w.now ∧ (Operation.search r userId p).next w
        = { w with database := traced s.request s.userId s.total s.time w.database }
    | none => (Operation.search r userId p).next w = w := by
  have hnext : (Operation.search r userId p).next w =
      ((Search.run r userId p).perform w).2 :=
    Operation.snd_perform_silently _ w
  have hsuccess : success? (.call (.search r userId p)) w =
      match ((Search.run r userId p).perform w).1 with
      | .ok result => some ⟨r, userId, result.resultCount, w.now⟩
      | .error _ => none := rfl
  rw [hnext, hsuccess]
  rcases hperform : (Search.run r userId p).perform w with ⟨problem | result, w'⟩
  · exact failsCleanly_run r userId p w problem w' hperform
  · exact ⟨rfl, run_eq_ok hperform⟩

/-- Other operations leave the books alone. -/
theorem tables_next {op : Operation} (hop : ∀ r userId p, op ≠ .search r userId p)
    (w : World) :
    (op.next w).database.table HistoryEntry.Row = w.database.table HistoryEntry.Row ∧
      (op.next w).database.table HotSearch.Row = w.database.table HotSearch.Row := by
  have hagree := op.agreeOff_next w
  cases op with
  | search r userId p => exact absurd rfl (hop r userId p)
  | toggleLike | toggleFavorite =>
    exact ⟨table_agreeOff hagree (Counter.not_mem_tables (by decide) (by decide)),
      table_agreeOff hagree (Counter.not_mem_tables (by decide) (by decide))⟩
  | createCategory | changeCategory | removeCategory | changeProfile =>
    exact ⟨table_agreeOff hagree (by simp [Operation.tables, Entity.name]),
      table_agreeOff hagree (by simp [Operation.tables, Entity.name])⟩
  | _ =>
    exact ⟨table_agreeOff hagree List.not_mem_nil, table_agreeOff hagree List.not_mem_nil⟩

variable {start : World} {lastEntry lastKeyword : Int}

/-- One event, and the search that it is. -/
theorem books_next {known : Int → Bool} {searches : List Success} {e : Event} {w : World}
    (h : Books known lastEntry lastKeyword searches w.now w.database)
    (hentry : lastEntry + (searches ++ (success? e w).toList).length ≤ int64Max)
    (hkeyword : lastKeyword + (searches ++ (success? e w).toList).length ≤ int64Max) :
    Books known lastEntry lastKeyword (searches ++ (success? e w).toList) (e.next w).now
      (e.next w).database := by
  cases e with
  | wait time =>
    rw [show success? (.wait time) w = none from rfl, Option.toList_none, List.append_nil]
    refine h.later ?_
    show (Timestamp.ofMicros w.clock).instant ≤ (Timestamp.ofMicros (w.clock + time)).instant
    rw [Timestamp.instant_ofMicros, Timestamp.instant_ofMicros]
    omega
  | closeCache =>
    rw [show success? .closeCache w = none from rfl, Option.toList_none, List.append_nil]
    exact h
  | call op =>
    have hnow : (op.next w).now = w.now := congrArg Timestamp.ofMicros (clock_next_call op w)
    show Books _ _ _ _ (op.next w).now (op.next w).database
    rw [hnow]
    by_cases hop : ∃ r userId p, op = .search r userId p
    · obtain ⟨r, userId, p, rfl⟩ := hop
      have hnext := next_search r userId p w
      cases hsuccess : success? (.call (.search r userId p)) w with
      | none =>
        rw [hsuccess] at hnext
        rw [hnext, Option.toList_none, List.append_nil]
        exact h
      | some s =>
        rw [hsuccess] at hnext hentry hkeyword
        obtain ⟨htime, hnext⟩ := hnext
        rw [Option.toList_some, List.length_append, List.length_singleton] at hentry hkeyword
        rw [hnext, Option.toList_some, ← htime]
        rw [← htime] at h
        exact h.traced (by omega) (by omega)
    · have hop : ∀ r userId p, op ≠ .search r userId p :=
        fun r userId p heq => hop ⟨r, userId, p, heq⟩
      have hnone : success? (.call op) w = none := by
        unfold success?
        split
        · next heq => exact absurd (Event.call.inj heq) (hop _ _ _)
        · rfl
      obtain ⟨hhistory, hhot⟩ := tables_next hop w
      rw [hnone, Option.toList_none, List.append_nil]
      exact h.of_tables (hasUser_next (.call op) w) hhistory hhot

/-- From empty tables, the books of a run are those of its searches. -/
theorem books_after (events : List Event)
    (hhistory : start.database.table HistoryEntry.Row = .ok ⟨[], lastEntry⟩)
    (hhot : start.database.table HotSearch.Row = .ok ⟨[], lastKeyword⟩)
    (hentry : lastEntry + (start.searches events).length ≤ int64Max)
    (hkeyword : lastKeyword + (start.searches events).length ≤ int64Max) :
    Books start.database.hasUser lastEntry lastKeyword (start.searches events)
      (start.after events).now
      (start.after events).database := by
  -- identifiers that suffice for all searches suffice for the first of them
  suffices h : lastEntry + (start.searches events).length ≤ int64Max →
      lastKeyword + (start.searches events).length ≤ int64Max →
      Books start.database.hasUser lastEntry lastKeyword (start.searches events)
        (start.after events).now
        (start.after events).database from h hentry hkeyword
  refine collect_induction (I := fun searches v => lastEntry + searches.length ≤ int64Max →
    lastKeyword + searches.length ≤ int64Max →
    Books start.database.hasUser lastEntry lastKeyword searches v.now v.database) ?_ ?_
  · intro _ _
    refine ⟨fun _ => rfl, ⟨_, [], hhistory, ⟨rfl, ?_, ?_, .nil⟩, by simp, rfl⟩,
      ⟨_, hhot, ⟨rfl, ?_, ?_, ?_⟩, by simp⟩⟩
    · exact fun _ h => absurd h List.not_mem_nil
    · exact fun _ h => absurd h List.not_mem_nil
    · exact fun _ h => absurd h List.not_mem_nil
    · exact fun _ h => absurd h List.not_mem_nil
    · exact fun _ => rfl
  · intro searches v e _ hbooks hentry hkeyword
    have hlength : searches.length ≤ (searches ++ (success? e v).toList).length := by
      rw [List.length_append]
      exact Nat.le_add_right _ _
    exact books_next (hbooks (by omega) (by omega)) hentry hkeyword

end World

/-- Every keyword is counted as often as it was searched for; the history of a user who is
there is that user's searches, newest first, and nobody else has one; and the hot keywords
are those with the largest counts. -/
theorem searches_are_accounted_for (start : World) (events : List Event)
    (hhistory : start.database.IsBlank HistoryEntry.Row (start.searches events).length)
    (hhot : start.database.IsBlank HotSearch.Row (start.searches events).length) :
    let now := start.after events
    let searches := start.searches events
    (∀ keyword, let n := searches.countP fun s => s.request.keyword == keyword
      ((rowsOf HotSearch.Row now.database).filter fun h => h.keyword == keyword).map
        (·.searchCount)
        = if n = 0 then [] else [(n : Int)]) ∧
    (∀ userId type n, start.database.hasUser userId = true → 1 ≤ n → n ≤ 100 →
      ∃ entries, ((Search.history userId type (some n)).outcome now).1 = .ok entries ∧
        (∀ e ∈ entries, e.userId = userId) ∧
        entries.map HistoryEntry.trace
          = ((searches.filter (Success.isOf userId type)).reverse.take n).map
            Success.trace) ∧
    ((∀ row ∈ rowsOf HistoryEntry.Row now.database,
        start.database.hasUser row.userId = true) ∧
      (rowsOf HistoryEntry.Row now.database).length
        = searches.countP fun s => s.userId.any start.database.hasUser) ∧
    (∀ n, 1 ≤ n → n ≤ 50 → ∃ all : List HotKeyword,
      ((Search.hot (some n)).outcome now).1 = .ok (all.take n) ∧
      all.Pairwise (fun a b => b.searchCount ≤ a.searchCount) ∧
      (all.map fun h => (h.searchCount, h.keyword)).Perm
        ((rowsOf HotSearch.Row now.database).map fun h => (h.searchCount, h.keyword))) := by
  intro now searches
  obtain ⟨lastEntry, hhistory, hentry⟩ := hhistory
  obtain ⟨lastKeyword, hhot, hkeyword⟩ := hhot
  obtain ⟨-, hlogged, hcounted⟩ := World.books_after events hhistory hhot hentry hkeyword
  refine ⟨fun keyword => hcounted.counts keyword, fun userId type n huser hlow hhigh => ?_,
    ⟨hlogged.known_of_mem, hlogged.length_rows⟩, fun n hlow hhigh => ?_⟩
  · obtain ⟨entries, hrecent, howners, htraces⟩ := hlogged.recent huser type n
    refine ⟨entries, ?_, howners, htraces⟩
    rw [Search.outcome_history userId type hlow hhigh, hrecent]
    rfl
  · obtain ⟨all, hpopular, hsorted, hperm⟩ := hcounted.popular n
    refine ⟨all.map HotKeyword.of, ?_, List.pairwise_map.mpr hsorted, ?_⟩
    · rw [Search.outcome_hot hlow hhigh, hpopular, ← List.map_take]
      rfl
    · rw [List.map_map]
      exact hperm

/-- The user searches for a word, then for the same word in capitals, and for the word again:
it has been searched for twice. -/
theorem searches_are_accounted_for_sample :
    let search (keyword : String) : Event :=
      .call (.search ⟨keyword, .content⟩ (some 1) ⟨1, 10⟩)
    let events : List Event :=
      [search "engine", .wait 1000, search "ENGINE", search "engine"]
    World.sample.database.IsBlank HistoryEntry.Row (World.sample.searches events).length ∧
      World.sample.database.IsBlank HotSearch.Row (World.sample.searches events).length ∧
      ((rowsOf HotSearch.Row (World.sample.after events).database).filter
        fun h => h.keyword == "engine").map (·.searchCount) = [2] := by
  intro search events
  have hthree : (World.sample.searches events).length = 3 := by decide +kernel
  have htwo : (World.sample.searches events).countP
      (fun s => s.request.keyword == "engine") = 2 := by
    decide +kernel
  have hhistory : World.sample.database.IsBlank HistoryEntry.Row
      (World.sample.searches events).length :=
    ⟨0, rfl, by rw [hthree]; decide⟩
  have hhot : World.sample.database.IsBlank HotSearch.Row
      (World.sample.searches events).length :=
    ⟨0, rfl, by rw [hthree]; decide⟩
  obtain ⟨hcounts, -⟩ := searches_are_accounted_for World.sample events hhistory hhot
  have hengine := hcounts "engine"
  simp only [htwo] at hengine
  exact ⟨hhistory, hhot, hengine⟩

end Community

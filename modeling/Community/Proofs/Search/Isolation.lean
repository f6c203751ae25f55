import Community.Proofs.Rows
import Community.Proofs.Search.Keyword

/-!
# Searches and their traces, kept apart

What a search answers is read off the tables of contents, goods and users. The history and
the hot keywords are written after the answer has been found, so their rows, their faults and
the one who searches never show in it:

> `Search.fst_perform_run`: the answer of a search, as a function of its request, its page
> and the database, without the caller.

> `searches_are_isolated`: two worlds with the same contents, goods and users answer alike,
> whoever searches, and a search touches nothing but its two traces.

That the hot keywords change in one row only is the unique index again: an update that
succeeds leaves rows of different keywords, so it has met at most one row of its own
(`HotSearch.changes_increment`).
-/

namespace Community

open Procedure Database Time

/-! ## What the traces change -/

/-- A page depends on its own table alone. -/
theorem page_of_table {ρ α : Type} [Entity ρ α] {db db' : Database}
    (h : db'.table ρ = db.table ρ) (pick : ρ → Bool) (before : ρ → ρ → Bool) (p : Page) :
    page pick before p db' = page pick before p db := by
  rw [page, page, count, count, select, select, h]

/-- The history gains one entry of the one who searches. -/
def HistoryEntry.Gains (userId : Option Int) (rows rows' : List Row) : Prop :=
  ∃ e, rows' = rows ++ [e] ∧ userId = some e.userId

/-- One row of the keyword is made, where there was none, or is changed in its place. -/
def HotSearch.Counts (keyword : String) (rows rows' : List Row) : Prop :=
  (∃ h, h.keyword = keyword ∧ (∀ s ∈ rows, s.keyword ≠ keyword) ∧ rows' = rows ++ [h]) ∨
    ∃ before h h' after, rows = before ++ h :: after ∧ rows' = before ++ h' :: after ∧
      h.keyword = keyword ∧ h'.keyword = keyword ∧ h'.id = h.id

/-- An entry that is recorded is one of the user. -/
theorem HistoryEntry.changes_record {userId : Int} {keyword : String} {type : SearchType}
    {count : Nat} {now : Timestamp} {row : Row} {db db' : Database}
    (h : record userId keyword type count now db = .ok (row, db')) :
    db.history.Changes (Gains (some userId)) db'.history := by
  obtain ⟨t, id, ht, -, rfl, -, -, rfl⟩ := insert_eq_ok h
  exact changes_withTable ht ⟨_, rfl, rfl⟩

namespace HotSearch

variable {keyword : String} {now : Timestamp} {db db' : Database}

theorem withTable_self {t : Table Row} (ht : db.table Row = .ok t) :
    db.withTable t = db := by
  have hslot : db.hotSearches.table? = some t := table_eq_ok.mp ht
  show { db with hotSearches := { db.hotSearches with table? := some t } } = db
  rw [← hslot]

/-- Counting a keyword that no row has changes nothing. -/
theorem map_counted_of_forall {rows : List Row} (h : ∀ s ∈ rows, s.keyword ≠ keyword) :
    rows.map (counted keyword now) = rows := by
  refine (List.map_congr_left fun s hs => ?_).trans (List.map_id _)
  exact if_neg fun he => h s hs (beq_iff_eq.mp he)

/-- Rows that stay distinct when a keyword is counted have it at most once. -/
theorem counts_of_distinct {rows : List Row} {h : Row} (hmem : h ∈ rows)
    (hkeyword : h.keyword = keyword)
    (hdistinct : distinct (rows.map (counted keyword now)) = true) :
    Counts keyword rows (rows.map (counted keyword now)) := by
  obtain ⟨before, after, rfl⟩ := List.append_of_mem hmem
  rw [List.map_append, List.map_cons] at hdistinct ⊢
  obtain ⟨-, hright, hcross⟩ := List.pairwise_append.mp (distinct_iff.mp hdistinct)
  have hapart : ∀ a b : Row, conflict (counted keyword now a)
      (counted keyword now b) = false → a.keyword ≠ b.keyword := by
    intro a b hconflict hab
    have hclash : Entity.clashes (counted keyword now a) (counted keyword now b) = true := by
      refine beq_iff_eq.mpr ?_
      rw [keyword_counted, keyword_counted, hab]
    rw [conflict, hclash, Bool.or_true] at hconflict
    exact Bool.noConfusion hconflict
  have hbefore : ∀ s ∈ before, s.keyword ≠ keyword := fun s hs =>
    hkeyword ▸ hapart s h (hcross _ (List.mem_map_of_mem hs) _ List.mem_cons_self)
  have hafter : ∀ s ∈ after, s.keyword ≠ keyword := fun s hs =>
    hkeyword ▸
      (hapart h s ((List.pairwise_cons.mp hright).1 _ (List.mem_map_of_mem hs))).symm
  rw [map_counted_of_forall hbefore, map_counted_of_forall hafter]
  exact Or.inr ⟨before, h, _, after, rfl, rfl, hkeyword,
    (keyword_counted h).trans hkeyword, id_counted h⟩

/-- A count of a keyword changes its only row, and nothing where there is none. -/
theorem changes_increment {isCounted : Bool}
    (h : increment keyword now db = .ok (isCounted, db')) :
    db.hotSearches.Changes (Counts keyword) db'.hotSearches ∧
      (isCounted = false → db' = db ∧ ∀ s ∈ rowsOf Row db, s.keyword ≠ keyword) := by
  obtain ⟨⟨changed, db₁⟩, hupdate, h⟩ := bind_eq_ok h
  cases h
  obtain ⟨t, ht, rfl, hdistinct, rfl⟩ := update_eq_ok hupdate
  rw [rowsOf_eq ht]
  by_cases hnone : ∀ s ∈ t.rows, s.keyword ≠ keyword
  · have hdb : db.withTable { t with rows := t.rows.map (counted keyword now) } = db := by
      rw [map_counted_of_forall hnone]
      exact withTable_self ht
    exact ⟨.of_eq (congrArg hotSearches hdb), fun _ => ⟨hdb, hnone⟩⟩
  · push Not at hnone
    obtain ⟨h, hmem, hkeyword⟩ := hnone
    refine ⟨changes_withTable ht (counts_of_distinct hmem hkeyword hdistinct),
      fun hempty => ?_⟩
    simp [List.filter_eq_nil_iff] at hempty
    exact absurd hkeyword (hempty h hmem)

/-- A search makes or changes the row of its keyword, and no other row. -/
theorem changes_bump (h : bump keyword now db = .ok ((), db')) :
    db.hotSearches.Changes (Counts keyword) db'.hotSearches := by
  obtain ⟨⟨isCounted, db₁⟩, hincrement, hrest⟩ := bind_eq_ok h
  obtain ⟨hchanges, hnone⟩ := changes_increment hincrement
  cases isCounted with
  | true =>
    cases hrest
    exact hchanges
  | false =>
    obtain ⟨rfl, hnone⟩ := hnone rfl
    simp only [Bool.false_eq_true, if_false] at hrest
    split at hrest
    · next row db₂ hinsert =>
      cases hrest
      obtain ⟨t, id, ht, -, rfl, -, -, rfl⟩ := insert_eq_ok hinsert
      rw [rowsOf_eq ht] at hnone
      exact changes_withTable ht (Or.inl ⟨_, rfl, hnone, rfl⟩)
    · obtain ⟨⟨isCounted, db₂⟩, hagain, hrest⟩ := bind_eq_ok hrest
      cases hrest
      exact (changes_increment hagain).1
    · cases hrest

end HotSearch

/-- A write that may fail without a trace changes the rows as it does when it succeeds. -/
theorem Database.changes_afterTry {β ρ : Type} {q : Database → Except Fault (β × Database)}
    {db : Database} {slot : Database → Slot ρ} {R : List ρ → List ρ → Prop}
    (h : ∀ b db', q db = .ok (b, db') → (slot db).Changes R (slot db')) :
    (slot db).Changes R (slot (afterTry q db)) := by
  unfold afterTry
  split
  · next b db' hq => exact h b db' hq
  · exact .kept

/-! ## A search -/

namespace Search

variable {r : SearchRequest} {userId : Option Int} {p : Page} {w w' : World}

/-- What can be said against a keyword before anything is searched. -/
def screen (r : SearchRequest) : Except Problem Unit := do
  Problem.ofIssues r.issues
  if (Text.trim r.keyword).isEmpty then .error .blankKeyword else .ok ()

/-- The check of the keyword reads nothing of the world. -/
theorem perform_ensureKeyword (r : SearchRequest) (w : World) :
    (ensureKeyword r).perform w = (screen r, w) := by
  rw [ensureKeyword, perform_bind, perform_check, screen]
  cases Problem.ofIssues r.issues with
  | error p => rfl
  | ok => cases (Text.trim r.keyword).isEmpty <;> rfl

/-- What a search answers: nothing of it depends on who searches. -/
theorem fst_perform_run (r : SearchRequest) (userId : Option Int) (p : Page) (w : World) :
    ((run r userId p).perform w).1 = do
      screen r
      let (found, total) ← Problem.ofStatement
        (select (Content.found r.keyword) (Goods.found r.keyword)
        (User.found r.keyword) r.searchType p w.database)
      return ⟨r.keyword, r.searchType, total, .of found total p⟩ := by
  rw [run, perform_bind, perform_ensureKeyword]
  cases screen r with
  | error problem => rfl
  | ok =>
    dsimp only
    rw [perform_bind, perform_hits]
    generalize select _ _ _ _ _ _ = found
    cases found with
    | error f => rfl
    | ok found =>
      exact congrArg Prod.fst (perform_bind_ok (perform_leaveTraces r userId found.2 w))

/-- The hits are read off three tables. -/
theorem select_of_tables {db db' : Database}
    (hcontents : db'.table Content.Row = db.table Content.Row)
    (hgoods : db'.table Goods.Row = db.table Goods.Row)
    (husers : db'.table User.Row = db.table User.Row) (content : Content.Row → Bool)
    (goods : Goods.Row → Bool) (user : User.Row → Bool) (type : SearchType) (p : Page) :
    select content goods user type p db' = select content goods user type p db := by
  cases type with
  | content => rw [select, select, page_of_table hcontents]
  | goods => rw [select, select, page_of_table hgoods]
  | user => rw [select, select, page_of_table husers]

/-- What a search may do to the world: the history gains an entry of the one who searches,
the row of the keyword is made or changed, or neither. -/
structure Traces (r : SearchRequest) (userId : Option Int) (w w' : World) : Prop where
  cache : w'.cache = w.cache
  clock : w'.clock = w.clock
  tables : AgreeOff [.history, .hotSearch] w.database w'.database
  history : w.database.history.Changes (HistoryEntry.Gains userId) w'.database.history
  hotSearches : w.database.hotSearches.Changes
    (HotSearch.Counts r.keyword) w'.database.hotSearches

theorem Traces.refl (r : SearchRequest) (userId : Option Int) (w : World) :
    Traces r userId w w :=
  ⟨rfl, rfl, .refl _ _, .kept, .kept⟩

/-- The entry of a search is the one row that the history gains. -/
theorem changes_logged (r : SearchRequest) (userId : Option Int) (total : Nat)
    (now : Timestamp) (db : Database) :
    db.history.Changes (HistoryEntry.Gains userId)
      (logged r userId total now db).history := by
  cases userId with
  | none => exact .kept
  | some id => exact changes_afterTry fun _ _ h => HistoryEntry.changes_record h

/-- A world with the traces of a search differs from the one before by nothing else. -/
theorem traces_traced (r : SearchRequest) (userId : Option Int) (total : Nat)
    (now : Timestamp) (w : World) :
    Traces r userId w { w with database := traced r userId total now w.database } := by
  have hlogged := agreeOff_logged r userId total now w.database
  have hbumped : AgreeOff [.hotSearch] (logged r userId total now w.database)
      (traced r userId total now w.database) :=
        agreeOff_afterTry fun _ _ h => HotSearch.agreeOff_bump h
  refine ⟨rfl, rfl, hlogged.trans hbumped, ?_, ?_⟩
  · -- the second trace leaves the history as the first one has left it
    show w.database.history.Changes _ (traced r userId total now w.database).history
    rw [show (traced r userId total now w.database).history =
      (logged r userId total now w.database).history
      from hbumped.slotAt .history (by decide)]
    exact changes_logged r userId total now w.database
  · have hsame : (logged r userId total now w.database).hotSearches =
        w.database.hotSearches :=
      hlogged.slotAt .hotSearch (by decide)
    rw [← hsame]
    exact changes_afterTry fun _ _ h => HotSearch.changes_bump h

/-- So does the world after the search. -/
theorem traces_run (r : SearchRequest) (userId : Option Int) (p : Page) (w : World) :
    Traces r userId w ((run r userId p).perform w).2 := by
  rcases hperform : (run r userId p).perform w with ⟨problem | result, w'⟩
  · obtain rfl := failsCleanly_run r userId p w problem w' hperform
    exact .refl r userId w'
  · obtain rfl := run_eq_ok hperform
    exact traces_traced r userId result.resultCount w.now w

end Search

/-- Two worlds with the same contents, goods and users give the same answer to a search, be
it a result or a problem, whoever searches and whatever the history, the hot keywords, the
other tables, the cache and the clock are. The search leaves its traces and nothing else, and
no trace if it fails. -/
theorem searches_are_isolated (r : SearchRequest) (p : Page) (userId userId' : Option Int)
    {w v : World} (hcontents : v.database.table Content.Row = w.database.table Content.Row)
    (hgoods : v.database.table Goods.Row = w.database.table Goods.Row)
    (husers : v.database.table User.Row = w.database.table User.Row) :
    ((Search.run r userId' p).perform v).1 = ((Search.run r userId p).perform w).1 ∧
      Search.Traces r userId w ((Search.run r userId p).perform w).2 ∧
      ∀ problem, ((Search.run r userId p).perform w).1 = .error problem →
        ((Search.run r userId p).perform w).2 = w := by
  refine ⟨?_, Search.traces_run r userId p w, fun problem hproblem => ?_⟩
  · rw [Search.fst_perform_run, Search.fst_perform_run,
      Search.select_of_tables hcontents hgoods husers]
  · exact Search.failsCleanly_run r userId p w problem _ (Prod.ext hproblem rfl)

/-- A stranger who searches without any table for the traces finds what the user finds, whose
search is in the history. -/
theorem searches_are_isolated_sample :
    let bare : World := { World.sample with
      database := { World.sample.database with history := {}, hotSearches := {} } }
    let r : SearchRequest := ⟨"engine", .content⟩
    ((Search.run r (some 99) .first).perform bare).1 =
      ((Search.run r (some 1) .first).perform World.sample).1 ∧
      ((Search.run r (some 99) .first).perform bare).1.toOption.map (·.resultCount) =
        some 1 ∧
      (rowsOf HistoryEntry.Row
        ((Search.run r (some 1) .first).perform World.sample).2.database).length = 1 ∧
      Search.Traces r (some 1) World.sample
        ((Search.run r (some 1) .first).perform World.sample).2 := by
  intro bare r
  obtain ⟨hsame, htraces, -⟩ :=
    searches_are_isolated r .first (some 1) (some 99) (w := World.sample)
      (v := bare) rfl rfl rfl
  exact ⟨hsame, by decide +kernel, by decide +kernel, htraces⟩

end Community

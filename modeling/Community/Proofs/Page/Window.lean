import Community.Proofs.Cache.Origin
import Community.Proofs.Page.Listed

/-!
# Windows on a list

A page is a window on a list: so many rows, behind so many others. The arithmetic stops
at 64 bits, where a page that is far off would begin too early. No page that may be
asked for comes near:

> `Page.IsWithin.offset_eq`: the rows before such a page are counted exactly.

> `Database.isWindow_page`: what a question for a page yields is as long as
> the window leaves it.

An answer carries the rows with the size of the whole list, so that a window can be told from
what is shown (`Json.IsWindow`). Lists that are kept are windows too, and are still when they
are read from their texts (`Cached.isWindow_of_answer`).
-/

namespace Community

open Text Procedure

/-! ## Pages that may be asked for -/

/-- A check of a range is passed exactly by the numbers in it. -/
theorem Check.range_eq_nil_iff {field : String} {least most n : Nat} :
    range field (some least) (some most) n = [] ↔ least ≤ n ∧ n ≤ most := by
  simp [range]

namespace Page

variable {p : Page} {largest : Nat}

/-- A page that may be asked for where at most `largest` rows are shown. -/
structure IsWithin (p : Page) (largest : Nat) : Prop where
  number : 1 ≤ p.number ∧ p.number ≤ maxNumber
  size : 1 ≤ p.size ∧ p.size ≤ largest

theorem isWithin_mk {number size : Nat} (hnumber : 1 ≤ number ∧ number ≤ maxNumber)
    (hsize : 1 ≤ size ∧ size ≤ largest) : (⟨number, size⟩ : Page).IsWithin largest :=
  ⟨hnumber, hsize⟩

/-- A page passes its checks exactly when it is within the bounds. -/
theorem issues_eq_nil_iff : p.issues = [] ↔ p.IsWithin maxSize := by
  rw [issues, List.append_eq_nil_iff, Check.range_eq_nil_iff, Check.range_eq_nil_iff]
  exact ⟨fun ⟨hnumber, hsize⟩ => ⟨hnumber, hsize⟩, fun h => ⟨h.number, h.size⟩⟩

/-- A page that is made from any two numbers is within the bounds. -/
theorem isWithin_clamped (number size : Nat) : (clamped number size).IsWithin maxSize :=
  isWithin_mk ⟨Nat.le_max_left _ _, Nat.max_le.mpr ⟨by decide, Nat.min_le_right _ _⟩⟩
    ⟨Nat.le_max_left _ _, Nat.max_le.mpr ⟨by decide, Nat.min_le_right _ _⟩⟩

/-- A page within the bounds is not changed. -/
theorem clamped_of_isWithin (h : p.IsWithin maxSize) : clamped p.number p.size = p := by
  rw [clamped, Nat.min_eq_left h.number.2, Nat.max_eq_right h.number.1,
    Nat.min_eq_left h.size.2, Nat.max_eq_right h.size.1]

/-- The count of the rows before a page stops once, and not on the way. -/
theorem offset_eq (p : Page) : p.offset = saturate ((p.number - 1) * p.size) :=
  saturate_mul _ _

/-- No page that may be asked for is so far off that the count of the
rows before it stops. -/
theorem IsWithin.offset_eq (h : p.IsWithin largest) (hlargest : largest ≤ maxSize) :
    p.offset = (p.number - 1) * p.size ∧ p.offset ≤ (maxNumber - 1) * maxSize := by
  have hbefore : (p.number - 1) * p.size ≤ (maxNumber - 1) * maxSize :=
    Nat.mul_le_mul (Nat.sub_le_sub_right h.number.2 1) (Nat.le_trans h.size.2 hlargest)
  have hexact : p.offset = (p.number - 1) * p.size := by
    rw [Page.offset_eq, saturate, Nat.min_eq_left (Nat.le_trans hbefore (by decide))]
  exact ⟨hexact, hexact ▸ hbefore⟩

/-- How many rows a page shows of a list. -/
theorem length_rows {α : Type} (p : Page) (all : List α) :
    (p.rows all).length = min p.limit (all.length - p.offset) := by
  rw [rows, List.length_take, List.length_drop]

end Page

/-! ## Windows -/

/-- A listing has as many items as the page leaves of the whole list. -/
def Listing.IsWindow {α : Type} (l : Listing α) (p : Page) : Prop :=
  l.items.length = min p.limit (l.total - p.offset)

/-- Whether a listing is the window of a page does not depend on what its rows show. -/
theorem Listing.isWindow_map {α β : Type} {l : Listing α} {p : Page} (f : α → β) :
    (l.map f).IsWindow p ↔ l.IsWindow p := by
  rw [IsWindow, map, List.length_map]
  rfl

namespace Database

variable {ρ α : Type} [Entity ρ α] {pick : ρ → Bool} {before : ρ → ρ → Bool}
  {db : Database} {as : List α}

/-- The page of a table is its window. -/
theorem isWindow_page {p : Page} {total : Nat}
    (h : page pick before p db = .ok (as, total)) : (Listing.of as total p).IsWindow p := by
  obtain ⟨n, hcount, h⟩ := bind_eq_ok h
  obtain ⟨rows, hselect, h⟩ := bind_eq_ok h
  obtain ⟨read, hread, h⟩ := bind_eq_ok h
  cases h
  obtain ⟨t, ht, hcount⟩ := bind_eq_ok hcount
  cases hcount
  cases hselect.symm.trans (select_of_table ht)
  show as.length = min p.limit ((t.rows.filter pick).length - p.offset)
  rw [← (reads_of_mapM_readRow hread).length_eq, Page.length_rows, List.length_mergeSort]

/-- The top of a table has at most as many rows as were asked for. -/
theorem length_top_le {limit : Nat} (h : top pick before limit db = .ok as) :
    as.length ≤ limit := by
  obtain ⟨rows, -, hread⟩ := bind_eq_ok h
  rw [← (reads_of_mapM_readRow hread).length_eq]
  exact List.length_take_le _ _

end Database

/-! ## Windows in an answer -/

/-- The rows that an answer shows: those of a list, or those of a page of one. -/
def Json.rows : Json → List Json
  | .arr items => items
  | j =>
    match j.member? "datas" with
    | some (.arr items) => items
    | _ => []

/-- The size of the whole list that an answer tells. -/
def Json.total? (j : Json) : Option Nat :=
  match j.member? "total" with
  | some (.int n) => some n.toNat
  | _ => none

/-- An answer shows no more rows than the page has. If it tells the size of the whole list,
it shows as many as the rows before the page leave. -/
def Json.IsWindow (j : Json) (p : Page) : Prop :=
  j.rows.length ≤ p.size ∧ ∀ total, j.total? = some total →
    j.rows.length = min p.size (total - p.offset)

section Answers

variable {α : Type} [Encode α] {p : Page} {j : Json}

/-- A JSON with a total and as many rows as the page shows of it is a window. -/
theorem Json.isWindow_of_total (total : Nat) (htotal : j.total? = some total)
    (hrows : j.rows.length = min p.size (total - p.offset)) : j.IsWindow p := by
  refine ⟨hrows ▸ Nat.min_le_left _ _, fun n hn => ?_⟩
  cases htotal.symm.trans hn
  exact hrows

/-- The JSON of a window is one. -/
theorem Json.isWindow_listing {l : Listing α} (h : l.IsWindow p) : (encode l).IsWindow p :=
  isWindow_of_total l.total rfl ((List.length_map _).trans h)

/-- So is the JSON of a search whose page is one. -/
theorem Json.isWindow_result {r : SearchResult} (h : r.page.IsWindow p) :
    (encode r).IsWindow p :=
  isWindow_of_total r.page.total rfl ((List.length_map _).trans h)

/-- A list that tells no size is a window if it is not longer than the page. -/
theorem Json.isWindow_list {as : List α} (h : as.length ≤ p.size) :
    (encode as).IsWindow p := by
  refine ⟨?_, nofun⟩
  show (as.map encode).length ≤ p.size
  rwa [List.length_map]

theorem Json.isWindow_null : Json.null.IsWindow p :=
  ⟨Nat.zero_le _, nofun⟩

end Answers

/-! ## The lists of the service -/

/-- The page that an operation shows, if it shows one. With a limit it is the
first of that size. -/
def Operation.page? : Operation → Option Page
  | listCategories _ p | listLikes _ _ p | listLikers _ _ p | listFavorites _ _ p
  | search _ _ p | listUsers _ p => some p
  | listHistory _ _ limit => some ⟨1, limit.getD 20⟩
  | listHotKeywords limit => some ⟨1, limit.getD 10⟩
  | _ => none

section Lists

open Database

variable {p : Page} {w w' : World}

/-- A page that an operation asks the database for is its window. -/
theorem isWindow_asked {ρ α : Type} [Entity ρ α] {pick : ρ → Bool} {before : ρ → ρ → Bool}
    {as : List α} {total : Nat}
    (h : (query (page pick before p)).perform w = (.ok (as, total), w')) :
    (Listing.of as total p).IsWindow p :=
  isWindow_page (Problem.ofStatement_eq_ok (congrArg Prod.fst h))

/-- The list of categories is the window of its page. -/
theorem Category.isWindow_list {filter : CategoryFilter} {l : Listing Category}
    (h : (list filter p).perform w = (.ok l, w')) : l.IsWindow p := by
  obtain ⟨⟨rows, total⟩, v, hrows, h⟩ := perform_bind_eq_ok h
  cases h
  exact isWindow_asked hrows

/-- The list of one's likes is the window of its page. -/
theorem Like.isWindow_mine {userId : Int} {type : Option LikeType} {l : Listing Like}
    (h : (mine userId type p).perform w = (.ok l, w')) : l.IsWindow p := by
  obtain ⟨⟨rows, total⟩, v, hrows, h⟩ := perform_bind_eq_ok h
  cases h
  exact isWindow_asked hrows

/-- The list of the likers is the window of its page. -/
theorem Like.isWindow_likers {type : LikeType} {targetId : Int} {l : Listing Liker}
    (h : (likers type targetId p).perform w = (.ok l, w')) : l.IsWindow p := by
  obtain ⟨⟨rows, total⟩, v, hrows, h⟩ := perform_bind_eq_ok h
  cases h
  exact (Listing.isWindow_map _).mpr (isWindow_asked hrows)

namespace Search

/-- The hits of a search are the window of its page, whatever is searched for. -/
theorem isWindow_hits {r : SearchRequest} {found : List SearchHit} {total : Nat}
    (h : (hits r p).perform w = (.ok (found, total), w')) :
    (Listing.of found total p).IsWindow p := by
  obtain ⟨keyword, type⟩ := r
  -- whatever is searched, the hits are the rows of one page in another form
  cases type
  all_goals
    obtain ⟨⟨rows, n⟩, v, hrows, h⟩ := perform_bind_eq_ok h
    cases h
    exact (Listing.isWindow_map _).mpr (isWindow_asked hrows)

/-- So is the result of a search. -/
theorem isWindow_run {r : SearchRequest} {userId : Option Int} {result : SearchResult}
    (h : (run r userId p).perform w = (.ok result, w')) : result.page.IsWindow p := by
  obtain ⟨-, _, -, h⟩ := perform_bind_eq_ok h
  obtain ⟨⟨found, total⟩, _, hfound, h⟩ := perform_bind_eq_ok h
  obtain ⟨-, _, -, h⟩ := perform_bind_eq_ok h
  cases h
  exact isWindow_hits hfound

/-- A limit is taken as it is, or is the one that is meant when a request names none. -/
theorem checkedLimit_eq_ok {limit : Option Nat} {default largest n : Nat} :
    checkedLimit limit default largest = .ok n ↔
      n = limit.getD default ∧ ∀ k, limit = some k → 1 ≤ k ∧ k ≤ largest := by
  cases limit with
  | none => simp [checkedLimit, eq_comm]
  | some k =>
    rw [checkedLimit]
    split
    · next h => simp [h, eq_comm]
    · next h => simp [h]

/-- The history shows at most as many entries as were asked for, or 20. -/
theorem length_history_le {userId : Int} {type : Option SearchType} {limit : Option Nat}
    {es : List HistoryEntry} (h : (history userId type limit).perform w = (.ok es, w')) :
    es.length ≤ limit.getD 20 := by
  obtain ⟨n, v, hn, h⟩ := perform_bind_eq_ok h
  obtain ⟨rfl, -⟩ := checkedLimit_eq_ok.mp (congrArg Prod.fst hn)
  exact length_top_le (Problem.ofStatement_eq_ok (congrArg Prod.fst h))

/-- The hot searches shown are at most as many as were asked for, or 10. -/
theorem length_hot_le {limit : Option Nat} {ks : List HotKeyword}
    (h : (hot limit).perform w = (.ok ks, w')) : ks.length ≤ limit.getD 10 := by
  obtain ⟨n, v, hn, h⟩ := perform_bind_eq_ok h
  obtain ⟨rfl, -⟩ := checkedLimit_eq_ok.mp (congrArg Prod.fst hn)
  obtain ⟨rows, _, hrows, h⟩ := perform_bind_eq_ok h
  cases h
  rw [List.length_map]
  exact length_top_le (Problem.ofStatement_eq_ok (congrArg Prod.fst hrows))

end Search

end Lists

/-! ## The lists that are kept -/

namespace Cached

/-- What may be kept of a list: a window for the page that its key names. -/
def IsWindow : (c : Cached) → c.Value → Prop
  | users _ _ _ p, (l : Listing Profile) => l.IsWindow p
  | favorites _ _ _ p, (l : Listing Favorite) => l.IsWindow p
  | _, _ => True

/-- The database answers windows, and nothing of their width is lost in their texts. -/
theorem isWindow_of_answer {c : Cached} {db : Database} {a : c.Value}
    (h : c.answer db = .ok a) :
    c.IsWindow a ∧ ∀ b, Json.parse (encode a).render = .ok b → c.IsWindow b := by
  cases c with
  | category | forest | profile => exact ⟨trivial, fun _ _ => trivial⟩
  | users keyword status role p =>
    obtain ⟨⟨rows, total⟩, hrows, h⟩ := Database.bind_eq_ok h
    cases h
    have hwindow : ((Listing.of rows total p).map Profile.shown).IsWindow p :=
      (Listing.isWindow_map _).mpr (Database.isWindow_page (Problem.ofStatement_eq_ok hrows))
    refine ⟨hwindow, fun b hb => ?_⟩
    rw [Json.YieldsOnly.eq_of_parse (Listing.yieldsOnly (fun p _ => Profile.yieldsOnly p)
      fun p _ => Profile.opens p) hb]
    exact (Listing.isWindow_map _).mpr hwindow
  | favorites userId type status p =>
    obtain ⟨⟨rows, total⟩, hrows, h⟩ := Database.bind_eq_ok h
    cases h
    have hwindow : (Listing.of rows total p).IsWindow p :=
      Database.isWindow_page (Problem.ofStatement_eq_ok hrows)
    refine ⟨hwindow, fun b hb => ?_⟩
    rw [Json.YieldsOnly.eq_of_parse (Listing.yieldsOnly (fun f _ => Favorite.yieldsOnly f)
      fun f _ => Json.opens_obj _) hb]
    exact (Listing.isWindow_map _).mpr hwindow

end Cached

end Community

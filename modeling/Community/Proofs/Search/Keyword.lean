import Community.Proofs.Cache.Coherence
import Community.Proofs.Search.Pattern
import Community.Proofs.Search.Trace

/-!
# What a keyword finds

A search for contents, goods or users and the filtered lists of categories and users should
show the rows in which a text contains the keyword. What they should answer is said here
without patterns, for every database, every page, and the faults of statements included;
`IsExact` says that the service answers this.

> `keyword_is_exact`: a plain keyword is exact in all of them, and one with a wildcard is
> exact in none, however the rest of the request stands.

That a keyword is not exact is seen in a table with a single row, which has the keyword and
does not contain it (`exists_hasKeyword`): one row is found and none should be.
-/

namespace Community

open Procedure Database Text

/-- Whether one of the texts contains the keyword. -/
def Mentions (keyword : String) (texts : List String) : Prop :=
  ∃ text ∈ texts, Contains keyword text

instance (keyword : String) (texts : List String) : Decidable (Mentions keyword texts) :=
  inferInstanceAs (Decidable (∃ text ∈ texts, Contains keyword text))

/-- The texts of a content in which a keyword is looked for. -/
def Content.Columns.texts (c : Content.Row) : List String :=
  c.title :: (c.description.toList ++ c.tags.toList ++ c.authorNickname.toList)

/-- The texts of an article in which a keyword is looked for. -/
def Goods.Columns.texts (g : Goods.Row) : List String :=
  g.name :: g.description.toList

/-- The texts of a user in which a keyword is looked for. -/
def User.Columns.texts (u : User.Row) : List String :=
  u.username :: (u.nickname.toList ++ u.email.toList)

/-! ## What should be answered -/

/-- A content that a search should find: it is published, approved and
mentions the keyword. -/
def Content.Columns.IsWanted (keyword : String) (c : Content.Row) : Prop :=
  c.status = .tag .published ∧ c.reviewStatus = .tag .approved ∧ Mentions keyword c.texts

/-- An article that a search should find: it is on offer and mentions the keyword. -/
def Goods.Columns.IsWanted (keyword : String) (g : Goods.Row) : Prop :=
  g.status = .tag .active ∧ Mentions keyword g.texts

/-- A user that a search should find: the account is active and mentions the keyword. -/
def User.Columns.IsWanted (keyword : String) (u : User.Row) : Prop :=
  u.status = .tag .active ∧ Mentions keyword u.texts

/-- A category that a list should show: it is active, its name contains the trimmed keyword,
and it has the parent. -/
def Category.Columns.IsWanted (filter : CategoryFilter) (c : Category.Row) : Prop :=
  c.status = .tag .active ∧ (∀ k ∈ filter.keyword, Contains (trim k) c.name) ∧
    ∀ p ∈ filter.parentId, c.parentId = p

/-- A user that a list should show: the account mentions the trimmed keyword, and has the
status and the role. -/
def User.Columns.IsListed (filter : UserFilter) (u : User.Row) : Prop :=
  (∀ k ∈ filter.keyword, Mentions (trim k) u.texts) ∧
    (∀ s ∈ filter.status, u.status = .tag s) ∧ ∀ r ∈ filter.role, u.role = .tag r

instance (keyword : String) (c : Content.Row) : Decidable (c.IsWanted keyword) :=
  inferInstanceAs (Decidable (_ ∧ _ ∧ _))

instance (keyword : String) (g : Goods.Row) : Decidable (g.IsWanted keyword) :=
  inferInstanceAs (Decidable (_ ∧ _))

instance (keyword : String) (u : User.Row) : Decidable (u.IsWanted keyword) :=
  inferInstanceAs (Decidable (_ ∧ _))

instance (filter : CategoryFilter) (c : Category.Row) : Decidable (c.IsWanted filter) :=
  inferInstanceAs (Decidable (_ ∧ _ ∧ _))

instance (filter : UserFilter) (u : User.Row) : Decidable (u.IsListed filter) :=
  inferInstanceAs (Decidable (_ ∧ _ ∧ _))

/-- Whether a search finds a user: the account is active and has the keyword. -/
def User.found (keyword : String) (u : Row) : Bool :=
  u.status == .tag .active && u.hasKeyword keyword

namespace Search

/-- One page of the hits of a search that admits these rows, and how many there are. -/
def select (content : Content.Row → Bool) (goods : Goods.Row → Bool) (user : User.Row → Bool)
    (type : SearchType) (p : Page) (db : Database) : Except Fault (List SearchHit × Nat) :=
  match type with
  | .content =>
    (page content Content.listOrder p db).map fun (rows, total) => (rows.map .content, total)
  | .goods =>
    (page goods Goods.listOrder p db).map fun (rows, total) => (rows.map .goods, total)
  | .user =>
    (page user User.listOrder p db).map fun (rows, total) =>
      (rows.map fun u => .user (.shown u), total)

/-- Whether a search is carried out. -/
def Accepts (r : SearchRequest) : Prop :=
  r.issues = [] ∧ (trim r.keyword).isEmpty = false

/-- The search answers what mentions its keyword. -/
def IsExact (r : SearchRequest) : Prop :=
  ∀ userId p w, ((run r userId p).outcome w).1 =
    (Problem.ofStatement
      (select (fun c => c.IsWanted r.keyword) (fun g => g.IsWanted r.keyword)
      (fun u => u.IsWanted r.keyword) r.searchType p w.database)).map
      fun (found, total) => ⟨r.keyword, r.searchType, total, .of found total p⟩

/-- The hits of a search are one query of the database. -/
theorem perform_hits (r : SearchRequest) (p : Page) (w : World) :
    (hits r p).perform w = (Problem.ofStatement (select (Content.found r.keyword)
      (Goods.found r.keyword) (User.found r.keyword) r.searchType p w.database), w) := by
  have hquery : ∀ {α : Type} (q : Database → Except Fault (List α × Nat))
      (f : List α → List SearchHit),
      (do let (rows, total) ← query q; return (f rows, total) : Procedure _).perform w =
        (Problem.ofStatement ((q w.database).map fun (rows, total) => (f rows, total)),
          w) := by
    intro α q f
    refine (perform_bind_asked (perform_query q w) fun _ => rfl).trans ?_
    cases q w.database <;> rfl
  obtain ⟨keyword, type⟩ := r
  cases type <;> exact hquery _ _

/-- What a search answers that is carried out. -/
theorem outcome_run {r : SearchRequest} (h : Accepts r) (userId : Option Int) (p : Page)
    (w : World) :
    ((run r userId p).outcome w).1 =
      (Problem.ofStatement (select (Content.found r.keyword) (Goods.found r.keyword)
        (User.found r.keyword) r.searchType p w.database)).map
        fun (found, total) => ⟨r.keyword, r.searchType, total, .of found total p⟩ := by
  have hkeyword : (ensureKeyword r).perform w = (.ok (), w) := by
    rw [ensureKeyword, h.1]
    refine perform_bind_ok (perform_check _ w) |>.trans ?_
    rw [h.2]
    rfl
  rw [outcome, run, perform_bind_ok hkeyword, perform_bind, perform_hits]
  generalize select _ _ _ _ _ _ = found
  cases found with
  | error f => rfl
  | ok found =>
    exact congrArg Prod.fst (perform_bind_ok (perform_leaveTraces r userId found.2 w))

end Search

/-- The list answers the categories whose names contain the keyword. -/
def Category.IsExact (filter : CategoryFilter) : Prop :=
  ∀ p w, ((list filter p).outcome w).1 =
    (Problem.ofStatement
      (page (fun c : Row => c.IsWanted filter) listOrder p w.database)).map
      fun (rows, total) => .of rows total p

/-- The list answers the users who mention the keyword, where nothing is kept of it. -/
def User.IsExact (filter : UserFilter) : Prop :=
  ∀ p w, w.cache.store.find? (listKey filter p) = none → ((list filter p).outcome w).1 =
    (Problem.ofStatement
      (page (fun u : Row => u.IsListed filter) listOrder p w.database)).map
      fun (rows, total) => (Listing.of rows total p).map Profile.shown

/-- The list of categories is one page of the rows that the filter admits. -/
theorem Category.outcome_list (filter : CategoryFilter) (p : Page) (w : World) :
    ((list filter p).outcome w).1 =
      (Problem.ofStatement
        (page (admits (filter.keyword.map trim) filter.parentId) listOrder p
        w.database)).map fun (rows, total) => .of rows total p := by
  have hlist := perform_bind_asked (f := fun found => pure (Listing.of found.1 found.2 p))
    (perform_query (search (filter.keyword.map trim) filter.parentId p) w) fun _ => rfl
  refine (congrArg Prod.fst hlist).trans ?_
  rw [search]
  cases Problem.ofStatement (page (admits _ _) listOrder p w.database) <;> rfl

/-- With nothing in the cache the list of users is one page of the rows that the filter
admits. -/
theorem User.outcome_list {filter : UserFilter} {p : Page} {w : World}
    (hw : w.cache.store.find? (listKey filter p) = none) :
    ((list filter p).outcome w).1 =
      (Problem.ofStatement
        (page (admits { filter with keyword := some (keywordOf filter) }) listOrder p
        w.database)).map fun (rows, total) =>
          (Listing.of rows total p).map Profile.shown := by
  have houtcome := (Cached.readBy_users filter p).outcome_eq (w := w) fun b hstores => by
    obtain ⟨e, hfind, -⟩ := hstores
    cases hw.symm.trans hfind
  refine (congrArg Prod.fst houtcome).trans ?_
  show Except.bind (Problem.ofStatement (page (admits _) listOrder p w.database)) _ = _
  cases Problem.ofStatement (page (admits _) listOrder p w.database) <;> rfl

/-! ## Keywords that mean themselves -/

/-- A text that is null has no keyword. -/
theorem hasKeyword?_eq (keyword : String) (text? : Option String) :
    hasKeyword? keyword text? = text?.toList.any (hasKeyword keyword) := by
  cases text? <;> simp [hasKeyword?]

section Plain

variable {keyword : String}

/-- Of a keyword without wildcards, what the pattern matches are the texts that mention it.
-/
theorem any_hasKeyword_iff {texts : List String} (h : IsPlain keyword) :
    texts.any (hasKeyword keyword) = true ↔ Mentions keyword texts := by
  rw [List.any_eq_true]
  exact exists_congr fun text => and_congr_right fun _ => hasKeyword_iff_of_isPlain h

/-- A keyword without characters restricts nothing. -/
theorem contains_of_isEmpty {text : String} (h : keyword.isEmpty = true) :
    Contains keyword text := by
  rw [String.isEmpty_iff.mp h]
  exact List.nil_infix

/-- The search for content as the state it asks for and the texts it looks through. -/
theorem Content.found_eq (keyword : String) (c : Row) :
    found keyword c = (c.status == .tag .published && c.reviewStatus == .tag .approved &&
      c.texts.any (hasKeyword keyword)) := by
  rw [found, hasKeyword?_eq, hasKeyword?_eq, hasKeyword?_eq, Columns.texts, List.any_cons,
    List.any_append, List.any_append, Bool.or_assoc, Bool.or_assoc, Bool.or_assoc]

/-- With a plain keyword it finds the content that is wanted. -/
theorem Content.found_iff (h : IsPlain keyword) (c : Row) :
    found keyword c = true ↔ c.IsWanted keyword := by
  rw [found_eq, Bool.and_eq_true, Bool.and_eq_true, beq_iff_eq, beq_iff_eq,
    any_hasKeyword_iff h, and_assoc]
  rfl

/-- The search for goods as the state it asks for and the texts it looks through. -/
theorem Goods.found_eq (keyword : String) (g : Row) :
    found keyword g = (g.status == .tag .active && g.texts.any (hasKeyword keyword)) := by
  rw [found, hasKeyword?_eq, Columns.texts, List.any_cons]

/-- With a plain keyword it finds the goods that are wanted. -/
theorem Goods.found_iff (h : IsPlain keyword) (g : Row) :
    found keyword g = true ↔ g.IsWanted keyword := by
  rw [found_eq, Bool.and_eq_true, beq_iff_eq, any_hasKeyword_iff h]
  rfl

/-- The texts of a user that a keyword is looked for in. -/
theorem User.hasKeyword_eq (keyword : String) (u : Row) :
    u.hasKeyword keyword = u.texts.any (Database.hasKeyword keyword) := by
  rw [Columns.hasKeyword, hasKeyword?_eq, hasKeyword?_eq, Columns.texts, List.any_cons,
    List.any_append, Bool.or_assoc]

/-- With a plain keyword the search finds the users that are wanted. -/
theorem User.found_iff (h : IsPlain keyword) (u : Row) :
    found keyword u = true ↔ u.IsWanted keyword := by
  rw [found, hasKeyword_eq, Bool.and_eq_true, beq_iff_eq, any_hasKeyword_iff h]
  rfl

/-- A search with a plain keyword is exact. -/
theorem Search.isExact_of_isPlain {r : SearchRequest} (hr : Accepts r)
    (h : IsPlain r.keyword) : IsExact r := by
  intro userId p w
  rw [outcome_run hr]
  congr <;> funext row <;> rw [Bool.eq_iff_iff, decide_eq_true_iff]
  · exact Content.found_iff h row
  · exact Goods.found_iff h row
  · exact User.found_iff h row

/-- With a plain keyword the filter admits the categories that are wanted. -/
theorem Category.admits_iff {filter : CategoryFilter}
    (hfilter : filter.keyword.map trim = some keyword) (h : IsPlain keyword) (c : Row) :
    admits (filter.keyword.map trim) filter.parentId c = true ↔ c.IsWanted filter := by
  obtain ⟨⟨⟩ | ⟨raw⟩, parentId⟩ := filter
  · cases hfilter
  · obtain rfl : trim raw = keyword := Option.some.inj hfilter
    have hkeyword : ((trim raw).isEmpty || hasKeyword (trim raw) c.name) = true ↔
        Contains (trim raw) c.name := by
      rw [Bool.or_eq_true, hasKeyword_iff_of_isPlain h]
      exact or_iff_right_of_imp contains_of_isEmpty
    cases parentId <;> simp [admits, Columns.isShown, Columns.IsWanted, hkeyword, and_assoc]

/-- A list of categories with a plain keyword is exact. -/
theorem Category.isExact_of_isPlain {filter : CategoryFilter}
    (hfilter : filter.keyword.map trim = some keyword) (h : IsPlain keyword) :
    IsExact filter := by
  intro p w
  rw [outcome_list]
  congr
  funext c
  rw [Bool.eq_iff_iff, decide_eq_true_iff]
  exact admits_iff hfilter h c

/-- With a plain keyword the filter admits the users that are to be listed. -/
theorem User.admits_iff {filter : UserFilter}
    (hfilter : filter.keyword.map trim = some keyword) (h : IsPlain keyword) (u : Row) :
    admits { filter with keyword := some (keywordOf filter) } u = true ↔
    u.IsListed filter := by
  obtain ⟨⟨⟩ | ⟨raw⟩, status, role⟩ := filter
  · cases hfilter
  · obtain rfl : trim raw = keyword := Option.some.inj hfilter
    have hkeyword : ((trim raw).isEmpty || u.hasKeyword (trim raw)) = true ↔
        Mentions (trim raw) u.texts := by
      rw [hasKeyword_eq, Bool.or_eq_true, any_hasKeyword_iff h]
      exact or_iff_right_of_imp fun hempty =>
        ⟨u.username, List.mem_cons_self, contains_of_isEmpty hempty⟩
    cases status <;> cases role <;>
      simp [admits, keywordOf, Columns.IsListed, hkeyword, and_assoc]

/-- A list of users with a plain keyword is exact. -/
theorem User.isExact_of_isPlain {filter : UserFilter}
    (hfilter : filter.keyword.map trim = some keyword) (h : IsPlain keyword) :
    IsExact filter := by
  intro p w hw
  rw [outcome_list hw]
  congr
  funext u
  rw [Bool.eq_iff_iff, decide_eq_true_iff]
  exact admits_iff hfilter h u

end Plain

/-! ## Keywords with a wildcard -/

section Single

variable {ρ α : Type} [Entity ρ α] [LawfulEntity ρ] {pick : ρ → Bool} {r : ρ} {a : α}

/-- A world with one row. -/
def World.single (r : ρ) : World where
  database := ({} : Database).withTable ⟨[r], Entity.id r⟩
  cache := .absent
  clock := 0

/-- The first page of a table of one row is that row, if it is picked. -/
theorem World.page_single (pick before) :
    page pick before .first (single r).database
      = ((Page.first.rows (([r].filter pick).mergeSort before)).mapM readRow).map
        fun rows => (rows, ([r].filter pick).length) := by
  have htable : (single r).database.table ρ = .ok ⟨[r], Entity.id r⟩ := table_withTable _
  rw [page, count, select_of_table htable, htable]
  rfl

/-- The row is on the first page if it is admitted. -/
theorem World.page_single_of_admitted (hread : Entity.read? r = some a)
    (hpick : pick r = true) (before : ρ → ρ → Bool) :
    page pick before .first (single r).database = .ok ([a], 1) := by
  have hrows : Page.first.rows [r] = [r] := rfl
  rw [page_single, List.filter_cons_of_pos hpick, List.filter_nil,
    List.mergeSort_singleton, hrows, List.mapM_cons, readRow_eq_ok.mpr hread]
  rfl

/-- A row that is not picked is not on the page. -/
theorem World.page_single_of_refused {P : ρ → Prop} [DecidablePred P] (hr : ¬P r)
    (before : ρ → ρ → Bool) :
    page (fun r => decide (P r)) before .first (single r).database = .ok ([], 0) := by
  rw [page_single, List.filter_cons_of_neg (by simp [hr]), List.filter_nil,
    List.mergeSort_nil]
  rfl

end Single

/-- A content that has one text. -/
def Content.entitled (text : String) : Row :=
  { sample with title := text }

/-- An article that has one text. -/
def Goods.entitled (text : String) : Row where
  id := 1
  name := text
  description := none
  coverUrl := none
  sellerId := 1
  status := .tag .active
  favoriteCount := 0
  createdAt := .ofMicros 0
  updatedAt := .ofMicros 0

/-- A user who has one text. -/
def User.entitled (text : String) (status : UserStatus) (role : UserRole) : Row :=
  Columns.stored { sample with username := text, status := status, role := role }

/-- A category of that name. -/
def Category.entitled (text : String) (parentId : Int) : Row where
  id := 1
  name := text
  description := none
  parentId := parentId
  iconUrl := none
  sort := 0
  contentCount := 0
  status := .tag .active
  createdAt := .ofMicros 0
  updatedAt := .ofMicros 0

section Wildcard

variable {keyword text : String}

/-- A row with one text mentions what that text contains. -/
theorem mentions_singleton : Mentions keyword [text] ↔ Contains keyword text :=
  ⟨fun ⟨_, hmem, h⟩ => List.mem_singleton.mp hmem ▸ h,
    fun h => ⟨text, List.mem_singleton_self text, h⟩⟩

theorem any_hasKeyword_singleton :
    [text].any (hasKeyword keyword) = hasKeyword keyword text := by
  rw [List.any_cons, List.any_nil, Bool.or_false]

/-- A wildcard spoils a search: some world has a row that it wrongly finds. -/
theorem Search.not_isExact {r : SearchRequest} (hr : Accepts r) (h : HasWildcard r.keyword) :
    ¬IsExact r := by
  obtain ⟨text, hhas, hnot⟩ := exists_hasKeyword h
  obtain ⟨keyword, type⟩ := r
  have hany : [text].any (hasKeyword keyword) = true := any_hasKeyword_singleton.trans hhas
  have hmentions : ¬Mentions keyword [text] := fun h => hnot (mentions_singleton.mp h)
  intro hexact
  cases type with
  | content =>
    let c := Content.entitled text
    have hone := World.page_single_of_admitted (r := c) rfl
      ((Content.found_eq keyword c).trans hany)
    have hnone := World.page_single_of_refused (r := c) (P := (·.IsWanted keyword)) fun h =>
      hmentions h.2.2
    have hanswer := hexact none .first (.single c)
    rw [outcome_run hr, select, select, hone, hnone] at hanswer
    cases hanswer
  | goods =>
    let g := Goods.entitled text
    have hone := World.page_single_of_admitted (r := g) rfl
      ((Goods.found_eq keyword g).trans hany)
    have hnone := World.page_single_of_refused (r := g) (P := (·.IsWanted keyword)) fun h =>
      hmentions h.2
    have hanswer := hexact none .first (.single g)
    rw [outcome_run hr, select, select, hone, hnone] at hanswer
    cases hanswer
  | user =>
    let u := User.entitled text .active .user
    have hfound : User.found keyword u = true := (User.hasKeyword_eq keyword u).trans hany
    have hone := World.page_single_of_admitted (r := u) rfl hfound
    have hnone := World.page_single_of_refused (r := u) (P := (·.IsWanted keyword)) fun h =>
      hmentions h.2
    have hanswer := hexact none .first (.single u)
    rw [outcome_run hr, select, select, hone, hnone] at hanswer
    cases hanswer

/-- A wildcard spoils a list of categories in the same way. -/
theorem Category.not_isExact {filter : CategoryFilter}
    (hfilter : filter.keyword.map trim = some keyword) (h : HasWildcard keyword) :
    ¬IsExact filter := by
  obtain ⟨text, hhas, hnot⟩ := exists_hasKeyword h
  obtain ⟨⟨⟩ | ⟨raw⟩, parentId⟩ := filter
  · cases hfilter
  · obtain rfl : trim raw = keyword := Option.some.inj hfilter
    intro hexact
    let c := Category.entitled text (parentId.getD 0)
    have hadmitted : admits (some (trim raw)) parentId c = true := by
      cases parentId <;> simp [c, admits, Columns.isShown, Category.entitled, hhas]
    have hone := World.page_single_of_admitted (r := c) rfl hadmitted
    have hnone :=
      World.page_single_of_refused (r := c) (P := (·.IsWanted ⟨some raw, parentId⟩))
        fun h => hnot (h.2.1 raw rfl)
    have hanswer := hexact .first (.single c)
    rw [outcome_list, Option.map_some, hone, hnone] at hanswer
    cases hanswer

theorem User.not_isExact {filter : UserFilter}
    (hfilter : filter.keyword.map trim = some keyword) (h : HasWildcard keyword) :
    ¬IsExact filter := by
  obtain ⟨text, hhas, hnot⟩ := exists_hasKeyword h
  obtain ⟨⟨⟩ | ⟨raw⟩, status, role⟩ := filter
  · cases hfilter
  · obtain rfl : trim raw = keyword := Option.some.inj hfilter
    intro hexact
    let u := User.entitled text (status.getD .active) (role.getD .user)
    have hany : u.hasKeyword (trim raw) = true :=
      (User.hasKeyword_eq _ _).trans (any_hasKeyword_singleton.trans hhas)
    have hstatus : status.all (fun s => u.status == .tag s) = true := by
      cases status <;> simp [u, User.entitled, Columns.stored]
    have hrole : role.all (fun r => u.role == .tag r) = true := by
      cases role <;> simp [u, User.entitled, Columns.stored]
    have hadmitted : admits ⟨some (keywordOf ⟨some raw, status, role⟩), status, role⟩
        u = true := by
      rw [admits, hstatus, hrole]
      simp [keywordOf, hany]
    have hone := World.page_single_of_admitted (r := u) rfl hadmitted
    have hnone :=
      World.page_single_of_refused (r := u) (P := (·.IsListed ⟨some raw, status, role⟩))
        fun h => hnot (mentions_singleton.mp (h.1 raw rfl))
    have hanswer := hexact .first (.single u) rfl
    rw [outcome_list rfl, hone, hnone] at hanswer
    cases hanswer

end Wildcard

/-- A keyword that means itself finds the rows in which a text contains it; one
with a wildcard finds others in some database, in every search and in every list
that is filtered by it. -/
theorem keyword_is_exact (keyword : String) :
    (IsPlain keyword →
      (∀ r : SearchRequest, Search.Accepts r → r.keyword = keyword → Search.IsExact r) ∧
      (∀ filter : CategoryFilter, filter.keyword.map trim = some keyword →
        Category.IsExact filter) ∧
      ∀ filter : UserFilter, filter.keyword.map trim = some keyword → User.IsExact filter) ∧
    (HasWildcard keyword →
      (∀ r : SearchRequest, Search.Accepts r → r.keyword = keyword → ¬Search.IsExact r) ∧
      (∀ filter : CategoryFilter, filter.keyword.map trim = some keyword →
        ¬Category.IsExact filter) ∧
      ∀ filter : UserFilter, filter.keyword.map trim = some keyword →
        ¬User.IsExact filter) := by
  refine ⟨fun h => ⟨?_, ?_, ?_⟩, fun h => ⟨?_, ?_, ?_⟩⟩
  · rintro r hr rfl
    exact Search.isExact_of_isPlain hr h
  · exact fun filter hfilter => Category.isExact_of_isPlain hfilter h
  · exact fun filter hfilter => User.isExact_of_isPlain hfilter h
  · rintro r hr rfl
    exact Search.not_isExact hr h
  · exact fun filter hfilter => Category.not_isExact hfilter h
  · exact fun filter hfilter => User.not_isExact hfilter h

/-- A search for `a_b` finds the content that is called `axb`. -/
theorem wildcard_is_not_exact :
    ((Search.run ⟨"a_b", .content⟩ none .first).outcome
      (.single (Content.entitled "axb"))).1.toOption.map
        (fun result => result.page.items.length) = some 1 ∧
      ¬Mentions "a_b" (Content.entitled "axb").texts := by
  decide +kernel

end Community

import Community.Proofs.Http.Gate
import Community.Proofs.Http.Query
import Community.Proofs.Http.Traffic
import Community.Proofs.Page.Window

/-!
# How much of a list a request is shown

Six lists are shown page by page, and two up to a number of rows that the request may
name. Their endpoints read a good deal more than these numbers, each in its own order,
and some of the lists are read through the cache. All of them look at the numbers
before they ask for a row:

> `Endpoint.cuts_run`: the endpoint of a list refuses a visit that cannot be read or has a
> number out of range in its query, and else goes on with the page that the query asks for.

> `row_windows_never_overflow`: so a request is refused or shown a window of the list, no
> wider than it asked for, that begins where it asked for.

A number that is out of range counts wherever it stands in the query (`Cut.Admits`), since a
field that is given twice is refused for that.
-/

namespace Community.Http

open Procedure Text Json

/-! ## How lists are cut -/

/-- How a list is cut: into pages, or to a number of rows that a request may name. -/
inductive Cut
  | paged
  | limited (default largest : Nat)
    (sound : (1 ≤ default ∧ default ≤ largest) ∧ largest ≤ Page.maxSize)
  deriving DecidableEq

namespace Cut

/-- The fields of a query that say which rows are wanted, with the
largest number for each. -/
def bounds : Cut → List (String × Nat)
  | paged => [("page", Page.maxNumber), ("page_size", Page.maxSize)]
  | limited _ largest _ => [("limit", largest)]

/-- How many rows are shown at most. -/
def largest : Cut → Nat
  | paged => Page.maxSize
  | limited _ largest _ => largest

/-- The page that a request asks for. With a limit it is the first of that size. -/
def page : Cut → Request → Page
  | paged, r =>
    ⟨(r.number? "page").getD Page.first.number, (r.number? "page_size").getD Page.first.size⟩
  | limited default _ _, r => ⟨1, (r.number? "limit").getD default⟩

/-- Every number that a request carries for this purpose is in range. -/
def Admits (c : Cut) (r : Request) : Prop :=
  ∀ name largest, (name, largest) ∈ c.bounds → ∀ n, r.Carries name n → 1 ≤ n ∧ n ≤ largest

variable {c : Cut} {r : Request}

/-- A number is in range if it is left out, too. -/
theorem Admits.getD {name : String} {largest : Nat} (h : c.Admits r)
    (hname : (name, largest) ∈ c.bounds) (default : Nat)
    (hdefault : 1 ≤ default ∧ default ≤ largest) :
    1 ≤ (r.number? name).getD default ∧ (r.number? name).getD default ≤ largest := by
  cases hn : r.number? name with
  | none => exact hdefault
  | some n => exact h name largest hname n (Request.carries_of_number? hn)

/-- A request that is admitted asks for a page within the bounds. -/
theorem Admits.isWithin (h : c.Admits r) : (c.page r).IsWithin c.largest := by
  cases c with
  | paged =>
    have hnumber := h.getD List.mem_cons_self Page.first.number (by decide)
    have hsize :=
      h.getD (List.mem_cons_of_mem _ List.mem_cons_self) Page.first.size (by decide)
    exact Page.isWithin_mk hnumber hsize
  | limited default largest sound =>
    exact Page.isWithin_mk (by decide) (h.getD List.mem_cons_self default sound.1)

/-- No list shows more than the largest page. -/
theorem largest_le (c : Cut) : c.largest ≤ Page.maxSize := by
  cases c with
  | paged => exact Nat.le_refl _
  | limited default largest sound => exact sound.2

end Cut

/-! ## Numbers that are looked at -/

namespace Visit

variable {v : Visit}

/-- The page of a request is read from its query. -/
theorem page_of_query {p : Page} (h : v.query Query.page = .ok p) :
    p = Cut.paged.page v.request := by
  rw [Cut.page, ← Query.build_word64, ← Query.build_word64]
  exact (query_eq_ok h).2

/-- The limit of the history is read from the query. -/
theorem limit_of_history {asked : Option SearchType × Option Nat}
    (h : v.query Query.history = .ok asked) : asked.2 = v.request.number? "limit" := by
  have hlimit : ∀ find, (Query.history.build find).2 = (Query.word64 "limit").build find :=
    fun _ => rfl
  rw [(query_eq_ok h).2, hlimit, Query.build_word64]

theorem limit_of_query {limit : Option Nat} (h : v.query Query.limit = .ok limit) :
    limit = v.request.number? "limit" :=
  (query_eq_ok h).2.trans (Query.build_word64 _ _)

/-- In a query that is read it is enough to look at the first field of each name. -/
theorem admits_of_query {α : Type} {q : Query α} {a : α} {c : Cut} (h : v.query q = .ok a)
    (hrange : ∀ name largest, (name, largest) ∈ c.bounds → (q.checks.lookup name).isSome ∧
      ∀ n, v.request.number? name = some n → 1 ≤ n ∧ n ≤ largest) : c.Admits v.request := by
  intro name largest hname n hn
  obtain ⟨hknown, hfirst⟩ := hrange name largest hname
  exact hfirst n (v.number?_of_carries h hknown hn)

end Visit

/-- A page passes the check unchanged, and only within the bounds. -/
theorem checkedPage_eq_ok {p p' : Page} :
    checkedPage p = .ok p' ↔ p' = p ∧ p.IsWithin Page.maxSize := by
  rw [← Page.issues_eq_nil_iff, checkedPage, Problem.ofIssues]
  by_cases hissues : p.issues = []
  · simp [hissues, bind, Except.bind, pure, Except.pure, eq_comm]
  · simp [hissues, bind, Except.bind]

/-! ## Endpoints that look at the numbers -/

namespace Endpoint

variable {c : Cut} {e : Endpoint} {v : Visit} {a : Procedure Answer} {op : Operation}

/-- How the list is cut that an endpoint shows, if it shows one. -/
def cut? : Endpoint → Option Cut
  | categoryList | likeMine | likeLikers | favoriteList | search | userList => some .paged
  | searchHistory => some (.limited 20 100 (by decide))
  | searchHot => some (.limited 10 50 (by decide))
  | _ => none

/-- What the endpoint of a list reads of a visit, and whether it can be read. Numbers that
are out of range can. -/
def parts (e : Endpoint) (v : Visit) : List (Except Problem Unit) :=
  match e with
  | categoryList => [part (v.query Query.categoryFilter), part (v.query Query.page)]
  | likeMine => [part v.user, part (v.query Query.likeType), part (v.query Query.page)]
  | likeLikers =>
    [part v.target, part (v.query Query.page),
      part (v.target >>= fun target => likeTypeOf target.1)]
  | favoriteList =>
    [part v.user, part (v.query Query.favoriteFilter), part (v.query Query.page)]
  | search => [part v.maybeUser, part (v.query Query.page), part (v.body SearchRequest)]
  | searchHistory => [part v.user, part (v.query Query.history)]
  | searchHot => [part (v.query Query.limit)]
  | userList => [part (v.query Query.userFilter), part (v.query Query.page)]
  | _ => []
where
  part {α : Type} (outcome : Except Problem α) : Except Problem Unit :=
    outcome.map fun _ => ()

/-- What the endpoint of a list makes of a visit. It refuses the visit if a part of it
cannot be read, or a number in its query is out of range, and else serves it with the page
that the query asks for. -/
inductive Cuts (e : Endpoint) (v : Visit) (c : Cut) (a : Procedure Answer) : Prop
  | unread (problem : Problem) (hunread : .error problem ∈ e.parts v)
    (h : ∀ w, a.perform w = (.error problem, w))
  | outOfRange (problem : Problem) (hnot : ¬ c.Admits v.request)
    (h : ∀ w, a.perform w = (.error problem, w))
  | shown (hadmits : c.Admits v.request) (op : Operation) (hserves : Serves v e op a)
    (hop : op.page? = some (c.page v.request))

/-- A check that a request has to pass comes before what is cut. -/
theorem Cuts.bind_check {β : Type} {outcome : Except Problem β} {g : β → Procedure Answer}
    (hpart : parts.part outcome ∈ e.parts v) (hg : ∀ x, outcome = .ok x → Cuts e v c (g x)) :
    Cuts e v c (check outcome >>= g) := by
  cases outcome with
  | ok x => exact hg x rfl
  | error problem => exact .unread problem hpart fun _ => rfl

/-- The check of a page comes last. -/
theorem Cuts.bind_page {p : Page} {g : Page → Procedure Answer} {op : Operation}
    (hquery : v.query Query.page = .ok p) (hserves : Serves v e op (g p))
    (hop : op.page? = some p) : Cuts e v .paged (check (checkedPage p) >>= g) := by
  have hpage := v.page_of_query hquery
  cases hcheck : checkedPage p with
  | error problem =>
    refine .outOfRange problem (fun hadmits => ?_) fun _ => rfl
    cases hcheck.symm.trans (checkedPage_eq_ok.mpr ⟨rfl, hpage ▸ hadmits.isWithin⟩)
  | ok p' =>
    obtain ⟨rfl, hwithin⟩ := checkedPage_eq_ok.mp hcheck
    refine .shown (v.admits_of_query hquery fun name largest hname => ?_) op
      hserves (hpage ▸ hop)
    rw [hpage, Cut.page] at hwithin
    rw [Cut.bounds, List.mem_cons, List.mem_singleton, Prod.mk.injEq, Prod.mk.injEq] at hname
    obtain ⟨rfl, rfl⟩ | ⟨rfl, rfl⟩ := hname
    · refine ⟨rfl, fun n hn => ?_⟩
      rw [hn] at hwithin
      exact hwithin.number
    · refine ⟨rfl, fun n hn => ?_⟩
      rw [hn] at hwithin
      exact hwithin.size

/-- A limit is looked at by the operation. -/
theorem Cuts.bind_limit {α β : Type} {q : Query α} {x : α} {limit : Option Nat}
    {default largest : Nat}
    {sound : (1 ≤ default ∧ default ≤ largest) ∧ largest ≤ Page.maxSize}
    {f : Nat → Procedure β} {g : β → Procedure Answer} (hquery : v.query q = .ok x)
    (hknown : (q.checks.lookup "limit").isSome) (hlimit : limit = v.request.number? "limit")
    (hserves : Serves v e op (check (Search.checkedLimit limit default largest) >>= f >>= g))
    (hop : op.page? = some ⟨1, limit.getD default⟩) :
    Cuts e v (.limited default largest sound)
      (check (Search.checkedLimit limit default largest) >>= f >>= g) := by
  subst hlimit
  cases hcheck : Search.checkedLimit (v.request.number? "limit") default largest with
  | error problem =>
    refine .outOfRange problem (fun hadmits => ?_) fun _ => rfl
    have hrange : ∀ n, v.request.number? "limit" = some n → 1 ≤ n ∧ n ≤ largest :=
      fun n hn =>
        hadmits "limit" largest List.mem_cons_self n (Request.carries_of_number? hn)
    cases hcheck.symm.trans (Search.checkedLimit_eq_ok.mpr ⟨rfl, hrange⟩)
  | ok n =>
    rw [hcheck] at hserves
    refine .shown (v.admits_of_query hquery fun name bound hname => ?_) op hserves hop
    rw [Cut.bounds, List.mem_singleton, Prod.mk.injEq] at hname
    obtain ⟨rfl, rfl⟩ := hname
    exact ⟨hknown, (Search.checkedLimit_eq_ok.mp hcheck).2⟩

/-- Every endpoint with a page or a limit cuts its rows by it. -/
theorem cuts_run (he : e.cut? = some c) (v : Visit) : Cuts e v c (e.run v) := by
  have hfirst : ∀ {x : Except Problem Unit} {xs}, x ∈ x :: xs := List.mem_cons_self
  have hsecond : ∀ {x y : Except Problem Unit} {xs}, y ∈ x :: y :: xs :=
    List.mem_cons_of_mem _ hfirst
  have hthird : ∀ {x y z : Except Problem Unit} {xs}, z ∈ x :: y :: z :: xs :=
    List.mem_cons_of_mem _ hsecond
  cases e with
  | categoryList =>
    cases he
    refine .bind_check hfirst fun filter _ => .bind_check hsecond fun p hp => ?_
    exact .bind_page hp (.categoryList filter p) rfl
  | likeMine =>
    cases he
    refine .bind_check hfirst fun i hi => .bind_check hsecond fun type _ =>
      .bind_check hthird fun p hp => ?_
    exact .bind_page hp (.likeMine i type p hi) rfl
  | likeLikers =>
    cases he
    refine .bind_check hfirst fun target htarget => .bind_check hsecond fun p hp => ?_
    have htype : parts.part (likeTypeOf target.1) ∈ likeLikers.parts v := by
      rw [parts, htarget]
      exact hthird
    exact .bind_check htype fun type _ => .bind_page hp (.likeLikers type target.2 p) rfl
  | favoriteList =>
    cases he
    refine .bind_check hfirst fun i hi => .bind_check hsecond fun filter _ =>
      .bind_check hthird fun p hp => ?_
    exact .bind_page hp (.favoriteList i filter p hi) rfl
  | search =>
    cases he
    refine .bind_check hfirst fun user? huser => .bind_check hsecond fun p hp => ?_
    exact .bind_check hthird fun r _ => .bind_page hp (.search user? r p huser) rfl
  | userList =>
    cases he
    refine .bind_check hfirst fun filter _ => .bind_check hsecond fun p hp => ?_
    exact .bind_page hp (.userList filter p) rfl
  | searchHistory =>
    cases he
    refine .bind_check hfirst fun i hi => .bind_check hsecond fun asked hquery => ?_
    exact .bind_limit hquery rfl (v.limit_of_history hquery)
      (.searchHistory i asked.1 asked.2 hi) rfl
  | searchHot =>
    cases he
    refine .bind_check hfirst fun limit hquery => ?_
    exact .bind_limit hquery rfl (v.limit_of_query hquery) (.searchHot limit) rfl
  | _ => cases he

end Endpoint

/-! ## What is shown of a list -/

/-- What an operation shows of a list is a window, if what is kept of lists are windows. -/
theorem Endpoint.Serves.isWindow {v : Visit} {e : Endpoint} {op : Operation}
    {a : Procedure Answer} {p : Page} {answer : Answer} {w w' : World}
    (hserves : Serves v e op a) (hop : op.page? = some p) (hw : w.Recalls @Cached.IsWindow)
    (h : a.perform w = (.ok answer, w')) : answer.data.IsWindow p := by
  cases hserves with
  | categoryList filter q =>
    cases hop
    obtain ⟨l, _, hl, h⟩ := perform_bind_eq_ok h
    cases h
    exact isWindow_listing (Category.isWindow_list hl)
  | likeMine i type q =>
    cases hop
    obtain ⟨l, _, hl, h⟩ := perform_bind_eq_ok h
    cases h
    exact isWindow_listing (Like.isWindow_mine hl)
  | likeLikers type id q =>
    cases hop
    obtain ⟨l, _, hl, h⟩ := perform_bind_eq_ok h
    cases h
    exact isWindow_listing (Like.isWindow_likers hl)
  | favoriteList i filter q =>
    cases hop
    obtain ⟨l, _, hl, h⟩ := perform_bind_eq_ok h
    cases h
    have hwindow := (Cached.readBy_favorites i.userId filter p).of_recalls hw
      (fun hanswer => (Cached.isWindow_of_answer hanswer).1) hl
    exact isWindow_listing hwindow
  | userList filter q =>
    cases hop
    obtain ⟨l, _, hl, h⟩ := perform_bind_eq_ok h
    cases h
    have hwindow := (Cached.readBy_users filter p).of_recalls hw
      (fun hanswer => (Cached.isWindow_of_answer hanswer).1) hl
    exact isWindow_listing hwindow
  | search user? r q =>
    cases hop
    obtain ⟨result, _, hresult, h⟩ := perform_bind_eq_ok h
    cases h
    exact isWindow_result (Search.isWindow_run hresult)
  | searchHistory i type limit =>
    cases hop
    obtain ⟨es, _, hes, h⟩ := perform_bind_eq_ok h
    cases h
    exact isWindow_list (Search.length_history_le hes)
  | searchHot limit =>
    cases hop
    obtain ⟨ks, _, hks, h⟩ := perform_bind_eq_ok h
    cases h
    exact isWindow_list (Search.length_hot_le hks)
  | _ => cases hop

/-! ## Routes of lists -/

/-- A method and a path, the endpoint that is found there, and how it cuts its list. -/
structure ListRoute where
  method : String
  path : List Segment
  endpoint : Endpoint
  cut : Cut
  deriving DecidableEq

namespace Route

open Segment

/-- The routes of lists. -/
def lists : List ListRoute :=
  [⟨"GET", under "categories" [], .categoryList, .paged⟩,
   ⟨"GET", under "likes" [fixed "me"], .likeMine, .paged⟩,
   ⟨"GET", under "likes" [parameter "like_type", parameter "target_id", fixed "users"],
     .likeLikers, .paged⟩,
   ⟨"GET", under "favorites" [], .favoriteList, .paged⟩,
   ⟨"POST", under "search" [], .search, .paged⟩,
   ⟨"GET", under "search" [fixed "history"], .searchHistory, .limited 20 100 (by decide)⟩,
   ⟨"GET", under "search" [fixed "hot"], .searchHot, .limited 10 50 (by decide)⟩,
   ⟨"GET", under "users" [], .userList, .paged⟩]

theorem endpoint_of_list {route : Route} {l : ListRoute} (hroute : route ∈ all)
    (hl : l ∈ lists) (hpath : route.path = l.path) :
    route.endpoint? l.method = some l.endpoint ∧ l.endpoint.cut? = some l.cut := by
  have hall : ∀ l ∈ lists, ∀ route ∈ all, route.path = l.path →
      route.endpoint? l.method = some l.endpoint ∧ l.endpoint.cut? = some l.cut := by
    decide
  exact hall l hl route hroute hpath

end Route

/-- Whether a request is answered with the same report of an error in every world, which
is left as it is. -/
def Request.IsRefused (gateway : Gateway) (r : Request) : Prop :=
  ∃ report : Report, 400 ≤ report.kind.status ∧
    r.IsTurnedAway gateway report.kind.status report.body

/-- Whether a request to an endpoint is answered with what is wrong with a part of it
that cannot be read. -/
def Request.IsUnread (gateway : Gateway) (r : Request) (e : Endpoint) : Prop :=
  ∃ parameters problem, .error problem ∈ e.parts
    ⟨r, .ofHeaders gateway r.headers, parameters⟩ ∧
    r.IsTurnedAway gateway problem.report.kind.status problem.report.body

/-- Whether a request to an endpoint is answered by an operation that shows the page. -/
def Request.IsShown (gateway : Gateway) (r : Request) (e : Endpoint) (p : Page) : Prop :=
  ∃ parameters op a, Endpoint.Serves ⟨r, .ofHeaders gateway r.headers, parameters⟩ e op a ∧
    op.page? = some p ∧ ∀ w, respond gateway r w = (r.reply (a.perform w).1, (a.perform w).2)

/-- What a response carries for its request; nothing if it has no body. -/
def Response.data (r : Response) : Json :=
  (r.body.bind (Json.member? "data")).getD .null

section Requests

variable {gateway : Gateway} {r : Request} {e : Endpoint} {p : Page}
  {l : ListRoute} {w : World}

/-- A request that is turned away with a problem is refused. -/
theorem isRefused_of_problem {problem : Problem}
    (h : r.IsTurnedAway gateway problem.report.kind.status problem.report.body) :
    r.IsRefused gateway := by
  refine ⟨problem.report, ?_, h⟩
  cases problem.report.kind <;> decide

variable (gateway) in
/-- A request for a list that carries a number out of range is refused. Any other cannot be
read or is shown the page that it asks for. -/
theorem respond_of_list (hl : l ∈ Route.lists) (hr : r.goesTo l.method l.path) :
    (¬ l.cut.Admits r → r.IsRefused gateway) ∧
      (l.cut.Admits r → r.IsUnread gateway l.endpoint ∨
        r.IsShown gateway l.endpoint (l.cut.page r)) := by
  obtain ⟨route, hroute, hpath, parameters, hrespond⟩ := respond_of_goesTo gateway hr
  obtain ⟨he, hcut⟩ := Route.endpoint_of_list hroute hl hpath
  have haway : ∀ {problem},
      (∀ w, (l.endpoint.run ⟨r, .ofHeaders gateway r.headers, parameters⟩).perform w
      = (.error problem, w)) →
      r.IsTurnedAway gateway problem.report.kind.status problem.report.body := by
    intro problem hproblem
    refine isTurnedAway_of_error fun w => ?_
    rw [hrespond _ he, hproblem]
  cases Endpoint.cuts_run hcut ⟨r, .ofHeaders gateway r.headers, parameters⟩ with
  | unread problem hunread hproblem =>
    exact ⟨fun _ => isRefused_of_problem (haway hproblem),
      fun _ => Or.inl ⟨parameters, problem, hunread, haway hproblem⟩⟩
  | outOfRange problem hnot hproblem =>
    exact ⟨fun _ => isRefused_of_problem (haway hproblem),
      fun hadmits => absurd hadmits hnot⟩
  | shown hadmits op hserves hop =>
    exact ⟨fun hnot => absurd hadmits hnot,
      fun _ => Or.inr ⟨parameters, op, _, hserves, hop, hrespond _ he⟩⟩

/-- There is something for the request in a response only if its endpoint succeeds. -/
theorem data_reply (r : Request) (outcome : Except Problem Answer) :
    (r.reply outcome).data = .null ∨ ∃ answer, outcome = .ok answer ∧
    (r.reply outcome).data = answer.data := by
  rw [Request.reply]
  split
  · exact Or.inl rfl
  · cases outcome with
    | ok answer => exact Or.inr ⟨answer, rfl, rfl⟩
    | error problem => exact Or.inl rfl

/-- What is not read shows no rows. -/
theorem Request.IsUnread.isWindow (h : r.IsUnread gateway e) :
    (respond gateway r w).1.data.IsWindow p := by
  obtain ⟨parameters, problem, -, haway⟩ := h
  rw [haway]
  dsimp only
  split <;> exact isWindow_null

/-- What is shown is the window of the page, from the cache as from the database. -/
theorem Request.IsShown.isWindow (h : r.IsShown gateway e p)
    (hw : w.Recalls @Cached.IsWindow) : (respond gateway r w).1.data.IsWindow p := by
  obtain ⟨parameters, op, a, hserves, hop, hrespond⟩ := h
  rw [hrespond]
  obtain hnone | ⟨answer, hanswer, hdata⟩ := data_reply r (a.perform w).1
  · rw [hnone]
    exact isWindow_null
  · rw [hdata]
    exact hserves.isWindow hop hw (Prod.ext hanswer rfl)

/-- Windows on lists never overflow. The nearest page that may be asked for passes its check,
and is the page itself if that may be asked for; the rows before a page are counted up to 64
bits. A request for a list that carries a number out of range is refused, and changes
nothing. Any other is shown the page that it asks for, unless something else in it cannot be
read. The rows before that page are counted exactly, and whatever the requests before it have
left in the cache, the response shows at most the rows of the page, and of a list whose size
it tells as many as there are behind those before the page. -/
theorem row_windows_never_overflow :
    (∀ number size, (Page.clamped number size).issues = []) ∧
    (∀ p : Page, p.issues = [] → Page.clamped p.number p.size = p) ∧
    (∀ p : Page, p.offset = min ((max 1 p.number - 1) * p.size) (2 ^ 64 - 1)) ∧
    ∀ (gateway : Gateway) (l : ListRoute), l ∈ Route.lists →
    ∀ r : Request, r.goesTo l.method l.path →
      (¬ l.cut.Admits r → r.IsRefused gateway) ∧
      (l.cut.Admits r →
        let p := l.cut.page r
        (r.IsUnread gateway l.endpoint ∨ r.IsShown gateway l.endpoint p) ∧
        p.offset = (p.number - 1) * p.size ∧ p.offset ≤ 99999900 ∧
        ∀ (start : World) (turns : List Turn), start.Recalls @Cached.IsWindow →
          let data := (respond gateway r (start.served gateway turns)).1.data
          data.rows.length ≤ p.size ∧
          ∀ total, data.total? = some total →
            data.rows.length = min p.size (total - (p.number - 1) * p.size)) := by
  refine ⟨fun number size => ?_, fun p hp => ?_, fun p => ?_, fun gateway l hl r hr => ?_⟩
  · exact Page.issues_eq_nil_iff.mpr (Page.isWithin_clamped number size)
  · exact Page.clamped_of_isWithin (Page.issues_eq_nil_iff.mp hp)
  · have hbefore : max 1 p.number - 1 = p.number - 1 := by omega
    rw [Page.offset_eq, hbefore]
    rfl
  · obtain ⟨hrefused, hanswered⟩ := respond_of_list gateway hl hr
    refine ⟨hrefused, fun hadmits => ?_⟩
    obtain ⟨hoffset, hle⟩ := hadmits.isWithin.offset_eq l.cut.largest_le
    refine ⟨hanswered hadmits, hoffset, hle, fun start turns hstart => ?_⟩
    have hrecalls : (start.served gateway turns).Recalls @Cached.IsWindow :=
      World.recalls_served (fun hanswer hparse =>
        (Cached.isWindow_of_answer hanswer).2 _ hparse) hstart turns
    have hwindow : (respond gateway r (start.served gateway turns)).1.data.IsWindow
        (l.cut.page r) :=
      (hanswered hadmits).elim (·.isWindow) (·.isWindow hrecalls)
    rw [Json.IsWindow, hoffset] at hwindow
    exact hwindow

/-- A page so far off that the count of the rows before it would stop is refused. The first
page of one row shows the one user that there is. -/
theorem row_windows_never_overflow_sample :
    let far : Request :=
      ⟨"GET", "/api/v1/categories?page=18446744073709551615&page_size=100", [], ""⟩
    let near : Request := ⟨"GET", "/api/v1/users?page=1&page_size=1", [], ""⟩
    far.IsRefused {} ∧ (respond {} near World.sample).1.data.rows.length = 1 := by
  have hfar :
      (⟨"GET", "/api/v1/categories?page=18446744073709551615&page_size=100", [], ""⟩ :
        Request).goesTo
      "GET" (Route.under "categories" []) := ⟨Or.inl rfl, _, _, _, rfl, rfl, rfl⟩
  have hnear : (⟨"GET", "/api/v1/users?page=1&page_size=1", [], ""⟩ : Request).goesTo "GET"
      (Route.under "users" []) := ⟨Or.inl rfl, _, _, _, rfl, rfl, rfl⟩
  intro far near
  obtain ⟨-, -, -, hlists⟩ := row_windows_never_overflow
  have hnot : ¬ Cut.paged.Admits far := by
    intro hadmits
    have hpage := hadmits "page" Page.maxNumber List.mem_cons_self 18446744073709551615
      ⟨"18446744073709551615", by decide +kernel, by decide +kernel⟩
    exact absurd hpage.2 (by decide)
  have hadmits : Cut.paged.Admits near := by
    have hfields : queryFields near.query = [("page", "1"), ("page_size", "1")] := by
      decide +kernel
    have hlargest : ∀ bound ∈ Cut.paged.bounds, 1 ≤ bound.2 := by decide
    rintro name largest hname n ⟨text, hmem, hread⟩
    have htext : text = "1" := by
      rw [hfields] at hmem
      rcases List.mem_cons.mp hmem with heq | hmem
      · exact congrArg Prod.snd heq
      · exact congrArg Prod.snd (List.mem_singleton.mp hmem)
    have hone : readWord64 "1" = .ok 1 := by decide
    rw [htext, hone] at hread
    cases hread
    exact ⟨Nat.le_refl 1, hlargest _ hname⟩
  refine ⟨(hlists {} ⟨"GET", _, .categoryList, .paged⟩ (by decide) far hfar).1 hnot, ?_⟩
  obtain ⟨-, -, -, hshown⟩ :=
    (hlists {} ⟨"GET", _, .userList, .paged⟩ (by decide) near hnear).2 hadmits
  have hpage : Cut.paged.page near = ⟨1, 1⟩ := by decide +kernel
  have htotal : (respond {} near World.sample).1.data.total? = some 1 := by decide +kernel
  have hrows := (hshown World.sample [] (World.recalls_of_empty rfl)).2 1 htotal
  rw [hpage] at hrows
  exact hrows

end Requests

end Community.Http

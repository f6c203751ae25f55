import Community.Proofs.Http.Effect

/-!
# Who may write what

The routes are a table, so the endpoints that a method reaches can be read off: GET and HEAD
reach only those that read, and each endpoint that writes for a user or for nobody is reached
by one method at one path. The rest is what the effects of the endpoints say:

> `write_authority`: what a request can change is decided by its method, its path and the
> caller in its headers. Nothing in its body or its parameters gives a caller more.

Rows are compared one by one. Those of likes, favourites and the history are left as they are
unless they belong to the caller, and contents, comments, dynamics and goods keep everything
but their counters.
-/

namespace Community.Http

open Database Procedure

/-! ## From a request to an endpoint -/

/-- Whether a request has the method and the path. -/
def Request.isTo (r : Request) (method : String) (path : List String) : Prop :=
  r.method = method ∧ r.segments = [] :: path.map String.toList

/-- Whether a request asks for a toggle of a like or of a favourite. -/
def Request.IsToggle (r : Request) : Prop :=
  r.isTo "POST" ["api", "v1", "likes", "toggle"] ∨
    r.isTo "POST" ["api", "v1", "favorites", "toggle"]

namespace Route

variable {route : Route} {path : List (List Char)}
  {parameters : List (String × Option String)} {method : String} {e : Endpoint}

theorem find?_eq_some {routes : List Route}
    (h : find? path routes = some (route, parameters)) :
    route ∈ routes ∧ fit? route.path path = some parameters := by
  induction routes with
  | nil => cases h
  | cons first rest ih =>
    rw [find?] at h
    split at h
    · next hfit =>
      cases h
      exact ⟨List.mem_cons_self, hfit⟩
    · obtain ⟨hmem, hfit⟩ := ih h
      exact ⟨List.mem_cons_of_mem _ hmem, hfit⟩

/-- A route without parameters fits one path. -/
theorem path_of_fit? {texts : List String}
    (h : fit? (texts.map .fixed) path = some parameters) :
    path = texts.map String.toList := by
  induction texts generalizing path with
  | nil =>
    cases path with
    | nil => rfl
    | cons s path => cases h
  | cons text texts ih =>
    cases path with
    | nil => cases h
    | cons s path =>
      rw [List.map_cons, fit?] at h
      split at h
      · next hs => rw [hs, ih h, List.map_cons]
      · cases h

theorem mem_of_endpoint? (h : route.endpoint? method = some e) :
    ∃ named, (named, e) ∈ route.endpoints ∧ (method = named ∨ named = "GET") := by
  obtain ⟨before, after, hendpoints, -⟩ := List.lookup_eq_some_iff.mp h
  refine ⟨_, hendpoints ▸ List.mem_append_right _ List.mem_cons_self, ?_⟩
  split
  · exact Or.inr rfl
  · exact Or.inl rfl

/-- HEAD reaches what GET reaches. -/
theorem mem_of_reading (h : route.endpoint? method = some e)
    (hmethod : method = "GET" ∨ method = "HEAD") : ("GET", e) ∈ route.endpoints := by
  have hlookup : route.endpoints.lookup "GET" = some e := by
    rw [← h, endpoint?]
    rcases hmethod with rfl | rfl <;> rfl
  obtain ⟨before, after, hendpoints, -⟩ := List.lookup_eq_some_iff.mp hlookup
  exact hendpoints ▸ List.mem_append_right _ List.mem_cons_self

/-- GET reaches endpoints that read. -/
theorem isReading_of_get (hroute : route ∈ all) (h : ("GET", e) ∈ route.endpoints) :
    e.isReading = true := by
  have hall : ∀ route ∈ all, ∀ named ∈ route.endpoints, named.1 = "GET" →
      named.2.isReading = true := by
    decide
  exact hall route hroute _ h rfl

/-- The endpoints that need no administrator, and write for one user or for nobody. -/
theorem path_of_endpoint (hroute : route ∈ all) {named : String}
    (h : (named, e) ∈ route.endpoints) :
    (e = .search → named = "POST" ∧ route.path = ["api", "v1", "search"].map .fixed) ∧
    (e = .likeToggle → named = "POST" ∧
      route.path = ["api", "v1", "likes", "toggle"].map .fixed) ∧
    (e = .favoriteToggle →
      named = "POST" ∧ route.path = ["api", "v1", "favorites", "toggle"].map .fixed) := by
  have hall : ∀ route ∈ all, ∀ named ∈ route.endpoints,
      (named.2 = .search → named.1 = "POST" ∧
        route.path = ["api", "v1", "search"].map .fixed) ∧
      (named.2 = .likeToggle →
        named.1 = "POST" ∧ route.path = ["api", "v1", "likes", "toggle"].map .fixed) ∧
      (named.2 = .favoriteToggle →
        named.1 = "POST" ∧ route.path =
          ["api", "v1", "favorites", "toggle"].map .fixed) := by
    decide
  exact hall route hroute _ h

end Route

/-- The response to a request, given what comes of its endpoint. -/
def Request.reply (r : Request) (outcome : Except Problem Answer) : Response :=
  if r.method = "HEAD" then (Response.ofOutcome outcome).withoutBody else .ofOutcome outcome

/-- A request is answered without a look at the world, or by the endpoint that its path
and its method name. -/
theorem respond_eq (gateway : Gateway) (r : Request) :
    (∃ response : Response, response.body = none ∧
      ∀ w, respond gateway r w = (response, w)) ∨
      ∃ route ∈ Route.all, ∃ path parameters e, r.segments = [] :: path ∧
        Route.fit? route.path path = some parameters ∧ route.endpoint? r.method = some e ∧
        ∀ w, respond gateway r w =
          let x := (e.run ⟨r, .ofHeaders gateway r.headers, parameters⟩).perform w
          (r.reply x.1, x.2) := by
  unfold respond
  split
  · next path hsegments =>
    split
    · exact Or.inl ⟨_, rfl, fun _ => rfl⟩
    · next route parameters hfind =>
      obtain ⟨hroute, hfit⟩ := Route.find?_eq_some hfind
      split
      · exact Or.inl ⟨_, rfl, fun _ => rfl⟩
      · next e he =>
          exact Or.inr ⟨route, hroute, path, parameters, e, hsegments, hfit,
            he, fun _ => rfl⟩
  · exact Or.inl ⟨_, rfl, fun _ => rfl⟩

/-- A request leaves the world alone, or leaves what its endpoint does. -/
theorem respond_cases (gateway : Gateway) (r : Request) (w : World) :
    (respond gateway r w).2 = w ∨
      ∃ route ∈ Route.all, ∃ path parameters e, r.segments = [] :: path ∧
        Route.fit? route.path path = some parameters ∧ route.endpoint? r.method = some e ∧
        (respond gateway r w).2
          = ((e.run ⟨r, .ofHeaders gateway r.headers, parameters⟩).perform w).2 := by
  obtain ⟨response, -, hrespond⟩ |
      ⟨route, hroute, path, parameters, e, hsegments, hfit, he, hrespond⟩ :=
    respond_eq gateway r
  · exact Or.inl (by rw [hrespond])
  · exact Or.inr ⟨route, hroute, path, parameters, e, hsegments, hfit, he, by rw [hrespond]⟩

/-- What a request does to the database is an effect of one endpoint, which is one that reads
if the method is GET or HEAD, and is reached at its own path. -/
theorem effect_respond (gateway : Gateway) (r : Request) (w : World) :
    ∃ e, Effect (.ofHeaders gateway r.headers) w.database e
      (respond gateway r w).2.database ∧
      (r.method = "GET" ∨ r.method = "HEAD" → e.isReading = true) ∧
      (e = .search → r.isTo "POST" ["api", "v1", "search"]) ∧
      (e = .likeToggle ∨ e = .favoriteToggle → r.IsToggle) := by
  obtain hsame | ⟨route, hroute, path, parameters, e, hsegments, hfit, he, hworld⟩ :=
    respond_cases gateway r w
  · rw [hsame]
    exact ⟨.health, .nothing, fun _ => rfl, nofun, by simp⟩
  obtain ⟨named, hmem, hmethod⟩ := Route.mem_of_endpoint? he
  obtain ⟨hsearch, hlike, hfavorite⟩ := Route.path_of_endpoint hroute hmem
  -- a fixed path of a route that is not for GET is what the request asked for
  have hto : ∀ {texts : List String}, named = "POST" ∧ route.path = texts.map .fixed →
      r.isTo "POST" texts := by
    rintro texts ⟨rfl, hpath⟩
    rw [hpath] at hfit
    refine ⟨hmethod.resolve_right (by decide), ?_⟩
    rw [hsegments, Route.path_of_fit? hfit]
  refine ⟨e, ?_, ?_, fun h => hto (hsearch h), ?_⟩
  · rw [hworld]
    exact e.effect ⟨r, .ofHeaders gateway r.headers, parameters⟩ w
  · exact fun hget => Route.isReading_of_get hroute (Route.mem_of_reading he hget)
  · rintro (h | h)
    · exact Or.inl (hto (hlike h))
    · exact Or.inr (hto (hfavorite h))

/-! ## What effects leave alone -/

namespace Effect

variable {caller : Caller} {db db' : Database} {e : Endpoint} {i : Identity}

/-- An endpoint that reads does nothing. -/
theorem eq_of_isReading (h : Effect caller db e db') (he : e.isReading = true) :
    db' = db := by
  cases h with
  | nothing => rfl
  | category hwrites => rcases hwrites with rfl | rfl | rfl <;> cases he
  | like | favorite | search | profile => cases he

/-- Who is not signed in leaves a count of a keyword at most. -/
theorem of_unknown (h : Effect caller db e db') (hcaller : ∀ i, caller ≠ .known i) :
    db' = db ∨ (caller = .anonymous ∧ e = .search ∧ AgreeOff [.hotSearch] db db') := by
  cases h with
  | nothing => exact Or.inl rfl
  | category _ hknown => exact absurd hknown (hcaller _)
  | like hknown => exact absurd hknown (hcaller _)
  | favorite hknown => exact absurd hknown (hcaller _)
  | profile hknown => exact absurd hknown (hcaller _)
  | search hsearcher hrecord hbump =>
    obtain rfl | ⟨i, -, -, -, -, -, hknown, -⟩ := hrecord
    · exact Or.inr ⟨hsearcher.resolve_right fun ⟨i, hi⟩ => hcaller i hi, rfl, hbump⟩
    · exact absurd hknown (hcaller i)

/-- The tables that an endpoint writes. -/
def tables : Endpoint → List TableName
  | .categoryCreate | .categoryChange | .categoryRemove => [.category]
  | .likeToggle => [.like, .content, .comment, .dynamic]
  | .favoriteToggle => [.favorite, .content, .goods]
  | .search => [.history, .hotSearch]
  | .userChange => [.user]
  | _ => []

theorem agreeOff (h : Effect caller db e db') : AgreeOff (tables e) db db' := by
  cases h with
  | nothing => exact .refl _ _
  | category hwrites _ _ hagree => rcases hwrites with rfl | rfl | rfl <;> exact hagree
  | @like i r now l _ _ htoggle =>
    have hsub : ∀ x : LikeType, [TableName.like, x.counter.table] ⊆ tables .likeToggle := by
      intro x
      cases x <;> decide
    exact ((Like.toggling i.userId r now).agreeOff_run htoggle).mono (hsub r.likeType)
  | @favorite i r now f _ _ htoggle =>
    have hsub : ∀ x : FavoriteType,
        [TableName.favorite, x.counter.table] ⊆ tables .favoriteToggle := by
      intro x
      cases x <;> decide
    exact ((Favorite.toggling i.userId r now).agreeOff_run htoggle).mono
      (hsub r.favoriteType)
  | search _ hrecord hbump =>
    obtain rfl | ⟨_, _, _, _, _, _, -, hrecord⟩ := hrecord
    · exact hbump.mono (by decide)
    · exact (agreeOff_insert hrecord).trans hbump
  | profile _ _ hreplace => exact agreeOff_replace hreplace

/-- Categories change for administrators only. -/
theorem categories (h : Effect caller db e db') :
    db'.categories = db.categories ∨ ∃ i, caller = .known i ∧ i.isAdmin = true := by
  have hagree := h.agreeOff
  cases h with
  | category _ hknown hadmin => exact Or.inr ⟨_, hknown, hadmin⟩
  | nothing => exact Or.inl rfl
  | like | favorite | search | profile =>
    exact Or.inl (hagree.slotAt .category (by decide))

theorem likes (h : Effect (.known i) db e db') :
    db.likes.Changes (Amends fun l : Like.Row => l.userId = i.userId) db'.likes := by
  have hagree := h.agreeOff
  cases h with
  | @like i r now l _ hknown htoggle =>
    cases hknown
    refine (Like.toggling i.userId r now).changes_run (fun row hrow => ?_) htoggle
    exact (Like.isOf_iff.mp hrow).1
  | nothing => exact .kept
  | category hwrites =>
    rcases hwrites with rfl | rfl | rfl <;> exact .of_eq (hagree.slotAt .like (by decide))
  | favorite | search | profile => exact .of_eq (hagree.slotAt .like (by decide))

theorem favorites (h : Effect (.known i) db e db') :
    db.favorites.Changes (Amends fun f : Favorite.Row => f.userId = i.userId)
      db'.favorites := by
  have hagree := h.agreeOff
  cases h with
  | @favorite i r now f _ hknown htoggle =>
    cases hknown
    refine (Favorite.toggling i.userId r now).changes_run (fun row hrow => ?_) htoggle
    exact (Favorite.isOf_iff.mp hrow).1
  | nothing => exact .kept
  | category hwrites =>
    rcases hwrites with rfl | rfl | rfl <;> exact .of_eq
      (hagree.slotAt .favorite (by decide))
  | like | search | profile => exact .of_eq (hagree.slotAt .favorite (by decide))

theorem history (h : Effect (.known i) db e db') :
    db.history.Changes (Amends fun x : HistoryEntry.Row => x.userId = i.userId)
      db'.history := by
  have hagree := h.agreeOff
  cases h with
  | @search db₁ _ _ hrecord hbump =>
    have hsame : db'.history = db₁.history := hbump.slotAt .history (by decide)
    rw [hsame]
    obtain rfl | ⟨_, _, _, _, _, _, hknown, hrecord⟩ := hrecord
    · exact .kept
    · cases hknown
      exact changes_insert (fun _ => rfl) hrecord
  | nothing => exact .kept
  | category hwrites =>
    rcases hwrites with rfl | rfl | rfl <;> exact .of_eq (hagree.slotAt .history (by decide))
  | like | favorite | profile => exact .of_eq (hagree.slotAt .history (by decide))

theorem users (h : Effect (.known i) db e db') :
    db.users.Changes (List.Forall₂ (Amended fun u : User.Row => u.id = i.userId))
      db'.users := by
  have hagree := h.agreeOff
  cases h with
  | profile hknown hid hreplace =>
    cases hknown
    exact changes_replace (fun a ha => ha.trans hid) hreplace
  | nothing => exact .kept
  | category hwrites =>
    rcases hwrites with rfl | rfl | rfl <;> exact .of_eq (hagree.slotAt .user (by decide))
  | like | favorite | search => exact .of_eq (hagree.slotAt .user (by decide))

/-- The things that can be liked and kept change where a user toggles, and nowhere else. -/
theorem targets (h : Effect caller db e db') :
    (∀ name ∈ targetTables, db'.slotAt name = db.slotAt name) ∨
      ((∃ i, caller = .known i) ∧ (e = .likeToggle ∨ e = .favoriteToggle)) := by
  have hagree := h.agreeOff
  have hother : (∀ name ∈ targetTables, name ∉ tables e) →
      ∀ name ∈ targetTables, db'.slotAt name = db.slotAt name :=
    fun hnames name hname => hagree.slotAt name (hnames name hname)
  cases h with
  | nothing => exact Or.inl fun _ _ => rfl
  | category hwrites =>
    rcases hwrites with rfl | rfl | rfl <;> exact Or.inl (hother (by decide))
  | like hknown => exact Or.inr ⟨⟨_, hknown⟩, Or.inl rfl⟩
  | favorite hknown => exact Or.inr ⟨⟨_, hknown⟩, Or.inr rfl⟩
  | search | profile => exact Or.inl (hother (by decide))

/-- The things that can be liked and kept change in their counters at most. -/
theorem counted (h : Effect caller db e db') : Counted db db' := by
  have hagree := h.agreeOff
  cases h with
  | nothing => exact .of_agreeOff (.refl [] db) (by decide)
  | category hwrites =>
    rcases hwrites with rfl | rfl | rfl <;> exact .of_agreeOff hagree (by decide)
  | @like i r now _ _ _ htoggle => exact (Like.toggling i.userId r now).counted_run htoggle
  | @favorite i r now _ _ _ htoggle =>
    exact (Favorite.toggling i.userId r now).counted_run htoggle
  | search | profile => exact .of_agreeOff hagree (by decide)

end Effect

/-! ## Requests -/

/-- What a request may write. GET and HEAD change nothing. Who is not signed in changes
nothing either, but for a search, which counts its keyword. Categories change for
administrators. In likes, favourites and the history only rows of the caller are changed
or added, and among the users only the caller's own row is changed. Contents, comments,
dynamics and goods change in their counters, where a user who is signed in toggles a
like or a favourite. -/
theorem write_authority (gateway : Gateway) (r : Request) (w : World) :
    let caller := Caller.ofHeaders gateway r.headers
    let db := w.database
    let db' := (respond gateway r w).2.database
    (r.method = "GET" ∨ r.method = "HEAD" → db' = db) ∧
    ((∀ i, caller ≠ .known i) → db' = db ∨
      (caller = .anonymous ∧ r.isTo "POST" ["api", "v1", "search"] ∧
        AgreeOff [.hotSearch] db db')) ∧
    (db'.categories = db.categories ∨ ∃ i, caller = .known i ∧ i.role = .admin) ∧
    (∀ i, caller = .known i →
      db.likes.Changes (Amends fun l : Like.Row => l.userId = i.userId) db'.likes ∧
      db.favorites.Changes (Amends fun f : Favorite.Row => f.userId = i.userId)
        db'.favorites ∧
      db.history.Changes (Amends fun x : HistoryEntry.Row => x.userId = i.userId)
        db'.history ∧
      db.users.Changes
        (List.Forall₂ (Amended fun u : User.Row => u.id = i.userId)) db'.users) ∧
    Counted db db' ∧
    ((∀ name ∈ targetTables, db'.slotAt name = db.slotAt name) ∨
      ((∃ i, caller = .known i) ∧ r.IsToggle)) := by
  intro caller db db'
  obtain ⟨e, heffect, hget, hsearch, htoggle⟩ := effect_respond gateway r w
  refine ⟨?_, ?_, ?_, ?_, heffect.counted, ?_⟩
  · intro hmethod
    exact heffect.eq_of_isReading (hget hmethod)
  · intro hcaller
    rcases heffect.of_unknown hcaller with hsame | ⟨hanonymous, he, hagree⟩
    · exact Or.inl hsame
    · exact Or.inr ⟨hanonymous, hsearch he, hagree⟩
  · refine heffect.categories.imp_right ?_
    rintro ⟨i, hcaller, hadmin⟩
    exact ⟨i, hcaller, of_decide_eq_true hadmin⟩
  · intro i hcaller
    have hknown : Effect (.known i) db e db' := hcaller ▸ heffect
    exact ⟨hknown.likes, hknown.favorites, hknown.history, hknown.users⟩
  · refine heffect.targets.imp_right ?_
    rintro ⟨hcaller, he⟩
    exact ⟨hcaller, htoggle he⟩

/-- The user of the sample likes the content that there is. The like is written, and is a row
of that user's own. -/
theorem write_authority_sample :
    let r : Request := ⟨"POST", "/api/v1/likes/toggle",
      [("X-User-Id", " 1 "), ("Content-Type", "application/json")],
      "\x7b\"like_type\": \"CONTENT\", \"target_id\": 7\x7d"⟩
    let db' := (respond {} r World.sample).2.database
    rowsOf Like.Row World.sample.database = [] ∧
      (rowsOf Like.Row db').map (fun l => (l.userId, l.targetId)) = [(1, 7)] ∧
      World.sample.database.likes.Changes
        (Amends fun l : Like.Row => l.userId = 1) db'.likes := by
  intro r db'
  obtain ⟨-, -, -, hown, -⟩ := write_authority {} r World.sample
  obtain ⟨hlikes, -⟩ := hown ⟨1, "user_1", .user⟩ rfl
  exact ⟨rfl, by decide +kernel, hlikes⟩

end Community.Http

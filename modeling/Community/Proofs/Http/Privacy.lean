import Community.Proofs.Http.Veil
import Community.Proofs.User.Personal

/-!
# Who sees whose contact data

The cache keeps profiles with contact data under keys that all viewers share, and lists
without. So it is the service that has to mask, after every look into the cache and
after every look into the database. That it does follows from what is kept, whichever
way the cache fails:

> `World.guarded_served`: after any run that starts with an empty cache, what is kept of
> users is a profile under its own identifier, or a list without contact data.

> `discreet_respond`: where this is so, contact data is in the caller's own profile at most.

That other viewers learn nothing from what they do see takes two runs, in databases that are
the same through the veil over the contact data of one user:

> `World.truthful_served`: a run that only reads leaves in the cache what the database says.

> `respond_alike`: where this is so, everybody but the user is answered from what
> the veil leaves open.

> `respond_own`: and the user is shown everything.

Nobody at all is answered from password hashes (`respond_veiled`).
-/

namespace Community

open Json Procedure Database Http

/-! ## What is kept of users -/

namespace Cached

/-- What may be kept of users: profiles under their own identifiers, and lists
without contact data. -/
def IsGuarded : (c : Cached) → c.Value → Prop
  | profile id, (p : Profile) => p.id = id
  | users .., (l : Listing Profile) => ∀ p ∈ l.items, p.IsMasked
  | _, _ => True

/-- What the database answers may be kept, and what is read of its text then may be, too. -/
theorem isGuarded_of_answer {c : Cached} {db : Database} {a : c.Value}
    (h : c.answer db = .ok a) :
    c.IsGuarded a ∧ ∀ b, parse (encode a).render = .ok b → c.IsGuarded b := by
  cases c with
  | category | forest | favorites => exact ⟨trivial, fun _ _ => trivial⟩
  | profile id =>
    obtain ⟨found, hfound, h⟩ := bind_eq_ok h
    cases found with
    | none => cases h
    | some u =>
      cases h
      have hid : u.id = id := User.id_of_find (Problem.ofStatement_eq_ok hfound)
      refine ⟨hid, fun b hb => ?_⟩
      rw [YieldsOnly.eq_of_parse (Profile.yieldsOnly _) hb]
      exact hid
  | users keyword status role page =>
    obtain ⟨⟨rows, total⟩, -, h⟩ := bind_eq_ok h
    cases h
    refine ⟨fun p hp => ?_, fun b hb => ?_⟩
    · obtain ⟨u, -, rfl⟩ := List.mem_map.mp hp
      exact Profile.isMasked_masked _
    · rw [YieldsOnly.eq_of_parse (Listing.yieldsOnly (fun p _ => Profile.yieldsOnly p)
        fun p _ => Profile.opens p) hb]
      intro p hp
      obtain ⟨q, hq, rfl⟩ := List.mem_map.mp hp
      obtain ⟨u, -, rfl⟩ := List.mem_map.mp hq
      exact ⟨rfl, rfl⟩

end Cached

/-- Whatever can be read of users from the cache may be kept. -/
def World.Guarded (w : World) : Prop :=
  ∀ (c : Cached) (a : c.Value), w.cache.Stores c.key a → c.IsGuarded a

variable {w w' : World} {gateway : Gateway}

/-- After any run that starts with an empty cache the cache is guarded. -/
theorem World.guarded_served (hempty : w.cache.store.entries = []) (turns : List Turn) :
    (w.served gateway turns).Guarded :=
  recalls_served (P := @Cached.IsGuarded)
    (fun hanswer hparse => (Cached.isGuarded_of_answer hanswer).2 _ hparse)
    (recalls_of_empty hempty) turns

/-! ## What is shown -/

/-- What is read through a guarded cache may be kept. -/
theorem Cached.ReadBy.isGuarded {c : Cached} {a : Procedure c.Value} {b : c.Value}
    (h : c.ReadBy a) (hw : w.Guarded) (hperform : a.perform w = (.ok b, w')) :
    c.IsGuarded b :=
  h.of_recalls (P := @IsGuarded) hw (fun hanswer => (isGuarded_of_answer hanswer).1) hperform

namespace User

/-- A profile is that of the user, and it is masked for every other viewer. -/
theorem profile_of_guarded {id : Int} {viewer : Option Int} {p : Profile} (hw : w.Guarded)
    (h : (profile id viewer).perform w = (.ok p, w')) :
    p.id = id ∧ (viewer ≠ some id → p.IsMasked) := by
  obtain ⟨a, hread, hprofile⟩ := Cached.readBy_profile id
  rw [hprofile] at h
  obtain ⟨q, v, hq, h⟩ := perform_bind_eq_ok h
  cases h
  have hid : q.id = id := hread.isGuarded hw hq
  unfold shownTo
  split
  · next hown => exact ⟨hid, fun hother => absurd hown hother⟩
  · exact ⟨hid, fun _ => q.isMasked_masked⟩

theorem list_of_guarded {filter : UserFilter} {page : Page} {l : Listing Profile}
    (hw : w.Guarded) (h : (list filter page).perform w = (.ok l, w')) :
    ∀ p ∈ l.items, p.IsMasked :=
  (Cached.readBy_users filter page).isGuarded hw h

theorem id_of_change {id : Int} {r : ProfileChange} {p : Profile}
    (h : (change id r).perform w = (.ok p, w')) : p.id = id := by
  obtain ⟨u, -, -, hfind, -, rfl, -⟩ := change_eq_ok h
  have hid : u.id = id := id_of_find hfind
  exact hid

end User

/-- A search shows users without contact data. -/
theorem Search.lacks_run {r : SearchRequest} {userId : Option Int} {p : Page}
    {result : SearchResult} (h : (run r userId p).perform w = (.ok result, w')) :
    (encode result).Lacks User.personal := by
  obtain ⟨_, u, -, h⟩ := perform_bind_eq_ok h
  obtain ⟨found, u', hfound, h⟩ := perform_bind_eq_ok h
  obtain ⟨_, _, -, h⟩ := perform_bind_eq_ok h
  cases h
  refine SearchResult.lacks fun hit hhit => ?_
  unfold hits at hfound
  split at hfound <;> obtain ⟨rows, _, -, hrows⟩ := perform_bind_eq_ok hfound <;> cases hrows
  · obtain ⟨c, -, rfl⟩ := List.mem_map.mp hhit
    exact lacks_encode c
  · obtain ⟨g, -, rfl⟩ := List.mem_map.mp hhit
    exact lacks_encode g
  · obtain ⟨u, -, rfl⟩ := List.mem_map.mp hhit
    exact (Profile.isMasked_masked (.owned u)).lacks

namespace Http

namespace Endpoint

/-- Where the cache is guarded, an endpoint answers discreetly. -/
theorem discreet {e : Endpoint} {v : Visit} {a : Answer} (hw : w.Guarded)
    (h : (e.run v).perform w = (.ok a, w')) : a.data.DiscreetTo v.caller := by
  obtain rfl | ⟨p, hrun⟩ | ⟨op, hserves⟩ := e.run_cases v
  · cases h
    exact (lacks_obj (by simp [User.personal]) (by simp)).discreetTo
  · rw [hrun] at h
    cases h
  generalize e.run v = served at hserves h
  cases hserves with
  | userMe i hi =>
    obtain ⟨p, u, hp, h⟩ := perform_bind_eq_ok h
    cases h
    exact Profile.discreetTo_own (Visit.user_eq_ok hi) (User.profile_of_guarded hw hp).1
  | userChange i r hi =>
    obtain ⟨p, u, hp, h⟩ := perform_bind_eq_ok h
    cases h
    exact Profile.discreetTo_own (Visit.user_eq_ok hi) (User.id_of_change hp)
  | userView user? id huser =>
    obtain ⟨p, u, hp, h⟩ := perform_bind_eq_ok h
    cases h
    obtain ⟨hid, hmasked⟩ := User.profile_of_guarded hw hp
    by_cases hown : user?.map Identity.userId = some id
    · -- the viewer is signed in as the user
      obtain ⟨i, rfl, hi⟩ := Option.map_eq_some_iff.mp hown
      rcases Visit.maybeUser_eq_ok huser with ⟨hnone, -⟩ | ⟨j, hj, hcaller⟩
      · cases hnone
      · cases hj
        exact Profile.discreetTo_own hcaller (hid.trans hi.symm)
    · exact (hmasked hown).lacks.discreetTo
  | userList filter p =>
    obtain ⟨l, u, hl, h⟩ := perform_bind_eq_ok h
    cases h
    exact (Listing.lacks fun p hp => (User.list_of_guarded hw hl p hp).lacks).discreetTo
  | search user? r p =>
    obtain ⟨result, u, hresult, h⟩ := perform_bind_eq_ok h
    cases h
    exact (Search.lacks_run hresult).discreetTo
  | likeCheck | favoriteCheck =>
    obtain ⟨found, u, -, h⟩ := perform_bind_eq_ok h
    cases h
    exact (lacks_obj (by simp [User.personal]) (by simp)).discreetTo
  | _ =>
    -- the type of what is answered has no personal data in it
    obtain ⟨found, u, -, h⟩ := perform_bind_eq_ok h
    cases h
    exact (lacks_encode found).discreetTo

end Endpoint

theorem lacks_reportBody (r : Report) : r.body.Lacks User.personal :=
  lacks_obj (by simp [User.personal]) (by simp)

theorem discreetTo_answerBody {caller : Caller} {a : Answer} (h : a.data.DiscreetTo caller) :
    a.body.DiscreetTo caller := by
  refine discreetTo_obj (by simp [User.personal]) fun m hm => ?_
  simp only [List.mem_cons, List.not_mem_nil, or_false] at hm
  rcases hm with rfl | rfl | rfl | rfl
  · exact (lacks_int 200).discreetTo
  · exact (lacks_bool true).discreetTo
  · exact (lacks_str a.message).discreetTo
  · exact h

/-- Where the cache is guarded, a response is discreet to the caller of its request. -/
theorem discreet_respond {r : Request} {body : Json} (hw : w.Guarded)
    (h : (respond gateway r w).1.body = some body) :
    body.DiscreetTo (.ofHeaders gateway r.headers) := by
  obtain ⟨response, hnone, hrespond⟩ | ⟨_, _, _, parameters, e, _, _, _, hrespond⟩ :=
    respond_eq gateway r
  · rw [hrespond, hnone] at h
    cases h
  · rw [hrespond] at h
    dsimp only [Request.reply] at h
    split at h
    · cases h
    · rcases hperform : (e.run ⟨r, .ofHeaders gateway r.headers, parameters⟩).perform
        w with ⟨p | a, v⟩
      · rw [hperform] at h
        cases h
        exact (lacks_reportBody p.report).discreetTo
      · rw [hperform] at h
        cases h
        exact discreetTo_answerBody (e.discreet hw hperform)

end Http

/-! ## What other viewers see -/

/-- The veil leaves the timestamps open. -/
theorem Database.dated_veiled {id : Int} {db : Database} :
    (db.veiled (.contact id)).Dated ↔ db.Dated := by
  have hbare : ∀ u : User.Row, (u.bareAt id).Dated ↔ u.Dated := by
    intro u
    unfold User.Columns.bareAt
    split
    · exact ⟨fun ⟨hlogin, hcreated⟩ => ⟨hlogin, hcreated⟩,
        fun ⟨hlogin, hcreated⟩ => ⟨hlogin, hcreated⟩⟩
    · exact Iff.rfl
  have husers : Every User.Row (·.Dated) (db.veiled (.contact id)) ↔
      Every User.Row (·.Dated) db := by
    rw [Every, rowsOf_veiled, List.forall_mem_map]
    exact forall₂_congr fun u _ => hbare u
  exact ⟨fun h => ⟨h.categories, husers.mp h.users, h.favorites⟩,
    fun h => ⟨h.categories, husers.mpr h.users, h.favorites⟩⟩

/-- A procedure yields the same in two worlds. -/
def Procedure.Alike {α : Type} (w w' : World) (a : Procedure α) : Prop :=
  (a.perform w).1 = (a.perform w').1

namespace Procedure.Alike

variable {α β : Type}

theorem map {a : Procedure α} (ha : Alike w w' a) (f : α → β) :
    Alike w w' (do let x ← a; return f x) := by
  have hmap : ∀ u, ((do let x ← a; return f x : Procedure β).perform u).1 =
      (a.perform u).1.map f :=
    fun u => congrArg Prod.fst (outcome_map a f u)
  rw [Alike, hmap, hmap, ha]

end Procedure.Alike

/-- Whether a turn leaves the database alone: time passes, or a request only reads. -/
def Http.Turn.IsReading : Turn → Prop
  | request r => r.method = "GET" ∨ r.method = "HEAD"
  | wait _ => True
  | rewrite _ => False

/-- Whether a request asks for one profile, be it by the identifier or as
the caller's own. -/
def Http.Request.IsForProfile (r : Request) : Prop :=
  (r.method = "GET" ∨ r.method = "HEAD") ∧
    ∃ s, r.segments = [] :: (["api", "v1", "users"].map String.toList ++ [s])

variable (gateway) in
theorem World.truthful_next {t : Turn} (ht : t.IsReading) (hdb : w.database.Dated)
    (hw : w.Truthful) :
    (t.next gateway w).database = w.database ∧ (t.next gateway w).Truthful := by
  have hsame : (t.next gateway w).database = w.database := by
    cases t with
    | request r =>
      obtain ⟨e, heffect, hget, -, -⟩ := effect_respond gateway r w
      exact heffect.eq_of_isReading (hget ht)
    | wait time => rfl
    | rewrite db => exact ht.elim
  refine ⟨hsame, hw.of_origin hdb (fun c e he => t.origin_next he) fun c => Or.inr ?_⟩
  rw [hsame]

variable (gateway) in
/-- A run that only reads leaves the database alone, and a cache that is
truthful about it. -/
theorem World.truthful_served {turns : List Turn} (hempty : w.cache.store.entries = [])
    (hdb : w.database.Dated) (hreads : ∀ t ∈ turns, t.IsReading) :
    (w.served gateway turns).database = w.database ∧ (w.served gateway turns).Truthful := by
  refine served_induction (I := fun v => v.database = w.database ∧ v.Truthful)
    ⟨rfl, recalls_of_empty (P := fun c a => c.answer w.database = .ok a) hempty⟩ ?_
  rintro v t ht ⟨hsame, hv⟩
  obtain ⟨hnext, htruthful⟩ := truthful_next gateway (hreads t ht) (hsame ▸ hdb) hv
  exact ⟨hnext.trans hsame, htruthful⟩

namespace User

/-- Where the cache is truthful, a viewer is shown what the database says. -/
theorem profile_of_truthful (hw : w.Truthful) (id : Int) (viewer : Option Int) :
    ((profile id viewer).perform w).1
      = ((Cached.profile id).answer w.database).map (shownTo viewer id) := by
  obtain ⟨a, hread, hprofile⟩ := Cached.readBy_profile id
  have hanswer : (a.outcome w).1 = (Cached.profile id).answer w.database :=
    congrArg Prod.fst (hread.outcome_eq (hw _))
  have hshown := outcome_map a (shownTo viewer id) w
  rw [← hprofile, hanswer] at hshown
  exact congrArg Prod.fst hshown

/-- What is shown to others is the same through the veil. -/
theorem answer_veiled {id other : Int} {viewer : Option Int} (db : Database)
    (hviewer : viewer ≠ some id) :
    ((Cached.profile other).answer (db.veiled (.contact id))).map (shownTo viewer other)
      = ((Cached.profile other).answer db).map (shownTo viewer other) := by
  rw [Cached.answer, Cached.answer, find_veiled]
  cases hfind : find other db with
  | error f => rfl
  | ok found =>
    cases found with
    | none => rfl
    | some u => exact congrArg Except.ok (shownTo_bareAt hviewer (id_of_find hfind))

/-- Two databases that differ in the contact data and the password hash of one user show the
same profiles to everybody else. -/
theorem profile_alike {id other : Int} {viewer : Option Int} (hw : w.Truthful)
    (hw' : w'.Truthful)
    (hveiled : w.database.veiled (.contact id) = w'.database.veiled (.contact id))
    (hviewer : viewer ≠ some id) : Alike w w' (profile other viewer) := by
  rw [Alike, profile_of_truthful hw, profile_of_truthful hw',
    ← answer_veiled w.database hviewer, ← answer_veiled w'.database hviewer, hveiled]

end User

namespace Http

/-- So do the endpoints of a single profile, for every caller but the user. -/
theorem Endpoint.alike_run {id : Int} {v : Visit} (e : Endpoint)
    (he : e = .userMe ∨ e = .userView) (hw : w.Truthful) (hw' : w'.Truthful)
    (hveiled : w.database.veiled (.contact id) = w'.database.veiled (.contact id))
    (hcaller : ∀ i, v.caller = .known i → i.userId ≠ id) : Alike w w' (e.run v) := by
  obtain rfl | ⟨p, hrun⟩ | ⟨op, hserves⟩ := e.run_cases v
  · rcases he with he | he <;> cases he
  · rw [hrun]
    rfl
  generalize e.run v = a at hserves ⊢
  cases hserves with
  | userMe i hi =>
    have hviewer : some i.userId ≠ some id := by
      simpa using hcaller i (Visit.user_eq_ok hi)
    exact .map (User.profile_alike hw hw' hveiled hviewer) answer
  | userView user? other huser =>
    have hviewer : user?.map Identity.userId ≠ some id := by
      rcases Visit.maybeUser_eq_ok huser with ⟨rfl, -⟩ | ⟨i, rfl, hi⟩
      · simp
      · simpa using hcaller i hi
    exact .map (User.profile_alike hw hw' hveiled hviewer) answer
  | _ => rcases he with he | he <;> cases he

/-- What is fixed in the routes tells the endpoints of a single profile from all others. -/
theorem Route.endpoint_of_profile {route : Route} {s : List Char}
    {parameters : List (String × Option String)} {e : Endpoint} (hroute : route ∈ all)
    (hfit : fit? route.path (["api", "v1", "users"].map String.toList ++ [s]) =
      some parameters)
    (he : ("GET", e) ∈ route.endpoints) : e = .userMe ∨ e = .userView := by
  have hall : ∀ route ∈ all, ∀ parameters,
      fit? route.path (["api", "v1", "users"].map String.toList ++ [s]) = some parameters →
      ∀ e, ("GET", e) ∈ route.endpoints → e = .userMe ∨ e = .userView := by
    simp [all, under, fit?]
  exact hall route hroute parameters hfit e he

/-- A request for a profile is answered alike. -/
theorem respond_alike {r : Request} {id : Int} (hr : r.IsForProfile)
    (hcaller : ∀ i, Caller.ofHeaders gateway r.headers = .known i → i.userId ≠ id)
    (hw : w.Truthful) (hw' : w'.Truthful)
    (hveiled : w.database.veiled (.contact id) = w'.database.veiled (.contact id)) :
    (respond gateway r w).1 = (respond gateway r w').1 := by
  obtain ⟨hmethod, s, hpath⟩ := hr
  obtain ⟨response, -, hrespond⟩ |
    ⟨route, hroute, path, parameters, e, hsegments, hfit, he, hrespond⟩ :=
      respond_eq gateway r
  · rw [hrespond, hrespond]
  · rw [hpath] at hsegments
    cases hsegments
    have he := Route.endpoint_of_profile hroute hfit (Route.mem_of_reading he hmethod)
    have halike : Alike w w' (e.run ⟨r, .ofHeaders gateway r.headers, parameters⟩) :=
      e.alike_run he hw hw' hveiled hcaller
    rw [Alike] at halike
    rw [hrespond, hrespond]
    dsimp only
    rw [halike]

end Http

/-! ## What the owner sees -/

namespace Http

/-- Where the cache is truthful, users are shown all of their own profiles. -/
theorem respond_own {r : Request} {i : Identity} {u : User} (hmethod : r.method = "GET")
    (hpath : r.segments = [] :: ["api", "v1", "users", "me"].map String.toList)
    (hcaller : Caller.ofHeaders gateway r.headers = .known i) (hw : w.Truthful)
    (hfind : User.find i.userId w.database = .ok (some u)) :
    (respond gateway r w).1 = .ofOutcome (.ok (answer (Profile.owned u))) := by
  let me : Route :=
    ⟨Route.under "users" [.fixed "me"], [("GET", .userMe), ("PUT", .userChange)]⟩
  have hroute : Route.find? (["api", "v1", "users", "me"].map String.toList) Route.all =
      some (me, []) :=
    rfl
  have hendpoint : me.endpoint? r.method = some .userMe := by
    rw [hmethod]
    rfl
  have hshown : ((User.profile i.userId (some i.userId)).perform w).1 = .ok (.owned u) := by
    rw [User.profile_of_truthful hw, Cached.answer, hfind]
    show Except.ok (User.shownTo (some i.userId) i.userId (.owned u)) = _
    rw [User.shownTo, if_pos rfl]
  have hrun : ((Endpoint.userMe.run ⟨r, .known i, []⟩).perform w).1 =
      .ok (answer (Profile.owned u)) := by
    have hprofile := congrArg Prod.fst
      (outcome_map (User.profile i.userId (some i.userId)) answer w)
    rw [outcome, outcome, hshown] at hprofile
    exact hprofile
  have hget : ¬ r.method = "HEAD" := by simp [hmethod]
  simp only [respond, hpath, hroute, hendpoint, hcaller, if_neg hget, hrun]

end Http

/-- Whether no response shows contact data to anybody but the user it belongs to,
or a password hash. -/
def World.IsDiscreet (gateway : Gateway) (w : World) : Prop :=
  ∀ r body, (respond gateway r w).1.body = some body →
    body.DiscreetTo (.ofHeaders gateway r.headers)

/-- Whether everybody but the user is answered alike in two worlds who asks for a profile. -/
def World.AlikeToOthers (gateway : Gateway) (id : Int) (w w' : World) : Prop :=
  ∀ r : Request, r.IsForProfile →
    (∀ i, Caller.ofHeaders gateway r.headers = .known i → i.userId ≠ id) →
    (respond gateway r w).1 = (respond gateway r w').1

/-- Whether users who ask for their own profiles are shown all that is in them. -/
def World.ShowsOwners (gateway : Gateway) (w : World) : Prop :=
  ∀ (r : Request) (i : Identity) (u : User), r.method = "GET" →
    r.segments = [] :: ["api", "v1", "users", "me"].map String.toList →
    Caller.ofHeaders gateway r.headers = .known i →
    User.find i.userId w.database = .ok (some u) →
    (respond gateway r w).1 = .ofOutcome (.ok (answer (Profile.owned u)))

/-- Contact data stays with its owner in every run that starts with an empty cache, whatever
fails on the way, and without the password hashes every response would be the same. With a
cold cache and after any reading, that of the owner included, the owner is shown all of it,
and databases that differ in what only one user may see are the same to all others. -/
theorem contact_stays_with_its_owner (gateway : Gateway) (start : World) (turns : List Turn)
    (hempty : start.cache.store.entries = []) :
    (start.served gateway turns).IsDiscreet gateway ∧
    (∀ r,
      (respond gateway r
        ((start.veiled .hashes).served gateway (turns.map (.veiled .hashes)))).1
      = (respond gateway r (start.served gateway turns)).1) ∧
    (start.database.Dated → (∀ t ∈ turns, t.IsReading) →
      (start.served gateway turns).ShowsOwners gateway ∧
      ∀ (id : Int) (start' : World) (turns' : List Turn), start'.cache.store.entries = [] →
        start.database.veiled (.contact id) = start'.database.veiled (.contact id) →
        (∀ t ∈ turns', t.IsReading) →
        (start.served gateway turns).AlikeToOthers gateway id
          (start'.served gateway turns')) := by
  refine ⟨fun r body hbody => ?_, fun r => ?_, fun hdb hreads => ?_⟩
  · exact discreet_respond (World.guarded_served hempty turns) hbody
  · rw [World.served_veiled, respond_veiled]
  · obtain ⟨hsame, htruthful⟩ := World.truthful_served gateway hempty hdb hreads
    refine ⟨fun r i u hmethod hpath hcaller hfind => ?_, ?_⟩
    · exact respond_own hmethod hpath hcaller htruthful hfind
    · intro id start' turns' hempty' hveiled hreads' r hr hcaller
      have hdb' : start'.database.Dated := dated_veiled.mp (hveiled ▸ dated_veiled.mpr hdb)
      obtain ⟨hsame', htruthful'⟩ := World.truthful_served gateway hempty' hdb' hreads'
      refine respond_alike hr hcaller htruthful htruthful' ?_
      rw [hsame, hsame', hveiled]

/-- The world in which the user has contact data and a password. -/
def World.sampleContact : World :=
  let u : User :=
    { User.sample with
      email := some "ada@example.org", phone := some "0123456789",
      passwordHash := some "5f4dcc3b" }
  { World.sample with database.users := ⟨some ⟨[u.stored], 1⟩, none⟩ }

/-- The user has read the own profile, with contact data in it. Who is not signed in sees the
same profile as where there is none. -/
theorem contact_stays_with_its_owner_sample :
    let own : Request := ⟨"GET", "/api/v1/users/me", [("x-user-id", "1")], ""⟩
    let other : Request := ⟨"GET", "/api/v1/users/1", [], ""⟩
    (World.sampleContact.served {} [.request own]).IsDiscreet {} ∧
      (World.sampleContact.served {} [.request own]).ShowsOwners {} ∧
      (respond {} other (World.sampleContact.served {} [.request own])).1
        = (respond {} other (World.sample.served {} [])).1 := by
  intro own other
  obtain ⟨hdiscreet, -, hreading⟩ :=
    contact_stays_with_its_owner {} World.sampleContact [.request own] rfl
  have hdated : World.sampleContact.database.Dated := by
    refine ⟨fun c hc => absurd hc List.not_mem_nil, fun u hu => ?_,
      fun f hf => absurd hf List.not_mem_nil⟩
    cases List.mem_singleton.mp hu
    exact ⟨nofun, by decide⟩
  have hown : ∀ t ∈ [Turn.request own], t.IsReading := by
    intro t ht
    cases List.mem_singleton.mp ht
    exact Or.inl rfl
  have hveiled : World.sampleContact.database.veiled (.contact 1)
      = World.sample.database.veiled (.contact 1) := rfl
  have hprofile : other.IsForProfile := ⟨Or.inl rfl, ['1'], by decide⟩
  have hcaller : ∀ i, Caller.ofHeaders {} other.headers = .known i → i.userId ≠ 1 := by
    simp [other, Caller.ofHeaders, trimmedHeader?, header?]
  obtain ⟨hshown, halike⟩ := hreading hdated hown
  have hsame := halike 1 World.sample [] rfl hveiled (by simp)
  exact ⟨hdiscreet, hshown, hsame other hprofile hcaller⟩

end Community

import Community.Proofs.Http.Authority

/-!
# Who is turned away at the door

Twelve routes demand a user, or an administrator. Each of their endpoints looks at the caller
before it reads anything else, so who does not meet the demand is turned away with nothing
looked at: no parameter, no query, no body, no table and no entry of the cache.

> `Endpoint.run_demanded`: the first step of such an endpoint is the look at the caller.

> `guarded_routes_reveal_nothing`: the response is made of the two headers that name the
> user and the role. Two requests that agree in these cannot be told apart by it, whatever
> else is in them and in whatever worlds they are answered.

HEAD reaches what GET reaches, and its response has no body, so this is the one thing beside
the headers that shows.
-/

namespace Community.Http

open Procedure Text

/-! ## The caller in the headers -/

namespace Caller

variable {gateway : Gateway} {headers : List (String × String)} {raw : String}

/-- Without the header of the user the caller is anonymous. -/
theorem ofHeaders_of_none (h : trimmedHeader? headers gateway.userIdHeader = none) :
    ofHeaders gateway headers = .anonymous := by
  rw [ofHeaders, h]

/-- A header that is no number makes the caller malformed. -/
theorem ofHeaders_of_error {fault : IntegerFault}
    (h : trimmedHeader? headers gateway.userIdHeader = some raw)
    (hfault : readInt64 raw = .error fault) :
    ofHeaders gateway headers = .malformed raw := by
  simp only [ofHeaders, h, hfault]

/-- A number makes the caller known, with the role of the other header. -/
theorem ofHeaders_of_ok {id : Int}
    (h : trimmedHeader? headers gateway.userIdHeader = some raw)
    (hid : readInt64 raw = .ok id) :
    ∃ i, ofHeaders gateway headers = .known i ∧
      i.role = roleOf (trimmedHeader? headers gateway.roleHeader) := by
  simp only [ofHeaders, h, hid]
  exact ⟨_, rfl, rfl⟩

end Caller

/-! ## Demands -/

/-- What a route demands of the caller. -/
inductive Demand
  | user
  | admin
  deriving DecidableEq

namespace Demand

/-- The caller is known, and an administrator if one is demanded. -/
def IsMetBy (d : Demand) (c : Caller) : Prop :=
  ∃ i, c = .known i ∧ (d = admin → i.role = .admin)

/-- Why a caller is turned away. -/
def refusal? : Demand → Caller → Option Problem
  | _, .anonymous => some .unauthorized
  | _, .malformed raw => some (.request (.malformedUserId raw))
  | user, .known _ => none
  | admin, .known i => if i.isAdmin then none else some .adminRequired

variable {d : Demand} {c : Caller}

/-- A caller who does not meet the demand is refused with some problem. -/
theorem exists_refusal (h : ¬ d.IsMetBy c) : ∃ p, d.refusal? c = some p := by
  cases c with
  | anonymous => exact ⟨_, rfl⟩
  | malformed raw => exact ⟨_, rfl⟩
  | known i =>
    cases d with
    | user => exact absurd ⟨i, rfl, nofun⟩ h
    | admin =>
      have hrole : ¬ i.isAdmin = true :=
        fun hadmin => h ⟨i, rfl, fun _ => of_decide_eq_true hadmin⟩
      exact ⟨_, if_neg hrole⟩

/-- The name of the user is not looked at. -/
theorem refusal?_ofHeaders {gateway : Gateway} {headers headers' : List (String × String)}
    (huser : trimmedHeader? headers' gateway.userIdHeader =
      trimmedHeader? headers gateway.userIdHeader)
    (hrole : trimmedHeader? headers' gateway.roleHeader =
      trimmedHeader? headers gateway.roleHeader) :
    d.refusal? (.ofHeaders gateway headers') = d.refusal? (.ofHeaders gateway headers) := by
  rw [Caller.ofHeaders, Caller.ofHeaders, huser, hrole]
  split
  · rfl
  · split
    · rfl
    · cases d <;> rfl

end Demand

/-! ## Endpoints that demand -/

/-- The sender, who has to meet the demand. -/
def Visit.demanded (v : Visit) : Demand → Except Problem Identity
  | .user => v.user
  | .admin => v.admin

theorem Visit.demanded_of_refusal {v : Visit} {d : Demand} {p : Problem}
    (h : d.refusal? v.caller = some p) : v.demanded d = .error p := by
  obtain ⟨request, caller, parameters⟩ := v
  cases caller with
  | anonymous | malformed => cases d <;> cases h <;> rfl
  | known i =>
    cases d with
    | user => cases h
    | admin =>
      by_cases hadmin : i.isAdmin = true
      · rw [Demand.refusal?, if_pos hadmin] at h
        cases h
      · rw [Demand.refusal?, if_neg hadmin] at h
        cases h
        exact if_neg hadmin

namespace Endpoint

variable {e : Endpoint} {d : Demand}

/-- What an endpoint demands of the caller. -/
def demand? : Endpoint → Option Demand
  | categoryCreate | categoryChange | categoryRemove => some .admin
  | likeToggle | likeMine | likeCheck | favoriteToggle | favoriteList | favoriteCheck
  | searchHistory | userMe | userChange => some .user
  | _ => none

/-- An endpoint that demands something looks at the caller first. -/
theorem run_demanded (h : e.demand? = some d) (v : Visit) :
    ∃ rest, e.run v = check (v.demanded d) >>= rest := by
  cases e <;> cases h <;> exact ⟨_, rfl⟩

/-- Who does not meet the demand leaves the world alone. -/
theorem perform_refused {v : Visit} {p : Problem} (h : e.demand? = some d)
    (hp : d.refusal? v.caller = some p) (w : World) :
    (e.run v).perform w = (.error p, w) := by
  obtain ⟨rest, hrun⟩ := run_demanded h v
  rw [hrun, Visit.demanded_of_refusal hp]
  rfl

end Endpoint

/-! ## Routes that demand -/

/-- A method and a path, and what is demanded of the caller there. -/
structure Guarded where
  method : String
  path : List Segment
  demand : Demand
  deriving DecidableEq

namespace Route

open Segment

/-- The routes that demand a user or an administrator. -/
def guarded : List Guarded :=
  [⟨"POST", under "likes" [fixed "toggle"], .user⟩,
   ⟨"GET", under "likes" [fixed "me"], .user⟩,
   ⟨"GET",
     under "likes" [fixed "check", parameter "like_type", parameter "target_id"], .user⟩,
   ⟨"POST", under "favorites" [fixed "toggle"], .user⟩,
   ⟨"GET", under "favorites" [], .user⟩,
   ⟨"GET", under "favorites" [fixed "check", parameter "favorite_type",
     parameter "target_id"], .user⟩,
   ⟨"GET", under "search" [fixed "history"], .user⟩,
   ⟨"GET", under "users" [fixed "me"], .user⟩,
   ⟨"PUT", under "users" [fixed "me"], .user⟩,
   ⟨"POST", under "categories" [], .admin⟩,
   ⟨"PUT", under "categories" [parameter "id"], .admin⟩,
   ⟨"DELETE", under "categories" [parameter "id"], .admin⟩]

/-- The endpoint that is found at a guarded route makes the demand. -/
theorem demand_of_guarded {route : Route} {g : Guarded} (hroute : route ∈ all)
    (hg : g ∈ guarded) (hpath : route.path = g.path) :
    ∃ e, route.endpoint? g.method = some e ∧ e.demand? = some g.demand := by
  have hall : ∀ g ∈ guarded, ∀ route ∈ all, route.path = g.path →
      (route.endpoint? g.method).bind Endpoint.demand? = some g.demand := by
    decide
  exact Option.bind_eq_some_iff.mp (hall g hg route hroute hpath)

end Route

/-- Whether the service takes a request for one to the method and the path. It
takes HEAD for GET. -/
def Request.goesTo (r : Request) (method : String) (path : List Segment) : Prop :=
  (r.method = method ∨ (r.method = "HEAD" ∧ method = "GET")) ∧
    ∃ segments route parameters, r.segments = [] :: segments ∧
      Route.find? segments Route.all = some (route, parameters) ∧ route.path = path

/-- Whether a request is answered with the status and the body in every world, which
is left as it is. -/
def Request.IsTurnedAway (gateway : Gateway) (r : Request) (status : Nat) (body : Json) :
    Prop :=
  ∀ w, respond gateway r w = (⟨status, if r.method = "HEAD" then none else some body, []⟩, w)

section Gate

variable {gateway : Gateway} {r : Request} {g : Guarded}

variable (gateway) in
/-- A request is answered by the endpoint that is found at its route. -/
theorem respond_of_goesTo {method : String} {path : List Segment}
    (hr : r.goesTo method path) :
    ∃ route ∈ Route.all, route.path = path ∧
    ∃ parameters, ∀ e, route.endpoint? method = some e → ∀ w, respond gateway r w =
        let x := (e.run ⟨r, .ofHeaders gateway r.headers, parameters⟩).perform w
        (r.reply x.1, x.2) := by
  obtain ⟨hmethod, segments, route, parameters, hsegments, hfind, hpath⟩ := hr
  refine ⟨route, (Route.find?_eq_some hfind).1, hpath, parameters, fun e he w => ?_⟩
  have hendpoint : route.endpoint? r.method = some e := by
    rw [← he]
    rcases hmethod with hmethod | ⟨hhead, hget⟩
    · rw [hmethod]
    · rw [hhead, hget]
      rfl
  simp only [respond, hsegments, hfind, hendpoint, Request.reply]

/-- A request that fails in every world is turned away. -/
theorem isTurnedAway_of_error {p : Problem}
    (h : ∀ w, respond gateway r w = (r.reply (.error p), w)) :
    r.IsTurnedAway gateway p.report.kind.status p.report.body := by
  intro w
  rw [h, Request.reply]
  split <;> rfl

/-- Who does not meet the demand of a route is turned away with the reason. -/
theorem isTurnedAway_of_refusal {p : Problem} (hg : g ∈ Route.guarded)
    (hr : r.goesTo g.method g.path)
    (hp : g.demand.refusal? (.ofHeaders gateway r.headers) = some p) :
    r.IsTurnedAway gateway p.report.kind.status p.report.body := by
  obtain ⟨route, hroute, hpath, parameters, hrespond⟩ := respond_of_goesTo gateway hr
  obtain ⟨e, he, hdemand⟩ := Route.demand_of_guarded hroute hg hpath
  refine isTurnedAway_of_error fun w => ?_
  rw [hrespond e he, Endpoint.perform_refused hdemand hp]

/-- Nothing is revealed at a guarded route before it is settled who asks. Without a user in
the headers, with an identifier that is no number, and, where an administrator is demanded,
with another role, the response is fixed by the two headers that name the user and the role.
The world stays as it is, down to the calls that its cache has had. Another request to a
guarded route of the same demand that agrees in these headers is answered alike in any world,
whatever parameters, query and body it has. -/
theorem guarded_routes_reveal_nothing (gateway : Gateway) (g : Guarded)
    (hg : g ∈ Route.guarded) (r : Request) (hr : r.goesTo g.method g.path) :
    let userId? := trimmedHeader? r.headers gateway.userIdHeader
    let role? := trimmedHeader? r.headers gateway.roleHeader
    (userId? = none → r.IsTurnedAway gateway 401 (Report.body ⟨.unauthorized, ""⟩)) ∧
    (∀ raw fault, userId? = some raw → readInt64 raw = .error fault →
      r.IsTurnedAway gateway 400
        (Report.body ⟨.badRequest, "Invalid user id header: " ++ raw⟩)) ∧
    (∀ raw id, userId? = some raw → readInt64 raw = .ok id → g.demand = .admin →
      Caller.roleOf role? ≠ .admin →
      r.IsTurnedAway gateway 403 (Report.body ⟨.forbidden, "Administrator role required"⟩)) ∧
    (¬ g.demand.IsMetBy (.ofHeaders gateway r.headers) →
      ∀ g' ∈ Route.guarded, g'.demand = g.demand →
      ∀ r' : Request, r'.goesTo g'.method g'.path →
        (r'.method = "HEAD" ↔ r.method = "HEAD") →
        trimmedHeader? r'.headers gateway.userIdHeader = userId? →
        trimmedHeader? r'.headers gateway.roleHeader = role? →
        ∀ w w', (respond gateway r w).1 = (respond gateway r' w').1 ∧
          (respond gateway r w).2 = w ∧ (respond gateway r' w').2 = w') := by
  intro userId? role?
  refine ⟨?_, ?_, ?_, ?_⟩
  · intro hnone
    refine isTurnedAway_of_refusal (p := .unauthorized) hg hr ?_
    rw [Caller.ofHeaders_of_none hnone]
    rfl
  · intro raw fault hraw hfault
    refine isTurnedAway_of_refusal (p := .request (.malformedUserId raw)) hg hr ?_
    rw [Caller.ofHeaders_of_error hraw hfault]
    rfl
  · intro raw id hraw hid hadmin hrole
    obtain ⟨i, hcaller, hi⟩ := Caller.ofHeaders_of_ok hraw hid
    refine isTurnedAway_of_refusal (p := .adminRequired) hg hr ?_
    rw [hadmin, hcaller]
    exact if_neg fun hisAdmin => hrole (hi ▸ of_decide_eq_true hisAdmin)
  · intro hmet g' hg' hdemand r' hr' hhead huser hrole w w'
    obtain ⟨p, hp⟩ := Demand.exists_refusal hmet
    have hp' : g'.demand.refusal? (.ofHeaders gateway r'.headers) = some p := by
      rw [hdemand, Demand.refusal?_ofHeaders huser hrole, hp]
    have haway := isTurnedAway_of_refusal hg hr hp w
    have haway' := isTurnedAway_of_refusal hg' hr' hp' w'
    simp only [haway, haway', hhead, and_self]

/-- Someone who is no administrator learns nothing from what is in a request: to
remove a category that is there is refused like the making of a category from a
body that is no JSON. -/
theorem guarded_routes_reveal_nothing_sample :
    let headers := [("X-User-Id", " 1 "), ("x-user-role", "VIP")]
    let remove : Request := ⟨"DELETE", "/api/v1/categories/1", headers, ""⟩
    let create : Request := ⟨"POST", "/api/v1/categories?page=x", headers, "no JSON"⟩
    remove.IsTurnedAway {} 403 (Report.body ⟨.forbidden, "Administrator role required"⟩) ∧
      (respond {} remove World.sample).1 = (respond {} create World.sample).1 := by
  have hremove :
      (⟨"DELETE", "/api/v1/categories/1", [("X-User-Id", " 1 "), ("x-user-role", "VIP")], ""⟩
      : Request).goesTo "DELETE" (Route.under "categories" [.parameter "id"]) :=
    ⟨Or.inl rfl, _, _, _, rfl, rfl, rfl⟩
  have hcreate :
      (⟨"POST", "/api/v1/categories?page=x", [("X-User-Id", " 1 "), ("x-user-role", "VIP")],
      "no JSON"⟩ : Request).goesTo "POST" (Route.under "categories" []) :=
    ⟨Or.inl rfl, _, _, _, rfl, rfl, rfl⟩
  intro headers remove create
  obtain ⟨-, -, hforbidden, halike⟩ := guarded_routes_reveal_nothing {}
    ⟨"DELETE", Route.under "categories" [.parameter "id"], .admin⟩ (by decide) remove hremove
  have hmet : ¬ Demand.admin.IsMetBy (.ofHeaders {} remove.headers) := by
    rintro ⟨i, hi, hrole⟩
    cases hi
    exact absurd (hrole rfl) (by decide)
  refine ⟨hforbidden "1" 1 rfl rfl rfl (by decide), ?_⟩
  exact (halike hmet ⟨"POST", Route.under "categories" [], .admin⟩
    (by decide) rfl create hcreate (by decide)
    rfl rfl World.sample World.sample).1

end Gate

end Community.Http

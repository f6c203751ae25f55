import Community.Http.Endpoint

/-!
# Routes

A route is a path with parameters, and an endpoint for each method that it admits. Of several
routes that fit a path, the one with the first fixed segment wins. A route that admits GET
admits HEAD too: the answer is the same, without its body.
-/

namespace Community.Http

/-- A segment of a route. -/
inductive Segment
  | fixed (text : String)
  | parameter (name : String)
  deriving DecidableEq, Repr

/-- A route. -/
structure Route where
  path : List Segment
  endpoints : List (String × Endpoint)

namespace Route

open Segment

/-- The segments under which a part of the service is found. -/
def under (part : String) (rest : List Segment) : List Segment :=
  fixed "api" :: fixed "v1" :: fixed part :: rest

/-- The routes of the service. Where one path fits several of them, the earlier one wins. -/
def all : List Route :=
  [⟨[fixed "health"], [("GET", .health)]⟩,
   ⟨under "categories" [], [("GET", .categoryList), ("POST", .categoryCreate)]⟩,
   ⟨under "categories" [fixed "tree"], [("GET", .categoryTree)]⟩,
   ⟨under "categories" [parameter "id"],
    [("GET", .categoryView), ("PUT", .categoryChange), ("DELETE", .categoryRemove)]⟩,
   ⟨under "categories" [parameter "id", fixed "root"], [("GET", .categoryAncestors)]⟩,
   ⟨under "likes" [fixed "toggle"], [("POST", .likeToggle)]⟩,
   ⟨under "likes" [fixed "me"], [("GET", .likeMine)]⟩,
   ⟨under "likes" [fixed "check", parameter "like_type", parameter "target_id"],
    [("GET", .likeCheck)]⟩,
   ⟨under "likes" [parameter "like_type", parameter "target_id", fixed "users"],
    [("GET", .likeLikers)]⟩,
   ⟨under "favorites" [], [("GET", .favoriteList)]⟩,
   ⟨under "favorites" [fixed "toggle"], [("POST", .favoriteToggle)]⟩,
   ⟨under "favorites" [fixed "check", parameter "favorite_type", parameter "target_id"],
    [("GET", .favoriteCheck)]⟩,
   ⟨under "search" [], [("POST", .search)]⟩,
   ⟨under "search" [fixed "history"], [("GET", .searchHistory)]⟩,
   ⟨under "search" [fixed "hot"], [("GET", .searchHot)]⟩,
   ⟨under "users" [], [("GET", .userList)]⟩,
   ⟨under "users" [fixed "me"], [("GET", .userMe), ("PUT", .userChange)]⟩,
   ⟨under "users" [parameter "id"], [("GET", .userView)]⟩]

/-- The parameters of a path that fits the segments of a route. A parameter is not empty. -/
def fit? : List Segment → List (List Char) → Option (List (String × Option String))
  | [], [] => some []
  | fixed text :: route, s :: path => if s = text.toList then fit? route path else none
  | parameter name :: route, s :: path =>
    if s.isEmpty then none else (fit? route path).map ((name, segmentText? s) :: ·)
  | _, _ => none

/-- The first route that fits a path, with the parameters. -/
def find? (path : List (List Char)) :
    List Route → Option (Route × List (String × Option String))
  | [] => none
  | r :: rest =>
    match fit? r.path path with
    | some parameters => some (r, parameters)
    | none => find? path rest

/-- The endpoint for a method. -/
def endpoint? (r : Route) (method : String) : Option Endpoint :=
  r.endpoints.lookup (if method = "HEAD" then "GET" else method)

/-- The methods that a route admits, in order. -/
def methods (r : Route) : List String :=
  let named := r.endpoints.map Prod.fst
  (if named.contains "GET" then "HEAD" :: named else named).mergeSort fun a b => a ≤ b

end Route

/-- The response to the outcome of an endpoint. -/
def Response.ofOutcome : Except Problem Answer → Response
  | .ok a => ⟨200, some a.body, []⟩
  | .error p => ⟨p.report.kind.status, some p.report.body, []⟩

/-- The response without its body. -/
def Response.withoutBody (r : Response) : Response :=
  { r with body := none }

/-- The response to a request, and the world after it. -/
def respond (gateway : Gateway) (r : Request) (w : World) : Response × World :=
  match r.segments with
  | [] :: path =>
    match Route.find? path Route.all with
    | none => (⟨404, none, []⟩, w)
    | some (route, parameters) =>
      match route.endpoint? r.method with
      | none => (⟨405, none, route.methods⟩, w)
      | some endpoint =>
        let (outcome, w) :=
          (endpoint.run ⟨r, .ofHeaders gateway r.headers, parameters⟩).perform w
        let response := Response.ofOutcome outcome
        (if r.method = "HEAD" then response.withoutBody else response, w)
  | _ => (⟨404, none, []⟩, w)

end Community.Http

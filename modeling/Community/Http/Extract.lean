import Community.Http.Identity
import Community.Http.Percent
import Community.Http.Query
import Community.Problem

/-!
# What endpoints read from a request

An endpoint reads the sender, the parameters of the path, the query and the body one after
the other, each in its own order; the first that cannot be read decides the answer.
-/

namespace Community.Http

open Text Json

/-- A request at an endpoint. -/
structure Visit where
  request : Request
  caller : Caller
  /-- The parameters of the path, each with its text if it has one. -/
  parameters : List (String × Option String)

namespace Visit

/-- The sender, who may be anonymous. -/
def maybeUser (v : Visit) : Except Problem (Option Identity) :=
  match v.caller with
  | .anonymous => .ok none
  | .malformed raw => .error (.request (.malformedUserId raw))
  | .known identity => .ok (some identity)

/-- The sender, who has to be signed in. -/
def user (v : Visit) : Except Problem Identity := do
  match ← v.maybeUser with
  | some identity => return identity
  | none => .error .unauthorized

/-- The sender, who has to be an administrator. -/
def admin (v : Visit) : Except Problem Identity := do
  let identity ← v.user
  if identity.isAdmin then return identity else .error .adminRequired

/-- The name that the client gave the request. -/
def requestId (v : Visit) : Except Problem (Option String) :=
  match trimmedHeader? v.request.headers "idempotency-key" with
  | some key =>
    if 128 < key.utf8ByteSize then .error (.request .longRequestId) else .ok (some key)
  | none => .ok none

/-- The texts of the path parameters. -/
def texts : List (String × Option String) → Except Problem (List String)
  | [] => .ok []
  | (name, none) :: _ => .error (.request (.pathEncoding name))
  | (_, some s) :: rest => (texts rest).map (s :: ·)

/-- The only path parameter, a number. -/
def id (v : Visit) : Except Problem Int := do
  let raw := (← texts v.parameters).headD ""
  (readInt64 raw).mapError fun _ => .request (.pathNumber raw)

/-- The two path parameters: the text of a tag, and a number. -/
def target (v : Visit) : Except Problem (String × Int) := do
  match ← texts v.parameters with
  | tag :: raw :: _ =>
    let n ← (readInt64 raw).mapError fun _ => .request (.pathNumberAt 1 raw)
    return (tag, n)
  | _ => .error (.request (.pathEncoding ""))

/-- The query. -/
def query {α : Type} (v : Visit) (q : Query α) : Except Problem α :=
  (q.read (queryFields v.request.query)).mapError fun fault => .request (.query fault)

/-- The body, which has to be JSON. -/
def body (α : Type) [Decode α] (v : Visit) : Except Problem α :=
  if (header? v.request.headers "content-type").any isJsonType then
    (parse v.request.body).mapError fun
      | .malformed => .request .malformedBody
      | .mismatch path what => .request (.body path what)
  else .error (.request .contentType)

end Visit

/-- The like type that the text of a parameter names. -/
def likeTypeOf (raw : String) : Except Problem LikeType :=
  match LikeType.named? raw with
  | some t => .ok t
  | none => .error (.request (.unsupportedTag "like" raw))

/-- The favourite type that the text of a parameter names. -/
def favoriteTypeOf (raw : String) : Except Problem FavoriteType :=
  match FavoriteType.named? raw with
  | some t => .ok t
  | none => .error (.request (.unsupportedTag "favorite" raw))

/-- The page, if it may be asked for. -/
def checkedPage (p : Page) : Except Problem Page := do
  Problem.ofIssues p.issues
  return p

end Community.Http

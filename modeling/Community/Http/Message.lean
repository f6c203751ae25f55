import Community.Http.MediaType
import Community.Json.Basic
import Community.Text.Blank

/-!
# Requests and responses
-/

namespace Community.Http

open Text

/-- A request. -/
structure Request where
  method : String
  /-- What is asked for: a path, and after a question mark the query. A scheme and a host may
  stand in front, and a fragment at the end. -/
  target : String
  headers : List (String × String)
  body : String

/-- Whether `c` may stand in the name of a scheme. -/
def isSchemeChar (c : Char) : Bool :=
  c.isAlphanum || c == '+' || c == '-' || c == '.'

/-- A target without a scheme and a host in front. -/
def withoutHost (cs : List Char) : List Char :=
  match cs.dropWhile isSchemeChar with
  | ':' :: '/' :: '/' :: rest =>
    match rest.dropWhile fun c => c != '/' && c != '?' with
    | '/' :: path => '/' :: path
    | query => '/' :: query
  | _ => cs

namespace Request

/-- The path and the query. The fragment is for the caller alone. -/
def resource (r : Request) : List Char :=
  withoutHost (r.target.toList.takeWhile (· != '#'))

/-- The segments of the path. The first one is what stands before the first slash. -/
def segments (r : Request) : List (List Char) :=
  splitOn '/' (r.resource.takeWhile (· != '?'))

/-- The query, empty if there is none. -/
def query (r : Request) : List Char :=
  (r.resource.dropWhile (· != '?')).drop 1

end Request

/-- Whether `c` may stand in a header value that is read. -/
def isVisible (c : Char) : Bool :=
  c == '\t' || (0x20 ≤ c.toNat && c.toNat < 0x7F)

/-- The value of the first header of that name, if all of it is visible. The case of
names does not count. -/
def header? (headers : List (String × String)) (name : String) : Option String :=
  if name.isEmpty || !name.toList.all isTokenChar then none
  else match headers.find? fun h => lowerAscii h.1 == lowerAscii name with
    | none => none
    | some (_, value) => if value.toList.all isVisible then some value else none

/-- The value of a header without blanks around it, unless nothing is left of it. -/
def trimmedHeader? (headers : List (String × String)) (name : String) : Option String :=
  (header? headers name).bind nonBlank?

/-- What an endpoint answers. -/
structure Answer where
  data : Json
  message : String := "success"

/-- The body of an answer. -/
def Answer.body (a : Answer) : Json :=
  .obj [("code", .int 200), ("success", .bool true), ("message", .str a.message),
    ("data", a.data)]

/-- A response. -/
structure Response where
  status : Nat
  /-- The body, if it is not empty. -/
  body : Option Json
  /-- The methods that the path admits, where the request's is not among them. -/
  allow : List String := []

end Community.Http

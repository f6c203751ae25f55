import Community.Json.Basic

/-!
# Reports of failed operations

Whatever goes wrong is reported as one of nine kinds with a detail. The kind decides the HTTP
status and whether the caller may read the detail: server errors never show theirs.
-/

namespace Community

/-- The kinds of report. -/
inductive ReportKind
  | notFound
  | unauthorized
  | forbidden
  | badRequest
  | validation
  | conflict
  | database
  | config
  | internal
  deriving DecidableEq, Repr

namespace ReportKind

/-- The HTTP status of the answer. -/
def status : ReportKind → Nat
  | notFound => 404
  | unauthorized => 401
  | forbidden => 403
  | badRequest | validation => 400
  | conflict => 409
  | database | config | internal => 500

/-- The code in the body of the answer. -/
def code : ReportKind → String
  | notFound => "NOT_FOUND"
  | unauthorized => "UNAUTHORIZED"
  | forbidden => "FORBIDDEN"
  | badRequest => "BAD_REQUEST"
  | validation => "VALIDATION_ERROR"
  | conflict => "CONFLICT"
  | database => "DATABASE_ERROR"
  | config => "CONFIG_ERROR"
  | internal => "INTERNAL_ERROR"

/-- Whether the service, and not the caller, is at fault. -/
def isServerError (k : ReportKind) : Bool :=
  500 ≤ k.status

end ReportKind

/-- A report. -/
structure Report where
  kind : ReportKind
  detail : String
  deriving DecidableEq, Repr

namespace Report

/-- The report in words. -/
def display (r : Report) : String :=
  match r.kind with
  | .notFound => "Not found: " ++ r.detail
  | .unauthorized => "Unauthorized"
  | .forbidden => "Forbidden: " ++ r.detail
  | .badRequest => "Bad request: " ++ r.detail
  | .validation => "Validation error: " ++ r.detail
  | .conflict => "Conflict: " ++ r.detail
  | .database => "Database error: " ++ r.detail
  | .config => "Configuration error: " ++ r.detail
  | .internal => "Internal error: " ++ r.detail

/-- What the caller is told. -/
def publicMessage (r : Report) : String :=
  if r.kind.isServerError then "Internal server error" else r.display

/-- The body of the answer. -/
def body (r : Report) : Json :=
  .obj [("code", encode r.kind.status), ("success", .bool false),
    ("message", .str r.publicMessage), ("error", .str r.kind.code), ("data", .null)]

end Report

end Community

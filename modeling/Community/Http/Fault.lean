import Community.Json.Decoder
import Community.Text.Integer

/-!
# Faults of requests

Why a request cannot be understood, whatever it asks for.
-/

namespace Community.Http

open Text Json

/-- What is wrong with a query string. -/
inductive QueryFault
  /-- A known field is given twice. -/
  | repeated (field : String)
  | integer (field : String) (fault : IntegerFault)
  | variant (field found : String) (names : List String)

/-- The fault in words. -/
def QueryFault.message : QueryFault → String
  | repeated field => (Mismatch.duplicateField field).message
  | integer field fault => field ++ ": " ++ fault.message
  | variant field found names =>
    field ++ ": " ++ (Mismatch.unknownVariant found names).message

/-- Why a request cannot be understood. -/
inductive Fault
  | malformedUserId (raw : String)
  | longRequestId
  /-- The value of a path parameter is not text. -/
  | pathEncoding (parameter : String)
  /-- The only path parameter is not a number. -/
  | pathNumber (raw : String)
  /-- One of several path parameters is not a number. -/
  | pathNumberAt (index : Nat) (raw : String)
  | unsupportedTag (what raw : String)
  | query (fault : QueryFault)
  | contentType
  | malformedBody
  | body (path : List Step) (what : Mismatch)

/-- The fault in words. -/
def Fault.message : Fault → String
  | malformedUserId raw => "Invalid user id header: " ++ raw
  | longRequestId => "Idempotency-Key must be at most 128 characters"
  | pathEncoding parameter => "Invalid URL: Invalid UTF-8 in `" ++ parameter ++ "`"
  | pathNumber raw => "Invalid URL: Cannot parse `" ++ raw ++ "` to a `i64`"
  | pathNumberAt index raw =>
    "Invalid URL: Cannot parse value at index " ++ toString index ++
      " with value `" ++ raw ++ "` to a `i64`"
  | unsupportedTag what raw => "unsupported " ++ what ++ " type: " ++ raw
  | query fault => "Failed to deserialize query string: " ++ fault.message
  | contentType => "Expected request with `Content-Type: application/json`"
  | malformedBody => "Failed to parse the request body as JSON"
  | body path what =>
    "Failed to deserialize the JSON body into the target type: " ++ located path what

end Community.Http

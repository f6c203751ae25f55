import Community.Http.Message
import Community.Text.Integer
import Community.User.Basic

/-!
# Who sends a request

The gateway in front of the service signs users in and names them in headers. A request
without the header of the identifier is anonymous. The username may be left out, and a role
that is not known counts as that of an ordinary user.
-/

namespace Community.Http

open Text

/-- The headers that name the user. -/
structure Gateway where
  userIdHeader : String := "x-user-id"
  usernameHeader : String := "x-username"
  roleHeader : String := "x-user-role"

/-- A user who is signed in. -/
structure Identity where
  userId : Int
  username : String
  role : UserRole

/-- Whether the user may change what belongs to all. -/
def Identity.isAdmin (i : Identity) : Bool :=
  i.role = .admin

/-- The sender of a request. -/
inductive Caller
  | anonymous
  | malformed (raw : String)
  | known (identity : Identity)

namespace Caller

/-- The role that a text names, in either case. -/
def roleOf (text? : Option String) : UserRole :=
  (text?.bind fun s => Tag.ofText? (lowerAscii s)).getD .user

/-- The sender that headers name. -/
def ofHeaders (gateway : Gateway) (headers : List (String × String)) : Caller :=
  match trimmedHeader? headers gateway.userIdHeader with
  | none => anonymous
  | some raw =>
    match readInt64 raw with
    | .error _ => malformed raw
    | .ok id =>
      known
        { userId := id
          username := (trimmedHeader? headers gateway.usernameHeader).getD
            ("user_" ++ toString id)
          role := roleOf (trimmedHeader? headers gateway.roleHeader) }

end Caller

end Community.Http

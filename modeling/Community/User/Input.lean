import Community.User.Basic
import Community.User.Email
import Community.Validation

/-!
# Requests that change a profile

Users change their own profile only. A request leaves alone what it does not name.
-/

namespace Community

open Json

/-- A request to change a profile. -/
structure ProfileChange where
  username : Option String
  email : Option String
  nickname : Option String
  avatar : Option String
  bio : Option String
  gender : Option Gender
  location : Option String

namespace ProfileChange

/-- How the request is read. -/
def fields : Fields ProfileChange :=
  ProfileChange.mk <$> field "username" <*> field "email" <*> field "nickname"
    <*> field "avatar" <*> field "bio" <*> field "gender" <*> field "location"

instance : Decode ProfileChange := ⟨fields.decode "struct UpdateProfileInput", none⟩

/-- A text is a mail address. -/
def checkEmail (s : String) : List Issue :=
  if Email.isAddress s then [] else [⟨"email", "email", [("value", .text s)]⟩]

/-- What is wrong with the request. -/
def issues (r : ProfileChange) : List Issue :=
  Check.given (Check.length "username" (some 3) (some 32)) r.username ++
  Check.given checkEmail r.email ++
  Check.given (Check.length "nickname" none (some 64)) r.nickname ++
  Check.given (Check.length "avatar" none (some 512)) r.avatar ++
  Check.given (Check.length "bio" none (some 500)) r.bio ++
  Check.given (Check.length "location" none (some 100)) r.location

end ProfileChange

/-- What a list of users is filtered by. -/
structure UserFilter where
  keyword : Option String
  status : Option UserStatus
  role : Option UserRole

end Community

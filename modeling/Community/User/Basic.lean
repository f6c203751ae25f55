import Community.Tag
import Community.Time.Timestamp

/-!
# Users and their profiles

A profile is what clients see of a user. Contact data belongs in the owner's own profile
only; a masked profile has none.
-/

namespace Community

open Time Json

/-- The gender a user has given. -/
inductive Gender
  | male
  | female
  | unknown
  deriving DecidableEq, Repr

instance : Tag Gender where
  title := "Gender"
  all := [.male, .female, .unknown]
  spelling
    | .male => "male"
    | .female => "female"
    | .unknown => "unknown"

/-- The state of an account. -/
inductive UserStatus
  | active
  | inactive
  | banned
  deriving DecidableEq, Repr

instance : Tag UserStatus where
  title := "UserStatus"
  all := [.active, .inactive, .banned]
  spelling
    | .active => "active"
    | .inactive => "inactive"
    | .banned => "banned"

/-- What a user may do. -/
inductive UserRole
  | user
  | vip
  | blogger
  | admin
  deriving DecidableEq, Repr

instance : Tag UserRole where
  title := "UserRole"
  all := [.user, .vip, .blogger, .admin]
  spelling
    | .user => "user"
    | .vip => "vip"
    | .blogger => "blogger"
    | .admin => "admin"

/-- The columns of a user. -/
structure User.Columns (col : Type → Type) where
  id : Int
  username : String
  email : Option String
  phone : Option String
  /-- Owned by the sign-in service and never shown. -/
  passwordHash : Option String
  nickname : Option String
  avatar : Option String
  bio : Option String
  gender : col Gender
  location : Option String
  status : col UserStatus
  role : col UserRole
  loginCount : Int
  lastLoginAt : Option Timestamp
  createdAt : Timestamp
  updatedAt : Timestamp

/-- A user. -/
abbrev User := User.Columns Plain

/-- A user as it is stored. -/
abbrev User.Row := User.Columns Column

/-- A member that is a signed 32-bit number. -/
def loginCountField : Fields Int :=
  Fields.one "login_count" decodeInt32 none none

namespace User

/-- The user that a row holds, if its columns hold tags. -/
def Columns.read? (r : Row) : Option User := do
  let gender ← r.gender.read?
  let status ← r.status.read?
  let role ← r.role.read?
  return { r with gender := gender, status := status, role := role }

/-- The row that holds a user. -/
def Columns.stored (u : User) : Row :=
  { u with gender := .tag u.gender, status := .tag u.status, role := .tag u.role }

/-- How a user is read. -/
def fields : Fields User :=
  @Columns.mk Plain <$> field "id" <*> field "username" <*> field "email"
    <*> field "phone" <*> field "password_hash" <*> field "nickname" <*> field "avatar"
    <*> field "bio" <*> field (α := Gender) "gender" <*> field "location"
    <*> field (α := UserStatus) "status" <*> field (α := UserRole) "role"
    <*> loginCountField <*> field "last_login_at" <*> field "created_at"
    <*> field "updated_at"

/-- A user is written without the password hash. -/
instance : Encode User := ⟨fun u => .obj
  [("id", encode u.id), ("username", encode u.username), ("email", encode u.email),
   ("phone", encode u.phone), ("nickname", encode u.nickname),
   ("avatar", encode u.avatar), ("bio", encode u.bio),
   ("gender", .str (Tag.spelling (α := Gender) u.gender)),
   ("location", encode u.location),
   ("status", .str (Tag.spelling (α := UserStatus) u.status)),
   ("role", .str (Tag.spelling (α := UserRole) u.role)),
   ("login_count", encode u.loginCount), ("last_login_at", encode u.lastLoginAt),
   ("created_at", encode u.createdAt), ("updated_at", encode u.updatedAt)]⟩

instance : Decode User := ⟨fields.decode "struct Model", none⟩

end User

/-- What clients see of a user. -/
structure Profile where
  id : Int
  username : String
  email : Option String
  phone : Option String
  nickname : Option String
  avatar : Option String
  bio : Option String
  gender : Gender
  location : Option String
  status : UserStatus
  role : UserRole
  loginCount : Int
  lastLoginAt : Option Timestamp
  createdAt : Timestamp

namespace Profile

/-- The profile with contact data. -/
def owned (u : User) : Profile :=
  { id := u.id, username := u.username, email := u.email, phone := u.phone,
    nickname := u.nickname, avatar := u.avatar, bio := u.bio, gender := u.gender,
    location := u.location, status := u.status, role := u.role,
    loginCount := u.loginCount, lastLoginAt := u.lastLoginAt, createdAt := u.createdAt }

/-- The profile without contact data. -/
def masked (p : Profile) : Profile :=
  { p with email := none, phone := none }

/-- The profile of a user without contact data. -/
def shown (u : User) : Profile :=
  (owned u).masked

/-- A member that is left out when there is nothing in it. -/
def given (name : String) : Option String → List (String × Json)
  | none => []
  | some s => [(name, .str s)]

/-- How a profile is read. -/
def fields : Fields Profile :=
  Profile.mk <$> field "id" <*> field "username" <*> field "email" <*> field "phone"
    <*> field "nickname" <*> field "avatar" <*> field "bio" <*> field "gender"
    <*> field "location" <*> field "status" <*> field "role" <*> loginCountField
    <*> field "last_login_at" <*> field "created_at"

instance : Encode Profile := ⟨fun p => .obj
  ([("id", encode p.id), ("username", encode p.username)] ++ given "email" p.email ++
   given "phone" p.phone ++
   [("nickname", encode p.nickname), ("avatar", encode p.avatar), ("bio", encode p.bio),
    ("gender", encode p.gender), ("location", encode p.location),
    ("status", encode p.status), ("role", encode p.role),
    ("login_count", encode p.loginCount), ("last_login_at", encode p.lastLoginAt),
    ("created_at", encode p.createdAt)])⟩

instance : Decode Profile := ⟨fields.decode "struct UserProfile", none⟩

end Profile

end Community

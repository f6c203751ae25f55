import Community.Database.Query
import Community.User.Input

/-!
# Users in the database

Lists show the newest users first. A keyword is looked for in username,
nickname and mail address.
-/

namespace Community.User

open Database Time

/-- The order of lists. -/
def listOrder : Row → Row → Bool :=
  descending fun u => [u.createdAt.instant, u.id]

/-- The user with the identifier. -/
def find (id : Int) : Database → Except Fault (Option User) :=
  findById Row id

/-- The user of that name. -/
def named (username : String) : Database → Except Fault (Option User) :=
  findFirst fun u : Row => u.username == username

/-- The user of that mail address. -/
def addressed (email : String) : Database → Except Fault (Option User) :=
  findFirst fun u : Row => u.email == some email

/-- Whether a user has the keyword. -/
def Columns.hasKeyword (u : Row) (keyword : String) : Bool :=
  Database.hasKeyword keyword u.username || hasKeyword? keyword u.nickname ||
    hasKeyword? keyword u.email

/-- One page of the active users who have the keyword, and their number. -/
def searchActive (keyword : String) (p : Page) : Database → Except Fault (List User × Nat) :=
  page (fun u : Row => u.status == .tag .active && u.hasKeyword keyword) listOrder p

/-- Whether a user is in the list that a filter asks for. A keyword that is empty
does not restrict it. -/
def admits (filter : UserFilter) (u : Row) : Bool :=
  filter.keyword.all (fun k => k.isEmpty || u.hasKeyword k) &&
    filter.status.all (fun s => u.status == .tag s) &&
      filter.role.all (fun r => u.role == .tag r)

/-- One page of the users that a filter asks for, and their number. -/
def select (filter : UserFilter) (p : Page) : Database → Except Fault (List User × Nat) :=
  page (admits filter) listOrder p

/-- The user with the changes that a request asks for. -/
def Columns.changed (u : User) (r : ProfileChange) (now : Timestamp) : User :=
  { u with
    username := r.username.getD u.username
    email := r.email <|> u.email
    nickname := r.nickname <|> u.nickname
    avatar := r.avatar <|> u.avatar
    bio := r.bio <|> u.bio
    gender := r.gender.getD u.gender
    location := r.location <|> u.location
    updatedAt := now }

/-- Stores a user in place of the one with its identifier. -/
def replace (u : User) : Database → Except Fault (Row × Database) :=
  Database.replace u.stored

end Community.User

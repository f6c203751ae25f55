import Community.User.Storage
import Community.World

/-!
# Profiles

A profile is kept in the cache with the contact data of its user, and masked for every other
viewer each time it is shown. Lists are masked before they are kept.
-/

namespace Community.User

open Text Procedure

/-- The key of a profile. -/
def infoKey (id : Int) : String :=
  Cache.keyOf "user:info" [toString id]

/-- All that is kept about lists of users. -/
def listFamily : String := "user:list:*"

/-- What a viewer sees of the profile of the user `id`. -/
def shownTo (viewer : Option Int) (id : Int) (p : Profile) : Profile :=
  if viewer = some id then p else p.masked

/-- The profile of a user as a viewer sees it. -/
def profile (id : Int) (viewer : Option Int) : Procedure Profile := do
  let p ← readThrough (infoKey id) Cache.Policy.detail do
    match ← query (find id) with
    | some u => return .owned u
    | none => throw (.userMissing id)
  return shownTo viewer id p

/-- Refuses a new username that another user has. -/
def ensureFreeUsername (u : User) (r : ProfileChange) : Procedure Unit := do
  match r.username with
  | none => return
  | some username =>
    if username ≠ u.username then
      if (← query (named username)).isSome then throw .usernameTaken

/-- Refuses a new mail address that another user has. -/
def ensureFreeEmail (u : User) (r : ProfileChange) : Procedure Unit := do
  match r.email with
  | none => return
  | some email =>
    if u.email ≠ some email then
      if (← query (addressed email)).isSome then throw .emailTaken

/-- Changes the profile of a user, who is shown all of it. -/
def change (id : Int) (r : ProfileChange) : Procedure Profile := do
  check (Problem.ofIssues r.issues)
  match ← query (find id) with
  | none => throw (.userMissing id)
  | some u =>
    ensureFreeUsername u r
    ensureFreeEmail u r
    let stored ← writeRow (replace (u.changed r (← now)))
    forget (infoKey id)
    forgetFamilies [listFamily]
    return .owned stored

/-- The keyword that a filter asks for, without blanks around it; empty if
it asks for none. -/
def keywordOf (filter : UserFilter) : String :=
  trim (filter.keyword.getD "")

/-- The key of one page of a list of users. -/
def listKey (filter : UserFilter) (p : Page) : String :=
  Cache.keyOf "user:list"
    [keywordOf filter, (filter.status.map Tag.spelling).getD "",
      (filter.role.map Tag.spelling).getD "", toString p.number, toString p.size]

/-- One page of the users that a filter asks for, without contact data. -/
def list (filter : UserFilter) (p : Page) : Procedure (Listing Profile) :=
  readThrough (listKey filter p) Cache.Policy.list do
    let (rows, total) ← query (select { filter with keyword := some (keywordOf filter) } p)
    return (Listing.of rows total p).map Profile.shown

end Community.User

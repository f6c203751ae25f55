import Community.Category.Storage
import Community.World

/-!
# Browsing and changing categories

Single categories and the forest are read through the cache; every change removes all that is
kept about categories. A category hangs below an active category or is a root, never below
itself, and no two active categories below one parent have the same name.
-/

namespace Community.Category

open Text Procedure

/-- The key of a single category. -/
def infoKey (id : Int) : String :=
  Cache.keyOf "category:info" [toString id]

/-- The key of the forest. -/
def treeKey : String := "category:tree"

/-- All that is kept about categories. -/
def family : String := "category:*"

/-- The category with the identifier, if it is active. -/
def findActive (id : Int) : Procedure (Option Category) := do
  return (← query (find id)).filter Columns.isActive

/-! ## Reading -/

/-- An active category. -/
def view (id : Int) : Procedure Category :=
  readThrough (infoKey id) Cache.Policy.detail do
    match ← findActive id with
    | some c => return c
    | none => throw (.categoryMissing id)

/-- One page of the active categories that a filter asks for. Blanks around the
keyword do not count. -/
def list (filter : CategoryFilter) (p : Page) : Procedure (Listing Category) := do
  let (rows, total) ← query (search (filter.keyword.map trim) filter.parentId p)
  return .of rows total p

/-- The forest of the active categories. -/
def tree : Procedure (List CategoryNode) :=
  readThrough treeKey Cache.Policy.detail do
    let rows ← query allActive
    check ((buildForest rows).mapError .hierarchy)

/-- The active categories above `current`, the nearest first. The walk ends at a root, or
below a parent that is missing or inactive; it fails where it comes back to a category it has
passed. Every step passes a further row, so the number of rows bounds the walk. -/
def climb (db : Database) (start : Int) :
    Nat → List Int → Category → Except Problem (List Category)
  | 0, _, current => .error (.circularParents start current.parentId)
  | fuel + 1, passed, current =>
    if current.isRoot then .ok []
    else if current.parentId ∈ passed then .error (.circularParents start current.parentId)
    else
      match find current.parentId db with
      | .error fault => .error (.database fault)
      | .ok none => .ok []
      | .ok (some parent) =>
        if parent.isActive then
          (climb db start fuel (current.parentId :: passed) parent).map (parent :: ·)
        else .ok []

/-- How many rows the table of categories has. -/
def rowCount (db : Database) : Nat :=
  match db.table Row with
  | .ok t => t.rows.length
  | .error _ => 0

/-- The categories above an active category, the root first. Nothing is above
one that is missing. -/
def ancestors (id : Int) : Procedure (List Category) := do
  match ← findActive id with
  | none => return []
  | some c =>
    let db := (← get).database
    return (← check (climb db id (rowCount db + 1) [c.id] c)).reverse

/-! ## Changing -/

/-- Whether the category `id` is met on the way up from `start`, active or not. Every step
passes a further row, so the number of rows bounds the walk. -/
def isAbove (db : Database) (id start : Int) : Nat → List Int → Int → Except Problem Bool
  | 0, _, current => .error (.circularParents start current)
  | fuel + 1, passed, current =>
    if current = rootParent then .ok false
    else if current = id then .ok true
    else if current ∈ passed then .error (.circularParents start current)
    else
      match find current db with
      | .error fault => .error (.database fault)
      | .ok none => .ok false
      | .ok (some c) => isAbove db id start fuel (current :: passed) c.parentId

/-- Whether a category that hung below `start` would hang below `id`. -/
def isWithin (db : Database) (start id : Int) : Except Problem Bool :=
  isAbove db id start (rowCount db + 2) [] start

/-- Refuses a parent that is not an active category. -/
def ensureParent (parentId : Int) : Procedure Unit := do
  if parentId = rootParent then return
  if (← findActive parentId).isNone then throw (.parentMissing parentId)

/-- Refuses a name that another active category below the parent has. -/
def ensureFreeName (parentId : Int) (name : String) (except? : Option Int) :
    Procedure Unit := do
  match ← query (sibling parentId name) with
  | none => return
  | some other => if some other.id ≠ except? then throw (.siblingName name)

/-- Makes a new category. -/
def create (r : NewCategory) : Procedure Category := do
  check (Problem.ofIssues r.issues)
  ensureParent r.parentId
  ensureFreeName r.parentId (trim r.name) none
  let now ← now
  let c ← writeRow (add r now)
  forgetFamilies [family]
  return c

/-- Refuses a move of the category `id` below itself, or below a category
that is not active. -/
def ensureMove (id parentId : Int) : Procedure Unit := do
  if parentId = id then throw .selfParent
  ensureParent parentId
  if ← check (isWithin (← get).database parentId id) then throw .descendantParent

/-- Refuses to put `next` in the place of the category `c` if that moves it where it may not
hang, or where its name is taken. -/
def ensureChange (id : Int) (c next : Category) : Procedure Unit := do
  if next.parentId ≠ c.parentId then ensureMove id next.parentId
  if next.name ≠ c.name ∨ next.parentId ≠ c.parentId then
    ensureFreeName next.parentId next.name (some id)

/-- Changes a category. -/
def change (id : Int) (r : CategoryChange) : Procedure Category := do
  check (Problem.ofIssues r.issues)
  match ← query (find id) with
  | none => throw (.categoryMissing id)
  | some c =>
    let next := c.changed r (← now)
    ensureChange id c next
    let stored ← writeRow (replace next)
    forgetFamilies [family]
    return stored

/-- Refuses to remove a category that is missing, or below which an active one hangs. -/
def ensureUnused (id : Int) : Procedure Unit := do
  if (← query (find id)).isNone then throw (.categoryMissing id)
  let children ← query (childCount id)
  if children > 0 then throw (.activeChildren id children)

/-- Removes a category below which no active one hangs. -/
def remove (id : Int) : Procedure Unit := do
  ensureUnused id
  let _ ← write (erase id)
  forgetFamilies [family]

end Community.Category

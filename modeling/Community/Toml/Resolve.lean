import Community.Toml.Numeral

/-!
# Moments written as tables

A moment may stand in a document as a table whose first name is reserved for it; the text
under that name is the moment, and the other entries do not count. `resolve?` puts the
moments in place of such tables. It refuses a document that uses the reserved name first in a
table without a moment under it.
-/

namespace Community.Toml

/-- The name that makes a table a moment. -/
def momentName : String := "$__toml_private_datetime"

/-- The moment that a value writes. -/
def momentOf? : Toml → Option Moment
  | .text s => moment? s.toList
  | _ => none

mutual

/-- The value with moments in place of the tables that stand for them. -/
def resolve? : Toml → Option Toml
  | .list items => (resolveItems? items).map .list
  | .table [] => some (.table [])
  | .table ((name, v) :: rest) =>
    if name = momentName then (momentOf? v).map .moment
    else do return .table ((name, ← resolve? v) :: (← resolveEntries? rest))
  | v => some v

/-- The items of a list, each resolved. -/
def resolveItems? : List Toml → Option (List Toml)
  | [] => some []
  | v :: vs => do return (← resolve? v) :: (← resolveItems? vs)

/-- Entries of a table, each with its value resolved. -/
def resolveEntries? : List (String × Toml) → Option (List (String × Toml))
  | [] => some []
  | (name, v) :: rest => do return (name, ← resolve? v) :: (← resolveEntries? rest)

end

end Community.Toml

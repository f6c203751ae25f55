/-!
# JSON values

The values that the service sends, stores in its cache and receives. The members of an object
are kept in order; integers are exact.
-/

namespace Community

/-- A JSON value. -/
inductive Json
  | null
  | bool (b : Bool)
  | int (n : Int)
  | float (x : Float)
  | str (s : String)
  | arr (items : List Json)
  | obj (members : List (String × Json))
  deriving Inhabited

namespace Json

/-- The value of the first member named `key`. -/
def member? (key : String) : Json → Option Json
  | obj members => members.lookup key
  | _ => none

/-- An object whose members follow the order of their names; of equal names
the last one stays. -/
def sortedObj (members : List (String × Json)) : Json :=
  obj (members.foldl insert [])
where
  /-- Puts a member in its place among members in order. -/
  insert : List (String × Json) → String × Json → List (String × Json)
    | [], m => [m]
    | first :: rest, m =>
      if m.1 < first.1 then m :: first :: rest
      else if m.1 = first.1 then m :: rest
      else first :: insert rest m

end Json

/-- How a type is written as JSON. -/
class Encode (α : Type) where
  encode : α → Json

export Encode (encode)

instance : Encode Json := ⟨id⟩
instance : Encode Bool := ⟨.bool⟩
instance : Encode Int := ⟨.int⟩
instance : Encode Nat := ⟨fun n => .int n⟩
instance : Encode Float := ⟨.float⟩
instance : Encode String := ⟨.str⟩
instance : Encode Unit := ⟨fun _ => .null⟩

instance {α : Type} [Encode α] : Encode (Option α) := ⟨fun
  | none => .null
  | some a => encode a⟩

instance {α : Type} [Encode α] : Encode (List α) := ⟨fun items => .arr (items.map encode)⟩

end Community

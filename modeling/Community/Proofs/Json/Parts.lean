import Community.Json.Basic

/-!
# What a JSON value is made of

A body is looked at as a whole: `parts` are all the values in it, at any depth. What must not
be shown is a matter of names, wherever they stand:

> `Lacks names j`: no object in `j` has a member of one of the names.

Types whose values never have such members are instances of `Omits`, so that what is shown
of a record is settled by the types of its members.
-/

namespace Community.Json

mutual

/-- The values in a value, however deep, itself first. -/
def parts : Json → List Json
  | arr items => arr items :: partsOfItems items
  | obj members => obj members :: partsOfMembers members
  | null => [null]
  | bool b => [bool b]
  | int n => [int n]
  | float x => [float x]
  | str s => [str s]

@[inherit_doc parts]
def partsOfItems : List Json → List Json
  | [] => []
  | j :: js => parts j ++ partsOfItems js

@[inherit_doc parts]
def partsOfMember : String × Json → List Json
  | (_, j) => parts j

@[inherit_doc parts]
def partsOfMembers : List (String × Json) → List Json
  | [] => []
  | m :: ms => partsOfMember m ++ partsOfMembers ms

end

variable {j : Json} {items : List Json} {members : List (String × Json)}

/-- The parts of a list of items are those of each. -/
theorem mem_partsOfItems : j ∈ partsOfItems items ↔ ∃ item ∈ items, j ∈ item.parts := by
  induction items with
  | nil => simp [partsOfItems]
  | cons item items ih => simp [partsOfItems, ih]

/-- The parts of a list of members are those of each value. -/
theorem mem_partsOfMembers : j ∈ partsOfMembers members ↔ ∃ m ∈ members, j ∈ m.2.parts := by
  induction members with
  | nil => simp [partsOfMembers]
  | cons m members ih =>
    obtain ⟨name, k⟩ := m
    simp [partsOfMembers, partsOfMember, ih]

/-- A list has itself and the parts of its items. -/
theorem mem_parts_arr :
    j ∈ (arr items).parts ↔ j = arr items ∨ ∃ item ∈ items, j ∈ item.parts := by
  rw [parts, List.mem_cons, mem_partsOfItems]

/-- An object has itself and the parts of its members. -/
theorem mem_parts_obj :
    j ∈ (obj members).parts ↔ j = obj members ∨ ∃ m ∈ members, j ∈ m.2.parts := by
  rw [parts, List.mem_cons, mem_partsOfMembers]

/-- A name that is not among the members finds none. -/
theorem member?_obj_eq_none {name : String} (h : name ∉ members.map Prod.fst) :
    (obj members).member? name = none := by
  rw [member?, List.lookup_eq_none_iff]
  intro m hm
  have hne : name ≠ m.1 := fun hname => h (hname ▸ List.mem_map_of_mem hm)
  simpa using hne

/-! ## Names that do not appear -/

/-- No object in the value has a member of one of the names. -/
def Lacks (names : List String) (j : Json) : Prop :=
  ∀ part ∈ j.parts, ∀ name ∈ names, part.member? name = none

variable {names : List String}

/-- A value that is not made of others. -/
theorem lacks_single (hparts : j.parts = [j]) (hmember : ∀ name, j.member? name = none) :
    j.Lacks names := by
  intro part hpart name _
  rw [hparts] at hpart
  rw [List.mem_singleton.mp hpart]
  exact hmember name

/-- What is neither a list nor an object has no names. -/
@[simp]
theorem lacks_null : null.Lacks names :=
  lacks_single rfl fun _ => rfl

@[simp]
theorem lacks_bool (b : Bool) : (bool b).Lacks names :=
  lacks_single rfl fun _ => rfl

@[simp]
theorem lacks_int (n : Int) : (int n).Lacks names :=
  lacks_single rfl fun _ => rfl

@[simp]
theorem lacks_str (s : String) : (str s).Lacks names :=
  lacks_single rfl fun _ => rfl

/-- A list lacks the names that all of its items lack. -/
theorem lacks_arr (h : ∀ item ∈ items, item.Lacks names) : (arr items).Lacks names := by
  intro part hpart name hname
  rcases mem_parts_arr.mp hpart with rfl | ⟨item, hitem, hpart⟩
  · rfl
  · exact h item hitem part hpart name hname

/-- An object lacks names that are not its own, nor those of its values. -/
theorem lacks_obj (hnames : ∀ name ∈ names, name ∉ members.map Prod.fst)
    (hmembers : ∀ m ∈ members, m.2.Lacks names) : (obj members).Lacks names := by
  intro part hpart name hname
  rcases mem_parts_obj.mp hpart with rfl | ⟨m, hm, hpart⟩
  · exact member?_obj_eq_none (hnames name hname)
  · exact hmembers m hm part hpart name hname

/-- Values of the type are written without members of these names. -/
class Omits (names : List String) (α : Type) [Encode α] : Prop where
  lacks : ∀ a : α, (encode a).Lacks names

/-- The JSON of a type that omits names lacks them. -/
@[simp]
theorem lacks_encode {α : Type} [Encode α] [Omits names α] (a : α) :
    (encode a).Lacks names :=
  Omits.lacks a

instance : Omits names Bool := ⟨lacks_bool⟩
instance : Omits names Int := ⟨lacks_int⟩
instance : Omits names Nat := ⟨fun n => lacks_int n⟩
instance : Omits names Float := ⟨fun _ => lacks_single rfl fun _ => rfl⟩
instance : Omits names String := ⟨lacks_str⟩
instance : Omits names Unit := ⟨fun _ => lacks_null⟩

instance {α : Type} [Encode α] [Omits names α] : Omits names (Option α) where
  lacks
    | none => lacks_null
    | some a => lacks_encode a

instance {α : Type} [Encode α] [Omits names α] : Omits names (List α) where
  lacks as := by
    refine lacks_arr fun item hitem => ?_
    obtain ⟨a, -, rfl⟩ := List.mem_map.mp hitem
    exact lacks_encode a

end Community.Json

import Community.Json.Decoder

/-!
# Tags

A tag type has finitely many values, each with one spelling. The spelling is what the
database stores and what JSON carries; it is matched exactly. A column that should hold a tag
may hold any text, because other programs write to the database too.
-/

namespace Community

/-- A type of tags. -/
class Tag (α : Type) where
  /-- What the type is called. -/
  title : String
  /-- The tags in the order of declaration. -/
  all : List α
  spelling : α → String

namespace Tag

/-- The tags by their spelling. -/
def table (α : Type) [Tag α] : List (String × α) :=
  (all (α := α)).map fun a => (spelling a, a)

/-- The tag that a text spells. -/
def ofText? {α : Type} [Tag α] (s : String) : Option α :=
  (table α).lookup s

end Tag

instance {α : Type} [Tag α] : Encode α := ⟨fun a => .str (Tag.spelling a)⟩

instance {α : Type} [Tag α] : Json.Decode α :=
  ⟨Json.decodeVariant (Tag.title α) (Tag.table α), none⟩

/-- What an enumerated column holds: a tag, or a text that spells none. -/
inductive Column (α : Type)
  | tag (a : α)
  | text (s : String)
  deriving DecidableEq

namespace Column

/-- The column that holds a text. -/
def ofText {α : Type} [Tag α] (s : String) : Column α :=
  match Tag.ofText? s with
  | some a => .tag a
  | none => .text s

/-- The tag in a column, if it holds one. -/
def read? {α : Type} : Column α → Option α
  | tag a => some a
  | text _ => none

end Column

/-- What an enumerated column holds once it has been read. -/
abbrev Plain (α : Type) : Type := α

/-- The state of an entry that can be switched off. -/
inductive ActiveStatus
  | active
  | inactive
  deriving DecidableEq, Repr

instance : Tag ActiveStatus where
  title := "ActiveStatus"
  all := [.active, .inactive]
  spelling
    | .active => "active"
    | .inactive => "inactive"

end Community

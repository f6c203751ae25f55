import Community.Json.Decoder
import Community.Validation

/-!
# Pages of a list

A list is shown page by page. A request names the page, counted from 1, and its size; the
answer carries the items of the page with the size of the whole list.
-/

namespace Community

open Text Json

/-- A request for one page of a list. -/
structure Page where
  number : Nat
  size : Nat
  deriving DecidableEq, Repr

namespace Page

/-- The largest page number and page size that a request may ask for. -/
def maxNumber : Nat := 1000000

@[inherit_doc maxNumber]
def maxSize : Nat := 100

/-- The page that is meant when a request names none. -/
def first : Page := ⟨1, 20⟩

/-- The nearest page that a request may ask for. -/
def clamped (number size : Nat) : Page :=
  ⟨max 1 (min number maxNumber), max 1 (min size maxSize)⟩

/-- How many rows come before the page. Page 0 begins where page 1 does. -/
def offset (p : Page) : Nat :=
  saturate (saturate (p.number - 1) * p.size)

/-- How many rows the page holds at most. -/
def limit (p : Page) : Nat :=
  p.size

/-- The rows of the page. -/
def rows {α : Type} (p : Page) (all : List α) : List α :=
  (all.drop p.offset).take p.limit

/-- How a page request is read: both members may be left out. -/
def fields : Fields Page :=
  Page.mk <$> fieldOr "page" first.number <*> fieldOr "page_size" first.size

/-- What is wrong with a request. -/
def issues (p : Page) : List Issue :=
  Check.range "page" (some 1) (some maxNumber) p.number ++
  Check.range "page_size" (some 1) (some maxSize) p.size

instance :
    Encode Page := ⟨fun p => .obj [("page", encode p.number), ("page_size", encode p.size)]⟩
instance : Decode Page := ⟨fields.decode "struct Pagination", none⟩

end Page

/-- One page of a list. -/
structure Listing (α : Type) where
  items : List α
  total : Nat
  page : Nat
  size : Nat
  pages : Nat

namespace Listing

/-- The page `p` of a list of `total` items. A list cut into pages of size 0 has none. -/
def of {α : Type} (items : List α) (total : Nat) (p : Page) : Listing α :=
  { items := items, total := total, page := p.number, size := p.size
    pages := if p.size = 0 then 0 else (total + p.size - 1) / p.size }

/-- The page with every item changed. -/
def map {α β : Type} (f : α → β) (l : Listing α) : Listing β :=
  { l with items := l.items.map f }

/-- The members of a page. -/
def members {α : Type} [Encode α] (l : Listing α) : List (String × Json) :=
  [("datas", encode l.items), ("total", encode l.total), ("current_page", encode l.page),
   ("page_size", encode l.size), ("total_page", encode l.pages)]

/-- How a page is read. -/
def fields {α : Type} [Decode α] : Fields (Listing α) :=
  Listing.mk <$> field "datas" <*> field "total" <*> field "current_page"
    <*> field "page_size" <*> field "total_page"

instance {α : Type} [Encode α] : Encode (Listing α) := ⟨fun l => .obj l.members⟩
instance {α : Type} [Decode α] :
    Decode (Listing α) := ⟨fields.decode "struct PageData", none⟩

end Listing

end Community

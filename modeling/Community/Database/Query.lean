import Community.Database.Basic
import Community.Page

/-!
# Lists of rows

Lists are ordered by keys, the largest first, and shown page by page. A search for a keyword
compares patterns: `%` stands for any run of characters and `_` for any one character.
-/

namespace Community.Database

/-! ## Patterns -/

/-- The ends of a text, the longest first. -/
def endings (cs : List Char) : List (List Char) :=
  (List.range (cs.length + 1)).map cs.drop

/-- What may be left of one of `texts` once the pattern has been matched at its start. The
texts are ends of one text, the longest first. -/
def leftAfter : List Char → List (List Char) → List (List Char)
  | [], texts => texts
  | p :: ps, texts =>
    if p = '%' then leftAfter ps ((texts.head?.map endings).getD [])
    else leftAfter ps (texts.filterMap fun
      | [] => none
      | c :: cs => if p = '_' ∨ p = c then some cs else none)

/-- Whether a text is what the pattern describes. -/
def likePattern (pattern text : List Char) : Bool :=
  (leftAfter pattern [text]).any List.isEmpty

/-- Whether the pattern of the keyword, with anything before and after it,
describes the text. -/
def hasKeyword (keyword text : String) : Bool :=
  likePattern ('%' :: (keyword.toList ++ ['%'])) text.toList

/-- Whether an optional text has the keyword. -/
def hasKeyword? (keyword : String) (text? : Option String) : Bool :=
  text?.any (hasKeyword keyword)

/-! ## Order -/

/-- Whether a list of keys stands before another one: at the first difference the
larger key comes first. -/
def notBelow : List Int → List Int → Bool
  | [], _ => true
  | _ :: _, [] => true
  | a :: as, b :: bs => if a = b then notBelow as bs else b < a

/-- The order in which the larger keys come first. -/
def descending {ρ : Type} (keys : ρ → List Int) (a b : ρ) : Bool :=
  notBelow (keys a) (keys b)

/-! ## Pages -/

variable {ρ α : Type} [Entity ρ α]

/-- One page of the rows that `pick` admits, and how many rows there are in all. The rows
are counted first. -/
def page (pick : ρ → Bool) (before : ρ → ρ → Bool) (p : Page) (db : Database) :
    Except Fault (List α × Nat) := do
  let total ← count pick db
  let rows ← select pick before db
  return (← (p.rows rows).mapM readRow, total)

/-- All rows that `pick` admits. -/
def all (pick : ρ → Bool) (before : ρ → ρ → Bool) (db : Database) :
    Except Fault (List α) := do
  let rows ← select pick before db
  rows.mapM readRow

/-- The first rows that `pick` admits, at most `limit`. -/
def top (pick : ρ → Bool) (before : ρ → ρ → Bool) (limit : Nat) (db : Database) :
    Except Fault (List α) := do
  let rows ← select pick before db
  (rows.take limit).mapM readRow

end Community.Database

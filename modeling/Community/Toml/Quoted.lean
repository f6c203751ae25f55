import Community.Text.Hex

/-!
# Quoted texts

A TOML text stands between quotes, and the quotes decide how it is read: between double
quotes a backslash begins an escape, between single quotes every character stands for
itself. Three quotes of one kind enclose a text that may go over several lines; its line
ends are read as one character, and a line end right after the opening quotes does not
count. Each reader takes what follows the opening quotes and gives the text and what
follows the closing ones.
-/

namespace Community.Toml

open Text

/-- Whether `c` may stand in a comment, or unescaped in a text: every character but the
controls, of which only the tab may. -/
def isPrintable (c : Char) : Bool :=
  c == '\t' || (0x20 ≤ c.toNat && c.toNat != 0x7f)

/-- A text that was read, and what follows it. -/
abbrev Reading := Option (List Char × List Char)

/-- A reading with one more character in front. -/
def Reading.push (c : Char) (r : Reading) : Reading :=
  r.map fun (read, rest) => (c :: read, rest)

/-- The character that a one-letter escape stands for. -/
def simpleEscape? (c : Char) : Option Char :=
  if c = '\x22' ∨ c = '\\' then some c
  else if c = 'b' then some '\x08'
  else if c = 'f' then some '\x0c'
  else if c = 'n' then some '\n'
  else if c = 'r' then some '\r'
  else if c = 't' then some '\t'
  else none

/-- The number that digits in base sixteen write. -/
def hexNumber? (ds : List Char) : Option Nat :=
  ds.foldlM (fun n d => (hexValue? d).map (16 * n + ·)) 0

/-- The character that an escape names by its number; halves of surrogate pairs are none. -/
def numbered? (ds : List Char) : Option Char :=
  (hexNumber? ds).bind fun n => if n.isValidChar then some (Char.ofNat n) else none

/-- A text on one line between double quotes. -/
def basic? : List Char → Reading
  | '\x22' :: cs => some ([], cs)
  | '\\' :: 'u' :: a :: b :: c :: d :: cs =>
    (numbered? [a, b, c, d]).bind fun x => Reading.push x (basic? cs)
  | '\\' :: 'U' :: a :: b :: c :: d :: e :: f :: g :: h :: cs =>
    (numbered? [a, b, c, d, e, f, g, h]).bind fun x => Reading.push x (basic? cs)
  | '\\' :: e :: cs => (simpleEscape? e).bind fun x => Reading.push x (basic? cs)
  | c :: cs => if c ≠ '\\' ∧ isPrintable c then Reading.push c (basic? cs) else none
  | [] => none

/-- A text on one line between single quotes. -/
def literal? : List Char → Reading
  | [] => none
  | c :: cs =>
    if c = '\x27' then some ([], cs)
    else if isPrintable c then Reading.push c (literal? cs)
    else none

/-- How a text over several lines goes on: a backslash at the end of a line removes the line
end and the white space after it. -/
inductive Fold
  | plain
  /-- A backslash was read, and perhaps blanks; the line has to end here. -/
  | ending
  /-- The line has ended; white space does not count. -/
  | skipping
  deriving DecidableEq, Repr

/-- A text over several lines between double quotes. Up to two quotes may stand right before
the closing ones. -/
def multiline? : Fold → List Char → Reading
  | .ending, ' ' :: cs => multiline? .ending cs
  | .ending, '\t' :: cs => multiline? .ending cs
  | .ending, '\n' :: cs => multiline? .skipping cs
  | .ending, '\r' :: '\n' :: cs => multiline? .skipping cs
  | .ending, _ => none
  | .skipping, ' ' :: cs => multiline? .skipping cs
  | .skipping, '\t' :: cs => multiline? .skipping cs
  | .skipping, '\n' :: cs => multiline? .skipping cs
  | .skipping, '\r' :: '\n' :: cs => multiline? .skipping cs
  | _, '\r' :: '\n' :: cs => multiline? .plain cs |> Reading.push '\n'
  | _, '\x22' :: '\x22' :: '\x22' :: '\x22' :: '\x22' :: cs => some (['\x22', '\x22'], cs)
  | _, '\x22' :: '\x22' :: '\x22' :: '\x22' :: cs => some (['\x22'], cs)
  | _, '\x22' :: '\x22' :: '\x22' :: cs => some ([], cs)
  | _, '\\' :: 'u' :: a :: b :: c :: d :: cs =>
    (numbered? [a, b, c, d]).bind fun x => Reading.push x (multiline? .plain cs)
  | _, '\\' :: 'U' :: a :: b :: c :: d :: e :: f :: g :: h :: cs =>
    (numbered? [a, b, c, d, e, f, g, h]).bind fun x => Reading.push x (multiline? .plain cs)
  | _, '\\' :: e :: cs =>
    match simpleEscape? e with
    | some x => Reading.push x (multiline? .plain cs)
    | none => multiline? .ending (e :: cs)
  | _, c :: cs =>
    if c = '\n' ∨ (c ≠ '\\' ∧ isPrintable c) then
      Reading.push c (multiline? .plain cs) else none
  | _, [] => none

/-- A text over several lines between single quotes. -/
def multilineLiteral? : List Char → Reading
  | '\r' :: '\n' :: cs => Reading.push '\n' (multilineLiteral? cs)
  | '\x27' :: '\x27' :: '\x27' :: '\x27' :: '\x27' :: cs => some (['\x27', '\x27'], cs)
  | '\x27' :: '\x27' :: '\x27' :: '\x27' :: cs => some (['\x27'], cs)
  | '\x27' :: '\x27' :: '\x27' :: cs => some ([], cs)
  | c :: cs =>
    if c = '\n' ∨ isPrintable c then Reading.push c (multilineLiteral? cs) else none
  | [] => none

/-- What follows a line end right after opening quotes. -/
def skipLineEnd : List Char → List Char
  | '\n' :: cs => cs
  | '\r' :: '\n' :: cs => cs
  | cs => cs

/-- The text at the start, if one starts here. -/
def quoted? : List Char → Option Reading
  | '\x22' :: '\x22' :: '\x22' :: cs => some (multiline? .plain (skipLineEnd cs))
  | '\x22' :: cs => some (basic? cs)
  | '\x27' :: '\x27' :: '\x27' :: cs => some (multilineLiteral? (skipLineEnd cs))
  | '\x27' :: cs => some (literal? cs)
  | _ => none

end Community.Toml

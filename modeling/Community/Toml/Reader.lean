import Community.Toml.Numeral
import Community.Toml.Quoted
import Community.Toml.Resolve
import Community.Toml.Table

/-!
# Reading TOML

A document is read line by line: a header, a key with its value, a comment or nothing. A list
may go over several lines, and a table in braces stands on one. `Toml.read?` gives the table
that the document stands for, or nothing if the text breaks a rule anywhere.
-/

namespace Community.Toml

/-! ## Space, comments and keys -/

/-- The text without leading spaces and tabs. -/
def skipBlanks (cs : List Char) : List Char :=
  cs.dropWhile fun c => c == ' ' || c == '\t'

/-- What follows the end of the line, if it ends here, perhaps with a comment. -/
def lineEnd? (cs : List Char) : Option (List Char) :=
  match skipBlanks cs with
  | '#' :: cs => stop (cs.dropWhile isPrintable)
  | cs => stop cs
where
  /-- The end of a line or of the text. -/
  stop : List Char → Option (List Char)
    | [] => some []
    | '\n' :: cs => some cs
    | '\r' :: '\n' :: cs => some cs
    | _ => none

/-- The text without leading white space, line ends and comments. `fuel` bounds
the number of lines. -/
def skipLines : Nat → List Char → List Char
  | 0, cs => skipBlanks cs
  | fuel + 1, cs =>
    match skipBlanks cs, lineEnd? cs with
    | [], _ => []
    | _, some rest => skipLines fuel rest
    | cs, none => cs

/-- Whether `c` may stand in a key without quotes. -/
def isKeyChar (c : Char) : Bool :=
  c.isAlphanum || c == '_' || c == '-'

/-- One part of a key: a run of letters, digits, underscores and dashes, or a quoted
text on one line. -/
def keyPart? : List Char → Reading
  | '\x22' :: cs => basic? cs
  | '\x27' :: cs => literal? cs
  | cs =>
    let name := cs.takeWhile isKeyChar
    if name.isEmpty then none else some (name, cs.dropWhile isKeyChar)

/-- A key of one or more parts with points between them, and what follows it. `fuel` bounds
the number of parts. -/
def key? : Nat → List Char → Option (List String × List Char)
  | 0, _ => none
  | fuel + 1, cs => do
    let (name, rest) ← keyPart? (skipBlanks cs)
    match skipBlanks rest with
    | '.' :: rest =>
      let (names, rest) ← key? fuel rest
      return (String.ofList name :: names, rest)
    | rest => return ([String.ofList name], rest)

/-- The number of parts that a key may not reach, and of containers that may not
lie in one another. -/
def depthLimit : Nat := 80

/-- A key, as the parts before the last one and the last one. -/
def keyPath? (cs : List Char) : Option (List String × String × List Char) := do
  let (names, rest) ← key? (depthLimit - 1) cs
  return (names.dropLast, ← names.getLast?, rest)

/-! ## Values -/

mutual

/-- The value at the start of a text, and what follows it. `fuel` bounds the number of
values, and `depth` that of containers around one. -/
def value? : Nat → Nat → List Char → Option (Toml × List Char)
  | 0, _, _ => none
  | fuel + 1, depth, cs =>
    match quoted? cs with
    | some reading => do
      let (chars, rest) ← reading
      return (.text (String.ofList chars), rest)
    | none =>
      match cs, depth with
      | '[' :: _, 0 => none
      | '\x7b' :: _, 0 => none
      | '[' :: cs, depth + 1 => do
        let (items, rest) ← items? fuel depth cs
        return (.list items, rest)
      | '\x7b' :: cs, depth + 1 =>
        match skipBlanks cs with
        | '\x7d' :: rest => some (.table [], rest)
        | cs => do
          let (entries, rest) ← pairs? fuel depth [] cs
          return (.table (tomlEntries entries), rest)
      | cs, _ => do
        let (run, rest) := takeBare cs
        return (← bare? run, rest)

/-- The items of a list up to the closing bracket. A comma may follow the last one. -/
def items? : Nat → Nat → List Char → Option (List Toml × List Char)
  | 0, _, _ => none
  | fuel + 1, depth, cs =>
    match skipLines cs.length cs with
    | ']' :: rest => some ([], rest)
    | cs => do
      let (v, rest) ← value? fuel depth cs
      match skipLines rest.length rest with
      | ',' :: rest =>
        let (vs, rest) ← items? fuel depth rest
        return (v :: vs, rest)
      | ']' :: rest => return ([v], rest)
      | _ => none

/-- The keys and values of a table in braces, from a key up to the closing brace. -/
def pairs? : Nat → Nat → Entries → List Char → Option (Entries × List Char)
  | 0, _, _, _ => none
  | fuel + 1, depth, entries, cs => do
    let (path, key, rest) ← keyPath? cs
    match skipBlanks rest with
    | '=' :: rest =>
      let (v, rest) ← value? fuel depth (skipBlanks rest)
      let entries ← entries.addValue path key v
      match skipBlanks rest with
      | ',' :: rest => pairs? fuel depth entries rest
      | '\x7d' :: rest => return (entries, rest)
      | _ => none
    | _ => none

end

/-! ## Documents -/

/-- A document as far as it was read: the path of the last header, and all entries. -/
structure Document where
  header : List String
  entries : Entries

/-- Reads a header or a key with its value. -/
def statement? (doc : Document) (cs : List Char) : Option (Document × List Char) :=
  match cs with
  | '[' :: '[' :: cs => do
    let (path, key, rest) ← keyPath? cs
    match rest with
    | ']' :: ']' :: rest => return (⟨path ++ [key], ← doc.entries.addTable path key⟩, rest)
    | _ => none
  | '[' :: cs => do
    let (path, key, rest) ← keyPath? cs
    match rest with
    | ']' :: rest => return (⟨path ++ [key], ← doc.entries.openTable path key⟩, rest)
    | _ => none
  | cs => do
    let (path, key, rest) ← keyPath? cs
    match rest with
    | '=' :: rest =>
      let (v, rest) ← value? (2 * rest.length + 2) (depthLimit - 1) (skipBlanks rest)
      return (⟨doc.header, ← doc.entries.addBelow doc.header path key v⟩, rest)
    | _ => none

/-- Reads the lines of a document. `fuel` bounds their number. -/
def lines? : Nat → Document → List Char → Option Document
  | 0, _, _ => none
  | fuel + 1, doc, cs =>
    match skipLines cs.length cs with
    | [] => some doc
    | cs => do
      let (doc, rest) ← statement? doc cs
      lines? fuel doc (← lineEnd? rest)

/-- The table that a document stands for; a document that is a moment has none. Each line has
at least one character, so the length of the text bounds the number of lines. -/
def read? (s : String) : Option (List (String × Toml)) := do
  let cs := s.toList
  let doc ← lines? (cs.length + 1) ⟨[], []⟩ cs
  match ← resolve? (.table (tomlEntries doc.entries)) with
  | .table entries => return entries
  | _ => none

end Community.Toml

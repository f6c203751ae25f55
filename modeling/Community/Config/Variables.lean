import Community.Text.Alphanumeric
import Community.Text.Blank

/-!
# Files of environment variables

A file of variables holds one assignment per line: a name, `=` and a value, perhaps after the
word `export`. Parts of a value may be quoted; a quoted part may go over several lines, and
outside of single quotes `$NAME` and `${NAME}` stand for the value of a variable. The
assignments are carried out in order; one never changes a variable that is set already. The
first line that cannot be read stops the reading.
-/

namespace Community.Config

open Text

/-- The variables that are set, in the order in which they were. -/
abbrev Variables := List (String × String)

/-- A line that cannot be read, and how far into it the fault was noticed. -/
structure BadLine where
  line : String
  position : Nat
  deriving DecidableEq, Repr

/-- How many bytes characters take. -/
def byteCount (cs : List Char) : Nat :=
  cs.foldl (fun n c => n + c.utf8Size) 0

/-! ## Lines -/

/-- What was read last on a line, as far as it decides where an assignment ends. -/
inductive LineState
  /-- Nothing is open. -/
  | complete
  /-- A blank, after which a comment may begin. -/
  | blank
  /-- A backslash. -/
  | escape
  /-- A part between quotes of one kind, perhaps with a backslash read last. -/
  | quote (mark : Char)
  | quoteEscape (mark : Char)
  deriving DecidableEq, Repr

/-- The state after a character that is neither quoted nor escaped. -/
def LineState.afterMark (c : Char) : LineState :=
  if c = '\\' then escape
  else if c = '\x22' ∨ c = '\x27' then quote c
  else complete

/-- The state after one more character. -/
def LineState.next (c : Char) : LineState → LineState
  | complete => if isBlank c ∧ c ≠ '\n' ∧ c ≠ '\r' then blank else afterMark c
  | blank => afterMark c
  | escape => complete
  | quote mark =>
    if c = '\\' then quoteEscape mark else if c = mark then complete else quote mark
  | quoteEscape mark => quote mark

/-- The characters of a line up to a comment, and the state after them; `none` if
there is a comment. -/
def scanLine : LineState → List Char → List Char × Option LineState
  | state, [] => ([], some state)
  | state, c :: cs =>
    if state = .blank ∧ c = '#' then ([], none)
    else
      let (kept, last) := scanLine (state.next c) cs
      (c :: kept, last)

/-- The lines of a text with their line ends. -/
def rawLines : List Char → List (List Char)
  | [] => []
  | '\n' :: cs => ['\n'] :: rawLines cs
  | c :: cs =>
    match rawLines cs with
    | [] => [[c]]
    | line :: rest => (c :: line) :: rest

/-- A line without its line end. -/
def chomp (cs : List Char) : List Char :=
  match cs.reverse with
  | '\n' :: '\r' :: rest => rest.reverse
  | '\n' :: rest => rest.reverse
  | _ => cs

/-- Joins the lines that belong to one assignment. `held` is what was read of the
present one. Comments are left out; a text that ends inside of an assignment, or with a
blank, is faulty there. -/
def assignments (state : LineState) (held : List Char) :
    List (List Char) → List (Except BadLine String)
  | [] =>
    if state = .complete then [] else [.error ⟨String.ofList held, byteCount held⟩]
  | line :: rest =>
    if (dropBlanks (held ++ line)).head? = some '#' then assignments .complete [] rest
    else match scanLine state line with
      | (kept, none) => .ok (String.ofList (held ++ kept)) :: assignments .complete [] rest
      | (_, some .complete) =>
        .ok (String.ofList (chomp (held ++ line))) :: assignments .complete [] rest
      | (_, some state) => assignments state (held ++ line) rest

/-! ## Values -/

/-- How a value goes on. -/
inductive ValueMode
  /-- Outside of quotes, or between double quotes. -/
  | plain (quoted : Bool)
  /-- Between single quotes. -/
  | literal
  /-- After a backslash. -/
  | escape (quoted : Bool)
  /-- In the name of a variable, which is read so far; perhaps one in braces. -/
  | name (quoted braced : Bool) (read : List Char)
  /-- After the value: only blanks or a comment may follow. -/
  | ended
  deriving DecidableEq, Repr

/-- The value of the variable with this name, read backwards; an unset one is empty. -/
def valueOf (vars : Variables) (read : List Char) : List Char :=
  ((vars.lookup (String.ofList read.reverse)).getD "").toList

/-- A value read so far: its characters backwards, and how it goes on. -/
structure ValueState where
  read : List Char
  mode : ValueMode

/-- The characters that may follow a backslash, and what they stand for. -/
def escaped? (c : Char) : Option Char :=
  if c = '\\' ∨ c = '\x27' ∨ c = '\x22' ∨ c = '$' ∨ c = ' ' then some c
  else if c = 'n' then some '\n'
  else none

/-- The value after one more character, unless it may not stand there. -/
def ValueState.next? (vars : Variables) (s : ValueState) (c : Char) : Option ValueState :=
  match s.mode with
  | .ended => if c = ' ' ∨ c = '\t' then some s else none
  | .escape quoted => (escaped? c).map fun x => ⟨x :: s.read, .plain quoted⟩
  | .literal => some (if c = '\x27' then ⟨s.read, .plain false⟩ else ⟨c :: s.read, .literal⟩)
  | .name quoted braced read =>
    if isAlphanumeric c then some ⟨s.read, .name quoted braced (c :: read)⟩
    else
      let value := (valueOf vars read).reverse ++ s.read
      if braced then
        some (if c = '\x7d' then ⟨value, .plain quoted⟩
          else ⟨s.read, .name quoted true (c :: read)⟩)
      else if c = '\x7b' ∧ read.isEmpty then some ⟨s.read, .name quoted true []⟩
      else if c = '$' then some ⟨value, .name quoted false []⟩
      else some ⟨c :: value, .plain quoted⟩
  | .plain quoted =>
    if c = '$' then some ⟨s.read, .name quoted false []⟩
    else if c = '\\' then some ⟨s.read, .escape quoted⟩
    else if c = '\x22' then some ⟨s.read, .plain !quoted⟩
    else if quoted then some ⟨c :: s.read, s.mode⟩
    else if c = '\x27' then some ⟨s.read, .literal⟩
    else if c = ' ' ∨ c = '\t' then some ⟨s.read, .ended⟩
    else some ⟨c :: s.read, s.mode⟩

/-- Whether a quote or a brace is still open. -/
def ValueState.isOpen (s : ValueState) : Bool :=
  match s.mode with
  | .plain quoted | .escape quoted => quoted
  | .literal => true
  | .name quoted braced _ => quoted || braced
  | .ended => false

/-- The whole value, where the text ends. -/
def ValueState.finish (vars : Variables) (s : ValueState) : String :=
  match s.mode with
  | .name _ _ read => String.ofList (s.read.reverse ++ valueOf vars read)
  | _ => String.ofList s.read.reverse

/-- Reads the characters of a value; a fault is told by the number of
characters before it. -/
def scanValue (vars : Variables) (position : Nat) (s : ValueState) :
    List Char → Except Nat ValueState
  | [] => .ok s
  | c :: cs =>
    if s.mode = .ended ∧ c = '#' then .ok s
    else match s.next? vars c with
      | none => .error position
      | some s => scanValue vars (position + 1) s cs

/-- Reads a value. -/
def value (vars : Variables) (cs : List Char) : Except BadLine String :=
  match scanValue vars 0 ⟨[], .plain false⟩ cs with
  | .error position => .error ⟨String.ofList cs, position⟩
  | .ok s =>
    if s.isOpen then .error ⟨String.ofList cs, byteCount cs - 1⟩ else .ok (s.finish vars)

/-! ## Assignments -/

/-- What is left of a line, and how many bytes were read of it. -/
structure Cursor where
  rest : List Char
  position : Nat

/-- The cursor after some characters. -/
def Cursor.skip (c : Cursor) (skipped : List Char) : Cursor :=
  ⟨c.rest.drop skipped.length, c.position + byteCount skipped⟩

/-- The cursor after blanks. -/
def Cursor.skipBlanks (c : Cursor) : Cursor :=
  c.skip (c.rest.takeWhile isBlank)

/-- The name of a variable: a letter or an underscore, then also digits and points. -/
def Cursor.name? (c : Cursor) : Option (String × Cursor) :=
  let name := c.rest.takeWhile fun x => x.isAlphanum || x == '_' || x == '.'
  if name.head?.any fun x => x.isAlpha || x == '_' then
    some (String.ofList name, c.skip name) else none

/-- The cursor after the sign of an assignment. -/
def Cursor.equals? (c : Cursor) : Option Cursor :=
  if c.rest.head? = some '=' then some (c.skip ['=']) else none

/-- A name and its value; nothing where the line is empty. A value that begins
with `#` is empty. -/
def assignment? (vars : Variables) (line : String) :
    Except BadLine (Option (String × String)) :=
  let fault (c : Cursor) : BadLine := ⟨line, c.position⟩
  let start := (Cursor.mk (trimEnd line.toList) 0).skipBlanks
  if isVoid start then .ok none
  else match start.name? with
    | none => .error (fault start)
    | some (name, c) =>
      let c := c.skipBlanks
      match name == "export", c.equals? with
      | _, some c => finish name c
      | false, none => .error (fault c)
      | true, none =>
        match c.name? with
        | none => .error (fault c)
        | some (name, c) =>
          let c := c.skipBlanks
          match c.equals? with
          | some c => finish name c
          | none => .error (fault c)
where
  /-- The characters without blanks at their end. -/
  trimEnd (cs : List Char) : List Char :=
    (dropBlanks cs.reverse).reverse
  /-- Whether nothing, or only a comment, is left. -/
  isVoid (c : Cursor) : Bool :=
    c.rest.isEmpty || c.rest.head? == some '#'
  /-- The value after the sign of an assignment. -/
  finish (name : String) (c : Cursor) : Except BadLine (Option (String × String)) :=
    let c := c.skipBlanks
    if isVoid c then .ok (some (name, ""))
    else (value vars c.rest).map fun v => some (name, v)

/-- Sets a variable unless it is set already. -/
def Variables.setNew (vars : Variables) (name value : String) : Variables :=
  if (vars.lookup name).isSome then vars else vars ++ [(name, value)]

/-- Carries out one line. -/
def Variables.carryOut (vars : Variables) (line : Except BadLine String) :
    Except BadLine Variables := do
  match ← assignment? vars (← line) with
  | none => return vars
  | some (name, value) => return vars.setNew name value

/-- Carries out the assignments of a file. -/
def Variables.load (vars : Variables) (text : String) : Except BadLine Variables :=
  (assignments .complete [] (rawLines text.toList)).foldlM Variables.carryOut vars

end Community.Config

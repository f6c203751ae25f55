/-!
# Media types

A media type is a type and a subtype, with parameters after semicolons. A subtype may end
with a plus sign and the format that the data has underneath. The value of a parameter
may stand in quotes.
-/

namespace Community.Http

/-- Whether `c` may stand in a name. -/
def isTokenChar (c : Char) : Bool :=
  c.isAlphanum || "!#$%&'*+-.^_\x60|~".toList.contains c

/-- Whether `c` may stand in quotes. -/
def isQuotable (c : Char) : Bool :=
  0x20 ≤ c.toNat && c.toNat ≠ 0x7F

/-- How far the parameters of a media type are read. -/
inductive ParameterState
  /-- Before a parameter. -/
  | between
  /-- In its name. -/
  | name
  /-- Right after the equals sign. -/
  | start
  /-- In a value without quotes. -/
  | value
  /-- Right after an opening quote. -/
  | opened
  /-- In a quoted value, of which at least one character is read. -/
  | quoted
  /-- After a closing quote. -/
  | closed
  deriving DecidableEq, Repr

namespace ParameterState

/-- The state after one more character, unless that may not stand there. Right after an
opening quote, another quote is part of the value. -/
def next? (c : Char) : ParameterState → Option ParameterState
  | between => if c = ' ' then some between else if isTokenChar c then some name else none
  | name => if c = '=' then some start else if isTokenChar c then some name else none
  | start => if c = '\x22' then some opened else if isTokenChar c then some value else none
  | value => if c = ';' then some between else if isTokenChar c then some value else none
  | opened => if isQuotable c then some quoted else none
  | quoted => if c = '\x22' then some closed else if isQuotable c then some quoted else none
  | closed => if c = ';' then some between else if c = ' ' then some closed else none

/-- Whether the parameters may end in this state. -/
def mayEnd : ParameterState → Bool
  | between | start | value | closed => true
  | name | opened | quoted => false

/-- Whether the rest of a text continues the parameters up to an end of theirs. -/
def admits : ParameterState → List Char → Bool
  | state, [] => state.mayEnd
  | state, c :: cs =>
    match state.next? c with
    | some state => state.admits cs
    | none => false

end ParameterState

/-- The text before the last plus sign that does not stand first, and what
follows that sign. -/
def cutAtPlus (cs : List Char) : List Char × Option (List Char) :=
  let back := cs.reverse
  let suffix := (back.takeWhile (· != '+')).reverse
  let front := ((back.dropWhile (· != '+')).drop 1).reverse
  if front.isEmpty then (cs, none) else (front, some suffix)

/-- Whether a content type says that the content is JSON. The parameters come after a
semicolon or a blank. -/
def isJsonType (contentType : String) : Bool :=
  let cs := contentType.toList.map Char.toLower
  let type := cs.takeWhile (· != '/')
  let rest := (cs.dropWhile (· != '/')).drop 1
  let subtype := rest.takeWhile fun c => c != ';' && c != ' '
  let parameters := (rest.dropWhile fun c => c != ';' && c != ' ').drop 1
  let (front, suffix) := cutAtPlus subtype
  type == "application".toList && !subtype.isEmpty && subtype.all isTokenChar &&
    (front == "json".toList || suffix == some "json".toList) &&
      ParameterState.between.admits parameters

end Community.Http

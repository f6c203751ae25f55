import Community.Decimal.Numeral
import Community.Json.Basic
import Community.Text.Hex

/-!
# Reading JSON text

A decoder reads its text from left to right and stops at the first thing that is wrong, be it
that the text is not JSON or that a value is not of the wanted kind. To say which comes
first, a text is read into a `Draft`: the tree of its values as far as the text can be
followed, with `broken` at the place where it cannot be followed any more, and with numbers
and strings that may still turn out to have no value.
-/

namespace Community.Json

open Community.Decimal Community.Text

/-- The values of a text up to its first fault. -/
inductive Draft
  | null
  | bool (b : Bool)
  | num (n : Numeral)
  /-- No text if an escape names half of a surrogate pair. -/
  | str (s : Option String)
  /-- `closed` unless the text cannot be followed to the closing bracket. -/
  | arr (items : List Draft) (closed : Bool)
  | obj (members : List (Option String × Draft)) (closed : Bool)
  | broken
  deriving Inhabited

namespace Draft

/-- Whether `c` may stand between the parts of a text. -/
def isSpace (c : Char) : Bool :=
  c == ' ' || c == '\n' || c == '\t' || c == '\r'

/-- The text without leading space. -/
def skipSpace (cs : List Char) : List Char :=
  cs.dropWhile isSpace

/-- The unit that four digits in base sixteen name. -/
def hexUnit? (a b c d : Char) : Option Nat := do
  return 4096 * (← hexValue? a) + 256 * (← hexValue? b)
    + 16 * (← hexValue? c) + (← hexValue? d)

/-- What the rest of a string holds: its text, and what follows the closing quote. -/
structure StringRest where
  text : Option (List Char)
  rest : List Char

/-- The rest of the string with one more character in front. -/
def StringRest.push (c : Char) (s : StringRest) : StringRest :=
  { s with text := s.text.map (c :: ·) }

/-- The rest of a string that names half of a surrogate pair. -/
def StringRest.spoil (s : StringRest) : StringRest :=
  { s with text := none }

/-- The character that a one-letter escape stands for. -/
def simpleEscape? (c : Char) : Option Char :=
  if c = '\x22' ∨ c = '\\' ∨ c = '/' then some c
  else if c = 'b' then some '\x08'
  else if c = 'f' then some '\x0c'
  else if c = 'n' then some '\n'
  else if c = 'r' then some '\r'
  else if c = 't' then some '\t'
  else none

/-- Whether a unit is the first, or the second, half of a surrogate pair. -/
def isHighSurrogate (u : Nat) : Bool :=
  0xD800 ≤ u && u ≤ 0xDBFF

@[inherit_doc isHighSurrogate]
def isLowSurrogate (u : Nat) : Bool :=
  0xDC00 ≤ u && u ≤ 0xDFFF

/-- The rest of a string after its opening quote, up to the closing one. Nothing if the text
ends before, holds a control character or an unknown escape. `pending` is the first half of a
surrogate pair that was just read. -/
def stringRest? (pending : Option Nat) : List Char → Option StringRest
  | '\\' :: 'u' :: a :: b :: c :: d :: cs =>
    match hexUnit? a b c d with
    | none => none
    | some u =>
      match pending with
      | some high =>
        if isLowSurrogate u then
          (stringRest? none cs).map
            (StringRest.push (Char.ofNat (0x10000 + 0x400 * (high - 0xD800) + (u - 0xDC00))))
        else (stringRest? none cs).map StringRest.spoil
      | none =>
        if isHighSurrogate u then stringRest? (some u) cs
        else if isLowSurrogate u then (stringRest? none cs).map StringRest.spoil
        else (stringRest? none cs).map (StringRest.push (Char.ofNat u))
  | '\\' :: e :: cs =>
    match simpleEscape? e with
    | none => none
    | some c => (stringRest? none cs).map fun r => settle (r.push c)
  | '\x22' :: cs => some (settle ⟨some [], cs⟩)
  | c :: cs =>
    if c = '\\' ∨ c.toNat < 0x20 then none
    else (stringRest? none cs).map fun r => settle (r.push c)
  | [] => none
where
  /-- A pending first half that is not followed by a second one spoils the string. -/
  settle (r : StringRest) : StringRest :=
    if pending.isSome then r.spoil else r

/-- The string after an opening quote. -/
def string? (cs : List Char) : Option (Option String × List Char) :=
  (stringRest? none cs).map fun r => (r.text.map String.ofList, r.rest)

/-- The digits at the start of a text, and what follows them. -/
def spanDigits : List Char → List Char × List Char
  | [] => ([], [])
  | c :: cs =>
    if c.isDigit then
      let (ds, rest) := spanDigits cs
      (c :: ds, rest)
    else ([], c :: cs)

/-- The fraction of a numeral, if a point follows; at least one digit has to
follow the point. -/
def fraction? : List Char → Option (Option (List Char) × List Char)
  | '.' :: cs =>
    let (ds, rest) := spanDigits cs
    if ds.isEmpty then none else some (some ds, rest)
  | cs => some (none, cs)

/-- The digits of an exponent after its sign. -/
def exponentDigits? (small : Bool) (cs : List Char) :
    Option (Option (Bool × List Char) × List Char) :=
  let (ds, rest) := spanDigits cs
  if ds.isEmpty then none else some (some (small, ds), rest)

/-- The exponent of a numeral, if a mark follows. -/
def exponent? : List Char → Option (Option (Bool × List Char) × List Char)
  | [] => some (none, [])
  | c :: cs =>
    if c = 'e' ∨ c = 'E' then
      match cs with
      | '+' :: ds => exponentDigits? false ds
      | '-' :: ds => exponentDigits? true ds
      | ds => exponentDigits? false ds
    else some (none, c :: cs)

/-- The numeral at the start of a text: a leading zero stands alone in the whole part. -/
def numeral? (negative : Bool) (cs : List Char) : Option (Numeral × List Char) :=
  let (whole, rest) := spanDigits cs
  match whole with
  | [] => none
  | first :: more =>
    if first = '0' ∧ !more.isEmpty then none
    else do
      let (fraction, rest) ← fraction? rest
      let (exponent, rest) ← exponent? rest
      return (⟨negative, whole, fraction, exponent⟩, rest)

/-- A numeral as a value. -/
def number (negative : Bool) (cs : List Char) : Draft × List Char :=
  match numeral? negative cs with
  | some (n, rest) => (.num n, rest)
  | none => (.broken, [])

mutual

/-- The value at the start of a text, and what follows it. `fuel` bounds the
number of values. -/
def value : Nat → List Char → Draft × List Char
  | 0, _ => (.broken, [])
  | fuel + 1, cs =>
    match skipSpace cs with
    | 'n' :: 'u' :: 'l' :: 'l' :: rest => (.null, rest)
    | 't' :: 'r' :: 'u' :: 'e' :: rest => (.bool true, rest)
    | 'f' :: 'a' :: 'l' :: 's' :: 'e' :: rest => (.bool false, rest)
    | '\x22' :: rest =>
      match string? rest with
      | some (s, rest) => (.str s, rest)
      | none => (.broken, [])
    | '[' :: rest =>
      match skipSpace rest with
      | ']' :: rest => (.arr [] true, rest)
      | rest =>
        let (vs, closed, rest) := items fuel rest
        (.arr vs closed, rest)
    | '\x7b' :: rest =>
      match skipSpace rest with
      | '\x7d' :: rest => (.obj [] true, rest)
      | rest =>
        let (ms, closed, rest) := members fuel rest
        (.obj ms closed, rest)
    | '-' :: rest => number true rest
    | rest => number false rest

/-- The items from here to the closing bracket, and whether there is one. -/
def items : Nat → List Char → List Draft × Bool × List Char
  | 0, _ => ([], false, [])
  | fuel + 1, cs =>
    let (v, rest) := value fuel cs
    match skipSpace rest with
    | ',' :: rest =>
      let (vs, closed, rest) := items fuel rest
      (v :: vs, closed, rest)
    | ']' :: rest => ([v], true, rest)
    | _ => ([v], false, [])

/-- The members from here to the closing brace, and whether there is one. -/
def members : Nat → List Char → List (Option String × Draft) × Bool × List Char
  | 0, _ => ([], false, [])
  | fuel + 1, cs =>
    match skipSpace cs with
    | '\x22' :: rest =>
      match string? rest with
      | none => ([], false, [])
      | some (name, rest) =>
        match skipSpace rest with
        | ':' :: rest =>
          let (v, rest) := value fuel rest
          match skipSpace rest with
          | ',' :: rest =>
            let (ms, closed, rest) := members fuel rest
            ((name, v) :: ms, closed, rest)
          | '\x7d' :: rest => ([(name, v)], true, rest)
          | _ => ([(name, v)], false, [])
        | _ => ([(name, .broken)], false, [])
    | _ => ([], false, [])

end

/-- A text read to its end: its value, and whether only space follows it. -/
structure Document where
  value : Draft
  ended : Bool

/-- Reads a text. Every value takes at least one character, so the length of the text
bounds their number. -/
def read (s : String) : Document :=
  let cs := s.toList
  let (v, rest) := value (2 * cs.length + 2) cs
  ⟨v, (skipSpace rest).isEmpty⟩

mutual

/-- Whether a reader that keeps nothing can follow the text to the end of the value. -/
def followed : Draft → Bool
  | arr vs closed => followedItems vs && closed
  | obj ms closed => followedMembers ms && closed
  | broken => false
  | _ => true

@[inherit_doc followed]
def followedItems : List Draft → Bool
  | [] => true
  | v :: vs => followed v && followedItems vs

@[inherit_doc followed]
def followedMembers : List (Option String × Draft) → Bool
  | [] => true
  | (_, v) :: ms => followed v && followedMembers ms

end

mutual

/-- The JSON value that a draft stands for, if the text is followed to its end, every string
and number in it has a value, and no container lies deeper than `depth` allows: each
container takes one, and the last one is never reached. -/
def json? (depth : Nat) : Draft → Option Json
  | null => some .null
  | bool b => some (.bool b)
  | num n => n.value?.map fun
    | .int i => .int i
    | .float x => .float x
  | str s => s.map .str
  | arr vs closed =>
    if depth ≤ 1 ∨ !closed then none else (jsonItems? (depth - 1) vs).map .arr
  | obj ms closed =>
    if depth ≤ 1 ∨ !closed then none else (jsonMembers? (depth - 1) ms).map Json.sortedObj
  | broken => none

@[inherit_doc json?]
def jsonItems? (depth : Nat) : List Draft → Option (List Json)
  | [] => some []
  | v :: vs => do return (← json? depth v) :: (← jsonItems? depth vs)

@[inherit_doc json?]
def jsonMembers? (depth : Nat) : List (Option String × Draft) → Option (List (String × Json))
  | [] => some []
  | (name, v) :: ms => do return (← name, ← json? depth v) :: (← jsonMembers? depth ms)

end

end Draft

end Community.Json

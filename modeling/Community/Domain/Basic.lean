import Community.Text.Blank
import Community.Text.Integer

/-!
# Domains

A domain is a list of labels joined by points, or it ends with an IP address in brackets. A
label holds letters, digits and hyphens of ASCII, with no hyphen at either end.
-/

namespace Community.Domain

open Text

/-- Whether a text is a label. -/
def isLabel (cs : List Char) : Bool :=
  0 < cs.length && cs.length ≤ 63 && cs.all (fun c => c.isAlphanum || c == '-') &&
    cs.head? != some '-' && cs.getLast? != some '-'

/-- Whether a text is a list of labels. -/
def isHostName (cs : List Char) : Bool :=
  (splitOn '.' cs).all isLabel

/-! ## Addresses in brackets -/

/-- Whether a text is an address of four numbers up to 255, none with a leading zero. -/
def isAddress4 (cs : List Char) : Bool :=
  let parts := splitOn '.' cs
  parts.length == 4 && parts.all fun p =>
    0 < p.length && p.length ≤ 3 && p.all Char.isDigit && ofDigits p ≤ 255 &&
      (p.length == 1 || p.head? != some '0')

/-- Whether a text is a group of an address of eight groups. -/
def isGroup (cs : List Char) : Bool :=
  0 < cs.length && cs.length ≤ 4 && cs.all fun c =>
    c.isDigit || ('a' ≤ c && c ≤ 'f') || ('A' ≤ c && c ≤ 'F')

/-- How many groups a list of parts stands for; an address of four numbers at the
end stands for two. -/
def groupCount? (lastMayBeShort : Bool) : List (List Char) → Option Nat
  | [] => some 0
  | [p] =>
    if isGroup p then some 1 else if lastMayBeShort && isAddress4 p then some 2 else none
  | p :: rest => if isGroup p then (groupCount? lastMayBeShort rest).map (· + 1) else none

/-- The text before and after the first pair of colons. -/
def cutAtGap : List Char → Option (List Char × List Char)
  | ':' :: ':' :: rest => some ([], rest)
  | c :: rest => (cutAtGap rest).map fun (a, b) => (c :: a, b)
  | [] => none

/-- The parts of a text between colons; an empty text has none. -/
def groups (cs : List Char) : List (List Char) :=
  if cs.isEmpty then [] else splitOn ':' cs

/-- Whether a text is an address of eight groups, of which one run may be left out. -/
def isAddress6 (cs : List Char) : Bool :=
  match cutAtGap cs with
  | none => groupCount? true (groups cs) == some 8
  | some (front, back) =>
    match groupCount? false (groups front), groupCount? true (groups back) with
    | some a, some b => a + b ≤ 7
    | _, _ => false

/-- Whether a text ends with an address in brackets. -/
def endsWithAddress (cs : List Char) : Bool :=
  match cs.reverse with
  | ']' :: back =>
    let inner := (back.takeWhile (· != '[')).reverse
    back.contains '[' && (isAddress4 inner || isAddress6 inner)
  | _ => false

/-- Whether a text is a domain. -/
def isDomain (cs : List Char) : Bool :=
  isHostName cs || endsWithAddress cs

end Community.Domain

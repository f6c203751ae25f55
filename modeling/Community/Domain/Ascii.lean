import Community.Domain.Direction
import Community.Domain.Joining
import Community.Domain.Mapping
import Community.Domain.Punycode

/-!
# Domains beyond ASCII

A domain may hold characters beyond ASCII; a name server knows it by its ASCII form. Each
character is replaced by what it stands for, the text is brought into composed form and cut
into labels, and a label that is not ASCII is encoded. A label that was encoded already is
read first, so that the rules for labels hold for it too: it starts with no mark, its joiners
are where they make a difference, and, in a domain with letters from right to left, it keeps
its order of characters.
-/

namespace Community.Domain

open Text

/-- A label as it is shown, and its ASCII form. -/
structure Label where
  shown : List Char
  ascii : List Char

namespace Label

/-- What the ASCII form of a label that is not ASCII begins with. -/
def encodedMark : List Char := ['x', 'n', '-', '-']

/-- Whether a text is ASCII. -/
def isAscii (cs : List Char) : Bool :=
  cs.all fun c => c.toNat < 0x80

/-- Whether a label that is not ASCII is well formed. -/
def isSound (cs : List Char) : Bool :=
  !(cs.head?.any isMark) && joinersFit [] cs

/-- The label that an encoded one stands for. It is not ASCII, holds characters that stand
for themselves, and is in composed form. -/
def ofEncoded? (cs : List Char) : Option Label := do
  let shown ← Punycode.decode? (cs.drop encodedMark.length)
  if isAscii shown || !shown.all isSettled || compose shown != shown ||
    !isSound shown then none
  else return ⟨shown, cs⟩

/-- The label that a mapped text stands for. -/
def ofMapped? (cs : List Char) : Option Label :=
  match isAscii cs, encodedMark.isPrefixOf cs with
  | true, true => ofEncoded? cs
  | true, false => some ⟨cs, cs⟩
  | false, true => none
  | false, false => if isSound cs then some ⟨cs, encodedMark ++ Punycode.encode cs⟩ else none

end Label

/-- The labels of a domain. -/
def labels? (cs : List Char) : Option (List Label) := do
  let labels ← (splitOn '.' (compose (← mapped? cs))).mapM Label.ofMapped?
  let shown := labels.map (·.shown)
  if shown.any hasRight && !shown.all keepsOrder then none else return labels

/-- The ASCII form of a domain. -/
def ascii? (cs : List Char) : Option (List Char) :=
  (labels? cs).map fun labels => ['.'].intercalate (labels.map (·.ascii))

end Community.Domain

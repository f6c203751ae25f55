import Community.Domain.Ascii
import Community.Domain.Basic

/-!
# Mail addresses

An address is a local part and a domain with the last `@` between them. The domain may hold
characters beyond ASCII if its ASCII form is a domain.
-/

namespace Community.Email

/-- Whether `c` may stand in a local part. -/
def isLocal (c : Char) : Bool :=
  c.isAlphanum || ".!#$%&'*+/=?^_\x60\x7b|\x7d~-".toList.contains c

/-- Whether a text is a domain, as it stands or in its ASCII form. -/
def isDomain (cs : List Char) : Bool :=
  Domain.isDomain cs || (Domain.ascii? cs).any Domain.isDomain

/-- The parts before and after the last `@`. -/
def cutAtLast (cs : List Char) : Option (List Char × List Char) :=
  if cs.contains '@' then
    let back := cs.reverse
    some (((back.dropWhile (· != '@')).drop 1).reverse, (back.takeWhile (· != '@')).reverse)
  else none

/-- Whether a text is a mail address. -/
def isAddress (s : String) : Bool :=
  match cutAtLast s.toList with
  | none => false
  | some (name, domain) =>
    name.length ≤ 64 && domain.length ≤ 255 && !name.isEmpty && name.all isLocal &&
      isDomain domain

end Community.Email

import Community.Text.Category

/-!
# Characters that are shown as they are

A quoted text writes a character as itself only if a reader can see where it is. Controls,
format characters, separators other than the space, fillers, private characters and numbers
without a character have no visible form, and a mark hides in the character before it: those
are written by number.
-/

namespace Community.Text

/-- The characters beyond ASCII without a visible form: the categories `Cc`, `Cf`, `Co`,
`Cs`, `Zl`, `Zp` and `Zs`, and the Hangul fillers. -/
def hiddenChars : CharSet := CharSet.ofText
  "80 a0, ad, 600 605, 61c, 6dd, 70f, 890 891, 8e2, 115f 1160, 1680, 180e, 2000 200f, 2028 202f,
   205f 2064, 2066 206f, 3000, 3164, d800 f8ff, feff, ffa0, fff9 fffb, 110bd, 110cd, 13430 1343f,
   1bca0 1bca3, 1d173 1d17a, e0001, e0020 e007f, f0000 ffffd, 100000 10fffd"

/-- The other characters that extend the one before them: those with the property
`Other_Grapheme_Extend`, except format characters and the halfwidth sound marks, which have a
form of their own. -/
def extendingChars : CharSet := CharSet.ofText
  "9be, 9d7, b3e, b57, bbe, bd7, cc0, cc2, cc7 cc8, cca ccb, cd5 cd6, d3e, d57, dcf, ddf, 1715,
   1734, 1b35, 1b3b, 1b3d, 1b43 1b44, 1baa, 1bf2 1bf3, 302e 302f, a953, a9c0, 111c0, 11235, 1133e,
   1134d, 11357, 113b8, 113c2, 113c5, 113c7 113c9, 113cf, 114b0, 114bd, 115af, 116b6, 11930, 1193d,
   11f41, 16ff0 16ff1, 1d165 1d166, 1d16d 1d172"

/-- Whether `c` is shown as itself in quoted text. -/
def isPlain (c : Char) : Bool :=
  if c.toNat < 0x80 then 0x20 ≤ c.toNat && c.toNat != 0x7f
  else !(hiddenChars.contains c || unassigned.contains c || isNonspacing c ||
    extendingChars.contains c)

end Community.Text

/-!
# UTF-8

A character is written with one to four bytes: a lead byte, which tells how many follow
and restricts the first of them, and continuation bytes. Where bytes do not continue
what was begun, that beginning stands for no character, and reading goes on with the
byte that did not fit.
-/

namespace Community.Text

/-- The bytes of a text. -/
def utf8Bytes (s : String) : List Nat :=
  s.toUTF8.toList.map UInt8.toNat

/-- What is still to come of a character that was begun. -/
structure Begun where
  /-- The bits read so far. -/
  bits : Nat
  /-- How many bytes follow, less one. -/
  more : Nat
  /-- The least and the largest value of the next byte. -/
  least : Nat
  most : Nat

/-- What a byte stands for outside of a character: a character, the start
of one, or nothing. -/
def leadByte (b : Nat) : List (Option Char) × Option Begun :=
  if b < 0x80 then ([some (Char.ofNat b)], none)
  else if b < 0xC2 then ([none], none)
  else if b < 0xE0 then ([], some ⟨b - 0xC0, 0, 0x80, 0xBF⟩)
  else if b = 0xE0 then ([], some ⟨0, 1, 0xA0, 0xBF⟩)
  else if b = 0xED then ([], some ⟨0xD, 1, 0x80, 0x9F⟩)
  else if b < 0xF0 then ([], some ⟨b - 0xE0, 1, 0x80, 0xBF⟩)
  else if b = 0xF0 then ([], some ⟨0, 2, 0x90, 0xBF⟩)
  else if b < 0xF4 then ([], some ⟨b - 0xF0, 2, 0x80, 0xBF⟩)
  else if b = 0xF4 then ([], some ⟨4, 2, 0x80, 0x8F⟩)
  else ([none], none)

/-- The characters that bytes stand for; none where they stand for no character. -/
def readUtf8 : Option Begun → List Nat → List (Option Char)
  | none, [] => []
  | some _, [] => [none]
  | none, b :: bs =>
    let (out, state) := leadByte b
    out ++ readUtf8 state bs
  | some begun, b :: bs =>
    if begun.least ≤ b ∧ b ≤ begun.most then
      let bits := 64 * begun.bits + (b - 0x80)
      match begun.more with
      | 0 => some (Char.ofNat bits) :: readUtf8 none bs
      | more + 1 => readUtf8 (some ⟨bits, more, 0x80, 0xBF⟩) bs
    else
      let (out, state) := leadByte b
      none :: (out ++ readUtf8 state bs)

/-- The text of bytes, with the replacement character where they stand for none. -/
def decodeLossy (bytes : List Nat) : String :=
  String.ofList ((readUtf8 none bytes).map fun c => c.getD '\ufffd')

/-- The text of bytes, if they stand for one. -/
def decodeStrict? (bytes : List Nat) : Option String :=
  let cs := readUtf8 none bytes
  if cs.all Option.isSome then some (String.ofList (cs.filterMap id)) else none

end Community.Text

import Community.Text.Category

/-!
# Lower case

Words in settings are compared without regard to case. A capital goes to its small letter by
the simple case mapping of Unicode. Two letters need more: `İ` becomes two characters, and
`Σ` has a second small form, which stands at the end of a word. A word is a run of letters
with case; marks, apostrophes and points between its letters do not end it.
-/

namespace Community.Text

/-- The capitals beyond ASCII, and their small letters. -/
def capitals : Array Shift := Shift.ofText
  "c0 d6 1 e0, d8 de 1 f8, 100 12e 2 101, 132 136 2 133, 139 147 2 13a, 14a 176 2 14b, 178 ff,
   179 17d 2 17a, 181 253, 182 184 2 183, 186 254, 187 188, 189 18a 1 256, 18b 18c, 18e 1dd,
   18f 259, 190 25b, 191 192, 193 260, 194 263, 196 269, 197 268, 198 199, 19c 26f, 19d 272,
   19f 275, 1a0 1a4 2 1a1, 1a6 280, 1a7 1a8, 1a9 283, 1ac 1ad, 1ae 288, 1af 1b0, 1b1 1b2 1 28a,
   1b3 1b5 2 1b4, 1b7 292, 1b8 1b9, 1bc 1bd, 1c4 1c6, 1c5 1c6, 1c7 1c9, 1c8 1c9, 1ca 1cc,
   1cb 1db 2 1cc, 1de 1ee 2 1df, 1f1 1f3, 1f2 1f4 2 1f3, 1f6 195, 1f7 1bf, 1f8 21e 2 1f9, 220 19e,
   222 232 2 223, 23a 2c65, 23b 23c, 23d 19a, 23e 2c66, 241 242, 243 180, 244 289, 245 28c,
   246 24e 2 247, 370 372 2 371, 376 377, 37f 3f3, 386 3ac, 388 38a 1 3ad, 38c 3cc, 38e 38f 1 3cd,
   391 3a1 1 3b1, 3a3 3ab 1 3c3, 3cf 3d7, 3d8 3ee 2 3d9, 3f4 3b8, 3f7 3f8, 3f9 3f2, 3fa 3fb,
   3fd 3ff 1 37b, 400 40f 1 450, 410 42f 1 430, 460 480 2 461, 48a 4be 2 48b, 4c0 4cf,
   4c1 4cd 2 4c2, 4d0 52e 2 4d1, 531 556 1 561, 10a0 10c5 1 2d00, 10c7 2d27, 10cd 2d2d,
   13a0 13ef 1 ab70, 13f0 13f5 1 13f8, 1c89 1c8a, 1c90 1cba 1 10d0, 1cbd 1cbf 1 10fd,
   1e00 1e94 2 1e01, 1e9e df, 1ea0 1efe 2 1ea1, 1f08 1f0f 1 1f00, 1f18 1f1d 1 1f10,
   1f28 1f2f 1 1f20, 1f38 1f3f 1 1f30, 1f48 1f4d 1 1f40, 1f59 1f5f 2 1f51, 1f68 1f6f 1 1f60,
   1f88 1f8f 1 1f80, 1f98 1f9f 1 1f90, 1fa8 1faf 1 1fa0, 1fb8 1fb9 1 1fb0, 1fba 1fbb 1 1f70,
   1fbc 1fb3, 1fc8 1fcb 1 1f72, 1fcc 1fc3, 1fd8 1fd9 1 1fd0, 1fda 1fdb 1 1f76, 1fe8 1fe9 1 1fe0,
   1fea 1feb 1 1f7a, 1fec 1fe5, 1ff8 1ff9 1 1f78, 1ffa 1ffb 1 1f7c, 1ffc 1ff3, 2126 3c9, 212a 6b,
   212b e5, 2132 214e, 2160 216f 1 2170, 2183 2184, 24b6 24cf 1 24d0, 2c00 2c2f 1 2c30, 2c60 2c61,
   2c62 26b, 2c63 1d7d, 2c64 27d, 2c67 2c6b 2 2c68, 2c6d 251, 2c6e 271, 2c6f 250, 2c70 252,
   2c72 2c73, 2c75 2c76, 2c7e 2c7f 1 23f, 2c80 2ce2 2 2c81, 2ceb 2ced 2 2cec, 2cf2 2cf3,
   a640 a66c 2 a641, a680 a69a 2 a681, a722 a72e 2 a723, a732 a76e 2 a733, a779 a77b 2 a77a,
   a77d 1d79, a77e a786 2 a77f, a78b a78c, a78d 265, a790 a792 2 a791, a796 a7a8 2 a797, a7aa 266,
   a7ab 25c, a7ac 261, a7ad 26c, a7ae 26a, a7b0 29e, a7b1 287, a7b2 29d, a7b3 ab53,
   a7b4 a7c2 2 a7b5, a7c4 a794, a7c5 282, a7c6 1d8e, a7c7 a7c9 2 a7c8, a7cb 264, a7cc a7da 2 a7cd,
   a7dc 19b, a7f5 a7f6, ff21 ff3a 1 ff41, 10400 10427 1 10428, 104b0 104d3 1 104d8,
   10570 10594 2 10597, 10571 10579 2 10598, 1057d 10589 2 105a4, 1058d 10591 2 105b4, 10595 105bc,
   10c80 10cb2 1 10cc0, 10d50 10d65 1 10d70, 118a0 118bf 1 118c0, 16e40 16e5f 1 16e60,
   16ea0 16eb8 1 16ebb, 1e900 1e921 1 1e922"

/-- The letters with case beyond ASCII: the property `Cased`. -/
def casedChars : CharSet := CharSet.ofText
  "aa, b5, ba, c0 d6, d8 f6, f8 1ba, 1bc 1bf, 1c4 293, 296 2b8, 2c0 2c1, 2e0 2e4, 345, 370 373,
   376 377, 37a 37d, 37f, 386, 388 38a, 38c, 38e 3a1, 3a3 3f5, 3f7 481, 48a 52f, 531 556, 560 588,
   10a0 10c5, 10c7, 10cd, 10d0 10fa, 10fc 10ff, 13a0 13f5, 13f8 13fd, 1c80 1c8a, 1c90 1cba,
   1cbd 1cbf, 1d00 1dbf, 1e00 1f15, 1f18 1f1d, 1f20 1f45, 1f48 1f4d, 1f50 1f57, 1f59, 1f5b, 1f5d,
   1f5f 1f7d, 1f80 1fb4, 1fb6 1fbc, 1fbe, 1fc2 1fc4, 1fc6 1fcc, 1fd0 1fd3, 1fd6 1fdb, 1fe0 1fec,
   1ff2 1ff4, 1ff6 1ffc, 2071, 207f, 2090 209c, 2102, 2107, 210a 2113, 2115, 2119 211d, 2124, 2126,
   2128, 212a 212d, 212f 2134, 2139, 213c 213f, 2145 2149, 214e, 2160 217f, 2183 2184, 24b6 24e9,
   2c00 2ce4, 2ceb 2cee, 2cf2 2cf3, 2d00 2d25, 2d27, 2d2d, a640 a66d, a680 a69d, a722 a787,
   a78b a78e, a790 a7dc, a7f1 a7f6, a7f8 a7fa, ab30 ab5a, ab5c ab69, ab70 abbf, fb00 fb06,
   fb13 fb17, ff21 ff3a, ff41 ff5a, 10400 1044f, 104b0 104d3, 104d8 104fb, 10570 1057a, 1057c 1058a,
   1058c 10592, 10594 10595, 10597 105a1, 105a3 105b1, 105b3 105b9, 105bb 105bc, 10780, 10783 10785,
   10787 107b0, 107b2 107ba, 10c80 10cb2, 10cc0 10cf2, 10d50 10d65, 10d70 10d85, 118a0 118df,
   16e40 16e7f, 16ea0 16eb8, 16ebb 16ed3, 1d400 1d454, 1d456 1d49c, 1d49e 1d49f, 1d4a2, 1d4a5 1d4a6,
   1d4a9 1d4ac, 1d4ae 1d4b9, 1d4bb, 1d4bd 1d4c3, 1d4c5 1d505, 1d507 1d50a, 1d50d 1d514, 1d516 1d51c,
   1d51e 1d539, 1d53b 1d53e, 1d540 1d544, 1d546, 1d54a 1d550, 1d552 1d6a5, 1d6a8 1d6c0, 1d6c2 1d6da,
   1d6dc 1d6fa, 1d6fc 1d714, 1d716 1d734, 1d736 1d74e, 1d750 1d76e, 1d770 1d788, 1d78a 1d7a8,
   1d7aa 1d7c2, 1d7c4 1d7cb, 1df00 1df09, 1df0b 1df1e, 1df25 1df2a, 1e030 1e06d, 1e900 1e943,
   1f130 1f149, 1f150 1f169, 1f170 1f189"

/-- The characters that do not end a word, apart from marks without a width: the rest of the
property `Case_Ignorable`. -/
def ignorableChars : CharSet := CharSet.ofText
  "27, 2e, 3a, 5e, 60, a8, ad, af, b4, b7 b8, 2b0 2ff, 374 375, 37a, 384 385, 387, 559, 55f, 5f4,
   600 605, 61c, 640, 6dd, 6e5 6e6, 70f, 7f4 7f5, 7fa, 81a, 824, 828, 888, 890 891, 8c9, 8e2, 971,
   e46, ec6, 10fc, 17d7, 180e, 1843, 1aa7, 1c78 1c7d, 1d2c 1d6a, 1d78, 1d9b 1dbf, 1fbd, 1fbf 1fc1,
   1fcd 1fcf, 1fdd 1fdf, 1fed 1fef, 1ffd 1ffe, 200b 200f, 2018 2019, 2024, 2027, 202a 202e,
   2060 2064, 2066 206f, 2071, 207f, 2090 209c, 2c7c 2c7d, 2d6f, 2e2f, 3005, 3031 3035, 303b,
   309b 309e, 30fc 30fe, a015, a4f8 a4fd, a60c, a67f, a69c a69d, a700 a721, a770, a788 a78a,
   a7f1 a7f4, a7f8 a7f9, a9cf, a9e6, aa70, aadd, aaf3 aaf4, ab5b ab5f, ab69 ab6b, fbb2 fbc2, fe13,
   fe52, fe55, feff, ff07, ff0e, ff1a, ff3e, ff40, ff70, ff9e ff9f, ffe3, fff9 fffb, 10780 10785,
   10787 107b0, 107b2 107ba, 10d4e, 10d6f, 10ec5, 110bd, 110cd, 11dd9, 13430 1343f, 16b40 16b43,
   16d40 16d42, 16d6b 16d6c, 16f93 16f9f, 16fe0 16fe1, 16fe3, 16ff2 16ff3, 1aff0 1aff3, 1aff5 1affb,
   1affd 1affe, 1bca0 1bca3, 1d173 1d17a, 1e030 1e06d, 1e137 1e13d, 1e4eb, 1e6ff, 1e94b,
   1f3fb 1f3ff, e0001, e0020 e007f"

/-- The small letter of a capital; every other character stays. -/
def lowerChar (c : Char) : Char :=
  if c.toNat < 0x80 then c.toLower
  else match shifted? capitals c.toNat with
    | some n => Char.ofNat n
    | none => c

/-- Whether `c` is a letter with case. -/
def isCased (c : Char) : Bool :=
  c.isAlpha || (0x80 ≤ c.toNat && casedChars.contains c)

/-- Whether `c` is passed over in the search for the letters around it. -/
def isCaseIgnorable (c : Char) : Bool :=
  isNonspacing c || ignorableChars.contains c

/-- Whether the first character that counts is a letter with case. -/
def meetsCased (cs : List Char) : Bool :=
  (cs.dropWhile isCaseIgnorable).head?.any isCased

/-- The characters in lower case. `before` holds the characters in front of them, the nearest
first: a capital sigma that ends a word takes its second form. -/
def lowerChars (before : List Char) : List Char → List Char
  | [] => []
  | c :: cs =>
    let small :=
      if c = 'İ' then ['i', '\u0307']
      else if c = 'Σ' ∧ meetsCased before ∧ !meetsCased cs then ['ς']
      else [lowerChar c]
    small ++ lowerChars (c :: before) cs

/-- The text in lower case. -/
def lower (s : String) : String :=
  String.ofList (lowerChars [] s.toList)

end Community.Text

import Community.Text.Table

/-!
# Composed characters

A letter with marks can be written as one character, or as the letter and its marks. In
composed form one character stands wherever there is one: the characters are taken apart,
the marks after a letter are put in the order of their classes, and each is joined to the
letter if a character for both exists and no mark between them is in the way. The
syllables of Hangul are composed by rule; the table lists the other composed characters
that a domain may hold.
-/

namespace Community.Domain

open Text

/-! ## Pairs -/

/-- A composed character and the two that it is made of. -/
structure Composite where
  first : Nat
  second : Nat
  whole : Nat

/-- The composites of a row: the second character comes first, then each first one
with its composite. -/
def compositesOf : List Nat → List Composite
  | second :: first :: whole :: rest =>
    ⟨first, second, whole⟩ :: compositesOf (second :: rest)
  | _ => []
termination_by row => row.length

/-- The composed characters. -/
def composites : Array Composite := ((tableRows
  "300 61 e0 65 e8 69 ec 6f f2 75 f9 fc 1dc, 300 6e 1f9 435 450 438 45d 113 1e15 14d 1e51 77 1e81,
   300 e2 1ea7 103 1eb1 ea 1ec1 f4 1ed3 1a1 1edd 1b0 1eeb,
   300 79 1ef3 1f00 1f02 1f01 1f03 1f10 1f12 1f11 1f13 1f20 1f22,
   300 1f21 1f23 1f30 1f32 1f31 1f33 1f40 1f42 1f41 1f43 1f50 1f52,
   300 1f51 1f53 1f60 1f62 1f61 1f63 3b1 1f70 3b5 1f72 3b7 1f74,
   300 3b9 1f76 3bf 1f78 3c5 1f7a 3c9 1f7c 3ca 1fd2 3cb 1fe2,
   301 61 e1 65 e9 69 ed 6f f3 75 fa 79 fd, 301 63 107 6c 13a 6e 144 72 155 73 15b 7a 17a,
   301 fc 1d8 67 1f5 e5 1fb e6 1fd f8 1ff 3ca 390,
   301 3b1 3ac 3b5 3ad 3b7 3ae 3b9 3af 3cb 3b0 3bf 3cc,
   301 3c5 3cd 3c9 3ce 433 453 43a 45c e7 1e09 113 1e17,
   301 ef 1e2f 6b 1e31 6d 1e3f f5 1e4d 14d 1e53 70 1e55,
   301 169 1e79 77 1e83 e2 1ea5 103 1eaf ea 1ebf f4 1ed1,
   301 1a1 1edb 1b0 1ee9 1f00 1f04 1f01 1f05 1f10 1f14 1f11 1f15,
   301 1f20 1f24 1f21 1f25 1f30 1f34 1f31 1f35 1f40 1f44 1f41 1f45,
   301 1f50 1f54 1f51 1f55 1f60 1f64 1f61 1f65, 302 61 e2 65 ea 69 ee 6f f4 75 fb 63 109,
   302 67 11d 68 125 6a 135 73 15d 77 175 79 177, 302 7a 1e91 1ea1 1ead 1eb9 1ec7 1ecd 1ed9,
   303 61 e3 6e f1 6f f5 69 129 75 169 76 1e7d,
   303 e2 1eab 103 1eb5 65 1ebd ea 1ec5 f4 1ed7 1a1 1ee1, 303 1b0 1eef 79 1ef9,
   304 61 101 65 113 69 12b 6f 14d 75 16b fc 1d6, 304 e4 1df 227 1e1 e6 1e3 1eb 1ed f6 22b f5 22d,
   304 22f 231 79 233 438 4e3 443 4ef 67 1e21 1e37 1e39, 304 1e5b 1e5d 3b1 1fb1 3b9 1fd1 3c5 1fe1,
   306 61 103 65 115 67 11f 69 12d 6f 14f 75 16d,
   306 438 439 443 45e 436 4c2 430 4d1 435 4d7 229 1e1d, 306 1ea1 1eb7 3b1 1fb0 3b9 1fd0 3c5 1fe0,
   307 63 10b 65 117 67 121 7a 17c 61 227 6f 22f,
   307 62 1e03 64 1e0b 66 1e1f 68 1e23 6d 1e41 6e 1e45,
   307 70 1e57 72 1e59 73 1e61 15b 1e65 161 1e67 1e63 1e69,
   307 74 1e6b 77 1e87 78 1e8b 79 1e8f 105d2 105c9 105da 105e4,
   308 61 e4 65 eb 69 ef 6f f6 75 fc 79 ff, 308 3b9 3ca 3c5 3cb 435 451 456 457 430 4d3 4d9 4db,
   308 436 4dd 437 4df 438 4e5 43e 4e7 4e9 4eb 44d 4ed,
   308 443 4f1 447 4f5 44b 4f9 68 1e27 f5 1e4f 16b 1e7b, 308 77 1e85 78 1e8d 74 1e97,
   309 61 1ea3 e2 1ea9 103 1eb3 65 1ebb ea 1ec3 69 1ec9,
   309 6f 1ecf f4 1ed5 1a1 1edf 75 1ee7 1b0 1eed 79 1ef7, 30a 61 e5 75 16f 77 1e98 79 1e99,
   30b 6f 151 75 171 443 4f3, 30c 63 10d 64 10f 65 11b 6c 13e 6e 148 72 159,
   30c 73 161 74 165 7a 17e 61 1ce 69 1d0 6f 1d2, 30c 75 1d4 fc 1da 67 1e7 6b 1e9 292 1ef 6a 1f0,
   30c 68 21f, 30f 61 201 65 205 69 209 6f 20d 72 211 75 215, 30f 475 477,
   311 61 203 65 207 69 20b 6f 20f 72 213 75 217,
   313 3b1 1f00 3b5 1f10 3b7 1f20 3b9 1f30 3bf 1f40 3c5 1f50, 313 3c9 1f60 3c1 1fe4,
   314 3b1 1f01 3b5 1f11 3b7 1f21 3b9 1f31 3bf 1f41 3c5 1f51, 314 3c9 1f61 3c1 1fe5,
   31b 6f 1a1 75 1b0, 323 62 1e05 64 1e0d 68 1e25 6b 1e33 6c 1e37 6d 1e43,
   323 6e 1e47 72 1e5b 73 1e63 74 1e6d 76 1e7f 77 1e89,
   323 7a 1e93 61 1ea1 65 1eb9 69 1ecb 6f 1ecd 1a1 1ee3, 323 75 1ee5 1b0 1ef1 79 1ef5, 324 75 1e73,
   325 61 1e01, 326 73 219 74 21b, 327 63 e7 67 123 6b 137 6c 13c 6e 146 72 157,
   327 73 15f 74 163 65 229 64 1e11 68 1e29, 328 61 105 65 119 69 12f 75 173 6f 1eb,
   32d 64 1e13 65 1e19 6c 1e3d 6e 1e4b 74 1e71 75 1e77, 32e 68 1e2b, 330 65 1e1b 69 1e2d 75 1e75,
   331 62 1e07 64 1e0f 6b 1e35 6c 1e3b 6e 1e49 72 1e5f, 331 74 1e6f 7a 1e95 68 1e96,
   338 2190 219a 2192 219b 2194 21ae 21d0 21cd 21d4 21ce 21d2 21cf,
   338 2203 2204 2208 2209 220b 220c 2223 2224 2225 2226 223c 2241,
   338 2243 2244 2245 2247 2248 2249 3d 2260 2261 2262 224d 226d,
   338 3c 226e 3e 226f 2264 2270 2265 2271 2272 2274 2273 2275,
   338 2276 2278 2277 2279 227a 2280 227b 2281 2282 2284 2283 2285,
   338 2286 2288 2287 2289 22a2 22ac 22a8 22ad 22a9 22ae 22ab 22af,
   338 227c 22e0 227d 22e1 2291 22e2 2292 22e3 22b2 22ea 22b3 22eb, 338 22b4 22ec 22b5 22ed,
   342 1f00 1f06 1f01 1f07 1f20 1f26 1f21 1f27 1f30 1f36 1f31 1f37,
   342 1f50 1f56 1f51 1f57 1f60 1f66 1f61 1f67 3b1 1fb6 3b7 1fc6,
   342 3b9 1fd6 3ca 1fd7 3c5 1fe6 3cb 1fe7 3c9 1ff6, 653 627 622,
   654 627 623 648 624 64a 626 6d5 6c0 6c1 6c2 6d2 6d3, 655 627 625, 93c 928 929 930 931 933 934,
   9be 9c7 9cb, 9d7 9c7 9cc, b3e b47 b4b, b56 b47 b48, b57 b47 b4c, bbe bc6 bca bc7 bcb,
   bd7 b92 b94 bc6 bcc, c56 c46 c48, cc2 cc6 cca, cd5 cbf cc0 cc6 cc7 cca ccb, cd6 cc6 cc8,
   d3e d46 d4a d47 d4b, d57 d46 d4c, dca dd9 dda ddc ddd, dcf dd9 ddc, ddf dd9 dde, 102e 1025 1026,
   1b35 1b05 1b06 1b07 1b08 1b09 1b0a 1b0b 1b0c 1b0d 1b0e 1b11 1b12,
   1b35 1b3a 1b3b 1b3c 1b3d 1b3e 1b40 1b3f 1b41 1b42 1b43,
   3099 304b 304c 304d 304e 304f 3050 3051 3052 3053 3054 3055 3056,
   3099 3057 3058 3059 305a 305b 305c 305d 305e 305f 3060 3061 3062,
   3099 3064 3065 3066 3067 3068 3069 306f 3070 3072 3073 3075 3076,
   3099 3078 3079 307b 307c 3046 3094 309d 309e 30ab 30ac 30ad 30ae,
   3099 30af 30b0 30b1 30b2 30b3 30b4 30b5 30b6 30b7 30b8 30b9 30ba,
   3099 30bb 30bc 30bd 30be 30bf 30c0 30c1 30c2 30c4 30c5 30c6 30c7,
   3099 30c8 30c9 30cf 30d0 30d2 30d3 30d5 30d6 30d8 30d9 30db 30dc,
   3099 30a6 30f4 30ef 30f7 30f0 30f8 30f1 30f9 30f2 30fa 30fd 30fe,
   309a 306f 3071 3072 3074 3075 3077 3078 307a 307b 307d 30cf 30d1,
   309a 30d2 30d4 30d5 30d7 30d8 30da 30db 30dd, 110ba 11099 1109a 1109b 1109c 110a5 110ab,
   11127 11131 1112e 11132 1112f, 1133e 11347 1134b, 11357 11347 1134c, 113b8 113c2 113c7,
   113bb 11384 11385, 113c2 1138b 1138e 113c2 113c5, 113c9 11382 11383 11390 11391 113c2 113c8,
   114b0 114b9 114bc, 114ba 114b9 114bb, 114bd 114b9 114be, 115af 115b8 115ba 115b9 115bb,
   11930 11935 11938, 1611e 1611e 16121, 1611f 1611e 16123 16129 16124 16121 16126 16122 16127,
   16120 1611e 16125 16121 16128, 16129 1611e 16122,
   16d67 16d67 16d68 16d63 16d69 16d69 16d6a").flatMap compositesOf).toArray

/-- The two parts of a Hangul syllable: the syllable without its final sound and that sound,
or the sounds of a syllable without one. -/
def splitSyllable (n : Nat) : Nat × Nat :=
  let i := n - 0xac00
  if i % 28 = 0 then (0x1100 + i / 588, 0x1161 + i % 588 / 28)
  else (n - i % 28, 0x11a7 + i % 28)

/-- The two parts of a composed character. -/
def splitChar? (n : Nat) : Option (Nat × Nat) :=
  if 0xac00 ≤ n ∧ n ≤ 0xd7a3 then some (splitSyllable n)
  else (composites.find? fun c => c.whole == n).map fun c => (c.first, c.second)

/-- The composed character of two. -/
def joinChars? (a b : Nat) : Option Nat :=
  if 0x1100 ≤ a ∧ a ≤ 0x1112 ∧ 0x1161 ≤ b ∧ b ≤ 0x1175 then
    some (0xac00 + 588 * (a - 0x1100) + 28 * (b - 0x1161))
  else if 0xac00 ≤ a ∧ a ≤ 0xd7a3 ∧ (a - 0xac00) % 28 = 0 ∧ 0x11a8 ≤ b ∧ b ≤ 0x11c2 then
    some (a + (b - 0x11a7))
  else (composites.find? fun c => c.first == a && c.second == b).map (·.whole)

/-! ## Order of marks -/

/-- A range of characters with their class. -/
structure ClassRange where
  order : Nat
  first : Nat
  last : Nat

/-- The ranges of a row: the class comes first, then the first and the last
character of each range. -/
def classRangesOf : List Nat → List ClassRange
  | order :: first :: last :: rest => ⟨order, first, last⟩ :: classRangesOf (order :: rest)
  | _ => []
termination_by row => row.length

/-- The marks with a class other than zero. -/
def classRanges : Array ClassRange := ((tableRows
  "1 334 338 1cd4 1cd4 1ce2 1ce8 20d2 20d3 20d8 20da 20e5 20e6,
   1 20ea 20eb 10a39 10a39 16af0 16af4 1bc9e 1bc9e 1d167 1d169, 6 16ff0 16ff1,
   7 93c 93c 9bc 9bc a3c a3c abc abc b3c b3c c3c c3c,
   7 cbc cbc 1037 1037 1b34 1b34 1be6 1be6 1c37 1c37 a9b3 a9b3,
   7 110ba 110ba 11173 11173 111ca 111ca 11236 11236 112e9 112e9 1133b 1133c,
   7 11446 11446 114c3 114c3 115c0 115c0 116b7 116b7 1183a 1183a 11943 11943,
   7 11d42 11d42 1e94a 1e94a, 8 3099 309a, 9 94d 94d 9cd 9cd a4d a4d acd acd b4d b4d bcd bcd,
   9 c4d c4d ccd ccd d3b d3c d4d d4d dca dca e3a e3a,
   9 eba eba f84 f84 1039 103a 1714 1715 1734 1734 17d2 17d2,
   9 1a60 1a60 1b44 1b44 1baa 1bab 1bf2 1bf3 2d7f 2d7f a806 a806,
   9 a82c a82c a8c4 a8c4 a953 a953 a9c0 a9c0 aaf6 aaf6 abed abed,
   9 10a3f 10a3f 11046 11046 11070 11070 1107f 1107f 110b9 110b9 11133 11134,
   9 111c0 111c0 11235 11235 112ea 112ea 1134d 1134d 113ce 113d0 11442 11442,
   9 114c2 114c2 115bf 115bf 1163f 1163f 116b6 116b6 1172b 1172b 11839 11839,
   9 1193d 1193e 119e0 119e0 11a34 11a34 11a47 11a47 11a99 11a99 11c3f 11c3f,
   9 11d44 11d45 11d97 11d97 11f41 11f42 1612f 1612f, a 5b0 5b0, b 5b1 5b1, c 5b2 5b2, d 5b3 5b3,
   e 5b4 5b4, f 5b5 5b5, 10 5b6 5b6, 11 5b7 5b7, 12 5b8 5b8 5c7 5c7, 13 5b9 5ba, 14 5bb 5bb,
   15 5bc 5bc, 16 5bd 5bd, 17 5bf 5bf, 18 5c1 5c1, 19 5c2 5c2, 1a fb1e fb1e, 1b 64b 64b 8f0 8f0,
   1c 64c 64c 8f1 8f1, 1d 64d 64d 8f2 8f2, 1e 618 618 64e 64e, 1f 619 619 64f 64f,
   20 61a 61a 650 650, 21 651 651, 22 652 652, 23 670 670, 24 711 711, 54 c55 c55, 5b c56 c56,
   67 e38 e39, 6b e48 e4b, 76 eb8 eb9, 7a ec8 ecb, 81 f71 f71, 82 f72 f72 f7a f7d f80 f80,
   84 f74 f74, ca 321 322 327 328 1dd0 1dd0, d6 1dce 1dce,
   d8 31b 31b f39 f39 1d165 1d166 1d16e 1d172, da 1dfa 1dfa 302a 302a,
   dc 316 319 31c 320 323 326 329 333 339 33c 347 349,
   dc 34d 34e 353 356 359 35a 591 591 596 596 59b 59b,
   dc 5a2 5a7 5aa 5aa 5c5 5c5 655 656 65c 65c 65f 65f,
   dc 6e3 6e3 6ea 6ea 6ed 6ed 731 731 734 734 737 739,
   dc 73b 73c 73e 73e 742 742 744 744 746 746 748 748,
   dc 7f2 7f2 7fd 7fd 859 85b 899 89b 8cf 8d3 8e3 8e3,
   dc 8e6 8e6 8e9 8e9 8ed 8ef 8f6 8f6 8f9 8fa 952 952,
   dc f18 f19 f35 f35 f37 f37 fc6 fc6 108d 108d 193b 193b,
   dc 1a18 1a18 1a7f 1a7f 1ab5 1aba 1abd 1abd 1abf 1ac0 1ac3 1ac4,
   dc 1aca 1aca 1add 1add 1ae6 1ae6 1b6c 1b6c 1cd5 1cd9 1cdc 1cdf,
   dc 1ced 1ced 1dc2 1dc2 1dca 1dca 1dcf 1dcf 1df9 1df9 1dfd 1dfd,
   dc 1dff 1dff 20e8 20e8 20ec 20ef a92b a92d aab4 aab4 fe27 fe2d,
   dc 101fd 101fd 102e0 102e0 10a0d 10a0d 10a3a 10a3a 10ae6 10ae6 10efa 10efb,
   dc 10efd 10eff 10f46 10f47 10f4b 10f4b 10f4d 10f50 10f83 10f83 10f85 10f85,
   dc 1d17b 1d182 1d18a 1d18b 1e4ee 1e4ee 1e5ef 1e5ef 1e8d0 1e8d6,
   de 59a 59a 5ad 5ad 1939 1939 302d 302d, e0 302e 302f, e2 1d16d 1d16d,
   e4 5ae 5ae 18a9 18a9 1df7 1df8 302b 302b, e6 300 314 33d 346 34a 34c 350 352 357 357 35b 35b,
   e6 363 36f 483 487 592 595 597 599 59c 5a1 5a8 5a9,
   e6 5ab 5ac 5af 5af 5c4 5c4 610 617 653 654 657 65b,
   e6 65d 65e 6d6 6dc 6df 6e2 6e4 6e4 6e7 6e8 6eb 6ec,
   e6 730 730 732 733 735 736 73a 73a 73d 73d 73f 741,
   e6 743 743 745 745 747 747 749 74a 7eb 7f1 7f3 7f3,
   e6 816 819 81b 823 825 827 829 82d 897 898 89c 89f,
   e6 8ca 8ce 8d4 8e1 8e4 8e5 8e7 8e8 8ea 8ec 8f3 8f5,
   e6 8f7 8f8 8fb 8ff 951 951 953 954 9fe 9fe f82 f83,
   e6 f86 f87 135d 135f 17dd 17dd 193a 193a 1a17 1a17 1a75 1a7c,
   e6 1ab0 1ab4 1abb 1abc 1ac1 1ac2 1ac5 1ac9 1acb 1adc 1ae0 1ae5,
   e6 1ae7 1aea 1b6b 1b6b 1b6d 1b73 1cd0 1cd2 1cda 1cdb 1ce0 1ce0,
   e6 1cf4 1cf4 1cf8 1cf9 1dc0 1dc1 1dc3 1dc9 1dcb 1dcc 1dd1 1df5,
   e6 1dfb 1dfb 1dfe 1dfe 20d0 20d1 20d4 20d7 20db 20dc 20e1 20e1,
   e6 20e7 20e7 20e9 20e9 20f0 20f0 2cef 2cf1 2de0 2dff a66f a66f,
   e6 a674 a67d a69e a69f a6f0 a6f1 a8e0 a8f1 aab0 aab0 aab2 aab3,
   e6 aab7 aab8 aabe aabf aac1 aac1 fe20 fe26 fe2e fe2f 10376 1037a,
   e6 10a0f 10a0f 10a38 10a38 10ae5 10ae5 10d24 10d27 10d69 10d6d 10eab 10eac,
   e6 10f48 10f4a 10f4c 10f4c 10f82 10f82 10f84 10f84 11100 11102 11366 11374,
   e6 1145e 1145e 16b30 16b36 1d185 1d189 1d1aa 1d1ad 1d242 1d244 1e000 1e08f,
   e6 1e130 1e136 1e2ae 1e2ae 1e2ec 1e2ef 1e4ef 1e4ef 1e5ee 1e5ee 1e6e3 1e6e3,
   e6 1e6e6 1e6e6 1e6ee 1e6ef 1e6f5 1e6f5 1e944 1e949,
   e8 315 315 31a 31a 358 358 1df6 1df6 302c 302c 1e4ec 1e4ed, e9 35c 35c 35f 35f 362 362 1dfc 1dfc,
   ea 35d 35e 360 361 1aeb 1aeb 1dcd 1dcd").flatMap classRangesOf).toArray

/-- The class of a character. Marks of different classes do not meet, so their order is free;
class zero is that of letters and of marks that take part in nothing. -/
def combiningClass (n : Nat) : Nat :=
  if n < 0x300 then 0
  else ((classRanges.find? fun r => r.first ≤ n && n ≤ r.last).map (·.order)).getD 0

/-- Puts a character in front of others, behind the marks with lower classes. -/
def placeMark (n : Nat) : List Nat → List Nat
  | [] => [n]
  | m :: rest =>
    if combiningClass m ≠ 0 ∧ combiningClass m < combiningClass n then m :: placeMark n rest
    else n :: m :: rest

/-! ## Composed form -/

/-- The characters that one is composed of. `depth` bounds how often a first
part is taken apart. -/
def decompose : Nat → Nat → List Nat
  | 0, n => [n]
  | depth + 1, n =>
    match splitChar? n with
    | some (a, b) => decompose depth a ++ [b]
    | none => [n]

/-- Joins the characters that follow `base` to it. `between` holds the marks that stand after
it and were not joined, the latest first, and `order` is the class of the latest. -/
def joinMarks (base : Nat) (between : List Nat) (order : Nat) : List Nat → List Nat
  | [] => base :: between.reverse
  | n :: rest =>
    let k := combiningClass n
    let joined := if between.isEmpty ∨ order < k then joinChars? base n else none
    match joined with
    | some whole => joinMarks whole between order rest
    | none =>
      if k = 0 then base :: between.reverse ++ joinMarks n [] 0 rest
      else joinMarks base (n :: between) k rest

/-- The text in composed form. No character is composed of more than four. -/
def compose (cs : List Char) : List Char :=
  match (cs.flatMap fun c => decompose 3 c.toNat).foldr placeMark [] with
  | [] => []
  | n :: rest => (joinMarks n [] 0 rest).map Char.ofNat

end Community.Domain

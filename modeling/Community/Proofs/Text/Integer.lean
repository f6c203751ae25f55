import Community.Text.Integer
import Community.Time.Timestamp

/-!
# The digits of a number

Numbers are written with `Nat.toDigits`, with zeros in front where a width is asked for, and
are read with `ofDigits`. What is written is read back (`ofDigits_toDigits`,
`ofDigits_padded`); the rest of the file is what a reader has to know about the digits to
find their end.
-/

namespace Community

namespace Text

theorem ofDigits_eq (cs : List Char) : ofDigits cs = Nat.ofDigitChars 10 cs 0 :=
  Nat.ofDigitChars_eq_foldl.symm

/-- The digits of a number are read as the number. -/
@[simp]
theorem ofDigits_toDigits (n : Nat) : ofDigits (Nat.toDigits 10 n) = n := by
  rw [ofDigits_eq, Nat.ofDigitChars_ten_toDigits]

/-- A number is written in digits. -/
theorem isDigit_of_mem_toDigits {n : Nat} {c : Char} (h : c ∈ Nat.toDigits 10 n) :
    c.isDigit = true :=
  Nat.isDigit_of_mem_toDigits (by decide) (by decide) h

theorem toNat_of_isDigit {c : Char} (h : c.isDigit = true) :
    48 ≤ c.toNat ∧ c.toNat ≤ 57 := by
  simpa [Char.isDigit, UInt32.le_iff_toNat_le] using h

/-- A digit is no blank. -/
theorem isBlank_of_isDigit {c : Char} (h : c.isDigit = true) : isBlank c = false := by
  obtain ⟨hlow, hhigh⟩ := toNat_of_isDigit h
  unfold isBlank
  simp
  omega

/-- Text that does not begin with a blank has no leading blanks. -/
theorem dropBlanks_cons {c : Char} {cs : List Char} (h : isBlank c = false) :
    dropBlanks (c :: cs) = c :: cs :=
  List.dropWhile_cons_of_neg (by simp [h])

/-- An integer in text: its digits, after a minus sign if it is negative. -/
theorem toList_toString (n : Int) :
    (toString n).toList
      = if n < 0 then '-' :: Nat.toDigits 10 n.natAbs else Nat.toDigits 10 n.natAbs := by
  rw [Int.toString_eq_repr, Int.repr_eq_if]
  by_cases hneg : n < 0
  · have hnat : (-n).toNat = n.natAbs := by omega
    rw [if_neg (by omega), if_pos hneg, hnat, String.toList_append, Nat.toList_repr]
    rfl
  · have hnat : n.toNat = n.natAbs := by omega
    rw [if_pos (by omega), if_neg hneg, hnat, Nat.toList_repr]

/-- What a character of an integer in text can be. -/
theorem mem_toString {n : Int} {c : Char} (h : c ∈ (toString n).toList) :
    c = '-' ∨ c.isDigit = true := by
  rw [toList_toString] at h
  split at h
  · exact (List.mem_cons.mp h).imp_right isDigit_of_mem_toDigits
  · exact Or.inr (isDigit_of_mem_toDigits h)

/-- Numbers that are written the same are the same. -/
theorem toString_injective {m n : Int} (h : toString m = toString n) : m = n := by
  have hchars := congrArg String.toList h
  rw [toList_toString, toList_toString] at hchars
  have hnotDigit : ∀ (k : Nat) (ds : List Char), Nat.toDigits 10 k ≠ '-' :: ds :=
    fun k ds heq =>
      absurd (@isDigit_of_mem_toDigits k '-' (heq ▸ List.mem_cons_self)) (by decide)
  have hdigits : ∀ j k : Nat, Nat.toDigits 10 j = Nat.toDigits 10 k → j = k := by
    intro j k hjk
    rw [← ofDigits_toDigits j, hjk, ofDigits_toDigits]
  -- a minus sign is no digit, so the signs agree, and then the digits do
  by_cases hm : m < 0 <;> by_cases hn : n < 0
  · rw [if_pos hm, if_pos hn] at hchars
    have habs := hdigits _ _ (List.cons.inj hchars).2
    omega
  · rw [if_pos hm, if_neg hn] at hchars
    exact absurd hchars.symm (hnotDigit _ _)
  · rw [if_neg hm, if_pos hn] at hchars
    exact absurd hchars (hnotDigit _ _)
  · rw [if_neg hm, if_neg hn] at hchars
    have habs := hdigits _ _ hchars
    omega

end Text

namespace Time.Timestamp

open Text

variable {width n : Nat}

/-- A padded number is written in digits. -/
theorem isDigit_of_mem_padded {c : Char} (h : c ∈ padded width n) : c.isDigit = true := by
  rcases List.mem_append.mp h with hzero | hdigit
  · rw [(List.mem_replicate.mp hzero).2]
    rfl
  · exact isDigit_of_mem_toDigits hdigit

/-- Padding does not change what is read. -/
@[simp]
theorem ofDigits_padded : ofDigits (padded width n) = n := by
  rw [padded, ofDigits_eq, Nat.ofDigitChars_append,
    Nat.ofDigitChars_replicate_zero, Nat.mul_zero, Nat.ofDigitChars_ten_toDigits]

theorem padded_ne_nil : padded width n ≠ [] :=
  List.append_ne_nil_of_right_ne_nil _ Nat.toDigits_ne_nil

/-- A number that fits has the width that is asked for. -/
theorem length_padded (hwidth : 0 < width) (h : n < Decimal.tenTo width) :
    (padded width n).length = width := by
  have hlength : (Nat.toDigits 10 n).length ≤ width :=
    (Nat.length_toDigits_le_iff (by decide) hwidth).mpr h
  rw [padded, List.length_append, List.length_replicate]
  omega

end Time.Timestamp

end Community

import Community.Json.Draft
import Community.Json.Printer
import Community.Proofs.Text.Integer

/-!
# Strings and integers that were written are read back

The two kinds of JSON text whose characters depend on their value. A string comes back
whatever its characters are, because `escape` leaves nothing in it that the reader takes for
the end (`string?_renderString`). An integer comes back as the numeral of its digits, and
the numeral stands for the integer as long as it fits in 64 bits (`value?_ofInt`).
-/

namespace Community.Json

open Text Decimal

namespace Draft

/-! ## Strings -/

/-- The two digits that name a control character. -/
theorem hexUnit?_hexDigit :
    ∀ n < 32, hexUnit? '0' '0' (hexDigit (n / 16)) (hexDigit (n % 16)) = some n := by
  decide

/-- A character that needs no escape is read as it stands. -/
theorem stringRest?_plain {c : Char} {cs : List Char} (hquote : c ≠ '\x22')
    (hslash : c ≠ '\\') (hcontrol : ¬ c.toNat < 0x20) :
    stringRest? none (c :: cs) = (stringRest? none cs).map (StringRest.push c) := by
  rw [stringRest?.eq_def]
  split
  · next heq => exact absurd (List.cons.inj heq).1 hslash
  · next heq => exact absurd (List.cons.inj heq).1 hslash
  · next heq => exact absurd (List.cons.inj heq).1 hquote
  · next heq =>
    obtain ⟨rfl, rfl⟩ := List.cons.inj heq
    rw [if_neg (not_or.mpr ⟨hslash, hcontrol⟩)]
    rfl
  · next heq => cases heq

/-- A control character is read from the number of its unit. -/
theorem stringRest?_unit {c : Char} {cs : List Char} (h : c.toNat < 0x20) :
    stringRest? none ('\\' :: 'u' :: '0' :: '0' :: hexDigit (c.toNat / 16) ::
      hexDigit (c.toNat % 16) :: cs) = (stringRest? none cs).map (StringRest.push c) := by
  have hhigh : isHighSurrogate c.toNat = false := by
    simp [isHighSurrogate]
    omega
  have hlow : isLowSurrogate c.toNat = false := by
    simp [isLowSurrogate]
    omega
  rw [stringRest?, hexUnit?_hexDigit _ h]
  dsimp only
  rw [hhigh, hlow, Char.ofNat_toNat]
  rfl

/-- What stands for a character in a string is read as that character. -/
theorem stringRest?_escape (c : Char) (cs : List Char) :
    stringRest? none (escape c ++ cs) = (stringRest? none cs).map (StringRest.push c) := by
  -- seven characters have a letter of their own, other control characters a number
  unfold escape
  split
  · next h => rw [h]; rfl
  split
  · next h => rw [h]; rfl
  split
  · next h => rw [h]; rfl
  split
  · next h => rw [h]; rfl
  split
  · next h => rw [h]; rfl
  split
  · next h => rw [h]; rfl
  split
  · next h => rw [h]; rfl
  split
  · next h => exact stringRest?_unit h
  · next hquote hslash _ _ _ _ _ hcontrol => exact stringRest?_plain hquote hslash hcontrol

theorem stringRest?_flatMap (cs rest : List Char) :
    stringRest? none (cs.flatMap escape ++ '\x22' :: rest) = some ⟨some cs, rest⟩ := by
  induction cs with
  | nil => rfl
  | cons c cs ih =>
    rw [List.flatMap_cons, List.append_assoc, stringRest?_escape, ih]
    rfl

/-- A string is read from what stands between its quotes, and the text after it is left. -/
theorem string?_renderString (s : String) (rest : List Char) :
    renderString s ++ rest = '\x22' :: (s.toList.flatMap escape ++ '\x22' :: rest) ∧
      string? (s.toList.flatMap escape ++ '\x22' :: rest) = some (some s, rest) := by
  constructor
  · simp [renderString]
  · rw [string?, stringRest?_flatMap]
    simp

/-! ## Integers -/

/-- The text goes on with neither a digit, nor a fraction, nor an exponent. -/
def EndsNumeral (rest : List Char) : Prop :=
  ∀ c cs, rest = c :: cs → c.isDigit = false ∧ c ≠ '.' ∧ c ≠ 'e' ∧ c ≠ 'E'

theorem spanDigits_of_endsNumeral {ds rest : List Char}
    (hdigits : ∀ c ∈ ds, c.isDigit = true) (hrest : EndsNumeral rest) :
    spanDigits (ds ++ rest) = (ds, rest) := by
  induction ds with
  | nil =>
    cases rest with
    | nil => rfl
    | cons c cs => simp [spanDigits, (hrest c cs rfl).1]
  | cons d ds ih =>
    rw [List.cons_append, spanDigits, if_pos (hdigits d List.mem_cons_self),
      ih fun c hc => hdigits c (List.mem_cons_of_mem d hc)]

theorem tenTo_succ (n : Nat) : tenTo (n + 1) = tenTo n * 10 := rfl

/-- The digits of a number, most significant first, are less than a power of ten. -/
theorem ofDigits_lt {ds : List Char} (hdigits : ∀ c ∈ ds, c.isDigit = true) (init : Nat) :
    Nat.ofDigitChars 10 ds init < tenTo ds.length * (init + 1) := by
  induction ds generalizing init with
  | nil =>
    show init < 1 * (init + 1)
    omega
  | cons d ds ih =>
    have hd : d.toNat - '0'.toNat < 10 := by
      have hrange := toNat_of_isDigit (hdigits d List.mem_cons_self)
      show d.toNat - 48 < 10
      omega
    rw [Nat.ofDigitChars_cons, List.length_cons, tenTo_succ, Nat.mul_assoc]
    refine Nat.lt_of_lt_of_le (ih (fun c hc => hdigits c (List.mem_cons_of_mem d hc)) _) ?_
    exact Nat.mul_le_mul_left _ (by omega)

/-- A number of several digits does not begin with a zero. -/
theorem toDigits_eq_zero_cons {n : Nat} {ds : List Char}
    (h : Nat.toDigits 10 n = '0' :: ds) : ds = [] := by
  refine Decidable.byContradiction fun hne => ?_
  have hdigits : ∀ c ∈ ds, c.isDigit = true := fun c hc =>
    isDigit_of_mem_toDigits (h ▸ List.mem_cons_of_mem '0' hc)
  have hvalue : Nat.ofDigitChars 10 ds 0 = n := by
    have hn := @Nat.ofDigitChars_ten_toDigits n
    rwa [h, Nat.ofDigitChars_cons] at hn
  have hlt : n < tenTo ds.length := by
    have hbound := ofDigits_lt hdigits 0
    rwa [hvalue, Nat.mul_one] at hbound
  have hlength :=
    (Nat.length_toDigits_le_iff (by decide) (List.length_pos_iff.mpr hne)).mpr hlt
  rw [h, List.length_cons] at hlength
  omega

/-- The numeral of an integer. -/
def ofInt (n : Int) : Numeral :=
  ⟨decide (n < 0), Nat.toDigits 10 n.natAbs, none, none⟩

theorem numeral?_toDigits (negative : Bool) (n : Nat) {rest : List Char}
    (hrest : EndsNumeral rest) :
    numeral? negative (Nat.toDigits 10 n ++ rest)
      = some (⟨negative, Nat.toDigits 10 n, none, none⟩, rest) := by
  have hspan := spanDigits_of_endsNumeral (fun c => @isDigit_of_mem_toDigits n c) hrest
  have hfraction : fraction? rest = some (none, rest) := by
    unfold fraction?
    split
    · exact absurd rfl (hrest _ _ rfl).2.1
    · rfl
  have hexponent : exponent? rest = some (none, rest) := by
    cases rest with
    | nil => rfl
    | cons c cs =>
      have hmark := (hrest c cs rfl).2.2
      unfold exponent?
      exact if_neg (not_or.mpr hmark)
  rw [numeral?, hspan]
  dsimp only
  split
  · next hnil => exact absurd hnil Nat.toDigits_ne_nil
  · next first more hwhole =>
    -- digits after a leading zero would be refused
    have hplain : ¬ (first = '0' ∧ (!more.isEmpty) = true) := by
      rintro ⟨rfl, hmore⟩
      rw [toDigits_eq_zero_cons hwhole] at hmore
      cases hmore
    rw [if_neg hplain]
    simp only [Option.bind_eq_bind, Option.bind_some, hfraction, hexponent, hwhole]
    rfl

/-- As long as it fits, the significand is the number of the digits. -/
theorem foldl_pushWhole (ds : List Char) (init : Nat)
    (h : Nat.ofDigitChars 10 ds init ≤ word64Max) :
    ds.foldl Scaled.pushWhole ⟨init, 0⟩ = ⟨Nat.ofDigitChars 10 ds init, 0⟩ := by
  induction ds generalizing init with
  | nil => rfl
  | cons d ds ih =>
    rw [Nat.ofDigitChars_cons] at h ⊢
    -- the significand only grows, so it fits now if it fits in the end
    have hnext : 10 * init + digitValue d ≤ word64Max := by
      refine Nat.le_trans ?_ h
      rw [Nat.ofDigitChars_eq_ofDigitChars_zero]
      exact Nat.le_add_right_of_le (Nat.le_mul_of_pos_left _ (Nat.pow_pos (by decide)))
    have hpush : Scaled.pushWhole ⟨init, 0⟩ d = ⟨10 * init + digitValue d, 0⟩ :=
      if_pos ⟨rfl, hnext⟩
    rw [List.foldl_cons, hpush]
    exact ih _ h

/-- Once a digit has been dropped, all further digits are. -/
theorem exponent_foldl_pushWhole (ds : List Char) {s : Scaled} (h : 0 < s.exponent) :
    0 < (ds.foldl Scaled.pushWhole s).exponent := by
  induction ds generalizing s with
  | nil => exact h
  | cons d ds ih =>
    have hpush : Scaled.pushWhole s d = ⟨s.significand, s.exponent + 1⟩ :=
      if_neg fun hfits => by omega
    rw [List.foldl_cons, hpush]
    exact ih (Int.lt_add_one_of_le (Int.le_of_lt h))

/-- If no digit is dropped, the significand is the number of the digits. -/
theorem significand_foldl_pushWhole (ds : List Char) (init : Nat)
    (h : (ds.foldl Scaled.pushWhole ⟨init, 0⟩).exponent = 0) :
    (ds.foldl Scaled.pushWhole ⟨init, 0⟩).significand = Nat.ofDigitChars 10 ds init := by
  induction ds generalizing init with
  | nil => rfl
  | cons d ds ih =>
    rw [List.foldl_cons] at h ⊢
    rw [Nat.ofDigitChars_cons]
    by_cases hfits : 10 * init + digitValue d ≤ word64Max
    · have hpush : Scaled.pushWhole ⟨init, 0⟩ d = ⟨10 * init + digitValue d, 0⟩ :=
        if_pos ⟨rfl, hfits⟩
      rw [hpush] at h ⊢
      exact ih _ h
    · have hpush : Scaled.pushWhole ⟨init, 0⟩ d = ⟨init, 0 + 1⟩ :=
        if_neg fun hboth => hfits hboth.2
      rw [hpush] at h
      have hone : 0 < (⟨init, 0 + 1⟩ : Scaled).exponent := Int.zero_lt_one
      have hdropped := exponent_foldl_pushWhole ds hone
      omega

/-- If the numeral of an integer stands for an integer at all, then for that one. -/
theorem eq_of_value?_ofInt {n i : Int} (h : (ofInt n).value? = some (.int i)) : i = n := by
  have hvalue : (ofInt n).value?
      = if ((Nat.toDigits 10 n.natAbs).foldl Scaled.pushWhole ⟨0, 0⟩).exponent = 0 then
          some (integer (decide (n < 0))
            ((Nat.toDigits 10 n.natAbs).foldl Scaled.pushWhole ⟨0, 0⟩).significand)
        else ((Nat.toDigits 10 n.natAbs).foldl Scaled.pushWhole ⟨0, 0⟩).toFloat?.map fun x =>
          .float (signed (decide (n < 0)) x) := rfl
  rw [hvalue] at h
  split at h
  · next hexponent =>
    rw [significand_foldl_pushWhole _ _ hexponent, Nat.ofDigitChars_ten_toDigits] at h
    by_cases hneg : n < 0
    · rw [decide_eq_true hneg, integer, if_pos rfl] at h
      split at h
      · cases h
      · cases h
        omega
    · rw [decide_eq_false hneg, integer, if_neg Bool.false_ne_true] at h
      cases h
      omega
  · -- a numeral of which digits were dropped stands for a float
    obtain ⟨x, -, hx⟩ := Option.map_eq_some_iff.mp h
    cases hx

/-- The numeral of a 64-bit integer, signed or not, stands for that integer. -/
theorem value?_ofInt {n : Int} (hlow : int64Min ≤ n) (hhigh : n ≤ word64Max) :
    (ofInt n).value? = some (.int n) := by
  unfold int64Min at hlow
  have hwhole : (Nat.toDigits 10 n.natAbs).foldl Scaled.pushWhole ⟨0, 0⟩ =
      ⟨n.natAbs, 0⟩ := by
    have hfits : Nat.ofDigitChars 10 (Nat.toDigits 10 n.natAbs) 0 ≤ word64Max := by
      rw [Nat.ofDigitChars_ten_toDigits]
      unfold word64Max at *
      omega
    rw [foldl_pushWhole _ _ hfits, Nat.ofDigitChars_ten_toDigits]
  have hinteger : integer (decide (n < 0)) n.natAbs = .int n := by
    by_cases hneg : n < 0
    · -- below zero there is one signed integer more than above
      have hrange : ¬ (n.natAbs = 0 ∨ twoTo 63 < n.natAbs) := by
        rw [show twoTo 63 = 9223372036854775808 from rfl]
        omega
      rw [decide_eq_true hneg, integer, if_pos rfl, if_neg hrange]
      exact congrArg Number.int (by omega)
    · rw [decide_eq_false hneg, integer, if_neg Bool.false_ne_true]
      exact congrArg Number.int (by omega)
  simp only [Numeral.value?, ofInt, hwhole, if_pos, hinteger]

end Draft

end Community.Json

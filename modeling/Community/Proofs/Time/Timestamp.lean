import Community.Proofs.Text.Integer

/-!
# A timestamp that was written is read back

Each part of a timestamp has a lemma of its own: the reader of the part, applied to what the
writer wrote and to any text that follows, yields the part and leaves the text that follows.
Where a part ends is told by the first character after it, which is no digit.

> `read?_render`: a valid timestamp is read from its own text.
-/

namespace Community.Time.Timestamp

open Text

/-- The text does not go on with a digit. -/
def EndsDigits (rest : List Char) : Prop :=
  ∀ c cs, rest = c :: cs → c.isDigit = false

theorem endsDigits_cons {c : Char} {cs : List Char} (h : c.isDigit = false) :
    EndsDigits (c :: cs) := by
  intro c' cs' heq
  cases heq
  exact h

/-- The digits that are there are taken, up to the limit or up to their end. -/
theorem takeDigits_append {limit : Nat} {ds rest : List Char}
    (hdigits : ∀ c ∈ ds, c.isDigit = true) (hlimit : ds.length ≤ limit)
    (hrest : ds.length = limit ∨ EndsDigits rest) :
    takeDigits limit (ds ++ rest) = (ds, rest) := by
  -- the digits and the limit run out together, or the text after them stops the reader
  induction ds generalizing limit with
  | nil =>
    cases limit with
    | zero => rfl
    | succ limit =>
      have hend : EndsDigits rest := hrest.resolve_left (by simp)
      cases rest with
      | nil => rfl
      | cons c cs => simp [takeDigits, hend c cs rfl]
  | cons d ds ih =>
    cases limit with
    | zero => simp at hlimit
    | succ limit =>
      have htail : takeDigits limit (ds ++ rest) = (ds, rest) := by
        refine ih (fun c hc => hdigits c (List.mem_cons_of_mem d hc))
          (by simpa using hlimit) ?_
        simpa using hrest
      simp [takeDigits, hdigits d List.mem_cons_self, htail]

theorem mem_of_append_eq_cons {α : Type} {as bs cs : List α} {a : α} (hne : as ≠ [])
    (h : as ++ bs = a :: cs) : a ∈ as := by
  cases as with
  | nil => exact absurd rfl hne
  | cons b as =>
    cases h
    exact List.mem_cons_self

/-- Digits begin with no blank. -/
theorem dropBlanks_digits {ds rest : List Char} (hdigits : ∀ c ∈ ds, c.isDigit = true)
    (hne : ds ≠ []) : dropBlanks (ds ++ rest) = ds ++ rest := by
  cases ds with
  | nil => exact absurd rfl hne
  | cons d ds => exact dropBlanks_cons (isBlank_of_isDigit (hdigits d List.mem_cons_self))

/-- A padded number is read as itself. -/
theorem number?_padded {width n : Nat} {rest : List Char} (hwidth : 0 < width)
    (h : n < Decimal.tenTo width) :
    number? width (padded width n ++ rest) = some (n, rest) := by
  have hdigits : ∀ c ∈ padded width n, c.isDigit = true := fun c => isDigit_of_mem_padded
  have hlength := length_padded hwidth h
  rw [number?, dropBlanks_digits hdigits padded_ne_nil,
    takeDigits_append hdigits (Nat.le_of_eq hlength) (Or.inl hlength)]
  simp [padded_ne_nil]

/-- A mark is read where it was written. -/
theorem mark?_self {c : Char} {rest : List Char} (h : isBlank c = false) :
    mark? c (c :: rest) = some rest := by
  rw [mark?, dropBlanks_cons h]
  exact if_pos rfl

/-- After a sign a year may have any number of digits. -/
theorem signed_padded {y sign : Int} {rest : List Char} (hy : y.natAbs ≤ 262143)
    (hrest : EndsDigits rest) (hsign : sign * y.natAbs = y) :
    year?.signed sign (padded 4 y.natAbs ++ rest) = some (y, rest) := by
  have hdigits : ∀ c ∈ padded 4 y.natAbs, c.isDigit = true := fun c => isDigit_of_mem_padded
  have hread : ¬ ((padded 4 y.natAbs).isEmpty = true ∨
      int64Max < (ofDigits (padded 4 y.natAbs) : Int)) := by
    rw [List.isEmpty_iff, ofDigits_padded]
    refine not_or.mpr ⟨padded_ne_nil, ?_⟩
    unfold int64Max
    omega
  rw [year?.signed, takeDigits_append hdigits (by simp) (Or.inr hrest)]
  dsimp only
  rw [if_neg hread, ofDigits_padded, hsign]

/-- A year that the calendar has is read as itself, its sign and its padding included. -/
theorem year?_yearText {y : Int} {rest : List Char} (hy : y.natAbs ≤ 262143)
    (hrest : EndsDigits rest) : year? (yearText y ++ rest) = some (y, rest) := by
  have hdigits : ∀ c ∈ padded 4 y.natAbs, c.isDigit = true := fun c => isDigit_of_mem_padded
  unfold yearText
  split
  · next hplain =>
    -- without a sign the year has exactly four digits, and the reader takes no more
    have hsame : y.toNat = y.natAbs := by omega
    have hlength : (padded 4 y.natAbs).length = 4 :=
      length_padded (by decide) (show y.natAbs < 10000 by omega)
    have htake : takeDigits 4 (padded 4 y.natAbs ++ rest) = (padded 4 y.natAbs, rest) :=
      takeDigits_append hdigits (Nat.le_of_eq hlength) (Or.inl hlength)
    rw [year?, hsame, dropBlanks_digits hdigits padded_ne_nil]
    split
    · next heq =>
        exact absurd (hdigits '-' (mem_of_append_eq_cons padded_ne_nil heq)) (by decide)
    · next heq =>
        exact absurd (hdigits '+' (mem_of_append_eq_cons padded_ne_nil heq)) (by decide)
    · simp [htake, padded_ne_nil]
      omega
  · by_cases hneg : y < 0
    · rw [if_pos hneg, year?, List.cons_append, dropBlanks_cons (by decide)]
      exact signed_padded hy hrest (by omega)
    · rw [if_neg hneg, year?, List.cons_append, dropBlanks_cons (by decide)]
      exact signed_padded hy hrest (by omega)

/-- A fraction of up to nine digits stands for as many nanoseconds as nine digits would. -/
theorem fraction?_padded {width n : Nat} {rest : List Char} (hwidth : 0 < width)
    (hn : n < Decimal.tenTo width) (hle : width ≤ 9) (hrest : EndsDigits rest) :
    fraction? ('.' :: (padded width n ++ rest)) =
      some (n * Decimal.tenTo (9 - width), rest) := by
  have hdigits : ∀ c ∈ padded width n, c.isDigit = true := fun c => isDigit_of_mem_padded
  have hlength := length_padded hwidth hn
  have hdrop : rest.dropWhile Char.isDigit = rest := by
    cases rest with
    | nil => rfl
    | cons c cs => exact List.dropWhile_cons_of_neg (by simp [hrest c cs rfl])
  rw [fraction?, takeDigits_append hdigits (by omega) (Or.inr hrest)]
  simp [padded_ne_nil, hlength, hdrop]

/-- The fraction of a second is read as itself, though its zeros were left out. -/
theorem fraction?_fractionText {nano : Nat} {rest : List Char} (h : nano < 1000000000)
    (hrest : EndsDigits rest) (hpoint : ∀ cs, rest ≠ '.' :: cs) :
    fraction? (fractionText nano ++ rest) = some (nano, rest) := by
  -- none, three, six or nine digits, the fewest that lose nothing
  unfold fractionText
  split
  · next hzero =>
    subst hzero
    rw [List.nil_append]
    unfold fraction?
    split
    · exact absurd rfl (hpoint _)
    · rfl
  · split
    · next hmillis =>
      have hvalue : nano / 1000000 * Decimal.tenTo (9 - 3) = nano := by
        show nano / 1000000 * 1000000 = nano
        omega
      rw [List.cons_append, fraction?_padded (by decide)
        (show nano / 1000000 < 1000 by omega)
        (by decide) hrest, hvalue]
    · split
      · next hmicros =>
        have hvalue : nano / 1000 * Decimal.tenTo (9 - 6) = nano := by
          show nano / 1000 * 1000 = nano
          omega
        rw [List.cons_append, fraction?_padded (by decide)
          (show nano / 1000 < 1000000 by omega)
          (by decide) hrest, hvalue]
      · have hvalue : nano * Decimal.tenTo (9 - 9) = nano := by
          show nano * 1 = nano
          omega
        rw [List.cons_append, fraction?_padded (by decide) (show nano < 1000000000 by omega)
          (by decide) hrest, hvalue]

/-- Two digits within their bound are read as the number. -/
theorem twoDigits?_padded {bound n : Nat} {rest : List Char} (hn : n < bound) (h : n < 100) :
    twoDigits? bound (padded 2 n ++ rest) = some (n, rest) := by
  have hlength : (padded 2 n).length = 2 := length_padded (by decide) h
  have hdigits : ∀ c ∈ padded 2 n, c.isDigit = true := fun c => isDigit_of_mem_padded
  have hvalue : ofDigits (padded 2 n) = n := ofDigits_padded
  obtain ⟨a, b, hab⟩ : ∃ a b, padded 2 n = [a, b] :=
    ⟨_, _, List.eq_getElem_of_length_eq_two _ hlength⟩
  rw [hab] at hdigits hvalue ⊢
  have hsum : 10 * digitValue a + digitValue b = n := by
    rw [← hvalue]
    simp [ofDigits]
  simp [twoDigits?, hdigits a, hdigits b, hsum, hn]

/-- The hours and minutes of an offset are read as written. -/
theorem hoursMinutes_padded (sign : Int) {h m : Nat} (hh : h < 24) (hm : m < 60) :
    offset?.hoursMinutes sign (padded 2 h ++ ':' :: padded 2 m) =
      some (sign * (60 * h + m), []) := by
  have hminutes : twoDigits? 60 (padded 2 m) = some (m, []) := by
    have hread : twoDigits? 60 (padded 2 m ++ []) = some (m, []) :=
      twoDigits?_padded hm (Nat.lt_trans hm (by decide))
    rwa [List.append_nil] at hread
  -- between hours and minutes anything like a colon is skipped, but no digit
  have hcolon : (':' :: padded 2 m).dropWhile (fun c => c == ':' || isBlank c) =
      padded 2 m := by
    obtain ⟨d, ds, hds⟩ := List.exists_cons_of_ne_nil (@padded_ne_nil 2 m)
    have hd : d.isDigit = true := isDigit_of_mem_padded (hds ▸ List.mem_cons_self)
    have hnot : d ≠ ':' := by
      rintro rfl
      exact absurd hd (by decide)
    rw [hds, List.dropWhile_cons_of_pos (by rfl), List.dropWhile_cons_of_neg]
    simp [hnot, isBlank_of_isDigit hd]
  rw [offset?.hoursMinutes, twoDigits?_padded (by omega) (by omega)]
  dsimp only [Option.bind_eq_bind, Option.bind_some]
  rw [hcolon, hminutes]
  rfl

/-- An offset of less than a day is read as itself. -/
theorem offset?_offsetText {m : Int} (hlow : -1440 < m) (hhigh : m < 1440) :
    offset? (dropBlanks (offsetText m)) = some (m, []) := by
  have hparts : ∀ sign : Int, sign * m.natAbs = m →
      offset?.hoursMinutes sign (padded 2 (m.natAbs / 60) ++ ':' :: padded 2 (m.natAbs % 60))
        = some (m, []) := by
    intro sign hsign
    have hsum : (60 * (m.natAbs / 60 : Nat) + (m.natAbs % 60 : Nat) : Int) =
        m.natAbs := by omega
    rw [hoursMinutes_padded sign (by omega) (by omega), hsum, hsign]
  unfold offsetText
  split
  · next hzero =>
    rw [hzero, dropBlanks_cons (by decide)]
    rfl
  · by_cases hneg : m < 0
    · rw [if_pos hneg, dropBlanks_cons (by decide)]
      exact hparts (-1) (by omega)
    · rw [if_neg hneg, dropBlanks_cons (by decide)]
      exact hparts 1 (by omega)

/-- What follows a time of day is its fraction or its offset, and no digit. -/
theorem endsDigits_offsetText (m : Int) :
    EndsDigits (offsetText m) ∧ ∀ cs, offsetText m ≠ '.' :: cs := by
  unfold offsetText
  split
  · exact ⟨endsDigits_cons (by decide), fun cs h => by cases h⟩
  · split
    · exact ⟨endsDigits_cons (by decide), fun cs h => by cases h⟩
    · exact ⟨endsDigits_cons (by decide), fun cs h => by cases h⟩

/-- A valid month is one of twelve. -/
theorem month_le_of_day {year : Int} {month day : Nat} (hday : 1 ≤ day)
    (h : day ≤ daysInMonth year month) : month ≤ 12 ∧ day ≤ 31 := by
  revert h
  unfold daysInMonth
  split <;> intro h
  · refine ⟨by decide, ?_⟩
    split at h <;> omega
  all_goals omega

/-- A valid timestamp is read from its own text. -/
theorem read?_render {t : Timestamp} (h : t.Valid) : read? t.render = some t := by
  have hvalid := h
  obtain ⟨hfirst, hlast, hday, hmonth, hhour, hminute, hsecond, hnano, hwest, heast, -⟩ := h
  obtain ⟨hmonth', hday'⟩ := month_le_of_day hday hmonth
  obtain ⟨hend, hpoint⟩ := endsDigits_offsetText t.offset
  have htwo : ∀ (n : Nat) (rest : List Char), n < 100 →
      number? 2 (padded 2 n ++ rest) = some (n, rest) :=
        fun n rest hn => number?_padded (by decide) hn
  have hmonth100 : t.month < 100 := by omega
  have hday100 : t.day < 100 := by omega
  have hhour100 : t.hour < 100 := by omega
  have hminute100 : t.minute < 100 := by omega
  have hsecond100 : t.second < 100 := by omega
  unfold read?
  rw [render, String.toList_ofList, renderChars]
  simp only [List.append_assoc, List.cons_append]
  have hdash : ∀ cs, mark? '-' ('-' :: cs) = some cs := fun cs => mark?_self (by decide)
  have hcolon : ∀ cs, mark? ':' (':' :: cs) = some cs := fun cs => mark?_self (by decide)
  -- one step for each part, in front of all that is still to be read
  refine Option.bind_eq_some_iff.mpr
    ⟨_, year?_yearText (by omega) (endsDigits_cons (by decide)), ?_⟩
  refine Option.bind_eq_some_iff.mpr ⟨_, hdash _, ?_⟩
  refine Option.bind_eq_some_iff.mpr ⟨_, htwo _ _ hmonth100, ?_⟩
  refine Option.bind_eq_some_iff.mpr ⟨_, hdash _, ?_⟩
  refine Option.bind_eq_some_iff.mpr ⟨_, htwo _ _ hday100, ?_⟩
  refine Option.bind_eq_some_iff.mpr ⟨_, rfl, ?_⟩
  refine Option.bind_eq_some_iff.mpr ⟨_, htwo _ _ hhour100, ?_⟩
  refine Option.bind_eq_some_iff.mpr ⟨_, hcolon _, ?_⟩
  refine Option.bind_eq_some_iff.mpr ⟨_, htwo _ _ hminute100, ?_⟩
  refine Option.bind_eq_some_iff.mpr ⟨_, hcolon _, ?_⟩
  refine Option.bind_eq_some_iff.mpr ⟨_, htwo _ _ hsecond100, ?_⟩
  refine Option.bind_eq_some_iff.mpr ⟨_, fraction?_fractionText hnano hend hpoint, ?_⟩
  refine Option.bind_eq_some_iff.mpr ⟨_, offset?_offsetText hwest heast, ?_⟩
  exact if_pos ⟨rfl, hvalid⟩

end Community.Time.Timestamp

import Community.Proofs.Json.Token

/-!
# A value that was written is followed to its end

> `ReadAs j d`: wherever the text of `j` stands, it is read as `d` and the text after it is
> left.

The relation is closed under everything that an object is made of, so that the draft of a
text is known without looking at the text (`ReadAs.obj`). Fuel is no obstacle: the length
of the text is always enough, and each value has at least one character.
-/

namespace Community.Json

open Text

/-- Nothing follows a value but the mark that ends it. -/
def Ends (rest : List Char) : Prop :=
  ∀ c cs, rest = c :: cs → c = ',' ∨ c = ']' ∨ c = '\x7d'

/-- A JSON ends where the text does. -/
theorem ends_nil : Ends [] := by
  intro c cs h
  cases h

/-- It ends before a comma and a closing bracket, too. -/
theorem ends_cons {c : Char} {cs : List Char} (h : c = ',' ∨ c = ']' ∨ c = '\x7d') :
    Ends (c :: cs) := by
  intro c' cs' heq
  cases heq
  exact h

/-- A number ends there. -/
theorem Ends.endsNumeral {rest : List Char} (h : Ends rest) : Draft.EndsNumeral rest := by
  intro c cs hrest
  rcases h c cs hrest with rfl | rfl | rfl <;> decide

/-- The text of `j` begins neither with a blank nor with a closing bracket. -/
def Opens (j : Json) : Prop :=
  ∃ c cs, j.renderChars = c :: cs ∧ Draft.isSpace c = false ∧ c ≠ ']'

theorem opens_obj (ms : List (String × Json)) : Opens (.obj ms) := by
  cases ms with
  | nil => exact ⟨_, _, rfl, by decide, by decide⟩
  | cons m ms => exact ⟨_, _, rfl, by decide, by decide⟩

/-- Wherever the text of `j` stands, it is read as `d`. -/
def ReadAs (j : Json) (d : Draft) : Prop :=
  ∀ fuel rest, j.renderChars.length ≤ fuel → Ends rest →
    Draft.value fuel (j.renderChars ++ rest) = (d, rest)

/-- A member of an object: what is written of it and what is read. -/
structure Part where
  name : String
  value : Json
  draft : Draft

namespace Part

/-- The member as it is written. -/
def written (p : Part) : String × Json :=
  (p.name, p.value)

/-- The member as it is read. -/
def read (p : Part) : Option String × Draft :=
  (some p.name, p.draft)

end Part

namespace ReadAs

open Draft

/-- There is one way only to read a text. -/
theorem unique {j : Json} {d d' : Draft} (h : ReadAs j d) (h' : ReadAs j d') : d = d' :=
  congrArg Prod.fst
    ((h _ [] (Nat.le_refl _) ends_nil).symm.trans (h' _ [] (Nat.le_refl _) ends_nil))

theorem null : ReadAs .null .null := by
  intro fuel rest hfuel hrest
  cases fuel with
  | zero => cases hfuel
  | succ fuel => rfl

theorem bool (b : Bool) : ReadAs (.bool b) (.bool b) := by
  intro fuel rest hfuel hrest
  cases fuel with
  | zero => cases b <;> cases hfuel
  | succ fuel => cases b <;> rfl

/-- A text is read as it was written, with its escapes. -/
theorem str (s : String) : ReadAs (.str s) (.str (some s)) := by
  intro fuel rest hfuel hrest
  obtain ⟨htext, hread⟩ := string?_renderString s rest
  cases fuel with
  | zero => cases hfuel
  | succ fuel =>
    rw [renderChars, htext]
    simp [value, skipSpace, isSpace, hread]

/-- A digit begins no other value than a number. -/
theorem value_of_isDigit {c : Char} {cs : List Char} {fuel : Nat} (h : c.isDigit = true) :
    value (fuel + 1) (c :: cs) = number false (c :: cs) := by
  have hne : ∀ d : Char, d.isDigit = false → c ≠ d := by
    rintro d hd rfl
    rw [h] at hd
    cases hd
  have hskip : skipSpace (c :: cs) = c :: cs := by
    refine List.dropWhile_cons_of_neg ?_
    simp [isSpace, hne ' ' rfl, hne '\n' rfl, hne '\t' rfl, hne '\r' rfl]
  -- every other kind of value begins with a mark of its own
  rw [value, hskip]
  split
  · next heq => exact absurd (List.cons.inj heq).1 (hne _ rfl)
  · next heq => exact absurd (List.cons.inj heq).1 (hne _ rfl)
  · next heq => exact absurd (List.cons.inj heq).1 (hne _ rfl)
  · next heq => exact absurd (List.cons.inj heq).1 (hne _ rfl)
  · next heq => exact absurd (List.cons.inj heq).1 (hne _ rfl)
  · next heq => exact absurd (List.cons.inj heq).1 (hne _ rfl)
  · next heq => exact absurd (List.cons.inj heq).1 (hne _ rfl)
  · rfl

/-- A number is read as it was written. -/
theorem int (n : Int) : ReadAs (.int n) (.num (ofInt n)) := by
  intro fuel rest hfuel hrest
  have hnumber : ∀ negative, number negative (Nat.toDigits 10 n.natAbs ++ rest)
      = (.num ⟨negative, Nat.toDigits 10 n.natAbs, none, none⟩, rest) := by
    intro negative
    rw [number, numeral?_toDigits negative _ hrest.endsNumeral]
  obtain ⟨d, ds, hds⟩ := List.exists_cons_of_ne_nil (@Nat.toDigits_ne_nil n.natAbs 10)
  have hd : d.isDigit = true := isDigit_of_mem_toDigits (hds ▸ List.mem_cons_self)
  rw [renderChars, renderInt] at hfuel ⊢
  cases fuel with
  | zero =>
    split at hfuel
    · cases hfuel
    · rw [hds] at hfuel
      cases hfuel
  | succ fuel =>
    rw [ofInt]
    by_cases hneg : n < 0
    · rw [if_pos hneg, decide_eq_true hneg, List.cons_append, ← hnumber true]
      simp [value, skipSpace, isSpace]
    · rw [if_neg hneg, decide_eq_false hneg, ← hnumber false, hds]
      exact value_of_isDigit hd

/-! ## Objects -/

/-- Members that are each read as drafts are read in turn, with what follows left over. -/
theorem members_written {p : Part} {ps : List Part} {fuel : Nat} {rest : List Char}
    (h : ∀ q ∈ p :: ps, ReadAs q.value q.draft)
    (hfuel : (renderMember p.written ++ renderMembers (ps.map Part.written)).length ≤ fuel) :
    members fuel (renderMember p.written ++ (renderMembers (ps.map Part.written) ++ rest))
      = ((p :: ps).map Part.read, true, rest) := by
  induction ps generalizing p fuel with
  | nil =>
    -- the value of the last member ends at the brace
    obtain ⟨htext, hread⟩ :=
      string?_renderString p.name (':' :: (p.value.renderChars ++ '\x7d' :: rest))
    cases fuel with
    | zero => cases hfuel
    | succ fuel =>
      have hvalue := h p List.mem_cons_self fuel ('\x7d' :: rest)
        (by simp [renderMember, Part.written] at hfuel; omega) (ends_cons (by simp))
      have hwritten : renderMember p.written ++ (renderMembers [] ++ rest)
          = renderString p.name ++ ':' :: (p.value.renderChars ++ '\x7d' :: rest) := by
        simp [renderMember, renderMembers, Part.written]
      rw [List.map_nil, hwritten, htext]
      simp [members, skipSpace, isSpace, hread, hvalue, Part.read]
  | cons q ps ih =>
    -- any other ends at a comma, and what follows is one member shorter
    obtain ⟨htext, hread⟩ := string?_renderString p.name
      (':' :: (p.value.renderChars ++ ',' :: (renderMember q.written ++
        (renderMembers (ps.map Part.written) ++ rest))))
    cases fuel with
    | zero => cases hfuel
    | succ fuel =>
      have hvalue := h p List.mem_cons_self fuel
        (',' :: (renderMember q.written ++ (renderMembers (ps.map Part.written) ++ rest)))
        (by simp [renderMember, Part.written] at hfuel; omega) (ends_cons (by simp))
      have hmore : members fuel (renderMember q.written ++
          (renderMembers (ps.map Part.written) ++ rest)) =
            ((q :: ps).map Part.read, true, rest) := by
        refine ih (fun r hr => h r (List.mem_cons_of_mem p hr)) ?_
        simp [renderMember, renderMembers, Part.written] at hfuel ⊢
        omega
      have hwritten : renderMember p.written ++
          (renderMembers ((q :: ps).map Part.written) ++ rest)
          = renderString p.name ++ ':' ::
            (p.value.renderChars ++ ',' :: (renderMember q.written ++
            (renderMembers (ps.map Part.written) ++ rest))) := by
        simp [renderMember, renderMembers, Part.written]
      rw [hwritten, htext]
      simp [members, skipSpace, isSpace, hread, hvalue, hmore, Part.read]

/-- An object is read member by member. -/
theorem obj {ps : List Part} (h : ∀ p ∈ ps, ReadAs p.value p.draft) :
    ReadAs (.obj (ps.map Part.written)) (.obj (ps.map Part.read) true) := by
  intro fuel rest hfuel hrest
  cases ps with
  | nil =>
    cases fuel with
    | zero => cases hfuel
    | succ fuel => rfl
  | cons p ps =>
    rw [List.map_cons, renderChars] at hfuel ⊢
    cases fuel with
    | zero => cases hfuel
    | succ fuel =>
      have hmembers : members fuel (renderMember p.written ++
          (renderMembers (ps.map Part.written) ++ rest)) =
            ((p :: ps).map Part.read, true, rest) :=
        members_written h (Nat.le_of_succ_le_succ hfuel)
      obtain ⟨cs, hcs⟩ : ∃ cs, renderMember p.written ++
          (renderMembers (ps.map Part.written) ++ rest) = '\x22' :: cs := ⟨_, rfl⟩
      rw [List.cons_append, List.append_assoc]
      rw [hcs] at hmembers ⊢
      simp [value, skipSpace, isSpace, hmembers]

/-! ## Arrays -/

/-- So are the items of a list. -/
theorem items_written {p : Json × Draft} {ps : List (Json × Draft)} {fuel : Nat}
    {rest : List Char} (h : ∀ q ∈ p :: ps, ReadAs q.1 q.2)
    (hfuel : (p.1.renderChars ++ renderItems (ps.map Prod.fst)).length ≤ fuel) :
    items fuel (p.1.renderChars ++ (renderItems (ps.map Prod.fst) ++ rest))
      = ((p :: ps).map Prod.snd, true, rest) := by
  induction ps generalizing p fuel with
  | nil =>
    rw [List.map_nil, renderItems] at hfuel ⊢
    cases fuel with
    | zero => simp at hfuel
    | succ fuel =>
      have hvalue := h p List.mem_cons_self fuel (']' :: rest)
        (by simp at hfuel; omega) (ends_cons (by simp))
      rw [List.singleton_append, items, hvalue]
      simp [skipSpace, isSpace]
  | cons q ps ih =>
    rw [List.map_cons, renderItems] at hfuel ⊢
    cases fuel with
    | zero => simp at hfuel
    | succ fuel =>
      have hvalue := h p List.mem_cons_self fuel
        (',' :: (q.1.renderChars ++ (renderItems (ps.map Prod.fst) ++ rest)))
        (by simp at hfuel; omega) (ends_cons (by simp))
      have hmore : items fuel (q.1.renderChars ++ (renderItems (ps.map Prod.fst) ++ rest))
          = ((q :: ps).map Prod.snd, true, rest) := by
        refine ih (fun r hr => h r (List.mem_cons_of_mem p hr)) ?_
        simp at hfuel ⊢
        omega
      rw [List.cons_append, List.append_assoc, items, hvalue]
      simp [skipSpace, isSpace, hmore]

/-- An array is read item by item. No item may be taken for a blank or for
the closing bracket. -/
theorem arr {ps : List (Json × Draft)} (h : ∀ p ∈ ps, ReadAs p.1 p.2)
    (hopens : ∀ p ∈ ps, Opens p.1) :
    ReadAs (.arr (ps.map Prod.fst)) (.arr (ps.map Prod.snd) true) := by
  intro fuel rest hfuel hrest
  cases ps with
  | nil =>
    cases fuel with
    | zero => cases hfuel
    | succ fuel => rfl
  | cons p ps =>
    rw [List.map_cons, renderChars] at hfuel ⊢
    cases fuel with
    | zero => cases hfuel
    | succ fuel =>
      have hitems : items fuel (p.1.renderChars ++ (renderItems (ps.map Prod.fst) ++ rest))
          = ((p :: ps).map Prod.snd, true, rest) :=
        items_written h (Nat.le_of_succ_le_succ hfuel)
      obtain ⟨c, cs, htext, hspace, hbracket⟩ := hopens p List.mem_cons_self
      rw [List.cons_append, List.append_assoc]
      rw [htext, List.cons_append] at hitems ⊢
      have hskip : ∀ tail, skipSpace (c :: tail) = c :: tail := fun tail =>
        List.dropWhile_cons_of_neg (by simp [hspace])
      have hopening : ∀ tail, skipSpace ('[' :: tail) = '[' :: tail := fun tail =>
        List.dropWhile_cons_of_neg (by decide)
      simp [value, hopening, hskip, hbracket, hitems]

/-- The text of a value is read to its end. -/
theorem read_render {j : Json} {d : Draft} (h : ReadAs j d) :
    Draft.read j.render = ⟨d, true⟩ := by
  have hvalue : value (2 * j.renderChars.length + 2) j.renderChars = (d, []) := by
    have hall := h (2 * j.renderChars.length + 2) [] (by omega) ends_nil
    rwa [List.append_nil] at hall
  rw [Draft.read, render, String.toList_ofList, hvalue]
  rfl

end ReadAs

end Community.Json

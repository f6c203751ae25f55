import Community.Cache.Key
import Community.Proofs.Cache.Star
import Community.Proofs.Text.Integer

/-!
# Keys that tell their parts apart

A key is made of parts with colons between them. Parts without a colon can be told apart
again, from the front and from the back, and so can one part of any kind that is left between
them, colons and stars included:

> `joined_cons_inj`: equal keys have equal first parts, if these have no colon, and go on
> equally.

> `joined_concat_inj`: equal keys have equal last parts, if these have no colon, and begin
> equally.

A family is named by its first characters. A key that begins differently is not in it, and
for that the rest of the key, which a client may have chosen, does not matter.
-/

namespace Community.Cache

open Text

/-- What follows the namespace in a key. -/
def joined (parts : List String) : List Char :=
  parts.flatMap fun part => ':' :: part.toList

theorem toList_keyOf (space : String) (parts : List String) :
    (keyOf space parts).toList = space.toList ++ joined parts := by
  unfold keyOf joined
  induction parts generalizing space with
  | nil => simp
  | cons p ps ih =>
    rw [List.foldl_cons, ih, List.flatMap_cons]
    simp

/-- A text without colons ends where the next part begins. -/
theorem append_joined_inj {as bs : List Char} {ps qs : List String} (has : ':' ∉ as)
    (hbs : ':' ∉ bs) (h : as ++ joined ps = bs ++ joined qs) :
    as = bs ∧ joined ps = joined qs := by
  induction as generalizing bs with
  | nil =>
    cases bs with
    | nil => exact ⟨rfl, h⟩
    | cons b bs =>
      cases ps with
      | nil => cases h
      | cons p ps =>
        -- the first character on the left is a colon, on the right it is none
        exact absurd ((List.cons.inj h).1 ▸ List.mem_cons_self) hbs
  | cons a as ih =>
    cases bs with
    | nil =>
      cases qs with
      | nil => cases h
      | cons q qs =>
        exact absurd ((List.cons.inj h).1 ▸ List.mem_cons_self) has
    | cons b bs =>
      obtain ⟨rfl, htail⟩ := List.cons.inj h
      obtain ⟨rfl, hrest⟩ := ih (fun hmem => has (List.mem_cons_of_mem a hmem))
        (fun hmem => hbs (List.mem_cons_of_mem a hmem)) htail
      exact ⟨rfl, hrest⟩

/-- Parts without colons are told apart. -/
theorem joined_cons_inj {p q : String} {ps qs : List String} (hp : ':' ∉ p.toList)
    (hq : ':' ∉ q.toList) (h : joined (p :: ps) = joined (q :: qs)) :
    p = q ∧ joined ps = joined qs := by
  obtain ⟨-, h⟩ := List.cons.inj h
  obtain ⟨hpart, hrest⟩ := append_joined_inj hp hq h
  exact ⟨String.toList_inj.mp hpart, hrest⟩

/-- Last parts without colons are told apart, whatever comes before them. -/
theorem joined_concat_inj (ps qs : List String) {p q : String} (hp : ':' ∉ p.toList)
    (hq : ':' ∉ q.toList) (h : joined (ps ++ [p]) = joined (qs ++ [q])) :
    joined ps = joined qs ∧ p = q := by
  -- read backwards, the last part is the first one
  have hreversed : ∀ (ps : List String) (p : String), (joined (ps ++ [p])).reverse
      = p.toList.reverse ++ joined [String.ofList (joined ps).reverse] := by
    intro ps p
    simp [joined]
  have hback := congrArg List.reverse h
  rw [hreversed, hreversed] at hback
  obtain ⟨hlast, hfront⟩ := append_joined_inj (by simpa using hp) (by simpa using hq) hback
  refine ⟨?_, String.toList_inj.mp (List.reverse_inj.mp hlast)⟩
  simpa [joined] using hfront

/-- There is no colon in the text of an integer. -/
theorem plain_toString (n : Int) : ':' ∉ (toString n).toList := by
  intro h
  rcases mem_toString h with h | h
  · exact absurd h (by decide)
  · exact absurd h (by decide)

/-- A last part may be anything, and may be missing. -/
theorem joined_option_inj {p q : Option String} (h : joined p.toList = joined q.toList) :
    p = q := by
  cases p with
  | none =>
    cases q with
    | none => rfl
    | some q => cases h
  | some p =>
    cases q with
    | none => cases h
    | some q =>
      have hchars : p.toList = q.toList := by simpa [joined] using h
      rw [String.toList_inj.mp hchars]

end Community.Cache

namespace Community

theorem Text.splitOn_concat {sep : Char} {cs : List Char} (h : sep ∉ cs) :
    splitOn sep (cs ++ [sep]) = [cs, []] := by
  induction cs with
  | nil => simp [splitOn]
  | cons c cs ih =>
    rw [List.mem_cons, not_or] at h
    rw [List.cons_append, splitOn, if_neg (Ne.symm h.1), ih h.2]

/-- A pattern with its one star at the end names the keys that begin like it. -/
theorem Glob.matchesKey_iff_begins {pattern key : String} {ps : List Char}
    (hpattern : pattern.toList = ps ++ ['*']) (hstar : '*' ∉ ps) :
    Glob.matchesKey pattern key = true ↔ ps <+: key.toList := by
  rw [matchesKey, hpattern, accepts_iff (Text.splitOn_concat hstar)]
  simp only [spans_singleton_iff, List.nil_suffix, and_true]
  exact exists_congr fun _ => eq_comm

/-- A key is in no family whose name begins with another character. -/
theorem Glob.matchesKey_of_head_ne {pattern key : String} {p k : Char} {ps ks : List Char}
    (hpattern : pattern.toList = p :: ps) (hkey : key.toList = k :: ks) (hstar : p ≠ '*')
    (hne : p ≠ k) : Glob.matchesKey pattern key = false := by
  rw [matchesKey, hpattern, hkey, accepts, Text.splitOn, if_neg hstar]
  cases Text.splitOn '*' ps with
  | nil => simp [after?, hne]
  | cons piece more => simp [after?, hne]

end Community

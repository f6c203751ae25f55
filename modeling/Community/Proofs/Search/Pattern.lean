import Community.Database.Query
import Mathlib.Data.List.Infix

/-!
# What a pattern describes

Patterns are compared by carrying along all that may be left of the text. What they
describe is said here without that: `%` describes every text, `_` every text of one
character, any other character itself, and a pattern a text if its characters describe the
pieces one after the other.

> `likePattern_iff`: the comparison decides what the pattern describes. What may be
> left are ends of one text, the longest first, and a run of any length leaves
> every end of the longest.

A keyword is compared as the pattern that it is, so it means itself only as long as it has
neither of the two characters:

> `hasKeyword_iff_of_isPlain`: a text has a plain keyword if and only if it contains it.

> `exists_hasKeyword`: a keyword with one of the two characters is had by a text that
> does not contain it.
-/

namespace Community.Database

/-- The pattern describes the text. -/
inductive Describes : List Char → List Char → Prop
  | done : Describes [] []
  | run {ps cs : List Char} (skipped : List Char) (h : Describes ps cs) :
    Describes ('%' :: ps) (skipped ++ cs)
  | one {ps cs : List Char} (c : Char) (h : Describes ps cs) :
      Describes ('_' :: ps) (c :: cs)
  | same {p : Char} {ps cs : List Char} (hrun : p ≠ '%') (hone : p ≠ '_')
    (h : Describes ps cs) :
    Describes (p :: ps) (p :: cs)

variable {p : Char} {ps qs cs : List Char}

/-- The empty pattern describes the empty text. -/
theorem describes_nil_iff : Describes [] cs ↔ cs = [] := by
  constructor
  · intro h
    cases h
    rfl
  · rintro rfl
    exact .done

/-- A percent sign describes any run of characters. -/
theorem describes_run_iff :
    Describes ('%' :: ps) cs ↔ ∃ skipped rest, cs = skipped ++ rest ∧ Describes ps rest := by
  constructor
  · intro h
    cases h with
    | run skipped h => exact ⟨skipped, _, rfl, h⟩
    | same hrun => exact absurd rfl hrun
  · rintro ⟨skipped, rest, rfl, h⟩
    exact .run skipped h

/-- A character that is no run describes one character. -/
theorem describes_cons_iff (hrun : p ≠ '%') :
    Describes (p :: ps) cs ↔ ∃ c rest, cs = c :: rest ∧ (p = '_' ∨ p = c) ∧
    Describes ps rest := by
  constructor
  · intro h
    cases h with
    | run => exact absurd rfl hrun
    | one c h => exact ⟨c, _, rfl, Or.inl rfl, h⟩
    | same _ _ h => exact ⟨p, _, rfl, Or.inr rfl, h⟩
  · rintro ⟨c, rest, rfl, hc, h⟩
    by_cases hone : p = '_'
    · exact hone ▸ .one c h
    · exact hc.resolve_left hone ▸ .same hrun hone h

/-- One pattern after the other describes one text after the other. -/
theorem describes_append_iff :
    Describes (ps ++ qs) cs ↔
      ∃ before after, cs = before ++ after ∧ Describes ps before ∧ Describes qs after := by
  constructor
  · intro h
    induction ps generalizing cs with
    | nil => exact ⟨[], cs, rfl, .done, h⟩
    | cons p ps ih =>
      by_cases hrun : p = '%'
      · subst hrun
        obtain ⟨skipped, rest, rfl, hrest⟩ := describes_run_iff.mp h
        obtain ⟨before, after, rfl, hbefore, hafter⟩ := ih hrest
        exact ⟨skipped ++ before, after, (List.append_assoc ..).symm,
          .run skipped hbefore, hafter⟩
      · obtain ⟨c, rest, rfl, hc, h⟩ := (describes_cons_iff hrun).mp h
        obtain ⟨before, after, rfl, hbefore, hafter⟩ := ih h
        exact ⟨c :: before, after, rfl,
          (describes_cons_iff hrun).mpr ⟨c, before, rfl, hc, hbefore⟩, hafter⟩
  · rintro ⟨before, after, rfl, hbefore, hafter⟩
    induction hbefore with
    | done => exact hafter
    | run skipped _ ih => exact List.append_assoc skipped _ _ ▸ .run skipped ih
    | one c _ ih => exact .one c ih
    | same hrun hone _ ih => exact .same hrun hone ih

/-! ## The comparison -/

/-- Each text is an end of those before it. -/
def Narrowing (texts : List (List Char)) : Prop :=
  texts.Pairwise fun longer shorter => shorter <:+ longer

/-- The endings of a text are its suffixes. -/
theorem mem_endings_iff {text : List Char} : cs ∈ endings text ↔ cs <:+ text := by
  rw [endings, List.mem_map]
  constructor
  · rintro ⟨n, -, rfl⟩
    exact List.drop_suffix n text
  · intro hsuffix
    have hskipped := Nat.sub_le text.length cs.length
    exact ⟨_, List.mem_range.mpr (Nat.lt_succ_of_le hskipped),
      (List.suffix_iff_eq_drop.mp hsuffix).symm⟩

/-- Each of them is a suffix of those before it. -/
theorem narrowing_endings (text : List Char) : Narrowing (endings text) :=
  List.pairwise_map.mpr
    (List.pairwise_lt_range.imp fun hlt =>
      List.drop_suffix_drop_left text (Nat.le_of_lt hlt))

/-- What is left of a text after one character that a pattern's character describes. -/
def leftOf (p : Char) : List Char → Option (List Char)
  | [] => none
  | c :: cs => if p = '_' ∨ p = c then some cs else none

/-- One character of the pattern takes one of the text. -/
theorem leftOf_eq_some {text : List Char} :
    leftOf p text = some cs ↔ ∃ c, text = c :: cs ∧ (p = '_' ∨ p = c) := by
  cases text with
  | nil => simp [leftOf]
  | cons c text =>
    rw [leftOf, Option.ite_none_right_eq_some, Option.some.injEq]
    constructor
    · rintro ⟨hc, rfl⟩
      exact ⟨c, rfl, hc⟩
    · rintro ⟨d, htext, hd⟩
      obtain ⟨rfl, rfl⟩ := List.cons.inj htext
      exact ⟨hd, rfl⟩

/-- A character that is no percent sign is matched against all of the texts that are left. -/
theorem leftAfter_cons (hrun : p ≠ '%') (texts : List (List Char)) :
    leftAfter (p :: ps) texts = leftAfter ps (texts.filterMap (leftOf p)) := by
  rw [leftAfter, if_neg hrun]
  rfl

theorem Narrowing.filterMap {texts : List (List Char)} (h : Narrowing texts) :
    Narrowing (texts.filterMap (leftOf p)) := by
  refine List.Pairwise.filterMap _ (fun longer shorter hsuffix cs hcs ds hds => ?_) h
  obtain ⟨c, rfl, -⟩ := leftOf_eq_some.mp hcs
  obtain ⟨d, rfl, -⟩ := leftOf_eq_some.mp hds
  rcases List.suffix_cons_iff.mp hsuffix with heq | hsuffix
  · rw [(List.cons.inj heq).2]
  · exact (List.suffix_cons d ds).trans hsuffix

/-- What is left of the texts is what the pattern leaves of one of them. -/
theorem mem_leftAfter_iff {texts : List (List Char)} (h : Narrowing texts) :
    cs ∈ leftAfter ps texts ↔ ∃ matched, matched ++ cs ∈ texts ∧ Describes ps matched := by
  induction ps generalizing texts with
  | nil =>
    rw [leftAfter]
    constructor
    · exact fun hcs => ⟨[], hcs, .done⟩
    · rintro ⟨matched, hmem, hmatched⟩
      rwa [describes_nil_iff.mp hmatched] at hmem
  | cons p ps ih =>
    by_cases hrun : p = '%'
    · subst hrun
      rw [leftAfter, if_pos rfl]
      cases texts with
      | nil =>
        rw [show ((List.head? []).map endings).getD [] = [] from rfl, ih List.Pairwise.nil]
        constructor <;> rintro ⟨_, hmem, -⟩ <;> cases hmem
      | cons longest texts =>
        -- every end of any of the texts is an end of the longest
        rw [show ((List.head? (longest :: texts)).map endings).getD [] =
          endings longest from rfl, ih (narrowing_endings longest)]
        constructor
        · rintro ⟨matched, hmem, hmatched⟩
          obtain ⟨skipped, hlongest⟩ := mem_endings_iff.mp hmem
          refine ⟨skipped ++ matched, ?_, .run skipped hmatched⟩
          rw [List.append_assoc, hlongest]
          exact List.mem_cons_self
        · rintro ⟨matched, hmem, hmatched⟩
          obtain ⟨skipped, rest, rfl, hrest⟩ := describes_run_iff.mp hmatched
          refine ⟨rest, mem_endings_iff.mpr ?_, hrest⟩
          rw [List.append_assoc] at hmem
          refine (List.suffix_append skipped (rest ++ cs)).trans ?_
          rcases List.mem_cons.mp hmem with heq | hmem
          · rw [heq]
          · exact (List.pairwise_cons.mp h).1 _ hmem
    · rw [leftAfter_cons hrun, ih h.filterMap]
      constructor
      · rintro ⟨matched, hmem, hmatched⟩
        obtain ⟨text, htext, hleft⟩ := List.mem_filterMap.mp hmem
        obtain ⟨c, rfl, hc⟩ := leftOf_eq_some.mp hleft
        exact ⟨c :: matched, htext,
          (describes_cons_iff hrun).mpr ⟨c, matched, rfl, hc, hmatched⟩⟩
      · rintro ⟨matched, hmem, hmatched⟩
        obtain ⟨c, rest, rfl, hc, hrest⟩ := (describes_cons_iff hrun).mp hmatched
        exact ⟨rest, List.mem_filterMap.mpr
          ⟨_, hmem, leftOf_eq_some.mpr ⟨c, rfl, hc⟩⟩, hrest⟩

/-- The comparison decides what the pattern describes. -/
theorem likePattern_iff {text : List Char} :
    likePattern ps text = true ↔ Describes ps text := by
  rw [likePattern, List.any_eq_true]
  simp only [List.isEmpty_iff, exists_eq_right,
    mem_leftAfter_iff (List.pairwise_singleton _ text),
    List.append_nil, List.mem_singleton, exists_eq_left]

/-! ## Keywords -/

/-- Whether the keyword has a character that means more than itself in a pattern. -/
def HasWildcard (keyword : String) : Prop :=
  '%' ∈ keyword.toList ∨ '_' ∈ keyword.toList

/-- Whether the keyword means itself as a pattern, for every server: some give a meaning to
the backslash as well. -/
def IsPlain (keyword : String) : Prop :=
  ¬HasWildcard keyword ∧ '\\' ∉ keyword.toList

/-- Whether the text contains the keyword, character for character. -/
def Contains (keyword text : String) : Prop :=
  keyword.toList <:+: text.toList

instance (keyword text : String) : Decidable (Contains keyword text) :=
  inferInstanceAs (Decidable (keyword.toList <:+: text.toList))

variable {keyword text : String}

/-- A text has a keyword if a part of it is what the keyword describes. -/
theorem hasKeyword_iff :
    hasKeyword keyword text = true ↔
    ∃ part, part <:+: text.toList ∧ Describes keyword.toList part := by
  rw [hasKeyword, likePattern_iff, describes_run_iff]
  constructor
  · rintro ⟨skipped, rest, htext, hrest⟩
    obtain ⟨part, after, rfl, hpart, -⟩ := describes_append_iff.mp hrest
    exact ⟨part, ⟨skipped, after, by rw [htext, List.append_assoc]⟩, hpart⟩
  · rintro ⟨part, ⟨skipped, after, htext⟩, hpart⟩
    refine ⟨skipped, part ++ after, by rw [← htext, List.append_assoc], ?_⟩
    refine describes_append_iff.mpr ⟨part, after, rfl, hpart, ?_⟩
    exact List.append_nil after ▸ .run after .done

/-- A pattern of characters that mean themselves describes itself only. -/
theorem describes_iff_of_plain (hrun : '%' ∉ ps) (hone : '_' ∉ ps) :
    Describes ps cs ↔ cs = ps := by
  induction ps generalizing cs with
  | nil => exact describes_nil_iff
  | cons p ps ih =>
    obtain ⟨hprun, hrun⟩ := List.ne_and_not_mem_of_not_mem_cons hrun
    obtain ⟨hpone, hone⟩ := List.ne_and_not_mem_of_not_mem_cons hone
    rw [describes_cons_iff hprun.symm]
    constructor
    · rintro ⟨c, rest, rfl, hc, hrest⟩
      rw [← hc.resolve_left hpone.symm, (ih hrun hone).mp hrest]
    · rintro rfl
      exact ⟨p, ps, rfl, Or.inr rfl, (ih hrun hone).mpr rfl⟩

/-- The pattern of a plain keyword matches exactly the texts that contain it. -/
theorem hasKeyword_iff_of_isPlain (h : IsPlain keyword) :
    hasKeyword keyword text = true ↔ Contains keyword text := by
  obtain ⟨hrun, hone⟩ := not_or.mp h.1
  rw [hasKeyword_iff]
  simp only [describes_iff_of_plain hrun hone, exists_eq_right]
  rfl

/-- The shortest text that a pattern describes, with some letter for each
single character. -/
def shortest (ps : List Char) : List Char :=
  (ps.filter (· ≠ '%')).map fun p => if p = '_' then 'x' else p

/-- Every pattern describes a text, its shortest. -/
theorem describes_shortest (ps : List Char) : Describes ps (shortest ps) := by
  induction ps with
  | nil => exact .done
  | cons p ps ih =>
    by_cases hrun : p = '%'
    · rw [shortest, List.filter_cons_of_neg (by simp [hrun]), hrun]
      exact .run [] ih
    · rw [shortest, List.filter_cons_of_pos (by simp [hrun]), List.map_cons]
      split
      · next hone =>
        subst hone
        exact .one 'x' ih
      · next hone => exact .same hrun hone ih

/-- That text has no wildcards. -/
theorem plain_shortest (ps : List Char) : '%' ∉ shortest ps ∧ '_' ∉ shortest ps := by
  constructor <;>
  · intro hmem
    obtain ⟨p, hp, heq⟩ := List.mem_map.mp hmem
    have hrun : p ≠ '%' := of_decide_eq_true (List.mem_filter.mp hp).2
    split at heq
    · exact absurd heq (by decide)
    · contradiction

/-- A keyword with a character that means more than itself is had by a text that
does not contain it: the shortest that it describes is not longer than the keyword,
and not the keyword. -/
theorem exists_hasKeyword (h : HasWildcard keyword) :
    ∃ text, hasKeyword keyword text = true ∧ ¬Contains keyword text := by
  refine ⟨String.ofList (shortest keyword.toList), ?_, fun hcontains => not_or.mpr ?_ h⟩
  · refine hasKeyword_iff.mpr ⟨_, ?_, describes_shortest _⟩
    rw [String.toList_ofList]
  · rw [Contains, String.toList_ofList] at hcontains
    have hlength : (shortest keyword.toList).length ≤ keyword.toList.length := by
      rw [shortest, List.length_map]
      exact List.length_filter_le _ _
    have heq := hcontains.eq_of_length_le hlength
    rw [heq]
    exact plain_shortest _

end Community.Database

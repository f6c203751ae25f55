import Community.Cache.Glob
import Mathlib.Data.List.Infix

/-!
# What a pattern with stars names

A pattern is compared with a key piece by piece, from left to right, and each piece
takes the first place where it occurs. What it should mean has no order in it: some runs
of characters in the place of the stars make the key. `Spans` says this of the pieces
behind the first star.

> `fits_iff`: the comparison finds the runs if there are any.

The first place is never the wrong one. If a piece stands further to the right as well, then
what is left there is an end of what is left here, and the run before the next piece may be
as long as it has to be (`Spans.append_left`). Only the last piece is not looked for: it has
to stand at the very end, which may not be where it occurs first.
-/

namespace Community

/-! ## Cutting a text -/

namespace Text

variable {sep : Char}

/-- A text is its pieces with `sep` before each but the first. -/
theorem exists_splitOn (sep : Char) (cs : List Char) :
    ∃ first more, splitOn sep cs = first :: more ∧
    cs = first ++ more.flatMap (sep :: ·) ∧ ∀ piece ∈ first :: more, sep ∉ piece := by
  induction cs with
  | nil => exact ⟨[], [], rfl, rfl, by simp⟩
  | cons c cs ih =>
    obtain ⟨first, more, hsplit, hjoin, hplain⟩ := ih
    rw [splitOn, hsplit]
    by_cases hc : c = sep
    · subst hc
      refine ⟨[], first :: more, if_pos rfl, ?_,
        List.forall_mem_cons.mpr ⟨List.not_mem_nil, hplain⟩⟩
      rw [hjoin, List.nil_append, List.flatMap_cons, List.cons_append]
    · rw [if_neg hc]
      obtain ⟨hfirst, hmore⟩ := List.forall_mem_cons.mp hplain
      refine ⟨c :: first, more, rfl, ?_, List.forall_mem_cons.mpr ⟨?_, hmore⟩⟩
      · rw [hjoin, List.cons_append]
      · exact List.not_mem_cons_of_ne_of_not_mem (Ne.symm hc) hfirst

end Text

namespace Glob

open Text

variable {piece rest key : List Char} {more : List (List Char)}

/-! ## What is looked for -/

/-- What is after a part follows it. -/
theorem after?_eq_some {part text : List Char} :
    after? part text = some rest ↔ text = part ++ rest := by
  induction part generalizing text with
  | nil => rw [after?, Option.some.injEq, List.nil_append]
  | cons p part ih =>
    cases text with
    | nil => simp [after?]
    | cons c text =>
      rw [after?, Option.ite_none_right_eq_some, ih, List.cons_append, List.cons.injEq,
        eq_comm (a := c)]

/-- What is found stands somewhere in the text. -/
theorem eq_of_afterFirst? {text : List Char} (h : afterFirst? piece text = some rest) :
    ∃ run, text = run ++ (piece ++ rest) := by
  induction text with
  | nil =>
    rw [afterFirst?] at h
    have htext := after?_eq_some.mp h
    exact ⟨[], htext⟩
  | cons c text ih =>
    rw [afterFirst?] at h
    split at h
    · next here hafter =>
      cases h
      have htext := after?_eq_some.mp hafter
      exact ⟨[], htext⟩
    · obtain ⟨run, rfl⟩ := ih h
      exact ⟨c :: run, rfl⟩

/-- Wherever a piece stands, the search finds it there or further to the left. -/
theorem afterFirst?_append (run piece rest : List Char) :
    ∃ skipped, afterFirst? piece (run ++ (piece ++ rest)) = some (skipped ++ rest) := by
  induction run with
  | nil =>
    refine ⟨[], ?_⟩
    have hafter : after? piece (piece ++ rest) = some rest := after?_eq_some.mpr rfl
    rw [List.nil_append, List.nil_append]
    cases htext : piece ++ rest with
    | nil => rwa [htext] at hafter
    | cons c text => rw [afterFirst?, ← htext, hafter]
  | cons r run ih =>
    rw [List.cons_append, afterFirst?]
    split
    · next here hafter =>
      -- both are ends of the text, and what is left further to the right is the shorter one
      have htext := after?_eq_some.mp hafter
      have hlength := congrArg List.length htext
      simp only [List.length_cons, List.length_append] at hlength
      have hrest : rest <:+ piece ++ here := by
        rw [← htext]
        exact ((List.suffix_append piece rest).trans (List.suffix_append run _)).trans
          (List.suffix_cons _ _)
      obtain ⟨skipped, rfl⟩ :=
        List.suffix_of_suffix_length_le hrest (List.suffix_append _ _) (by omega)
      exact ⟨skipped, rfl⟩
    · exact ih

/-! ## Pieces with runs between them -/

/-- The pieces make up the text, with a run of characters before each of them. -/
inductive Spans : List (List Char) → List Char → Prop
  | done : Spans [] []
  | piece {more : List (List Char)} {rest : List Char} (run piece : List Char)
    (h : Spans more rest) :
    Spans (piece :: more) (run ++ (piece ++ rest))

variable {text : List Char}

/-- No pieces span the empty text only. -/
theorem spans_nil_iff : Spans [] text ↔ text = [] := by
  constructor
  · intro h
    cases h
    rfl
  · rintro rfl
    exact .done

/-- A piece may come after any run of characters. -/
theorem spans_cons_iff :
    Spans (piece :: more) text ↔ ∃ run rest, text = run ++ (piece ++ rest) ∧
    Spans more rest := by
  constructor
  · intro h
    cases h with
    | piece run _ h => exact ⟨run, _, rfl, h⟩
  · rintro ⟨run, rest, rfl, h⟩
    exact .piece run piece h

/-- The last piece ends the text. -/
theorem spans_singleton_iff : Spans [piece] text ↔ piece <:+ text := by
  rw [spans_cons_iff]
  constructor
  · rintro ⟨run, rest, rfl, h⟩
    rw [spans_nil_iff.mp h, List.append_nil]
    exact List.suffix_append run piece
  · rintro ⟨run, rfl⟩
    exact ⟨run, [], by rw [List.append_nil], .done⟩

/-- The first run may begin anywhere. -/
theorem Spans.append_left (h : Spans (piece :: more) text) (skipped : List Char) :
    Spans (piece :: more) (skipped ++ text) := by
  obtain ⟨run, rest, rfl, hrest⟩ := spans_cons_iff.mp h
  exact spans_cons_iff.mpr ⟨skipped ++ run, rest, by rw [List.append_assoc], hrest⟩

/-- The comparison finds the runs if there are any. -/
theorem fits_iff (pieces : List (List Char)) (text : List Char) :
    fits pieces text = true ↔ Spans pieces text := by
  fun_induction fits pieces text with
  | case1 text => rw [List.isEmpty_iff, spans_nil_iff]
  | case2 last text => rw [List.isSuffixOf_iff_suffix, spans_singleton_iff]
  | case3 piece more text hmore rest hfirst ih =>
    rw [ih, spans_cons_iff]
    constructor
    · intro h
      obtain ⟨run, htext⟩ := eq_of_afterFirst? hfirst
      exact ⟨run, rest, htext, h⟩
    · rintro ⟨run, rest', rfl, h⟩
      -- the search may have left more than these runs do, and the next run takes that up
      obtain ⟨skipped, hskipped⟩ := afterFirst?_append run piece rest'
      cases hskipped.symm.trans hfirst
      cases more with
      | nil => exact absurd rfl hmore
      | cons next more => exact h.append_left skipped
  | case4 piece more text hmore hfirst =>
    rw [spans_cons_iff]
    refine ⟨nofun, ?_⟩
    rintro ⟨run, rest, rfl, -⟩
    obtain ⟨skipped, hskipped⟩ := afterFirst?_append run piece rest
    cases hskipped.symm.trans hfirst

/-- The runs, one for each piece. -/
theorem spans_iff_runs (pieces : List String) (text : String) :
    Spans (pieces.map String.toList) text.toList ↔ ∃ runs : List String,
      runs.length = pieces.length ∧ text =
        String.join (List.zipWith (· ++ ·) runs pieces) := by
  induction pieces generalizing text with
  | nil =>
    rw [List.map_nil, spans_nil_iff, String.toList_eq_nil_iff]
    constructor
    · rintro rfl
      exact ⟨[], rfl, rfl⟩
    · rintro ⟨runs, -, rfl⟩
      rw [List.zipWith_nil_right]
      rfl
  | cons piece pieces ih =>
    rw [List.map_cons, spans_cons_iff]
    constructor
    · rintro ⟨run, rest, htext, hrest⟩
      obtain ⟨runs, hlength, hruns⟩ :=
        (ih (String.ofList rest)).mp (by rwa [String.toList_ofList])
      refine ⟨String.ofList run :: runs, congrArg Nat.succ hlength, String.toList_inj.mp ?_⟩
      rw [List.zipWith_cons_cons, String.join_cons, ← hruns, htext]
      simp
    · rintro ⟨runs, hlength, rfl⟩
      cases runs with
      | nil => cases hlength
      | cons run runs =>
        refine ⟨run.toList, _, ?_, (ih _).mpr ⟨runs, Nat.succ.inj hlength, rfl⟩⟩
        rw [List.zipWith_cons_cons, String.join_cons, String.toList_append,
          String.toList_append, List.append_assoc]

/-! ## Patterns -/

/-- A pattern accepts the keys that begin with its first piece and are spanned by the others.
-/
theorem accepts_iff {pattern : List Char} {first : List Char}
    (h : splitOn '*' pattern = first :: more) :
    accepts pattern key = true ↔ ∃ rest, key = first ++ rest ∧ Spans more rest := by
  rw [accepts, h]
  dsimp only
  constructor
  · intro haccepts
    split at haccepts
    · next rest hafter =>
        exact ⟨rest, after?_eq_some.mp hafter, (fits_iff more rest).mp haccepts⟩
    · cases haccepts
  · rintro ⟨rest, rfl, hrest⟩
    rw [after?_eq_some.mpr rfl]
    exact (fits_iff more rest).mpr hrest

/-- A pattern names exactly the keys that it becomes when a run of characters is put in the
place of each of its stars. Its pieces between the stars have no star in them, and everything
else in them stands for itself. -/
theorem stars_stand_for_any_run (pattern : String) : ∃ (first : String) (more : List String),
    pattern = first ++ String.join (more.map ("*" ++ ·)) ∧
    (∀ piece ∈ first :: more, '*' ∉ piece.toList) ∧
    ∀ key : String, matchesKey pattern key = true ↔
      ∃ runs : List String, runs.length = more.length ∧
        key = first ++ String.join (List.zipWith (· ++ ·) runs more) := by
  obtain ⟨first, more, hsplit, hjoin, hplain⟩ := exists_splitOn '*' pattern.toList
  have hmore : (more.map String.ofList).map String.toList = more := by
    rw [List.map_map, show String.toList ∘ String.ofList = id from funext fun _ =>
      String.toList_ofList, List.map_id]
  refine ⟨String.ofList first, more.map String.ofList, String.toList_inj.mp ?_, ?_,
    fun key => ?_⟩
  · rw [hjoin]
    simp [List.flatMap_map]
  · intro piece hpiece
    rw [← List.map_cons] at hpiece
    obtain ⟨chars, hchars, rfl⟩ := List.mem_map.mp hpiece
    rw [String.toList_ofList]
    exact hplain chars hchars
  · rw [matchesKey, accepts_iff hsplit]
    constructor
    · rintro ⟨rest, hkey, hrest⟩
      obtain ⟨runs, hlength, hruns⟩ :=
        (spans_iff_runs (more.map String.ofList) (String.ofList rest)).mp
          (by rwa [hmore, String.toList_ofList])
      refine ⟨runs, hlength, String.toList_inj.mp ?_⟩
      rw [← hruns, String.toList_append, String.toList_ofList, String.toList_ofList, hkey]
    · rintro ⟨runs, hlength, rfl⟩
      refine ⟨_, by rw [String.toList_append, String.toList_ofList], ?_⟩
      have hspans := (spans_iff_runs (more.map String.ofList) _).mpr ⟨runs, hlength, rfl⟩
      rwa [hmore] at hspans

/-- The pieces may not overlap. -/
example : matchesKey "aba*aba" "ababa" = false := by decide

end Glob

end Community

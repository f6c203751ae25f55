import Community.Proofs.Schema.Writes
import Mathlib.Data.List.Induction
import Mathlib.Data.List.TakeWhile

/-!
# Names of categories

A name is checked as it was typed, for 1 to 64 characters, and trimmed before it is stored.
Trimming makes it shorter at most, so that every stored name is trimmed and has at most 64
characters, whatever is asked of the service. But the least length is lost on the way: a name
of blanks passes the check, and nothing is left of it.

> `names_are_trimmed`: every stored name is trimmed and at most 64 characters long, and
> along a run no stored name is ever empty if and only if no request that succeeds
> gives a name of blanks.

> `blank_name_is_stored`: such a request does succeed.
-/

namespace Community

open Procedure Database

/-! ## Trimmed texts -/

namespace Text

/-- The text neither starts nor ends with a blank. -/
def IsTrimmed (s : String) : Prop :=
  (∀ c, s.toList.head? = some c → isBlank c = false) ∧ ∀ c, s.toList.getLast? = some c →
    isBlank c = false

/-- There is nothing but blanks in the text. -/
def IsBlankText (s : String) : Prop :=
  ∀ c ∈ s.toList, isBlank c = true

/-- What is left after the blanks does not begin with one. -/
theorem isBlank_of_head?_dropBlanks {cs : List Char} {c : Char}
    (h : (dropBlanks cs).head? = some c) : isBlank c = false := by
  have hnot := List.head?_dropWhile_not isBlank cs
  rw [← dropBlanks, h] at hnot
  exact hnot

/-- What is left when blanks are dropped in front ends as before. -/
theorem getLast?_dropBlanks {cs : List Char} {c : Char}
    (h : (dropBlanks cs).getLast? = some c) : cs.getLast? = some c := by
  obtain ⟨blanks, hcs⟩ := List.dropWhile_suffix (l := cs) isBlank
  rw [← hcs, List.getLast?_append, ← dropBlanks, h, Option.some_or]

/-- A trimmed text is trimmed. -/
theorem isTrimmed_trim (s : String) : IsTrimmed (trim s) := by
  rw [IsTrimmed, trim, String.toList_ofList, trimChars, List.head?_reverse,
    List.getLast?_reverse]
  refine ⟨fun c h => ?_, fun c h => isBlank_of_head?_dropBlanks h⟩
  -- the first character is the one that the first dropping has left in front
  have hfirst := getLast?_dropBlanks h
  rw [List.getLast?_reverse] at hfirst
  exact isBlank_of_head?_dropBlanks hfirst

/-- Trimming leaves nothing exactly of a text of blanks. -/
theorem trim_eq_empty_iff (s : String) : trim s = "" ↔ IsBlankText s := by
  rw [trim, ← String.toList_inj, String.toList_ofList, String.toList_empty, trimChars,
    List.reverse_eq_nil_iff, dropBlanks, List.dropWhile_eq_nil_iff]
  constructor
  · intro h
    -- nothing but blanks is left in front, so that nothing is
    cases hdropped : dropBlanks s.toList with
    | nil => exact List.dropWhile_eq_nil_iff.mp hdropped
    | cons c cs =>
      have hnot : isBlank c = false :=
        isBlank_of_head?_dropBlanks (congrArg List.head? hdropped)
      rw [h c (List.mem_reverse.mpr (hdropped ▸ List.mem_cons_self))] at hnot
      cases hnot
  · intro h c hc
    exact h c ((List.dropWhile_suffix _).subset (List.mem_reverse.mp hc))

end Text

open Text

/-! ## Requests that name a category -/

/-- The name that the request of an operation gives to a category. -/
def Operation.givenName? : Operation → Option String
  | createCategory r => some r.name
  | changeCategory _ r => r.name
  | _ => none

/-- The request of the operation gives a name of blanks. -/
def Operation.NamesBlank (op : Operation) : Prop :=
  ∃ s, op.givenName? = some s ∧ IsBlankText s

/-- The operation comes to its end without a problem. -/
def Operation.Succeeds (op : Operation) (w : World) : Prop :=
  (op.run.perform w).1.isOk = true

instance (op : Operation) (w : World) : Decidable (op.Succeeds w) :=
  inferInstanceAs (Decidable (_ = true))

theorem Operation.isOk_fst_perform_silently {α : Type} (a : Procedure α) (w : World) :
    ((silently a).perform w).1.isOk = (a.perform w).1.isOk := by
  rw [silently, perform_bind]
  rcases a.perform w with ⟨_ | _, v⟩ <;> rfl

namespace Category

/-! ## Trimmed and not too long -/

/-- The name of a row is trimmed and has at most 64 characters. -/
def HasTidyName (r : Row) : Prop :=
  IsTrimmed r.name ∧ r.name.length ≤ 64

variable {w : World} {id : Int} {now : Time.Timestamp}

/-- What is left of a text that passes the check is tidy. -/
theorem isTidy_trim {field raw : String} {least : Option Nat}
    (h : Check.length field least (some 64) raw = []) :
    IsTrimmed (trim raw) ∧ (trim raw).length ≤ 64 :=
  ⟨isTrimmed_trim raw, Nat.le_trans (length_trim_le raw) (Check.length_le h)⟩

/-- A category is stored under a trimmed name. -/
theorem hasTidyName_ofRequest {r : NewCategory} (h : r.issues = []) :
    HasTidyName (ofRequest r now id).stored := by
  rw [NewCategory.issues, List.append_eq_nil_iff, List.append_eq_nil_iff,
    List.append_eq_nil_iff] at h
  show IsTrimmed (trim r.name) ∧ (trim r.name).length ≤ 64
  exact isTidy_trim h.1.1.1

/-- A change leaves the name trimmed. -/
theorem hasTidyName_changed {r : CategoryChange} {c : Category} (h : r.issues = [])
    (hc : HasTidyName c.stored) : HasTidyName (c.changed r now).stored := by
  rw [CategoryChange.issues, List.append_eq_nil_iff, List.append_eq_nil_iff,
    List.append_eq_nil_iff] at h
  show IsTrimmed ((r.name.map trim).getD c.name) ∧
    ((r.name.map trim).getD c.name).length ≤ 64
  cases hname : r.name with
  | none => exact hc
  | some raw =>
    have hlength := h.1.1.1
    rw [hname] at hlength
    exact isTidy_trim hlength

/-- Creating a category keeps the names trimmed. -/
theorem everyTidy_create {r : NewCategory} (hr : r.issues = [])
    (hw : Every Row HasTidyName w.database) :
    Every Row HasTidyName ((create r).perform w).2.database := by
  rcases hperform : (create r).perform w with ⟨p | c, w'⟩
  · rw [failsCleanly_create r w p w' hperform]
    exact hw
  · obtain ⟨-, db, hadd, rfl⟩ := create_eq_ok hperform
    exact hw.insert (fun _ => hasTidyName_ofRequest hr) hadd

/-- Changing one keeps them trimmed. -/
theorem everyTidy_change {r : CategoryChange} (hr : r.issues = [])
    (hw : Every Row HasTidyName w.database) :
    Every Row HasTidyName ((change id r).perform w).2.database := by
  rcases hperform : (change id r).perform w with ⟨p | c, w'⟩
  · rw [failsCleanly_change id r w p w' hperform]
    exact hw
  · obtain ⟨c, hfind, -, -, db, hreplace, rfl⟩ := change_eq_ok hperform
    have hc : HasTidyName c.stored :=
      hw.findFirst (fun _ _ hread hrow => Columns.stored_of_read? hread ▸ hrow) hfind
    exact hw.replace (hasTidyName_changed hr hc) hreplace

/-- No operation stores a name that is not tidy. -/
theorem everyTidy_next (hw : Every Row HasTidyName w.database) (op : Operation) :
    Every Row HasTidyName (op.next w).database := by
  by_cases hr : op.issues = []
  · have hother : TableName.category ∉ op.tables →
        Every Row HasTidyName (op.next w).database :=
      fun hname => hw.agreeOff (op.agreeOff_next w) hname
    cases op with
    | createCategory r =>
      rw [Operation.next, Operation.run, Operation.snd_perform_silently]
      exact everyTidy_create hr hw
    | changeCategory id r =>
      rw [Operation.next, Operation.run, Operation.snd_perform_silently]
      exact everyTidy_change hr hw
    | removeCategory id =>
      rw [Operation.next, Operation.run, Operation.snd_perform_silently]
      exact every_remove hw
    | toggleLike | toggleFavorite =>
      exact hother (Counter.not_mem_tables (by decide) (by decide))
    | search | changeProfile => exact hother (by simp [Operation.tables])
    | _ => exact hother List.not_mem_nil
  · rw [Operation.next_of_issues hr w]
    exact hw

/-! ## Names that are left empty -/

/-- There is something in the name of a row. -/
def IsNamed (r : Row) : Prop :=
  1 ≤ r.name.length

theorem length_trim_pos_iff (s : String) : 1 ≤ (trim s).length ↔ ¬IsBlankText s := by
  rw [← trim_eq_empty_iff, ← String.length_eq_zero_iff]
  omega

/-- A change leaves a name exactly if the name it gives is not blank. -/
theorem isNamed_changed_iff {r : CategoryChange} {c : Category} (hc : IsNamed c.stored) :
    IsNamed (c.changed r now).stored ↔ ∀ s, r.name = some s → ¬IsBlankText s := by
  show 1 ≤ ((r.name.map trim).getD c.name).length ↔ _
  cases r.name with
  | none => exact iff_of_true hc nofun
  | some raw =>
    refine (length_trim_pos_iff raw).trans ⟨fun h s hs => ?_, fun h => h raw rfl⟩
    cases hs
    exact h

/-- Creating a category leaves every category named exactly if its own name is not blank. -/
theorem everyNamed_create_iff {r : NewCategory} (hw : Every Row IsNamed w.database) :
    Every Row IsNamed ((create r).perform w).2.database ↔
      (((create r).perform w).1.isOk = true → ¬IsBlankText r.name) := by
  rcases hperform : (create r).perform w with ⟨p | c, w'⟩
  · rw [failsCleanly_create r w p w' hperform]
    exact iff_of_true hw nofun
  · obtain ⟨-, db, hadd, rfl⟩ := create_eq_ok hperform
    have hname : ∀ id, IsNamed (ofRequest r w.now id).stored ↔
        ¬IsBlankText r.name :=
      fun _ => length_trim_pos_iff r.name
    exact (every_insert_iff hw hname hadd).trans ⟨fun h _ => h, fun h => h rfl⟩

/-- So does changing one. -/
theorem everyNamed_change_iff {r : CategoryChange} (hw : Every Row IsNamed w.database) :
    Every Row IsNamed ((change id r).perform w).2.database ↔
      (((change id r).perform w).1.isOk = true → ∀ s, r.name = some s → ¬IsBlankText s) := by
  rcases hperform : (change id r).perform w with ⟨p | c, w'⟩
  · rw [failsCleanly_change id r w p w' hperform]
    exact iff_of_true hw nofun
  · obtain ⟨c, hfind, -, -, db, hreplace, rfl⟩ := change_eq_ok hperform
    have hc : IsNamed c.stored :=
      hw.findFirst (fun _ _ hread hrow => Columns.stored_of_read? hread ▸ hrow) hfind
    refine (every_replace_iff hw hreplace).trans ((isNamed_changed_iff hc).trans ?_)
    exact ⟨fun h _ => h, fun h => h rfl⟩

/-- As long as no name is empty, an operation leaves one empty exactly if it succeeds in
giving a name of blanks. -/
theorem everyNamed_next_iff (hw : Every Row IsNamed w.database) (op : Operation) :
    Every Row IsNamed (op.next w).database ↔ (op.Succeeds w → ¬op.NamesBlank) := by
  have hunnamed : op.givenName? = none → op.Succeeds w → ¬op.NamesBlank := by
    rintro hnone - ⟨s, hs, -⟩
    cases hnone.symm.trans hs
  have hother : TableName.category ∉ op.tables → Every Row IsNamed (op.next w).database :=
    fun hname => hw.agreeOff (op.agreeOff_next w) hname
  cases op with
  | createCategory r =>
    rw [Operation.next, Operation.Succeeds, Operation.run, Operation.snd_perform_silently,
      Operation.isOk_fst_perform_silently]
    refine (everyNamed_create_iff hw).trans (imp_congr_right fun _ => not_congr ?_)
    constructor
    · exact fun h => ⟨r.name, rfl, h⟩
    · rintro ⟨s, hs, h⟩
      exact Option.some.inj hs ▸ h
  | changeCategory id r =>
    rw [Operation.next, Operation.Succeeds, Operation.run, Operation.snd_perform_silently,
      Operation.isOk_fst_perform_silently]
    refine (everyNamed_change_iff hw).trans (imp_congr_right fun _ => ?_)
    constructor
    · rintro h ⟨s, hs, hblank⟩
      exact h s hs hblank
    · exact fun h s hs hblank => h ⟨s, hs, hblank⟩
  | removeCategory id =>
    refine iff_of_true ?_ (hunnamed rfl)
    rw [Operation.next, Operation.run, Operation.snd_perform_silently]
    exact every_remove hw
  | toggleLike | toggleFavorite =>
    exact iff_of_true (hother (Counter.not_mem_tables (by decide) (by decide)))
      (hunnamed rfl)
  | search | changeProfile =>
    exact iff_of_true (hother (by simp [Operation.tables])) (hunnamed rfl)
  | _ => exact iff_of_true (hother List.not_mem_nil) (hunnamed rfl)

/-! ## Runs -/

/-- The names stay trimmed along every run. -/
theorem everyTidy_after (hw : Every Row HasTidyName w.database) (events : List Event) :
    Every Row HasTidyName (w.after events).database := by
  refine World.after_induction (I := fun v => Every Row HasTidyName v.database) hw
    fun v e _ hv => ?_
  cases e with
  | call op => exact everyTidy_next hv op
  | wait | closeCache => exact hv

/-- Some names have been left empty in a run exactly if some request has done so. -/
theorem everyNamed_after_iff (hw : Every Row IsNamed w.database) (events : List Event) :
    (∀ before after, events = before ++ after →
      Every Row IsNamed (w.after before).database) ↔
      ∀ before op after, events = before ++ .call op :: after →
        op.Succeeds (w.after before) → ¬op.NamesBlank := by
  constructor
  · intro h before op after heq
    have hbefore := h before _ heq
    have hafter := h (before ++ [.call op]) after (by rw [heq, List.append_assoc]; rfl)
    rw [World.after_append] at hafter
    exact (everyNamed_next_iff hbefore op).mp hafter
  · intro h before
    induction before using List.reverseRecOn with
    | nil => exact fun _ _ => hw
    | append_singleton before e ih =>
      intro after heq
      rw [List.append_assoc] at heq
      have hbefore := ih (e :: after) heq
      rw [World.after_append]
      cases e with
      | call op => exact (everyNamed_next_iff hbefore op).mpr (h before op after heq)
      | wait | closeCache => exact hbefore

/-- From an empty table on, every name that a run has stored is trimmed and at most 64
characters long. None of them is ever empty if and only if no request that succeeds gives
a name of blanks. -/
theorem names_are_trimmed (w : World) (events : List Event)
    (hstart : ∃ t, w.database.table Row = .ok t ∧ t.rows = []) :
    (∀ r ∈ rowsOf Row (w.after events).database, IsTrimmed r.name ∧ r.name.length ≤ 64) ∧
    ((∀ before after, events = before ++ after →
        ∀ r ∈ rowsOf Row (w.after before).database, 1 ≤ r.name.length) ↔
      ∀ before op after, events = before ++ .call op :: after →
        op.Succeeds (w.after before) → ¬op.NamesBlank) := by
  obtain ⟨t, ht, hempty⟩ := hstart
  have hevery : ∀ P : Row → Prop, Every Row P w.database := by
    intro P r hr
    rw [rowsOf_eq ht, hempty] at hr
    cases hr
  exact ⟨everyTidy_after (hevery _) events, everyNamed_after_iff (hevery _) events⟩

/-- Two categories are made, and blanks around a new name of the second are dropped. -/
theorem names_are_trimmed_sample :
    let make name : Event := .call (.createCategory ⟨name, none, 0, none, 0⟩)
    let rename : Event :=
      .call (.changeCategory 2 ⟨some "\tplays ", none, none, none, none, none⟩)
    let events := [make " poems", make "essays", rename]
    (rowsOf Row (World.sample.after events).database).map Columns.name = ["poems", "plays"] ∧
      ∀ r ∈ rowsOf Row (World.sample.after events).database,
        IsTrimmed r.name ∧ r.name.length ≤ 64 := by
  intro make rename events
  exact ⟨by decide +kernel, (names_are_trimmed World.sample events ⟨_, rfl, rfl⟩).1⟩

/-- A name of three blanks passes the check, and an empty name is stored. -/
theorem blank_name_is_stored :
    let op : Operation := .createCategory ⟨"   ", none, 0, none, 0⟩
    op.issues = [] ∧ op.Succeeds World.sample ∧
      (rowsOf Row (op.next World.sample).database).map Columns.name = [""] := by
  decide +kernel

end Category

end Community

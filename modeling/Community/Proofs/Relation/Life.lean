import Community.Proofs.Relation.Margin
import Community.Proofs.Relation.Record

/-!
# The life of a relation

A relation begins with the first toggle of its subject that is carried out and succeeds,
and has no end. Its row keeps the identifier, the instant and the subject it began with,
and every further such toggle turns it over:

> `relations_live_once`: a subject has one row from its first toggle on, active after an
> odd number of toggles; the outcomes say on, off, on, and so forth, and each shows the row
> as it then is.

Toggles that are refused, that fail or that are answered from the cache do not count, and
neither does anything else that happens. The invariant is `Subject.Chronicle`: the outcomes
so far, and the row that is the last of them.
-/

namespace Community

open Procedure Database

namespace Toggle

/-- The toggle that an event asks for. -/
def asked? : Event → Option Toggle
  | .call (.toggleLike userId r requestId) => some (.like userId r requestId)
  | .call (.toggleFavorite userId r requestId) => some (.favorite userId r requestId)
  | _ => none

/-- The outcome of a toggle, if it is carried out and succeeds. -/
def executed? (t : Toggle) (w : World) : Option Outcome :=
  match t.recalled w, (t.request.perform w).1 with
  | none, .ok o => some o
  | _, _ => none

/-- The outcome of an event that carries out a toggle of the subject. -/
def Subject.execution? (s : Subject) (e : Event) (w : World) : Option Outcome := do
  let t ← asked? e
  if t.subject = s then t.executed? w else none

variable {t : Toggle} {s : Subject} {e : Event} {w : World} {o : Outcome}

/-- An event asks for a toggle exactly if it is the call of one. -/
theorem asked?_operation (t : Toggle) : asked? (.call t.operation) = some t := by
  cases t <;> rfl

theorem eq_of_asked? (h : asked? e = some t) : e = .call t.operation := by
  unfold asked? at h
  split at h <;> cases h <;> rfl

/-- What `executed?` finds is what it is to be executed. -/
theorem executed?_eq_some : t.executed? w = some o ↔ t.Executed w o := by
  unfold executed?
  constructor
  · intro h
    split at h
    · next hrecall hresult =>
      cases h
      exact ⟨hrecall, hresult⟩
    · cases h
  · rintro ⟨hrecall, hresult⟩
    rw [hrecall, hresult]

/-- An execution for a subject is a toggle of it that was executed. -/
theorem Subject.execution?_eq_some :
    s.execution? e w = some o ↔ ∃ t : Toggle, e = .call t.operation ∧ t.subject = s ∧
    t.Executed w o := by
  constructor
  · intro h
    obtain ⟨t, ht, h⟩ := Option.bind_eq_some_iff.mp h
    split at h
    · next hs => exact ⟨t, eq_of_asked? ht, hs, executed?_eq_some.mp h⟩
    · cases h
  · rintro ⟨t, rfl, rfl, h⟩
    have hsame : t.subject.execution? (.call t.operation) w = t.executed? w := by
      rw [Subject.execution?, asked?_operation]
      exact if_pos rfl
    rw [hsame]
    exact executed?_eq_some.mpr h

/-! ## One event -/

/-- An event that carries out no toggle of the subject leaves its rows alone. -/
theorem Subject.rows_next (hdb : w.database.IsTogether) (h : s.execution? e w = none) :
    s.rows (e.next w).database = s.rows w.database := by
  have hnot : ∀ (t : Toggle) o, e = .call t.operation → t.Executed w o → s ≠ t.subject := by
    rintro t o rfl hexecuted rfl
    rw [execution?_eq_some.mpr ⟨t, rfl, rfl, hexecuted⟩] at h
    cases h
  cases e with
  | wait | closeCache => rfl
  | call op =>
    cases hasked : asked? (.call op) with
    | some t =>
      obtain rfl : op = t.operation := Event.call.inj (eq_of_asked? hasked)
      by_cases hexecuted : ∃ o, t.Executed w o
      · obtain ⟨o, hexecuted⟩ := hexecuted
        exact (hexecuted.turned hdb).2.2.2 s (hnot t o rfl hexecuted)
      · have hsame := database_of_not_executed fun o ho => hexecuted ⟨o, ho⟩
        show s.rows (t.operation.next w).database = _
        rw [next_operation, hsame]
    | none =>
      rcases op.toggle_or_agreeOff w with
        ⟨userId, r, requestId, l, rfl, -⟩ | ⟨userId, r, requestId, f, rfl, -⟩ | hagree
      · cases hasked
      · cases hasked
      · exact s.rows_agreeOff hagree (by decide) (by decide)

/-! ## Runs -/

theorem Record.stored_inj {r r' : Record} (h : r.stored = r'.stored) : r = r' := by
  cases r with
  | like l =>
    cases r' with
    | favorite f => cases h
    | like l' =>
      obtain ⟨⟩ := l
      obtain ⟨⟩ := l'
      cases h
      rfl
  | favorite f =>
    cases r' with
    | like l => cases h
    | favorite f' =>
      obtain ⟨⟩ := f
      obtain ⟨⟩ := f'
      cases h
      rfl

/-- The outcomes of the toggles of a subject, and its rows after them. -/
structure Subject.Chronicle (s : Subject) (outcomes : List Outcome) (rows : List Row) :
    Prop where
  rows : rows = (outcomes.getLast?.map fun o => o.record.stored).toList
  record : ∀ o ∈ outcomes, o.isOn = o.record.isActive ∧ o.record.origin.subject = s
  origin : ∀ o ∈ outcomes, ∀ o' ∈ outcomes, o.record.origin = o'.record.origin
  isOn : outcomes.map Outcome.isOn = (List.range outcomes.length).map (· % 2 == 0)
  last : ∀ o, outcomes.getLast? = some o → o.isOn = (outcomes.length % 2 == 1)

/-- Before anything happens there is neither an execution nor a row. -/
theorem Subject.Chronicle.nil : s.Chronicle [] [] where
  rows := rfl
  record _ h := absurd h List.not_mem_nil
  origin _ h := absurd h List.not_mem_nil
  isOn := rfl
  last _ h := by cases h

/-- What a toggle finds is what the last one left. -/
theorem Subject.Chronicle.push {outcomes : List Outcome} {rows rows' : List Row}
    (h : s.Chronicle outcomes rows) (hturned : Turned rows rows' o.record)
    (hrecord : o.isOn = o.record.isActive) (hsubject : o.record.origin.subject = s) :
    s.Chronicle (outcomes ++ [o]) rows' := by
  have hrows' : rows' = [o.record.stored] := by cases hturned <;> rfl
  have hnew : o.isOn = (outcomes.length % 2 == 0) ∧
      ∀ o' ∈ outcomes, o.record.origin = o'.record.origin := by
    have hrows := h.rows
    cases hlast : outcomes.getLast? with
    | none =>
      obtain rfl := List.getLast?_eq_none_iff.mp hlast
      cases hturned with
      | turned old => cases hrows
      | made _ hactive =>
        exact ⟨hrecord.trans hactive, fun _ ho' => absurd ho' List.not_mem_nil⟩
    | some o₀ =>
      rw [hlast] at hrows
      cases hturned with
      | made => cases hrows
      | turned old _ hactive horigin =>
        obtain rfl : old = o₀.record := Record.stored_inj (List.cons.inj hrows).1
        have hmem : o₀ ∈ outcomes := List.mem_of_getLast? hlast
        refine ⟨?_, fun o' ho' => horigin.trans (h.origin o₀ hmem o' ho')⟩
        rw [hrecord, hactive, ← (h.record o₀ hmem).1, h.last o₀ hlast]
        rcases Nat.mod_two_eq_zero_or_one outcomes.length with hmod | hmod
          <;> rw [hmod] <;> rfl
  constructor
  · rw [hrows', List.getLast?_concat]
    rfl
  · intro o' ho'
    rcases List.mem_append.mp ho' with ho' | ho'
    · exact h.record o' ho'
    · rw [List.mem_singleton.mp ho']
      exact ⟨hrecord, hsubject⟩
  · intro a ha b hb
    rcases List.mem_append.mp ha with ha | ha
    · rcases List.mem_append.mp hb with hb | hb
      · exact h.origin a ha b hb
      · rw [List.mem_singleton.mp hb]
        exact (hnew.2 a ha).symm
    · rw [List.mem_singleton.mp ha]
      rcases List.mem_append.mp hb with hb | hb
      · exact hnew.2 b hb
      · rw [List.mem_singleton.mp hb]
  · rw [List.map_append, h.isOn, List.length_append, List.length_singleton, List.range_succ,
      List.map_append, List.map_singleton, List.map_singleton, hnew.1]
  · intro o' ho'
    rw [List.getLast?_concat] at ho'
    cases ho'
    rw [hnew.1, List.length_append, List.length_singleton]
    rcases Nat.mod_two_eq_zero_or_one outcomes.length with hmod | hmod
      <;> simp [Nat.add_mod, hmod]

/-- A row of the subject is that of the last outcome. -/
theorem Subject.Chronicle.of_mem {outcomes : List Outcome} {rows : List Row} {row : Row}
    (h : s.Chronicle outcomes rows) (hrow : row ∈ rows) :
    ∃ o, outcomes.getLast? = some o ∧ row = o.record.stored := by
  rw [h.rows, Option.mem_toList, Option.map_eq_some_iff] at hrow
  obtain ⟨o, hlast, heq⟩ := hrow
  exact ⟨o, hlast, heq.symm⟩

/-- There is a row from the first execution on, and never a second. -/
theorem Subject.Chronicle.length_rows {outcomes : List Outcome} {rows : List Row}
    (h : s.Chronicle outcomes rows) : rows.length = min outcomes.length 1 := by
  rw [h.rows]
  cases hlast : outcomes.getLast? with
  | none =>
    rw [List.getLast?_eq_none_iff.mp hlast]
    rfl
  | some o =>
    have hpos := List.length_pos_of_mem (List.mem_of_getLast? hlast)
    show 1 = min outcomes.length 1
    omega

/-- Once there has been an outcome there is a row, which begins as every outcome does. -/
theorem Subject.Chronicle.exists_row {outcomes : List Outcome} {rows : List Row}
    (h : s.Chronicle outcomes rows) (ho : o ∈ outcomes) :
    ∃ r : Record, rows = [r.stored] ∧ r.origin = o.record.origin := by
  obtain ⟨last, hlast⟩ := Option.ne_none_iff_exists'.mp
    (mt List.getLast?_eq_none_iff.mp (List.ne_nil_of_mem ho))
  refine ⟨last.record, ?_, h.origin last (List.mem_of_getLast? hlast) o ho⟩
  rw [h.rows, hlast]
  rfl

end Toggle

open Toggle

namespace World

/-- The outcomes of the toggles of a subject that a run carries out. -/
def executions (w : World) (s : Subject) (events : List Event) : List Outcome :=
  w.collect s.execution? events

variable {start : World}

/-- The executions of two runs in turn are those of each. -/
theorem executions_append (s : Subject) (before after : List Event) :
    start.executions s (before ++ after)
      = start.executions s before ++ (start.after before).executions s after :=
  collect_append _ _ _

/-- The outcomes are those of the toggles that are carried out. -/
theorem mem_executions {s : Subject} {events : List Event} {o : Outcome} :
    o ∈ start.executions s events ↔
    ∃ (before : List Event) (t : Toggle) (after : List Event),
      events = before ++ .call t.operation :: after ∧ t.subject = s ∧
        t.Executed (start.after before) o := by
  rw [executions, mem_collect]
  constructor
  · rintro ⟨before, e, after, hevents, he⟩
    obtain ⟨t, rfl, ht, hexecuted⟩ := Subject.execution?_eq_some.mp he
    exact ⟨before, t, after, hevents, ht, hexecuted⟩
  · rintro ⟨before, t, after, hevents, ht, hexecuted⟩
    exact ⟨before, _, after, hevents, Subject.execution?_eq_some.mpr ⟨t, rfl, ht, hexecuted⟩⟩

/-- A toggle that is executed at the end of a run is its last execution. -/
theorem executions_concat {t : Toggle} {before : List Event} {o : Outcome}
    (h : t.Executed (start.after before) o) :
    start.executions t.subject (before ++ [.call t.operation])
      = start.executions t.subject before ++ [o] := by
  have hexecution := Subject.execution?_eq_some.mpr ⟨t, rfl, rfl, h⟩
  rw [executions_append, executions, executions, collect, hexecution]
  rfl

/-- From empty tables, the outcomes of a run and the rows after it are the
chronicle of the subject. -/
theorem chronicle_after (s : Subject) (events : List Event)
    (hlikes : rowsOf Like.Row start.database = [])
    (hfavorites : rowsOf Favorite.Row start.database = []) :
    s.Chronicle (start.executions s events) (s.rows (start.after events).database) := by
  have hstart : start.database.IsTogether := by
    rw [IsTogether, hlikes, hfavorites]
    exact ⟨rfl, rfl⟩
  have hnone : s.rows start.database = [] := by
    unfold Subject.rows
    split
    · rw [hlikes]; rfl
    · rw [hfavorites]; rfl
  suffices h : (start.after events).database.IsTogether ∧
      s.Chronicle (start.executions s events) (s.rows (start.after events).database) from h.2
  refine collect_induction (I := fun outcomes v => v.database.IsTogether ∧
    s.Chronicle outcomes (s.rows v.database)) ⟨hstart, hnone ▸ .nil⟩ ?_
  intro outcomes v e _ hv
  obtain ⟨htogether, hchronicle⟩ := hv
  refine ⟨isTogether_next e v htogether, ?_⟩
  cases hexecution : s.execution? e v with
  | none =>
    rw [Subject.rows_next htogether hexecution, Option.toList_none, List.append_nil]
    exact hchronicle
  | some o =>
    obtain ⟨t, rfl, rfl, hexecuted⟩ := Subject.execution?_eq_some.mp hexecution
    obtain ⟨hturned, hrecord, hsubject, -⟩ := hexecuted.turned htogether
    exact hchronicle.push hturned hrecord hsubject

end World

/-- A relation begins with the first toggle that is carried out, keeps what it began with,
and is never gone; it is active after an odd number of toggles, and every outcome shows the
row as it then is. -/
theorem relations_live_once (start : World) (events : List Event) (s : Subject)
    (hlikes : rowsOf Like.Row start.database = [])
    (hfavorites : rowsOf Favorite.Row start.database = []) :
    let outcomes := start.executions s events
    let rows := s.rows (start.after events).database
    (∀ o, o ∈ outcomes ↔ ∃ (before : List Event) (t : Toggle) (after : List Event),
      events = before ++ .call t.operation :: after ∧ t.subject = s ∧
      t.Executed (start.after before) o) ∧
    rows.length = min outcomes.length 1 ∧
    (∀ row ∈ rows, ∃ r : Record, row = r.stored ∧ r.origin.subject = s ∧
      (r.isActive = true ↔ outcomes.length % 2 = 1)) ∧
    (∀ before after row, events = before ++ after →
      row ∈ s.rows (start.after before).database →
      ∃ r r' : Record, row = r.stored ∧ rows = [r'.stored] ∧ r'.origin = r.origin) ∧
    outcomes.map Outcome.isOn = (List.range outcomes.length).map (· % 2 == 0) ∧
    (∀ before (t : Toggle) after o, events = before ++ .call t.operation :: after →
        t.subject = s → t.Executed (start.after before) o →
        outcomes[(start.executions s before).length]? = some o ∧ o.isOn = o.record.isActive ∧
        s.rows (start.after (before ++ [.call t.operation])).database =
          [o.record.stored]) := by
  intro outcomes rows
  have hchronicle : s.Chronicle outcomes rows :=
    World.chronicle_after s events hlikes hfavorites
  refine ⟨fun o => World.mem_executions, hchronicle.length_rows, ?_, ?_, hchronicle.isOn, ?_⟩
  · intro row hrow
    obtain ⟨o, hlast, rfl⟩ := hchronicle.of_mem hrow
    obtain ⟨hrecord, hsubject⟩ := hchronicle.record o (List.mem_of_getLast? hlast)
    refine ⟨o.record, rfl, hsubject, ?_⟩
    rw [← hrecord, hchronicle.last o hlast, beq_iff_eq]
  · intro before after row hevents hrow
    obtain ⟨o, hlast, rfl⟩ := (World.chronicle_after s before hlikes hfavorites).of_mem hrow
    -- what was there before is among the outcomes still
    have hmem : o ∈ outcomes := by
      show o ∈ start.executions s events
      rw [hevents, World.executions_append]
      exact List.mem_append_left _ (List.mem_of_getLast? hlast)
    obtain ⟨r', hrows, horigin⟩ := hchronicle.exists_row hmem
    exact ⟨o.record, r', rfl, hrows, horigin⟩
  · rintro before t after o hevents rfl hexecuted
    have hthen :=
      World.chronicle_after t.subject (before ++ [.call t.operation]) hlikes hfavorites
    rw [World.executions_concat hexecuted] at hthen
    refine ⟨?_, (hthen.record o (List.mem_append_right _ List.mem_cons_self)).1, ?_⟩
    · have hsplit : events = (before ++ [.call t.operation]) ++ after := by
        rw [hevents, List.append_assoc]
        rfl
      show (start.executions t.subject events)[_]? = some o
      rw [hsplit, World.executions_append, World.executions_concat hexecuted,
        List.append_assoc, List.getElem?_append_right (Nat.le_refl _), Nat.sub_self]
      rfl
    · rw [hthen.rows, List.getLast?_concat]
      rfl

/-- The user likes the content and takes that back: there is one row, and
it is not active. -/
theorem relations_live_once_sample :
    let s : Subject := ⟨1, .like .content, 7⟩
    let outcomes := World.sample.executions s World.sampleRun
    rowsOf Like.Row World.sample.database = [] ∧
      rowsOf Favorite.Row World.sample.database = [] ∧
      outcomes.length = 2 ∧ outcomes.map Outcome.isOn = [true, false] ∧
      ∃ r : Record, s.rows (World.sample.after World.sampleRun).database = [r.stored] ∧
        r.origin.subject = s ∧ r.isActive = false := by
  intro s outcomes
  have htwo : outcomes.length = 2 := rfl
  obtain ⟨-, hlength, hrows, -, hisOn, -⟩ :=
    relations_live_once World.sample World.sampleRun s rfl rfl
  have htwo' : (World.sample.executions s World.sampleRun).length = 2 := htwo
  rw [htwo'] at hlength hisOn
  obtain ⟨row, hrow⟩ := List.length_eq_one_iff.mp hlength
  obtain ⟨r, rfl, hsubject, hactive⟩ := hrows row (hrow ▸ List.mem_singleton_self _)
  refine ⟨rfl, rfl, htwo, hisOn, r, hrow, hsubject, ?_⟩
  rw [htwo'] at hactive
  exact Bool.eq_false_iff.mpr fun htrue => absurd (hactive.mp htrue) (by decide)

end Community

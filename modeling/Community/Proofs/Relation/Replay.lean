import Community.Proofs.Relation.Repeat

/-!
# A toggle is not carried out twice

The outcome of a toggle stands for the toggle until its marker expires, in every run:

> `toggles_are_replayed`: until then the same call yields that outcome and changes nothing,
> and the first one after is carried out again. What is repeated is always the outcome of
> the same call, which was carried out and succeeded.

The invariant behind it is `Toggle.Identity.Keeps`, the one entry of the marker with its one
instant. Every other operation stays clear of it, and so does the call itself: while the
entry is live it is read and not written, so it is not refreshed either.
-/

namespace Community

open Procedure Toggle

/-- A run in which the store does not fail and the cache is not closed, while numbers and
time fit their types. -/
structure World.Regular (start : World) (events : List Event) : Prop where
  fits : start.database.Fits
  calls : ∀ e ∈ events, e.Fits
  time : (start.after events).clock < Time.calendarEnd
  steady : start.cache.IsSteady
  notClosed : .closeCache ∉ events

namespace World

variable {w start : World} {i : Identity} {o : Outcome}

theorem setup_next (e : Event) (w : World) : (e.next w).cache.setup = w.cache.setup := by
  cases e with
  | call op => exact congrArg Prod.snd (Operation.leaves Blind.setting w)
  | wait time => rfl
  | closeCache =>
    show w.cache.close.setup = _
    unfold Cache.close
    split <;> rfl

/-- How long values are kept, and that no call fails, stays so. -/
theorem setup_after (w : World) (events : List Event) :
    (w.after events).cache.setup = w.cache.setup :=
  after_induction (I := fun v => v.cache.setup = w.cache.setup) rfl fun v e _ hv =>
    (setup_next e v).trans hv

theorem policy_after (w : World) (events : List Event) :
    (w.after events).cache.policy = w.cache.policy :=
  congrArg Prod.fst (setup_after w events)

/-! ## One event -/

/-- The entry of a marker is touched by the call alone. -/
theorem marker_next {e : Event} (hclose : e ≠ .closeCache)
    (hother : ¬ ∃ t : Toggle, e = .call t.operation ∧ t.identity = i) :
    (e.next w).cache.store.find? i.marker = w.cache.store.find? i.marker := by
  cases e with
  | wait time => rfl
  | closeCache => exact absurd rfl hclose
  | call op =>
    rcases op.isCall_or_clear i with ⟨t, rfl, ht⟩ | hkeys
    · exact absurd ⟨t, rfl, ht⟩ hother
    · exact Operation.leaves (Blind.entry hkeys (op.families_clear i)) w

/-- What is kept stays kept, if a call that is made is made in time. -/
theorem keeps_next {e : Event} {expiresAt : Nat} (hsteady : w.cache.IsSteady)
    (hread : o.IsReadable i.kind) (hclose : e ≠ .closeCache)
    (hcall : ∀ t : Toggle, e = .call t.operation → t.identity = i → t.issues.isEmpty = true →
      w.clock < expiresAt)
    (hkeeps : i.Keeps o expiresAt w) : i.Keeps o expiresAt (e.next w) := by
  by_cases hsame : ∃ t : Toggle, e = .call t.operation ∧ t.identity = i
  · obtain ⟨t, rfl, rfl⟩ := hsame
    show t.identity.Keeps o expiresAt (t.operation.next w)
    rw [next_operation]
    cases hissues : t.issues.isEmpty with
    | false => rwa [request_of_issues hissues]
    | true =>
      -- in time the call only reads the entry, and does not write it again
      have hrepeated := request_kept hissues hsteady hkeeps (hcall t rfl rfl hissues) hread
      rwa [hrepeated]
  · exact (marker_next hclose hsame).trans hkeeps

/-- An entry of a marker that is there after an event was there before, or is the
outcome of the call. -/
theorem origin_next {e : Event} {entry : Cache.Entry} (hsteady : w.cache.IsSteady)
    (hclose : e ≠ .closeCache) (h : (e.next w).cache.store.find? i.marker = some entry) :
    w.cache.store.find? i.marker = some entry ∨
      ∃ (t : Toggle) (o : Outcome), e = .call t.operation ∧ t.identity = i ∧ t.Executed w o ∧
        entry = ⟨i.marker, o.text, w.clock + 1000 * w.cache.policy.marker⟩ := by
  by_cases hsame : ∃ t : Toggle, e = .call t.operation ∧ t.identity = i
  · obtain ⟨t, rfl, rfl⟩ := hsame
    have hnext : (Event.call t.operation).next w = (t.request.perform w).2 :=
      next_operation t w
    rw [hnext] at h
    rcases t.marker_request hsteady with ⟨o, hexecuted, hkeeps⟩ | ⟨-, hkept⟩
    · exact Or.inr ⟨t, o, rfl, rfl, hexecuted, Option.some.inj (h.symm.trans hkeeps)⟩
    · exact Or.inl (hkept entry h)
  · exact Or.inl ((marker_next hclose hsame).symm.trans h)

/-! ## Runs -/

theorem keeps_after {events : List Event} {expiresAt : Nat} (hsteady : w.cache.IsSteady)
    (hread : o.IsReadable i.kind) (hclose : .closeCache ∉ events)
    (hcalls : ∀ pre (t : Toggle) post, events = pre ++ .call t.operation :: post →
      t.identity = i → t.issues.isEmpty = true → (w.after pre).clock < expiresAt)
    (hkeeps : i.Keeps o expiresAt w) : i.Keeps o expiresAt (w.after events) := by
  induction events generalizing w with
  | nil => exact hkeeps
  | cons e events ih =>
    rw [List.mem_cons, not_or] at hclose
    obtain ⟨hfirst, hclose⟩ := hclose
    rw [after_cons]
    refine ih (hsteady.of_setup (setup_next e w)) hclose (fun pre t post heq => ?_) ?_
    · exact hcalls (e :: pre) t post (by rw [heq, List.cons_append])
    · exact keeps_next hsteady hread (Ne.symm hfirst)
        (fun t heq => hcalls [] t events (by rw [heq, List.nil_append])) hkeeps

/-- An entry of a marker that is there after a run was there at its start, or is the outcome
of one of the calls made in the run. -/
theorem origin_after {events : List Event} {entry : Cache.Entry} (hsteady : w.cache.IsSteady)
    (hclose : .closeCache ∉ events)
    (h : (w.after events).cache.store.find? i.marker = some entry) :
    w.cache.store.find? i.marker = some entry ∨
      ∃ (before : List Event) (t : Toggle) (between : List Event) (o : Outcome),
        events = before ++ .call t.operation :: between ∧ t.identity = i ∧
        t.Executed (w.after before) o ∧
        entry =
          ⟨i.marker, o.text, (w.after before).clock + 1000 * w.cache.policy.marker⟩ := by
  induction events generalizing w with
  | nil => exact Or.inl h
  | cons e events ih =>
    rw [List.mem_cons, not_or] at hclose
    obtain ⟨hfirst, hclose⟩ := hclose
    rw [after_cons] at h
    rcases ih (hsteady.of_setup (setup_next e w)) hclose h with
      hnext | ⟨before, t, between, o, rfl, ht, hexecuted, hentry⟩
    · -- the first event has left the entry alone or has written it
      rcases origin_next hsteady (Ne.symm hfirst) hnext with hstart |
        ⟨t, o, rfl, ht, hexecuted, hentry⟩
      · exact Or.inl hstart
      · exact Or.inr ⟨[], t, events, o, rfl, ht, hexecuted, hentry⟩
    · have hpolicy : (e.next w).cache.policy = w.cache.policy :=
        congrArg Prod.fst (setup_next e w)
      rw [hpolicy] at hentry
      exact Or.inr ⟨e :: before, t, between, o, rfl, ht, hexecuted, hentry⟩

/-- The first part of a regular run is regular. -/
theorem Regular.first {first second : List Event} (h : start.Regular (first ++ second)) :
    start.Regular first := by
  refine ⟨h.fits, fun e he => h.calls e (List.mem_append_left _ he), ?_, h.steady,
    fun hmem => h.notClosed (List.mem_append_left _ hmem)⟩
  have htime := h.time
  rw [after_append] at htime
  exact Nat.lt_of_le_of_lt (clock_le_after _ second) htime

theorem Regular.steady_after {events : List Event} (h : start.Regular events) :
    (start.after events).cache.IsSteady :=
  h.steady.of_setup (setup_after start events)

end World

/-! ## Calls that are carried out are kept -/

namespace Toggle

variable {start : World} {before between : List Event} {t : Toggle} {o : Outcome}

/-- Every outcome of a regular run is read back as it was. -/
theorem Executed.isReadable_of_regular
    (hrun : start.Regular (before ++ .call t.operation :: between))
    (h : t.Executed (start.after before) o) : o.IsReadable t.identity.kind := by
  have hbefore := hrun.first
  have hfits := World.fits_after hbefore.fits hbefore.calls hbefore.time
  have hop : t.operation.Fits :=
    hrun.calls (.call t.operation) (List.mem_append_right _ List.mem_cons_self)
  exact h.isReadable hfits hop hbefore.time

/-- The outcome is kept as long as calls are made in time. -/
theorem Executed.keeps (hrun : start.Regular (before ++ .call t.operation :: between))
    (h : t.Executed (start.after before) o) {expiresAt : Nat}
    (hexpiry : expiresAt = (start.after before).clock + 1000 * start.cache.policy.marker)
    (hcalls : ∀ pre (u : Toggle) post, between = pre ++ .call u.operation :: post →
      u.identity = t.identity → u.issues.isEmpty = true →
      (start.after (before ++ .call t.operation :: pre)).clock < expiresAt) :
    t.identity.Keeps o expiresAt (start.after (before ++ .call t.operation :: between)) := by
  have hsteady := hrun.first.steady_after
  have hread := h.isReadable_of_regular hrun
  have hnext : (Event.call t.operation).next (start.after before)
      = (t.request.perform (start.after before)).2 := next_operation t _
  rw [World.after_append, World.after_cons]
  refine World.keeps_after (hsteady.of_setup (World.setup_next _ _)) hread
    (fun hmem => hrun.notClosed (List.mem_append_right _ (List.mem_cons_of_mem _ hmem)))
    (fun pre u post heq hu hissues => ?_) ?_
  · have hpre := hcalls pre u post heq hu hissues
    rwa [World.after_append, World.after_cons] at hpre
  · rcases t.marker_request hsteady with ⟨o', hexecuted, hkeeps⟩ | ⟨hnot, -⟩
    · obtain rfl : o = o' := Except.ok.inj (h.result.symm.trans hexecuted.result)
      rw [World.policy_after] at hkeeps
      rwa [hnext, hexpiry]
    · exact absurd h (hnot o)

end Toggle

/-- An outcome stands for its call until it expires: until then the same call repeats it,
and the first one after is carried out again. Nothing else is ever repeated: a call that is
not carried out repeats the outcome of the same call, which was carried out a short while
ago and succeeded. -/
theorem toggles_are_replayed (start : World) (events : List Event)
    (hrun : start.Regular events) : let now := start.after events
    let lifetime := 1000 * start.cache.policy.marker
    (∀ (before : List Event) (t : Toggle) (between : List Event) (o : Outcome)
      (again : Toggle),
      events = before ++ .call t.operation :: between → t.Executed (start.after before) o →
      again.identity = t.identity → again.issues.isEmpty = true →
      let expiresAt := (start.after before).clock + lifetime
      (now.clock < expiresAt → again.IsRepeated now o) ∧
      (expiresAt ≤ now.clock →
        (∀ pre (u : Toggle) post, between = pre ++ .call u.operation :: post →
          u.identity = t.identity → u.issues.isEmpty = true →
          (start.after (before ++ .call t.operation :: pre)).clock < expiresAt) →
        again.IsCarriedOut now)) ∧
    (∀ again : Toggle, start.cache.store.find? again.identity.marker = none →
      again.issues.isEmpty = true → again.IsCarriedOut now ∨
        ∃ (before : List Event) (t : Toggle) (between : List Event) (o : Outcome),
          events = before ++ .call t.operation :: between ∧ t.identity = again.identity ∧
          t.Executed (start.after before) o ∧
          now.clock < (start.after before).clock + lifetime ∧ again.IsRepeated now o) := by
  intro now lifetime
  refine ⟨?_, ?_⟩
  · rintro before t between o again rfl hexecuted hsame hissues expiresAt
    have hread : o.IsReadable again.identity.kind :=
      hsame ▸ hexecuted.isReadable_of_regular hrun
    refine ⟨fun hlive => ?_, fun hexpired hfirst => ?_⟩
    · have hkeeps := hexecuted.keeps hrun rfl fun pre u post heq _ _ => by
        -- whatever happened before now happened in time
        have hclock :=
          World.clock_le_after (start.after (before ++ .call t.operation :: pre))
            (.call u.operation :: post)
        rw [← World.after_append, List.append_assoc, List.cons_append, ← heq] at hclock
        exact Nat.lt_of_le_of_lt hclock hlive
      rw [← hsame] at hkeeps
      exact request_kept hissues hrun.steady_after hkeeps hlive hread
    · have hkeeps := hexecuted.keeps hrun rfl hfirst
      refine request_again hissues (recall_of_stale fun e he => ?_)
      rw [hsame] at he
      cases hkeeps.symm.trans he
      exact hexpired
  · intro again hstart hissues
    by_cases hstale : ∀ e, now.cache.store.find? again.identity.marker = some e →
      e.expiresAt ≤ now.clock
    · exact Or.inl (request_again hissues (recall_of_stale hstale))
    · obtain ⟨e, hstale⟩ := Classical.not_forall.mp hstale
      obtain ⟨he, hlive⟩ := Classical.not_imp.mp hstale
      have hlive := Nat.not_le.mp hlive
      -- no entry was there at the start, so the one that is live now was written by a call
      rcases World.origin_after hrun.steady hrun.notClosed he with
        hpresent | ⟨before, t, between, o, rfl, ht, hexecuted, rfl⟩
      · rw [hstart] at hpresent
        cases hpresent
      · have hread : o.IsReadable again.identity.kind :=
          ht ▸ hexecuted.isReadable_of_regular hrun
        exact Or.inr ⟨before, t, between, o, rfl, ht, hexecuted, hlive,
          request_kept hissues hrun.steady_after he hlive hread⟩

/-- Asked again a second later, under another nickname, the service repeats that the
content is liked. -/
theorem toggles_are_replayed_sample :
    let first : Toggle := .like 1 ⟨.content, 7, none, none, none, none⟩ none
    let again : Toggle := .like 1 ⟨.content, 7, none, none, some "Ada", none⟩ none
    let events : List Event := [.call first.operation, .wait 1000000]
    World.sample.Regular events ∧
      ∃ o, first.Executed World.sample o ∧
      again.IsRepeated (World.sample.after events) o := by
  intro first again events
  have hrun : World.sample.Regular events := by
    have hcall : first.operation.Fits :=
      ⟨⟨by decide, by decide⟩, ⟨by decide, by decide⟩, nofun⟩
    refine ⟨⟨fun t ht => ?_, fun t ht => ?_⟩, fun e he => ?_, by decide, fun _ _ => rfl, ?_⟩
    · have hlikes : World.sample.database.table Like.Row = .ok {} := rfl
      rw [hlikes] at ht
      cases ht
      exact ⟨by decide, fun r hr => absurd hr List.not_mem_nil⟩
    · have hfavorites : World.sample.database.table Favorite.Row = .ok {} := rfl
      rw [hfavorites] at ht
      cases ht
      exact ⟨by decide, fun r hr => absurd hr List.not_mem_nil⟩
    · rcases List.mem_cons.mp he with rfl | he
      · exact hcall
      · rw [List.mem_singleton.mp he]
        trivial
    · intro hmem
      rcases List.mem_cons.mp hmem with h | h
      · cases h
      · cases List.mem_singleton.mp h
  obtain ⟨o, ho⟩ : ∃ o, first.Executed World.sample o := ⟨_, rfl, rfl⟩
  have hreplayed :=
    (toggles_are_replayed World.sample events hrun).1 [] first [.wait 1000000] o again
      rfl ho rfl rfl
  exact ⟨hrun, o, ho, hreplayed.1 (by decide)⟩

end Community

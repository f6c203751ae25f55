import Community.Http.Extract

/-!
# What is read of a query

A query is a list of fields, and a reader looks for the first field of each name that it
knows. That no other field of the name is there to say something else is what the search for
faults has made sure of:

> `Query.lookup_of_firstFault`: where no fault is found, a known field is
> the first of its name.

> `Visit.number?_of_carries`: so in a query that is read, a number that stands in some field
> of a known name is the number that counts.
-/

namespace Community.Http

open Text

/-! ## Numbers -/

/-- The number in the first field of a name. -/
def Request.number? (r : Request) (name : String) : Option Nat :=
  ((queryFields r.query).lookup name).bind fun text => (readWord64 text).toOption

/-- A number stands in one of the fields of a name. -/
def Request.Carries (r : Request) (name : String) (n : Nat) : Prop :=
  ∃ text, (name, text) ∈ queryFields r.query ∧ readWord64 text = .ok n

/-- A number that is read from a request is carried by it. -/
theorem Request.carries_of_number? {r : Request} {name : String} {n : Nat}
    (h : r.number? name = some n) : r.Carries name n := by
  obtain ⟨text, htext, hn⟩ := Option.bind_eq_some_iff.mp h
  obtain ⟨before, after, hfields, -⟩ := List.lookup_eq_some_iff.mp htext
  refine ⟨text, hfields ▸ List.mem_append_right _ List.mem_cons_self, ?_⟩
  cases hread : readWord64 text with
  | ok m =>
    rw [hread] at hn
    exact congrArg Except.ok (Option.some.inj hn)
  | error fault =>
    rw [hread] at hn
    cases hn

/-! ## Fields without a fault -/

namespace Query

variable {checks : List (String × (String → Option QueryFault))} {seen : List String}
  {fields : List (String × String)} {name text : String}

/-- Where nothing is wrong, nothing is wrong behind the first field. If that is a known one,
it was not seen before, and counts as seen from then on. -/
theorem firstFault_cons {field : String × String}
    (h : firstFault checks seen (field :: fields) = none) :
    ∃ seen', firstFault checks seen' fields = none ∧ (∀ x ∈ seen, x ∈ seen') ∧
      (checks.lookup field.1 ≠ none → field.1 ∉ seen ∧ field.1 ∈ seen') := by
  rw [firstFault] at h
  split at h
  · next hunknown => exact ⟨seen, h, fun _ hx => hx, fun hknown => absurd hunknown hknown⟩
  · split at h
    · cases h
    · next hseen =>
      split at h
      · cases h
      · exact ⟨_, h, fun x hx => List.mem_cons_of_mem _ hx,
          fun _ => ⟨hseen, List.mem_cons_self⟩⟩

/-- A known field that was seen is not given again. -/
theorem not_mem_of_firstFault (h : firstFault checks seen fields = none)
    (hknown : checks.lookup name ≠ none) (hseen : name ∈ seen) : (name, text) ∉ fields := by
  induction fields generalizing seen with
  | nil => exact List.not_mem_nil
  | cons field fields ih =>
    obtain ⟨seen', hrest, hmono, hfirst⟩ := firstFault_cons h
    rintro (_ | ⟨_, hmem⟩)
    · exact (hfirst hknown).1 hseen
    · exact ih hrest (hmono name hseen) hmem

/-- Where nothing is wrong, a known field is the first of its name. -/
theorem lookup_of_firstFault (h : firstFault checks seen fields = none)
    (hknown : checks.lookup name ≠ none) (hmem : (name, text) ∈ fields) :
    fields.lookup name = some text := by
  induction fields generalizing seen with
  | nil => cases hmem
  | cons field fields ih =>
    obtain ⟨seen', hrest, -, hfirst⟩ := firstFault_cons h
    obtain ⟨first, value⟩ := field
    rw [List.lookup_cons]
    split
    · next heq =>
      obtain rfl := eq_of_beq heq
      rcases hmem with _ | ⟨_, hmem⟩
      · rfl
      · exact absurd hmem (not_mem_of_firstFault hrest hknown (hfirst hknown).2)
    · next hne =>
      rcases hmem with _ | ⟨_, hmem⟩
      · rw [beq_self_eq_true] at hne
        cases hne
      · exact ih hrest hmem

/-- A field for a number is read as the number of its name. -/
theorem build_word64 (r : Request) (name : String) :
    (word64 name).build (fun name => (queryFields r.query).lookup name) =
      r.number? name := by
  have hread : ∀ text,
      ((readWord64 text).mapError (QueryFault.integer name)).toOption =
        (readWord64 text).toOption := by
    intro text
    cases readWord64 text <;> rfl
  simp only [word64, field, Request.number?, hread]

end Query

namespace Visit

variable {v : Visit} {α : Type} {q : Query α} {a : α}

/-- A query that is read has no fault in any of its fields. -/
theorem query_eq_ok (h : v.query q = .ok a) :
    Query.firstFault q.checks [] (queryFields v.request.query) = none ∧
      a = q.build fun name => (queryFields v.request.query).lookup name := by
  rw [query, Query.read] at h
  split at h
  · cases h
  · next hnone =>
    cases h
    exact ⟨hnone, rfl⟩

/-- In such a query a number that is carried anywhere is the one that is read. -/
theorem number?_of_carries {name : String} {n : Nat} (h : v.query q = .ok a)
    (hknown : (q.checks.lookup name).isSome) (hn : v.request.Carries name n) :
    v.request.number? name = some n := by
  obtain ⟨text, hmem, hread⟩ := hn
  have htext := Query.lookup_of_firstFault (query_eq_ok h).1
    (Option.isSome_iff_ne_none.mp hknown) hmem
  rw [Request.number?, htext, Option.bind_some, hread]
  rfl

end Visit

end Community.Http

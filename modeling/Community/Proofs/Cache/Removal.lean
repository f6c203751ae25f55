import Community.Cache.Remote
import Mathlib.Algebra.GroupWithZero.Nat

/-!
# A family of keys is listed to the end before any of it is removed

A server answers the removal of a family in two phases. The pages of the listing are
asked for one by one, each from the cursor that the page before has named, until a page
names cursor 0. Only then the keys are removed, in groups of five hundred, up to the
first group whose removal fails. What is sent therefore depends on the script of replies
in one of these ways:

> `family_is_listed_then_removed`: the listing fails and nothing is removed; or it comes to
> its end, and either all keys of all pages are removed, or those up to and with the first
> group that fails, or those up to and with the first group whose count does not fit.

The counts are added up in 64 bits. An honest server says at most five hundred for a group;
one that says more can bring the sum over the largest number, and the groups that are left
are not removed then (`removal_is_broken_off`).
-/

namespace Community.Cache.Remote

/-! ## Scripts of replies -/

section Scripts

variable {α : Type} {read : Reply → Option α} {script rest : List Reply} {values : List α}

/-- The script begins with replies that are read as the values, and `rest` follows. -/
def Begins (read : Reply → Option α) (script : List Reply) (values : List α)
    (rest : List Reply) : Prop :=
  ∃ answers, script = answers ++ rest ∧ answers.map read = values.map some

/-- The next reply is missing, or cannot be read. -/
def Fails (read : Reply → Option α) (script : List Reply) : Prop :=
  script.head?.bind read = none

theorem Begins.nil : Begins read script [] script :=
  ⟨[], rfl, rfl⟩

theorem Begins.cons {reply : Reply} {a : α} (hread : read reply = some a)
    (h : Begins read script values rest) :
    Begins read (reply :: script) (a :: values) rest := by
  obtain ⟨answers, rfl, hanswers⟩ := h
  exact ⟨reply :: answers, rfl, by rw [List.map_cons, List.map_cons, hread, hanswers]⟩

end Scripts

/-! ## Listing -/

/-- The commands that ask for a page from each of the cursors. -/
def scans (pattern : String) (cursors : List String) : List Command :=
  cursors.map fun cursor => .scan cursor pattern

/-- Pages are asked for along the cursors that they name, until one cannot be read
or names cursor 0. -/
theorem scanFrom_cases (pattern cursor : String) (script : List Reply) :
    (∃ pages rest, Begins readPage script pages rest ∧ (∀ p ∈ pages, p.1 ≠ "0") ∧
      Fails readPage rest ∧
      (scanFrom pattern cursor script).result = .error .command ∧
      (scanFrom pattern cursor script).commands =
        scans pattern (cursor :: pages.map Prod.fst)) ∨
    (∃ pages last rest, Begins readPage script (pages ++ [("0", last)]) rest ∧
      (∀ p ∈ pages, p.1 ≠ "0") ∧
      scanFrom pattern cursor script
        = ⟨.ok (pages.flatMap Prod.snd ++ last),
          scans pattern (cursor :: pages.map Prod.fst), rest⟩) := by
  induction script generalizing cursor with
  | nil => exact Or.inl ⟨[], [], .nil, fun _ hp => absurd hp List.not_mem_nil, rfl, rfl, rfl⟩
  | cons reply script ih =>
    rw [scanFrom]
    cases hread : readPage reply with
    | none =>
      exact Or.inl ⟨[], reply :: script, .nil, fun _ hp => absurd hp List.not_mem_nil,
        hread, rfl, rfl⟩
    | some page =>
      obtain ⟨next, keys⟩ := page
      dsimp only
      split
      · next hend =>
        subst hend
        exact Or.inr ⟨[], keys, script, .cons hread .nil,
          fun _ hp => absurd hp List.not_mem_nil, rfl⟩
      · next hmore =>
        -- the page goes in front of what comes of the cursor that it names
        rcases ih next with ⟨pages, rest, hbegins, hpages, hfails, hresult, hcommands⟩ |
          ⟨pages, last, rest, hbegins, hpages, heq⟩
        · refine Or.inl ⟨(next, keys) :: pages, rest, .cons hread hbegins,
            List.forall_mem_cons.mpr ⟨hmore, hpages⟩, hfails, ?_, ?_⟩
          · rw [hresult]
            rfl
          · rw [hcommands]
            rfl
        · refine Or.inr ⟨(next, keys) :: pages, last, rest, .cons hread hbegins,
            List.forall_mem_cons.mpr ⟨hmore, hpages⟩, ?_⟩
          rw [heq, List.flatMap_cons, List.append_assoc]
          rfl

/-! ## Groups of keys -/

/-- The batches together are the keys. -/
theorem flatten_batches (keys : List String) : (batches keys).flatten = keys := by
  fun_induction batches keys with
  | case1 => rfl
  | case2 key rest ih => rw [List.flatten_cons, ih, List.cons_append, List.take_append_drop]

/-- A batch has a key, and no more than fit in one. -/
theorem length_of_mem_batches {keys group : List String} (h : group ∈ batches keys) :
    1 ≤ group.length ∧ group.length ≤ batchSize := by
  fun_induction batches keys with
  | case1 => cases h
  | case2 key rest ih =>
    rcases List.mem_cons.mp h with rfl | h
    · rw [List.length_cons, List.length_take, batchSize]
      omega
    · exact ih h

/-- Only the last group may be smaller than the others. -/
theorem length_of_mem_dropLast_batches {keys group : List String}
    (h : group ∈ (batches keys).dropLast) : group.length = batchSize := by
  fun_induction batches keys with
  | case1 => cases h
  | case2 key rest ih =>
    cases hdrop : rest.drop (batchSize - 1) with
    | nil =>
      rw [hdrop, batches] at h
      cases h
    | cons next more =>
      rw [hdrop, batches, List.dropLast_cons_cons, ← batches, ← hdrop] at h
      rcases List.mem_cons.mp h with rfl | h
      · have hlength := congrArg List.length hdrop
        rw [List.length_drop, List.length_cons, batchSize] at hlength
        rw [List.length_cons, List.length_take, batchSize]
        omega
      · exact ih h

/-! ## Removing -/

/-- How many keys were removed, if these are the answers. Negative ones count as 0. -/
def removedBy (counts : List Int) : Nat :=
  (counts.map Int.toNat).sum

theorem removedBy_cons (n : Int) (counts : List Int) :
    removedBy (n :: counts) = n.toNat + removedBy counts := by
  rw [removedBy, List.map_cons, List.sum_cons, removedBy]

/-- The groups are removed one after the other, until all are, or one of the removals fails,
or the number of removed keys does not fit 64 bits. -/
theorem deleteAll_cases (removed : Nat) (groups : List (List String)) (script : List Reply)
    (hremoved : removed ≤ Text.word64Max) :
    let o := deleteAll removed groups script
    (∃ counts rest, Begins Reply.number? script counts rest ∧ counts.length = groups.length ∧
      removed + removedBy counts ≤ Text.word64Max ∧
      o.result = .ok (removed + removedBy counts) ∧
      o.commands = groups.map .delete) ∨
    (∃ counts rest, Begins Reply.number? script counts rest ∧ counts.length < groups.length ∧
      removed + removedBy counts ≤ Text.word64Max ∧ Fails Reply.number? rest ∧
      o.result = .error .command ∧ o.commands =
        (groups.take (counts.length + 1)).map .delete) ∨
    (∃ counts n rest, Begins Reply.number? script (counts ++ [n]) rest ∧
      counts.length < groups.length ∧
      removed + removedBy counts ≤ Text.word64Max ∧
      Text.word64Max < removed + removedBy (counts ++ [n]) ∧
      o.result = .error .overflow ∧ o.commands =
        (groups.take (counts.length + 1)).map .delete) := by
  induction groups generalizing removed script with
  | nil => exact Or.inl ⟨[], script, .nil, rfl, hremoved, rfl, rfl⟩
  | cons group groups ih =>
    intro o
    cases script with
    | nil =>
      exact Or.inr (Or.inl ⟨[], [], .nil, Nat.zero_lt_succ _, hremoved, rfl, rfl, rfl⟩)
    | cons reply script =>
      cases hnumber : reply.number? with
      | none =>
        have ho : o = ⟨.error .command, [.delete group], script⟩ := by
          simp only [o, deleteAll, send, readCount, hnumber]
          rfl
        rw [ho]
        exact Or.inr (Or.inl
          ⟨[], reply :: script, .nil, Nat.zero_lt_succ _, hremoved, hnumber, rfl, rfl⟩)
      | some n =>
        by_cases hfits : removed + n.toNat ≤ Text.word64Max
        · have ho : o = ⟨(deleteAll (removed + n.toNat) groups script).result,
              .delete group :: (deleteAll (removed + n.toNat) groups script).commands,
              (deleteAll (removed + n.toNat) groups script).replies⟩ := by
            simp only [o, deleteAll, send, readCount, hnumber]
            exact if_pos hfits
          have hsum : ∀ counts, removed + removedBy (n :: counts) =
              removed + n.toNat + removedBy counts :=
            fun counts => by rw [removedBy_cons, Nat.add_assoc]
          rw [ho]
          rcases ih (removed + n.toNat) script hfits with
            ⟨counts, rest, hbegins, hlength, hle, hresult, hcommands⟩ |
            ⟨counts, rest, hbegins, hlength, hle, hfails, hresult, hcommands⟩ |
            ⟨counts, m, rest, hbegins, hlength, hle, hover, hresult, hcommands⟩
          · refine Or.inl ⟨n :: counts, rest, .cons hnumber hbegins,
              congrArg (· + 1) hlength, ?_⟩
            rw [hsum]
            exact ⟨hle, hresult, congrArg _ hcommands⟩
          · refine Or.inr (Or.inl
              ⟨n :: counts, rest, .cons hnumber hbegins, Nat.succ_lt_succ hlength, ?_⟩)
            rw [hsum]
            exact ⟨hle, hfails, hresult, congrArg _ hcommands⟩
          · refine Or.inr (Or.inr
              ⟨n :: counts, m, rest, .cons hnumber hbegins, Nat.succ_lt_succ hlength, ?_⟩)
            rw [hsum, List.cons_append, hsum]
            exact ⟨hle, hover, hresult, congrArg _ hcommands⟩
        · have ho : o = ⟨.error .overflow, [.delete group], script⟩ := by
            simp only [o, deleteAll, send, readCount, hnumber]
            exact if_neg hfits
          rw [ho]
          refine Or.inr (Or.inr ⟨[], n, script, .cons hnumber .nil, Nat.zero_lt_succ _,
            hremoved, ?_, rfl, rfl⟩)
          rw [List.nil_append, removedBy_cons]
          exact Nat.lt_of_not_le hfits

/-! ## Both phases -/

/-- What a removal of a family sends and answers, by the script of replies. The listing
starts at cursor 0 and follows the cursors of the pages. If a page is missing or cannot be
read before one names cursor 0, nothing is removed and the removal fails. Otherwise the keys
of all pages are removed in order, in groups of 500 of which only the last may be smaller.
The removal fails with the first group for which there is no count, and else answers the sum
of the counts, negative ones taken as 0. Only where a count brings the sum over the largest
number of 64 bits, the removal is broken off with that group. -/
theorem family_is_listed_then_removed (label pattern : String) (script : List Reply) :
    let o := deletePattern label pattern script
    let asked (pages : List (String × List String)) :=
      ("0" :: pages.map Prod.fst).map fun cursor =>
        Command.scan cursor (labelled label pattern)
    (∃ pages rest, Begins readPage script pages rest ∧ (∀ p ∈ pages, p.1 ≠ "0") ∧
      Fails readPage rest ∧
      o.result = .error .command ∧ o.commands = asked pages) ∨
    (∃ pages last rest, Begins readPage script (pages ++ [("0", last)]) rest ∧
      (∀ p ∈ pages, p.1 ≠ "0") ∧
      ∃ groups : List (List String), groups.flatten = pages.flatMap Prod.snd ++ last ∧
        (∀ g ∈ groups, 1 ≤ g.length ∧ g.length ≤ 500) ∧
        (∀ g ∈ groups.dropLast, g.length = 500) ∧
        ((∃ counts left, Begins Reply.number? rest counts left ∧
            counts.length = groups.length ∧
            removedBy counts < 2 ^ 64 ∧ o.result = .ok (removedBy counts) ∧
            o.commands = asked pages ++ groups.map .delete) ∨
          (∃ counts left, Begins Reply.number? rest counts left ∧
            counts.length < groups.length ∧
            removedBy counts < 2 ^ 64 ∧ Fails Reply.number? left ∧
            o.result = .error .command ∧
            o.commands = asked pages ++ (groups.take (counts.length + 1)).map .delete) ∨
          (∃ counts n left, Begins Reply.number? rest (counts ++ [n]) left ∧
            counts.length < groups.length ∧ removedBy counts < 2 ^ 64 ∧
            2 ^ 64 ≤ removedBy (counts ++ [n]) ∧
            o.result = .error .overflow ∧
            o.commands = asked pages ++
              (groups.take (counts.length + 1)).map .delete))) := by
  intro o asked
  rcases scanFrom_cases (labelled label pattern) "0" script with
    ⟨pages, rest, hbegins, hpages, hfails, hresult, hcommands⟩ |
    ⟨pages, last, rest, hbegins, hpages, heq⟩
  · have ho : o = ⟨.error .command, asked pages,
        (scanFrom (labelled label pattern) "0" script).replies⟩ := by
      simp only [o, deletePattern, hresult, hcommands]
      rfl
    exact Or.inl
      ⟨pages, rest, hbegins, hpages, hfails, congrArg Outcome.result ho,
        congrArg Outcome.commands ho⟩
  · let groups := batches (pages.flatMap Prod.snd ++ last)
    let deleted := deleteAll 0 groups rest
    have ho : o = ⟨deleted.result, asked pages ++ deleted.commands, deleted.replies⟩ := by
      simp only [o, deletePattern, heq]
      rfl
    have hdeleted := deleteAll_cases 0 groups rest (Nat.zero_le _)
    have hmax : 2 ^ 64 = Text.word64Max + 1 := rfl
    simp only [Nat.zero_add] at hdeleted
    refine Or.inr ⟨pages, last, rest, hbegins, hpages, groups, flatten_batches _,
      fun g hg => length_of_mem_batches hg, fun g hg =>
        length_of_mem_dropLast_batches hg, ?_⟩
    rw [ho, hmax]
    simp only [Nat.lt_succ_iff]
    rcases hdeleted with
      ⟨counts, left, hcounts, hlength, hle, hresult, hcommands⟩ |
      ⟨counts, left, hcounts, hlength, hle, hleft, hresult, hcommands⟩ |
      ⟨counts, n, left, hcounts, hlength, hle, hover, hresult, hcommands⟩
    · exact Or.inl ⟨counts, left, hcounts, hlength, hle, hresult,
        congrArg (asked pages ++ ·) hcommands⟩
    · exact Or.inr (Or.inl
        ⟨counts, left, hcounts, hlength, hle, hleft, hresult,
          congrArg (asked pages ++ ·) hcommands⟩)
    · exact Or.inr (Or.inr
        ⟨counts, n, left, hcounts, hlength, hle, hover, hresult,
          congrArg (asked pages ++ ·) hcommands⟩)

/-- A reply that lists keys is read as the keys. -/
theorem texts?_map_text (keys : List String) : texts? (keys.map .text) = some keys := by
  induction keys with
  | nil => rfl
  | cons key keys ih => rw [List.map_cons, texts?, ih, Option.map_some]

/-- A listing of one page is read to its end. -/
theorem scanFrom_single (pattern cursor : String) (keys : List String) (rest : List Reply) :
    scanFrom pattern cursor (.list [.text "0", .list (keys.map .text)] :: rest)
      = ⟨.ok keys, [.scan cursor pattern], rest⟩ := by
  rw [scanFrom, readPage, texts?_map_text]
  rfl

/-- Four groups are to be removed, and the server has a count for each. The third brings the
sum to 2 to the power of 64: no sum is answered, and the fourth group is not removed. -/
theorem removal_is_broken_off :
    let keys := List.replicate 1501 "k"
    let counts : List Int := [9223372036854775807, 9223372036854775807, 2, 1]
    let page : Reply := .list [.text "0", .list (keys.map .text)]
    let o := deletePattern "" "k*" (page :: counts.map .number)
    let sent := o.commands.flatMap fun
      | .delete group => group
      | _ => []
    o.result = .error .overflow ∧ sent = List.replicate 1500 "k" ∧ sent ≠ keys := by
  intro keys counts page o sent
  have hgroups : batches keys
      = [List.replicate 500 "k", List.replicate 500 "k", List.replicate 500 "k", ["k"]] := by
    have hnext : ∀ n, batches (List.replicate (n + 1) "k")
        = List.replicate (min 499 n + 1) "k" :: batches (List.replicate (n - 499) "k") := by
      intro n
      rw [List.replicate_succ, batches, List.take_replicate, List.drop_replicate]
      rfl
    simp only [keys, hnext, batches, Nat.zero_sub, List.replicate_zero]
    rfl
  have hdeleted : o = ⟨.error .overflow, .scan "0" "k*" ::
      [List.replicate 500 "k", List.replicate 500 "k", List.replicate 500 "k"].map .delete,
      [.number 1]⟩ := by
    simp only [o, deletePattern, page, scanFrom_single, hgroups]
    rfl
  have hsent : sent = List.replicate 1500 "k" := by
    simp only [sent, hdeleted, List.map_cons, List.map_nil, List.flatMap_cons,
      List.flatMap_nil, List.nil_append, List.append_nil, List.replicate_append_replicate]
  refine ⟨by rw [hdeleted], hsent, fun h => ?_⟩
  have hlength := congrArg List.length (hsent.symm.trans h)
  rw [List.length_replicate, List.length_replicate] at hlength
  exact absurd hlength (by decide)

end Community.Cache.Remote

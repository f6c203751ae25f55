import Community.Proofs.Page.Cut
import Community.Proofs.Procedure
import Community.Proofs.Statement
import Mathlib.Data.List.Forall2

/-!
# The rows of a table, page by page

A paged question counts the rows that match, sorts them anew for every page and
reads one piece. The pages fit together because the order leaves no choice: its last
key is the identifier, so no two rows are level, and sorting the same rows gives the
same list each time.

> `Table.isListed`: a question of this shape lists its table, whatever else the world holds
> in which each of its pages is asked for.
-/

namespace Community.Database

open Text

/-! ## The order of keys -/

/-- Of two rows one is not below the other. -/
theorem notBelow_total : ∀ as bs : List Int, notBelow as bs = true ∨ notBelow bs as = true
  | [], _ => Or.inl (by rw [notBelow])
  | _ :: _, [] => Or.inl (by rw [notBelow])
  | a :: as, b :: bs => by
    rw [notBelow, notBelow]
    rcases Int.lt_trichotomy a b with hab | rfl | hab
    · exact Or.inr (by rw [if_neg (by omega), decide_eq_true_iff]; exact hab)
    · simpa using notBelow_total as bs
    · exact Or.inl (by rw [if_neg (by omega), decide_eq_true_iff]; exact hab)

/-- Rows of as many keys are in an order. -/
theorem notBelow_trans :
    ∀ {as bs cs : List Int}, as.length = bs.length → bs.length = cs.length →
    notBelow as bs = true → notBelow bs cs = true → notBelow as cs = true
  | [], [], [], _, _, _, _ => rfl
  | a :: as, b :: bs, c :: cs, hab, hbc, h, h' => by
    have ih := notBelow_trans (Nat.succ.inj hab) (Nat.succ.inj hbc)
    rw [notBelow] at h h' ⊢
    split at h <;> split at h' <;> split <;> simp_all <;> omega

/-- Of two different lists of keys the one in front is the larger. -/
theorem lex_of_notBelow :
    ∀ {as bs : List Int}, as.length = bs.length → as ≠ bs → notBelow as bs = true →
    List.Lex (· < ·) bs as
  | [], [], _, hne, _ => absurd rfl hne
  | a :: as, b :: bs, hlength, hne, h => by
    rw [notBelow] at h
    split at h
    · next heq =>
      subst heq
      exact .cons
        (lex_of_notBelow (Nat.succ.inj hlength) (fun heq => hne (congrArg (a :: ·) heq)) h)
    · exact .rel (decide_eq_true_iff.mp h)

section Keys

variable {ρ : Type} {keys : ρ → List Int}

/-- The keys of the first row are larger at the first difference. -/
def Above (keys : ρ → List Int) (a b : ρ) : Prop :=
  List.Lex (· < ·) (keys b) (keys a)

/-- Rows whose keys differ are sorted so that the keys fall. -/
theorem pairwise_mergeSort_descending (hlength : ∀ a b, (keys a).length = (keys b).length)
    {rows : List ρ} (hrows : rows.Pairwise fun a b => keys a ≠ keys b) :
    (rows.mergeSort (descending keys)).Pairwise (Above keys) := by
  have hsorted : (rows.mergeSort (descending keys)).Pairwise fun a b =>
      descending keys a b = true := by
    refine List.pairwise_mergeSort (fun a b c hab hbc => ?_) (fun a b => ?_) rows
    · exact notBelow_trans (hlength a b) (hlength b c) hab hbc
    · rw [Bool.or_eq_true]
      exact notBelow_total (keys a) (keys b)
  have hapart : (rows.mergeSort (descending keys)).Pairwise fun a b => keys a ≠ keys b :=
    (List.mergeSort_perm rows _).symm.pairwise hrows Ne.symm
  exact (hsorted.and hapart).imp fun ⟨hle, hne⟩ => lex_of_notBelow (hlength _ _) hne hle

end Keys

/-! ## Reading rows -/

variable {ρ α β : Type} [Entity ρ α]

/-- A row is read as a value. -/
def Reads (r : ρ) (a : α) : Prop :=
  Entity.read? r = some a

/-- Rows that can each be decoded are decoded together. -/
theorem mapM_readRow_of_reads {rows : List ρ} {as : List α}
    (h : List.Forall₂ Reads rows as) : rows.mapM readRow = .ok as := by
  induction h with
  | nil => rfl
  | cons hread _ ih =>
    rw [List.mapM_cons, readRow_eq_ok.mpr hread, ih]
    rfl

/-- Rows that were decoded together can each be. -/
theorem reads_of_mapM_readRow {rows : List ρ} {as : List α}
    (h : rows.mapM readRow = .ok as) : List.Forall₂ Reads rows as := by
  induction rows generalizing as with
  | nil =>
    cases h
    exact .nil
  | cons r rows ih =>
    rw [List.mapM_cons] at h
    obtain ⟨a, ha, h⟩ := bind_eq_ok h
    obtain ⟨rest, hrest, h⟩ := bind_eq_ok h
    cases h
    exact .cons (readRow_eq_ok.mp ha) (ih hrest)

/-- Rows that can be decoded have values. -/
theorem exists_reads {rows : List ρ} (h : ∀ r ∈ rows, ∃ a : α, Reads r a) :
    ∃ as : List α, List.Forall₂ Reads rows as := by
  induction rows with
  | nil => exact ⟨[], .nil⟩
  | cons r rows ih =>
    obtain ⟨a, ha⟩ := h r List.mem_cons_self
    obtain ⟨as, has⟩ := ih fun s hs => h s (List.mem_cons_of_mem r hs)
    exact ⟨a :: as, .cons ha has⟩

/-- What shows in a row shows in the value that it is read as. -/
theorem map_eq_of_reads {γ : Type} {f : ρ → γ} {g : α → γ} {rows : List ρ} {as : List α}
    (h : ∀ r a, Reads r a → f r = g a) (hreads : List.Forall₂ Reads rows as) :
    rows.map f = as.map g := by
  induction hreads with
  | nil => rfl
  | cons hread _ ih => rw [List.map_cons, List.map_cons, h _ _ hread, ih]

/-! ## Listed tables -/

/-- A table as a database keeps it: every row is read as a value, no two have one identifier,
and their number has 64 bits. -/
structure Table.IsSound (t : Table ρ) : Prop where
  readable : ∀ r ∈ t.rows, ∃ a : α, Reads r a
  keyed : t.rows.Pairwise fun a b => Entity.id a ≠ Entity.id b
  countable : t.rows.length ≤ word64Max

/-- `answers w p l` says that page `p` is answered by the listing `l` in a world `w`. The
table is listed if, in whichever worlds it is asked page by page, the answers show all rows
that `matching` admits, each of them once, in the order in which their keys fall. -/
def Table.IsListed (t : Table ρ) (matching : ρ → Bool) (keys : ρ → List Int) (view : α → β)
    (answers : World → Page → Listing β → Prop) : Prop :=
  ∃ rows as, rows.Perm (t.rows.filter matching) ∧ rows.Pairwise (Above keys) ∧
    List.Forall₂ Reads rows as ∧
    ∀ size, 1 ≤ size → size ≤ Page.maxSize → ∃ page : Nat → Listing β,
      Listing.IsCut (as.map view) size page ∧
      ∀ n, 1 ≤ n → ∀ w : World, w.database.table ρ = .ok t → answers w ⟨n, size⟩ (page n)

theorem Table.IsListed.mono {t : Table ρ} {matching : ρ → Bool} {keys : ρ → List Int}
    {view : α → β} {answers answers' : World → Page → Listing β → Prop}
    (h : t.IsListed matching keys view answers)
    (himp : ∀ w p l, answers w p l → answers' w p l) :
    t.IsListed matching keys view answers' := by
  obtain ⟨rows, as, hperm, hsorted, hreads, hpages⟩ := h
  refine ⟨rows, as, hperm, hsorted, hreads, fun size hlow hhigh => ?_⟩
  obtain ⟨page, hcut, hanswers⟩ := hpages size hlow hhigh
  exact ⟨page, hcut, fun n hn w hw => himp _ _ _ (hanswers n hn w hw)⟩

/-- What a page of a table is. -/
theorem page_eq {db : Database} {t : Table ρ} (ht : db.table ρ = .ok t) (pick : ρ → Bool)
    (before : ρ → ρ → Bool) {as : List α}
    (has : List.Forall₂ Reads ((t.rows.filter pick).mergeSort before) as) (p : Page) :
    page pick before p db = .ok (p.rows as, as.length) := by
  have hlength : (t.rows.filter pick).length = as.length := by
    rw [← has.length_eq, List.length_mergeSort]
  have hpiece : (p.rows ((t.rows.filter pick).mergeSort before)).mapM readRow =
      .ok (p.rows as) :=
    mapM_readRow_of_reads (List.forall₂_take _ (List.forall₂_drop _ has))
  rw [page, count, select_of_table ht, ht]
  simp only [bind, Except.bind, pure, Except.pure, hpiece, hlength]

/-- A question that counts, sorts and cuts lists its table, if its keys tell rows apart. -/
theorem Table.isListed {t : Table ρ} (ht : t.IsSound) (matching : ρ → Bool)
    {keys : ρ → List Int} (hlength : ∀ a b, (keys a).length = (keys b).length)
    (hkeys : ∀ a b, keys a = keys b → Entity.id a = Entity.id b) (view : α → β)
    {answers : World → Page → Listing β → Prop}
    (hanswers : ∀ (w : World) (p : Page) (as : List α) total, page matching (descending keys)
      p w.database = .ok (as, total) → answers w p ((Listing.of as total p).map view)) :
    t.IsListed matching keys view answers := by
  have hperm := List.mergeSort_perm (t.rows.filter matching) (descending keys)
  have hreadable : ∀ r ∈ (t.rows.filter matching).mergeSort (descending keys),
      ∃ a : α, Reads r a :=
    fun r hr => ht.readable r (List.mem_of_mem_filter (hperm.mem_iff.mp hr))
  obtain ⟨as, has⟩ := exists_reads hreadable
  refine ⟨_, as, hperm, pairwise_mergeSort_descending hlength ?_, has,
    fun size hsize _ => ?_⟩
  · exact (ht.keyed.filter _).imp fun hne heq => hne (hkeys _ _ heq)
  · have hcount : (as.map view).length ≤ word64Max := by
      rw [List.length_map, ← has.length_eq, List.length_mergeSort]
      exact Nat.le_trans (List.length_filter_le _ _) ht.countable
    refine ⟨_, Listing.isCut_cut hsize hcount, fun n _ w hw => ?_⟩
    rw [← Listing.map_cut]
    exact hanswers w _ _ _ (page_eq hw matching (descending keys) has ⟨n, size⟩)

end Community.Database

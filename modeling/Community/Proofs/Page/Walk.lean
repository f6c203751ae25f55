import Community.Proofs.Page.Listed

/-!
# A list read to its end

A client that wants a whole list asks for its pages one after the other, as many as the first
one tells. Reading may leave something in the cache, so the world need not stay what it was;
it is enough that what the answers depend on does.

> `Table.IsListed.walk`: a listed table is read to its end, each row that matches once, as
> long as the pages are asked for in worlds that have the table.

> `Table.HasItems.countP_eq`: what is counted among the items was counted among the rows.
-/

namespace Community

open Procedure Database

/-- All items of a list: the first page, and then as many more as it tells. -/
def Procedure.walk {β : Type} (ask : Page → Procedure (Listing β)) (size : Nat) :
    Procedure (List β) := do
  let first ← ask ⟨1, size⟩
  let rest ← (List.range' 2 (first.pages - 1)).mapM fun n => ask ⟨n, size⟩
  return (first :: rest).flatMap Listing.items

section Walk

variable {β : Type} {ask : Page → Procedure (Listing β)} {size : Nat}
  {page : Nat → Listing β} {I : World → Prop}

/-- Pages that are asked for one after the other are answered as each of them is. -/
theorem perform_mapM_ask
    (hask : ∀ n, 1 ≤ n → ∀ v, I v → ∃ v', (ask ⟨n, size⟩).perform v =
      (.ok (page n), v') ∧ I v')
    (count : Nat) {start : Nat} (hstart : 1 ≤ start) {w : World} (hw : I w) :
    ∃ v, ((List.range' start count).mapM fun n => ask ⟨n, size⟩).perform w
      = (.ok ((List.range' start count).map page), v) ∧ I v := by
  induction count generalizing start w with
  | zero => exact ⟨w, rfl, hw⟩
  | succ count ih =>
    obtain ⟨v, hfirst, hv⟩ := hask start hstart w hw
    obtain ⟨v', hrest, hv'⟩ := ih (Nat.le_succ_of_le hstart) hv
    refine ⟨v', ?_, hv'⟩
    rw [List.range'_succ, List.mapM_cons, perform_bind_ok hfirst, perform_bind_ok hrest]
    rfl

/-- A walk through the pages of a list collects the list. -/
theorem perform_walk {all : List β} (hcut : Listing.IsCut all size page)
    (hask : ∀ n, 1 ≤ n → ∀ v, I v → ∃ v', (ask ⟨n, size⟩).perform v =
      (.ok (page n), v') ∧ I v')
    {w : World} (hw : I w) : ∃ v, (walk ask size).perform w = (.ok all, v) ∧ I v := by
  obtain ⟨v, hfirst, hv⟩ := hask 1 (Nat.le_refl 1) w hw
  obtain ⟨v', hrest, hv'⟩ := perform_mapM_ask hask ((page 1).pages - 1) (Nat.le_succ 1) hv
  refine ⟨v', ?_, hv'⟩
  rw [walk, perform_bind_ok hfirst, perform_bind_ok hrest]
  refine congrArg (fun items => (Except.ok items, v')) ?_
  show (page 1).items ++ ((List.range' 2 ((page 1).pages - 1)).map page).flatMap
    Listing.items = all
  rw [hcut.pages, List.flatMap_map]
  rcases Nat.eq_zero_or_pos (all.length ⌈/⌉ size) with hnone | hsome
  · -- the first page of nothing is asked for too
    have hjoined := hcut.joined
    rw [hnone] at hjoined ⊢
    rw [hcut.beyond 1 (by omega), ← hjoined]
    rfl
  · have hjoined := hcut.joined
    rw [show all.length ⌈/⌉ size = (all.length ⌈/⌉ size - 1) + 1 by omega, List.range'_succ,
      List.flatMap_cons] at hjoined
    exact hjoined

end Walk

/-! ## Listed tables -/

namespace Database

variable {ρ α β : Type} [Entity ρ α] {t : Table ρ} {matching : ρ → Bool}
  {keys : ρ → List Int} {view : α → β} {answers : World → Page → Listing β → Prop}
  {ask : Page → Procedure (Listing β)} {I : World → Prop}

/-- The items of a table are those of its rows that match. -/
def Table.HasItems (t : Table ρ) (matching : ρ → Bool) (view : α → β) (items : List β) :
    Prop :=
  ∃ rows as, rows.Perm (t.rows.filter matching) ∧ List.Forall₂ Reads rows as ∧
    items = as.map view

namespace Table.HasItems

variable {items : List β}

theorem length_eq (h : t.HasItems matching view items) :
    items.length = (t.rows.filter matching).length := by
  obtain ⟨rows, as, hperm, hreads, rfl⟩ := h
  rw [List.length_map, ← hreads.length_eq, hperm.length_eq]

/-- What shows in the rows can be counted among the items. -/
theorem countP_eq (h : t.HasItems matching view items) {inRow : ρ → Bool} {inItem : β → Bool}
    (hshows : ∀ r a, Reads r a → inRow r = inItem (view a)) :
    items.countP inItem = t.rows.countP fun r => inRow r && matching r := by
  obtain ⟨rows, as, hperm, hreads, rfl⟩ := h
  have hmap : rows.map inRow = as.map fun a => inItem (view a) :=
    map_eq_of_reads hshows hreads
  calc (as.map view).countP inItem
      = (as.map fun a => inItem (view a)).countP id := by
        rw [List.countP_map, List.countP_map]
        rfl
    _ = rows.countP inRow := by rw [← hmap, List.countP_map]; rfl
    _ = (t.rows.filter matching).countP inRow := hperm.countP_eq _
    _ = t.rows.countP fun r => inRow r && matching r := List.countP_filter

end Table.HasItems

/-- A table that is listed is read to its end in every world from which the table stays where
it is. Every page tells the number of its items. -/
theorem Table.IsListed.walk (h : t.IsListed matching keys view answers)
    (hask : ∀ v p l, I v → answers v p l → ∃ v', (ask p).perform v = (.ok l, v') ∧ I v')
    (htable : ∀ v : World, I v → v.database.table ρ = .ok t) {size : Nat} (hlow : 1 ≤ size)
    (hhigh : size ≤ Page.maxSize) {w : World} (hw : I w) :
    ∃ items, t.HasItems matching view items ∧
    ((Procedure.walk ask size).perform w).1 = .ok items ∧
      ∀ n, 1 ≤ n → ∃ page, ((ask ⟨n, size⟩).perform w).1 = .ok page ∧
      page.total = items.length := by
  obtain ⟨rows, as, hperm, -, hreads, hpages⟩ := h
  obtain ⟨page, hcut, hanswers⟩ := hpages size hlow hhigh
  have hstep : ∀ n, 1 ≤ n → ∀ v, I v →
      ∃ v', (ask ⟨n, size⟩).perform v = (.ok (page n), v') ∧ I v' :=
    fun n hn v hv => hask v _ _ hv (hanswers n hn v (htable v hv))
  obtain ⟨v, hwalk, -⟩ := perform_walk hcut hstep hw
  refine ⟨as.map view, ⟨rows, as, hperm, hreads, rfl⟩, by rw [hwalk],
    fun n hn => ⟨page n, ?_, hcut.total n⟩⟩
  obtain ⟨v', hpage, -⟩ := hstep n hn w hw
  rw [hpage]

end Database

end Community

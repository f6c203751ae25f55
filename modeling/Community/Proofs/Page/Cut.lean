import Community.Page
import Mathlib.Algebra.Order.Floor.Div

/-!
# A list cut into pages

The pages of one list, taken one after the other, are the list again. Every page is a piece
that begins where the one before it ends. Two things are to be shown: that this stays so
where the count of the rows before a page stops at 64 bits, and that the number of pages is
the one up to which there is anything left.

> `Listing.isCut_cut`: pages that are read off one list are the list in pieces, all of them
> full but the last, with nothing behind it.
-/

namespace Community

open Text

/-! ## Pieces of a list -/

section Pieces

variable {α β : Type}

/-- The pieces of a list put together. -/
theorem flatMap_pieces (all : List α) (size k : Nat) :
    (List.range' 1 k).flatMap (fun n => (all.drop ((n - 1) * size)).take size) =
      all.take (k * size) := by
  induction k with
  | zero => simp
  | succ k ih =>
    rw [List.range'_concat, List.flatMap_append, ih, Nat.add_mul, List.take_add]
    simp

/-- Where the count of rows stops does not matter to a list that can be counted. -/
theorem drop_saturate {all : List α} (hall : all.length ≤ word64Max) (k : Nat) :
    all.drop (saturate k) = all.drop k := by
  rcases Nat.le_total k word64Max with hk | hk
  · rw [saturate, Nat.min_eq_left hk]
  · rw [saturate, Nat.min_eq_right hk, List.drop_eq_nil_of_le hall,
      List.drop_eq_nil_of_le (Nat.le_trans hall hk)]

/-- A count that stops early stops where it would have stopped. -/
theorem saturate_mul (k size : Nat) :
    saturate (saturate k * size) = saturate (k * size) := by
  rcases Nat.le_total k word64Max with hk | hk
  · rw [saturate, saturate, Nat.min_eq_left hk, saturate]
  · rcases Nat.eq_zero_or_pos size with rfl | hsize
    · rw [Nat.mul_zero, Nat.mul_zero]
    · have hfirst : word64Max ≤ saturate k * size := by
        rw [saturate, Nat.min_eq_right hk]
        exact Nat.le_mul_of_pos_right _ hsize
      have hsecond : word64Max ≤ k * size :=
        Nat.le_trans hk (Nat.le_mul_of_pos_right _ hsize)
      rw [saturate, Nat.min_eq_right hfirst, saturate, Nat.min_eq_right hsecond]

namespace Page

/-- A page shows so many rows after those of the pages before it. -/
theorem rows_eq {all : List α} (hall : all.length ≤ word64Max) (n size : Nat) :
    rows ⟨n, size⟩ all = (all.drop ((n - 1) * size)).take size := by
  show (all.drop (saturate (saturate (n - 1) * size))).take size = _
  rw [saturate_mul, drop_saturate hall]

/-- The page of an image is the image of the page. -/
theorem rows_map (f : α → β) (p : Page) (all : List α) :
    p.rows (all.map f) = (p.rows all).map f := by
  rw [rows, rows, List.map_take, List.map_drop]

end Page

end Pieces

/-! ## Pages -/

namespace Listing

variable {α : Type}

/-- The pages of `size` items are the list `all`, cut into pieces. -/
structure IsCut (all : List α) (size : Nat) (page : Nat → Listing α) : Prop where
  number : ∀ n, (page n).page = n
  width : ∀ n, (page n).size = size
  total : ∀ n, (page n).total = all.length
  pages : ∀ n, (page n).pages = all.length ⌈/⌉ size
  joined : (List.range' 1 (all.length ⌈/⌉ size)).flatMap (fun n => (page n).items) = all
  full : ∀ n, 1 ≤ n → n < all.length ⌈/⌉ size → (page n).items.length = size
  beyond : ∀ n, all.length ⌈/⌉ size < n → (page n).items = []

/-- Page `n` of a list. -/
def cut (all : List α) (size n : Nat) : Listing α :=
  .of (Page.rows ⟨n, size⟩ all) all.length ⟨n, size⟩

theorem isCut_cut {all : List α} {size : Nat} (hsize : 1 ≤ size)
    (hall : all.length ≤ word64Max) : IsCut all size (cut all size) := by
  have hitems : ∀ n, (cut all size n).items = (all.drop ((n - 1) * size)).take size :=
    fun n => Page.rows_eq hall n size
  -- the pages are those up to which there is anything left
  have hleft : ∀ k, all.length ⌈/⌉ size ≤ k ↔ all.length ≤ size * k :=
    fun k => ceilDiv_le_iff_le_mul hsize
  refine ⟨fun _ => rfl, fun _ => rfl, fun _ => rfl, fun n => ?_, ?_, fun n hn hlast => ?_,
    fun n hlast => ?_⟩
  · show (if size = 0 then 0 else (all.length + size - 1) / size) = _
    rw [if_neg (by omega), Nat.ceilDiv_eq_add_pred_div]
  · have hpages : all.length ≤ all.length ⌈/⌉ size * size := by
      rw [Nat.mul_comm]
      exact (hleft _).mp (Nat.le_refl _)
    rw [funext hitems, flatMap_pieces, List.take_of_length_le hpages]
  · -- what is left when the page begins is more than a page
    have hmore : size * n < all.length :=
      Nat.lt_of_not_le fun h => Nat.not_le.mpr hlast ((hleft n).mpr h)
    have hstart : (n - 1) * size + size = size * n := by
      rw [← Nat.succ_mul, Nat.mul_comm, Nat.succ_eq_add_one, Nat.sub_add_cancel hn]
    rw [hitems, List.length_take, List.length_drop]
    omega
  · have hend : all.length ≤ (n - 1) * size := by
      rw [Nat.mul_comm]
      exact (hleft _).mp (by omega)
    rw [hitems, List.drop_eq_nil_of_le hend, List.take_nil]

/-- A page that shows its items as they are. -/
theorem map_id (l : Listing α) : l.map id = l := by
  rw [map, List.map_id]

/-- The image of a cut is the cut of the image. -/
theorem map_cut {β : Type} (f : α → β) (all : List α) (size n : Nat) :
    (cut all size n).map f = cut (all.map f) size n := by
  rw [cut, cut, Page.rows_map, List.length_map]
  rfl

end Listing

end Community

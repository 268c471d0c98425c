import Blert.Chains
import Blert.Merging.Confidence

/-!
The number of monotone matchings is exact.

The matchings that end at a cell extend those that end at a cell before it with a smaller row and a
smaller column. In the order of rows, and of columns within a row, no cell comes before one that is
smaller, so that a matching is counted once, at its last cell.
-/

namespace Blert.Merging.Confidence

/-- Both the row and the column of a cell are smaller than those of another. -/
def Smaller (a b : ℕ × ℕ) : Prop := a.1 < b.1 ∧ a.2 < b.2

instance : DecidableRel Smaller := fun a b => inferInstanceAs (Decidable (a.1 < b.1 ∧ a.2 < b.2))

/-- A cell is greater than another. Chains of greater cells are read from their last cell. -/
def Greater (a b : ℕ × ℕ) : Prop := Smaller b a

instance : DecidableRel Greater := fun a b => inferInstanceAs (Decidable (Smaller b a))

instance : IsTrans (ℕ × ℕ) Greater :=
  ⟨fun _ _ _ h h' => ⟨h'.1.trans h.1, h'.2.trans h.2⟩⟩

/-! ### Counting cell by cell -/

@[simp] lemma countCells_nil (size : ℕ) : countCells size [] = [] := rfl

lemma countCells_concat (size : ℕ) (cells : List (ℕ × ℕ)) (cell : ℕ × ℕ) :
    countCells size (cells ++ [cell]) =
      countCells size cells ++ [countCell size (countCells size cells) cell] := by
  unfold countCells
  rw [List.foldl_append]
  rfl

/-- How many matchings of a size end at some of the cells. -/
def ending (s : ℕ) (cells : List CountedCell) : ℕ := (cells.map fun c => c.counts.getD s 0).sum

@[simp] lemma ending_nil (s : ℕ) : ending s [] = 0 := rfl

lemma ending_append (s : ℕ) (cells cells' : List CountedCell) :
    ending s (cells ++ cells') = ending s cells + ending s cells' := by
  unfold ending
  rw [List.map_append, List.sum_append]

def before (cells : List CountedCell) (cell : ℕ × ℕ) : List CountedCell :=
  cells.filter fun c => c.row < cell.1 ∧ c.col < cell.2

lemma ending_singleton (s : ℕ) (c : CountedCell) : ending s [c] = c.counts.getD s 0 := by
  simp [ending]

lemma place_countCell (size : ℕ) (cells : List CountedCell) (cell : ℕ × ℕ) :
    ((countCell size cells cell).row, (countCell size cells cell).col) = cell := rfl

lemma counts_countCell {size s : ℕ} (hs : s < size) (cells : List CountedCell)
    (cell : ℕ × ℕ) :
    (countCell size cells cell).counts.getD (s + 1) 0 =
      if s = 0 then 1 else ending s (before cells cell) := by
  unfold countCell
  rw [List.getD_eq_getElem?_getD, List.getElem?_map, List.getElem?_range (by omega)]
  simp [ending, before]

lemma before_concat (cells : List CountedCell) (c : CountedCell) (cell : ℕ × ℕ) :
    before (cells ++ [c]) cell =
      before cells cell ++ if Greater cell (c.row, c.col) then [c] else [] := by
  unfold before
  rw [List.filter_append, List.filter_singleton]
  congr 1
  by_cases h : c.row < cell.1 ∧ c.col < cell.2
  · rw [if_pos (show Greater cell (c.row, c.col) from h), decide_eq_true h]
    rfl
  · rw [if_neg (show ¬ Greater cell (c.row, c.col) from h), decide_eq_false h]
    rfl

lemma ending_before {size : ℕ} (cells : List (ℕ × ℕ)) :
    ∀ s < size, ∀ cell, ending (s + 1) (before (countCells size cells) cell) =
      chainsAfter Greater (s + 1) cell cells.reverse := by
  induction cells using List.reverseRecOn with
  | nil => exact fun s _ cell => by simp [before]
  | append_singleton cells c ih =>
    intro s hs cell
    rw [countCells_concat, before_concat, ending_append, ih s hs cell, List.reverse_append,
      List.reverse_singleton, List.singleton_append, chainsAfter_cons, place_countCell]
    congr 1
    by_cases h : Greater cell c
    · rw [if_pos h, if_pos h, ending_singleton, counts_countCell hs]
      cases s with
      | zero => rw [if_pos rfl, chainsAfter_zero]
      | succ s => rw [if_neg s.succ_ne_zero, ih s (by omega)]
    · rw [if_neg h, if_neg h, ending_nil]

lemma ending_countCells {size : ℕ} (cells : List (ℕ × ℕ)) :
    ending (size + 1) (countCells (size + 1) cells) = chains Greater (size + 1) cells.reverse := by
  induction cells using List.reverseRecOn with
  | nil => simp
  | append_singleton cells c ih =>
    rw [countCells_concat, ending_append, ih, List.reverse_append, List.reverse_singleton,
      List.singleton_append, chains_cons, ending_singleton, counts_countCell size.lt_succ_self]
    congr 1
    cases size with
    | zero => rw [if_pos rfl, chainsAfter_zero]
    | succ size => rw [if_neg size.succ_ne_zero, ending_before cells size (by omega)]

/-! ### The order of the cells -/

lemma sortCells_perm (cells : List (ℕ × ℕ)) : (sortCells cells).Perm cells :=
  List.perm_insertionSort _ _

lemma sortCells_ordered (cells : List (ℕ × ℕ)) :
    (sortCells cells).Pairwise fun a b => ¬ Smaller b a := by
  have : Std.Total fun a b : ℕ × ℕ => a.1 < b.1 ∨ a.1 = b.1 ∧ a.2 ≤ b.2 :=
    ⟨fun a b => by omega⟩
  have : IsTrans (ℕ × ℕ) fun a b => a.1 < b.1 ∨ a.1 = b.1 ∧ a.2 ≤ b.2 :=
    ⟨fun a b c => by omega⟩
  refine (List.pairwise_insertionSort _ cells).imp ?_
  rintro a b h ⟨hrow, hcol⟩
  omega

open Classical in
/-- **Monotone matchings are counted exactly**: as many as the cells have subsets of the size that
strictly increase in both row and column. -/
theorem countMonotoneMatchings_eq (cells : List (ℕ × ℕ)) (h : cells.Nodup) (size : ℕ) :
    countMonotoneMatchings cells size =
      ((cells.toFinset.powersetCard size).filter fun t : Finset (ℕ × ℕ) =>
        IsChain (fun a b => a.1 < b.1 ∧ a.2 < b.2) (t : Set (ℕ × ℕ))).card := by
  set sorted := (sortCells cells).reverse
  have hperm : sorted.Perm cells := (List.reverse_perm _).trans (sortCells_perm cells)
  have horder : sorted.Pairwise fun a b => ¬ Greater b a :=
    List.pairwise_reverse.mpr (sortCells_ordered cells)
  have hcount : countMonotoneMatchings cells size = chains Greater size sorted := by
    unfold countMonotoneMatchings
    cases size with
    | zero => rw [if_pos rfl, chains_zero]
    | succ size =>
      rw [if_neg size.succ_ne_zero]
      exact ending_countCells (sortCells cells)
  have hchain : ∀ t : Finset (ℕ × ℕ), IsChain Greater (t : Set (ℕ × ℕ)) ↔
      IsChain (fun a b => a.1 < b.1 ∧ a.2 < b.2) (t : Set (ℕ × ℕ)) :=
    fun t => ⟨IsChain.symm, IsChain.symm⟩
  rw [hcount, chains_eq_card (hperm.nodup_iff.mpr h) horder, List.toFinset_eq_of_perm _ _ hperm]
  exact congrArg Finset.card (Finset.filter_congr fun t _ => hchain t)

open Classical in
/-- Cells that share a row or a column are not chained. -/
theorem countMonotoneMatchings_ties :
    countMonotoneMatchings [(1, 0), (0, 1), (0, 0), (1, 1)] 2 =
      (((([(1, 0), (0, 1), (0, 0), (1, 1)] : List (ℕ × ℕ)).toFinset.powersetCard 2)).filter
        fun t : Finset (ℕ × ℕ) =>
          IsChain (fun a b => a.1 < b.1 ∧ a.2 < b.2) (t : Set (ℕ × ℕ))).card :=
  countMonotoneMatchings_eq [(1, 0), (0, 1), (0, 0), (1, 1)] (by decide) 2

example : countMonotoneMatchings [(1, 0), (0, 1), (0, 0), (1, 1)] 2 = 1 := by decide

end Blert.Merging.Confidence

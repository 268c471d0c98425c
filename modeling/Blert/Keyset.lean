import Mathlib.Data.List.Sort
import Mathlib.Data.List.Range

/-!
Rows in a strict order, seen a page at a time.

What is behind a row of an ordered list, or before it, is what a filter by the order keeps of it.
Pages of one size, from the first on, are together the front of the list, and the page before a
row is the end of what is before it.
-/

namespace Blert.Keyset

variable {α : Type*}

section

variable {κ : Type*} [LinearOrder κ] (rank : α → κ)

def orderBy (rows : List α) : List α := rows.insertionSort fun a b => rank a ≤ rank b

instance total_rank : Std.Total fun a b : α => rank a ≤ rank b := ⟨fun _ _ => le_total _ _⟩

instance trans_rank : IsTrans α fun a b : α => rank a ≤ rank b := ⟨fun _ _ _ => le_trans⟩

lemma orderBy_perm (rows : List α) : (orderBy rank rows).Perm rows := List.perm_insertionSort _ _

lemma orderBy_pairwise_le (rows : List α) :
    (orderBy rank rows).Pairwise fun a b => rank a ≤ rank b := List.pairwise_insertionSort _ _

variable {rank}

lemma orderBy_pairwise {rows : List α} (h : (rows.map rank).Nodup) :
    (orderBy rank rows).Pairwise fun a b => rank a < rank b := by
  have hne : (orderBy rank rows).Pairwise fun a b => rank a ≠ rank b :=
    List.pairwise_map.mp ((((orderBy_perm rank rows).map rank).nodup_iff).mpr h)
  exact ((orderBy_pairwise_le rank rows).and hne).imp fun h => lt_of_le_of_ne h.1 h.2

lemma orderBy_eq {rows sorted : List α} (hperm : sorted.Perm rows)
    (h : sorted.Pairwise fun a b => rank a < rank b) : orderBy rank rows = sorted := by
  have hsorted : (sorted.map rank).Nodup := List.pairwise_map.mpr (h.imp fun hlt => hlt.ne)
  have hrows : (rows.map rank).Nodup := ((hperm.map rank).nodup_iff).mp hsorted
  exact List.Perm.eq_of_pairwise (fun a b _ _ hab hba => absurd hba (lt_asymm hab))
    (orderBy_pairwise hrows) h ((orderBy_perm rank rows).trans hperm.symm)

lemma orderBy_filter {rows : List α} (h : (rows.map rank).Nodup) (p : α → Bool) :
    orderBy rank (rows.filter p) = (orderBy rank rows).filter p :=
  orderBy_eq ((orderBy_perm rank rows).filter p) ((orderBy_pairwise h).filter p)

lemma orderBy_reverse {κ' : Type*} [LinearOrder κ'] {rank' : α → κ'} {rows : List α}
    (h : (rows.map rank).Nodup) (hrank : ∀ a b, rank' a < rank' b ↔ rank b < rank a) :
    orderBy rank' rows = (orderBy rank rows).reverse := by
  refine orderBy_eq ((List.reverse_perm _).trans (orderBy_perm rank rows)) ?_
  rw [List.pairwise_reverse]
  exact (orderBy_pairwise h).imp fun hlt => (hrank _ _).mpr hlt

lemma take_orderBy [DecidableEq α] {rows sub : List α} {n : ℕ} (h : (rows.map rank).Nodup)
    (hnodup : sub.Nodup) (hsub : sub ⊆ rows) (htop : (orderBy rank rows).take n ⊆ sub) :
    (orderBy rank sub).take n = (orderBy rank rows).take n := by
  have hsorted : orderBy rank sub = (orderBy rank rows).filter (· ∈ sub) := by
    rw [← orderBy_filter h]
    refine orderBy_eq ((orderBy_perm rank _).trans ?_)
      (orderBy_pairwise (h.sublist ((List.filter_sublist).map rank)))
    rw [List.perm_ext_iff_of_nodup ((List.Nodup.of_map rank h).filter _) hnodup]
    simpa using fun a ha => hsub ha
  have hfilter : ((orderBy rank rows).take n).filter (· ∈ sub) = (orderBy rank rows).take n :=
    List.filter_eq_self.mpr fun a ha => decide_eq_true (htop ha)
  rw [hsorted, ← List.take_append_drop n (orderBy rank rows), List.filter_append, hfilter,
    List.take_append_drop]
  rcases Nat.le_total n (orderBy rank rows).length with hle | hle
  · exact List.take_left' (List.length_take_of_le hle)
  · rw [List.drop_eq_nil_of_le hle, List.filter_nil, List.append_nil, List.take_take,
      Nat.min_self]

lemma mem_take_or {rows : List α} {a : α} (h : (rows.map rank).Nodup) (ha : a ∈ rows) (n : ℕ) :
    a ∈ (orderBy rank rows).take n ∨ ((orderBy rank rows).take n).length = n ∧
      ∀ b ∈ (orderBy rank rows).take n, rank b < rank a := by
  have hsorted := orderBy_pairwise h
  rw [← (orderBy_perm rank rows).mem_iff, ← List.take_append_drop n (orderBy rank rows),
    List.mem_append] at ha
  refine ha.imp_right fun hdrop => ⟨?_, fun b hb => ?_⟩
  · have hlength := List.length_pos_of_mem hdrop
    rw [List.length_drop] at hlength
    exact List.length_take_of_le (by omega)
  · rw [← List.take_append_drop n (orderBy rank rows), List.pairwise_append] at hsorted
    exact hsorted.2.2 b hb a hdrop

variable {p : α → Bool} {front rest : List α} {a b : α}

lemma rank_le_last {rows : List α} (h : rows.Pairwise fun x y => rank x < rank y)
    (hlast : rows.getLast? = some b) (ha : a ∈ rows) : rank a ≤ rank b := by
  obtain ⟨front, rfl⟩ := List.getLast?_eq_some_iff.mp hlast
  rcases List.mem_append.mp ha with ha | ha
  · exact ((List.pairwise_append.mp h).2.2 a ha b List.mem_cons_self).le
  · rw [List.mem_singleton.mp ha]

lemma filter_after (h : (front ++ a :: rest).Pairwise fun x y => rank x < rank y)
    (hp : ∀ b, p b = true ↔ rank a < rank b) : (front ++ a :: rest).filter p = rest := by
  obtain ⟨_, hrest, hfront⟩ := List.pairwise_append.mp h
  rw [List.filter_append, List.filter_cons_of_neg (by simp [hp]), List.filter_eq_nil_iff.mpr,
    List.nil_append, List.filter_eq_self]
  · intro b hb
    exact (hp b).mpr ((List.pairwise_cons.mp hrest).1 b hb)
  · intro b hb
    rw [hp]
    exact (hfront b hb a List.mem_cons_self).not_gt

lemma filter_before (h : (front ++ a :: rest).Pairwise fun x y => rank x < rank y)
    (hp : ∀ b, p b = true ↔ rank b < rank a) : (front ++ a :: rest).filter p = front := by
  obtain ⟨_, hrest, hfront⟩ := List.pairwise_append.mp h
  rw [List.filter_append, List.filter_cons_of_neg (by simp [hp]), List.filter_eq_self.mpr,
    List.filter_eq_nil_iff.mpr, List.append_nil]
  · intro b hb
    rw [hp]
    exact ((List.pairwise_cons.mp hrest).1 b hb).not_gt
  · intro b hb
    exact (hp b).mpr (hfront b hb a List.mem_cons_self)

end

/-! ### Pages -/

def page (size : ℕ) (rows : List α) (n : ℕ) : List α := (rows.drop (n * size)).take size

lemma take_append_page (size : ℕ) (rows : List α) (n : ℕ) :
    rows.take (n * size) ++ page size rows n = rows.take ((n + 1) * size) := by
  rw [page, ← List.take_add, Nat.succ_mul]

lemma getLast?_page {size : ℕ} (hsize : 0 < size) {rows : List α} {n : ℕ}
    (h : (n + 1) * size ≤ rows.length) :
    (page size rows n).getLast? = rows[(n + 1) * size - 1]? := by
  have hn : (n + 1) * size = n * size + size := Nat.succ_mul n size
  rw [List.getLast?_eq_getElem?, page, List.length_take, List.length_drop, List.getElem?_take,
    if_pos (by omega), List.getElem?_drop]
  congr 1
  omega

lemma head?_page {size : ℕ} (hsize : 0 < size) (rows : List α) (n : ℕ) :
    (page size rows n).head? = rows[n * size]? := by
  rw [page, List.head?_take, if_neg hsize.ne', List.head?_drop]

lemma reverse_take_reverse (size : ℕ) (rows : List α) :
    let fetched := rows.reverse.take (size + 1)
    (if size < fetched.length then fetched.reverse.drop (fetched.length - size)
      else fetched.reverse) = rows.drop (rows.length - size) := by
  have hreverse :
      (rows.reverse.take (size + 1)).reverse = rows.drop (rows.length - (size + 1)) := by
    rw [List.reverse_take, List.reverse_reverse, List.length_reverse]
  simp only [hreverse, List.length_take, List.length_reverse, List.drop_drop]
  split_ifs with h
  · congr 1
    omega
  · congr 1
    omega

end Blert.Keyset

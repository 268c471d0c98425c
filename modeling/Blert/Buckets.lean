import Mathlib.Data.List.Basic
import Mathlib.Tactic

/-!
Elements grouped by a natural number.

A group keeps the order of its elements, so that groups of a sequence that goes on are those of
its parts put together.
-/

namespace Blert

variable {α : Type}

def span (key : α → ℕ) : List α → ℕ
  | [] => 0
  | x :: xs => max (key x + 1) (span key xs)

def bucket (key : α → ℕ) (xs : List α) (k : ℕ) : List α := xs.filter (key · = k)

@[simp] lemma span_nil (key : α → ℕ) : span key [] = 0 := rfl

@[simp] lemma bucket_nil (key : α → ℕ) (k : ℕ) : bucket key [] k = [] := rfl

lemma span_append (key : α → ℕ) (xs ys : List α) :
    span key (xs ++ ys) = max (span key xs) (span key ys) := by
  induction xs with
  | nil => exact (max_eq_right (Nat.zero_le _)).symm
  | cons x xs ih => rw [List.cons_append, span, span, ih, max_assoc]

lemma bucket_append (key : α → ℕ) (xs ys : List α) (k : ℕ) :
    bucket key (xs ++ ys) k = bucket key xs k ++ bucket key ys k :=
  List.filter_append ..

lemma lt_span {key : α → ℕ} {xs : List α} {x : α} (h : x ∈ xs) : key x < span key xs := by
  induction xs with
  | nil => cases h
  | cons y xs ih =>
    rcases List.mem_cons.mp h with rfl | h
    · exact Nat.lt_of_succ_le (le_max_left _ _)
    · exact (ih h).trans_le (le_max_right _ _)

lemma bucket_of_span_le {key : α → ℕ} {xs : List α} {k : ℕ} (h : span key xs ≤ k) :
    bucket key xs k = [] := by
  refine List.filter_eq_nil_iff.mpr fun x hx hk => ?_
  have hlt : key x < span key xs := lt_span hx
  have : key x = k := of_decide_eq_true hk
  omega

lemma span_le_iff {key : α → ℕ} {xs : List α} {n : ℕ} :
    span key xs ≤ n ↔ ∀ k, bucket key xs k ≠ [] → k < n := by
  constructor
  · intro h k hk
    by_contra hle
    exact hk (bucket_of_span_le (h.trans (not_lt.mp hle)))
  · intro h
    induction xs with
    | nil => exact Nat.zero_le n
    | cons x xs ih =>
      refine max_le (Nat.succ_le_of_lt (h (key x) ?_)) (ih fun k hk => h k ?_)
      · simp [bucket]
      · intro hnil
        rw [bucket, List.filter_cons] at hnil
        split_ifs at hnil
        exact hk hnil

end Blert

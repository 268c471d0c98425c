import Mathlib.Algebra.BigOperators.Group.List.Basic
import Mathlib.Algebra.Order.Ring.Defs
import Mathlib.Tactic

/-!
Budgets.

A budget is split among functions that grow with their part of it, and the product of their values
is to be as large as possible. What bounds the products for some of the functions within every
budget gives a bound with one more function, of which only those arguments matter at which its
value steps up.
-/

namespace Blert.Budgets

variable {R : Type*} [CommSemiring R] [LinearOrder R] [IsStrictOrderedRing R]

/-- The product of the functions' values at the parts of a budget. -/
def value (fs : List (ℕ → R)) (parts : List ℕ) : R :=
  (List.zipWith (fun f t => f t) fs parts).prod

/-- No parts within a budget have a product above a bound. -/
def Bounds (fs : List (ℕ → R)) (budget : ℕ) (bound : R) : Prop :=
  ∀ parts : List ℕ, parts.length = fs.length → parts.sum ≤ budget → value fs parts ≤ bound

/-- A function has at each argument the value it has at a step no later. -/
def StepsAt (f : ℕ → R) (budget : ℕ) (steps : List ℕ) : Prop :=
  ∀ t ≤ budget, ∃ b ∈ steps, b ≤ t ∧ f b = f t

omit [LinearOrder R] [IsStrictOrderedRing R] in
lemma value_append {fs : List (ℕ → R)} {parts : List ℕ} (h : parts.length = fs.length) (f : ℕ → R)
    (t : ℕ) : value (fs ++ [f]) (parts ++ [t]) = value fs parts * f t := by
  unfold value
  rw [List.zipWith_append h.symm, List.prod_append]
  simp

omit [IsStrictOrderedRing R] in
lemma bounds_singleton {f : ℕ → R} (hf : Monotone f) (budget : ℕ) :
    Bounds [f] budget (f budget) := by
  intro parts hlength hsum
  obtain ⟨t, rfl⟩ := List.length_eq_one_iff.mp hlength
  have ht : t ≤ budget := by simpa using hsum
  simpa [value] using hf ht

lemma Bounds.append {fs : List (ℕ → R)} {f : ℕ → R} {budget : ℕ} {steps : List ℕ}
    {best : ℕ → R} {bound : R} (hbest : ∀ i ≤ budget, Bounds fs i (best i)) (hf : ∀ t, 0 ≤ f t)
    (hsteps : StepsAt f budget steps)
    (hbound : ∀ b ∈ steps, b ≤ budget → best (budget - b) * f b ≤ bound) :
    Bounds (fs ++ [f]) budget bound := by
  intro parts hlength hsum
  rcases List.eq_nil_or_concat' parts with rfl | ⟨front, t, rfl⟩
  · simp at hlength
  · rw [List.length_append, List.length_append] at hlength
    have hfront : front.length = fs.length := by simpa using hlength
    rw [List.sum_append, List.sum_singleton] at hsum
    obtain ⟨b, hb, hbt, hfb⟩ := hsteps t (by omega)
    have hrest : value fs front ≤ best (budget - b) :=
      hbest (budget - b) (by omega) front hfront (by omega)
    calc value (fs ++ [f]) (front ++ [t]) = value fs front * f b := by
          rw [value_append hfront, hfb]
      _ ≤ best (budget - b) * f b := mul_le_mul_of_nonneg_right hrest (hf b)
      _ ≤ bound := hbound b hb (by omega)

end Blert.Budgets

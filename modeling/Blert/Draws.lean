import Mathlib.Algebra.BigOperators.Ring.List
import Mathlib.Algebra.Polynomial.Coeff
import Mathlib.Algebra.Polynomial.Eval.Defs
import Mathlib.Data.List.Sections

/-!
Independent draws from finite distributions of natural numbers.

A distribution is a list of values with their weights, and a draw takes one value of each of several
distributions, with the product of their weights. The chances of the sums of a draw are the
coefficients of the product of the distributions' generating polynomials.
-/

namespace Blert.Draws

open Polynomial

variable {R : Type*} [CommSemiring R]

def total (draw : List (ℕ × R)) : ℕ := (draw.map Prod.fst).sum

def weight (draw : List (ℕ × R)) : R := (draw.map Prod.snd).prod

/-- The chance that the sum of a draw from each distribution is as asked for. -/
def chance (ds : List (List (ℕ × R))) (p : ℕ → Bool) : R :=
  ((ds.sections.filter fun draw => p (total draw)).map weight).sum

noncomputable def gen (d : List (ℕ × R)) : R[X] := (d.map fun v => monomial v.1 v.2).sum

@[simp] lemma gen_nil : gen ([] : List (ℕ × R)) = 0 := rfl

@[simp] lemma gen_cons (v : ℕ × R) (d : List (ℕ × R)) :
    gen (v :: d) = monomial v.1 v.2 + gen d := by
  simp [gen]

lemma gen_append (d e : List (ℕ × R)) : gen (d ++ e) = gen d + gen e := by
  simp [gen]

lemma coeff_gen (d : List (ℕ × R)) (t : ℕ) :
    (gen d).coeff t = (d.map fun v => if v.1 = t then v.2 else 0).sum := by
  induction d with
  | nil => simp
  | cons v d ih => simp [ih, coeff_monomial]

lemma chance_eq_sum (ds : List (List (ℕ × R))) (p : ℕ → Bool) :
    chance ds p = (ds.sections.map fun draw => if p (total draw) then weight draw else 0).sum := by
  unfold chance
  generalize ds.sections = draws
  induction draws with
  | nil => rfl
  | cons draw draws ih => by_cases h : p (total draw) <;> simp [h, ih]

lemma prod_gen (ds : List (List (ℕ × R))) :
    (ds.map gen).prod =
      gen (ds.sections.map fun draw => (total draw, weight draw)) := by
  induction ds with
  | nil => simp [total, weight]
  | cons d ds ih =>
    have hdraws (draws : List (List (ℕ × R))) :
        gen d * gen (draws.map fun draw => (total draw, weight draw)) =
          gen ((draws.flatMap fun draw => d.map fun v => v :: draw).map
            fun draw => (total draw, weight draw)) := by
      induction draws with
      | nil => simp
      | cons draw draws ih =>
        have hdraw : gen d * monomial (total draw) (weight draw) =
            gen ((d.map fun v => v :: draw).map fun draw => (total draw, weight draw)) := by
          rw [gen, ← List.sum_map_mul_right]
          simp [gen, Function.comp_def, total, weight, monomial_mul_monomial]
        rw [List.map_cons, gen_cons, mul_add, ih, hdraw, List.flatMap_cons, List.map_append,
          gen_append]
    rw [List.map_cons, List.prod_cons, ih, hdraws]
    rfl

/-- The chances of the sums are the coefficients of the product of the generating polynomials. -/
theorem coeff_prod_gen (ds : List (List (ℕ × R))) (t : ℕ) :
    ((ds.map gen).prod).coeff t = chance ds fun s => s = t := by
  rw [prod_gen, coeff_gen, chance_eq_sum, List.map_map]
  simp [Function.comp_def]

lemma chance_le (ds : List (List (ℕ × R))) (t : ℕ) :
    (chance ds fun s => s ≤ t) = ∑ i ∈ Finset.range (t + 1), chance ds fun s => s = i := by
  simp only [chance_eq_sum, decide_eq_true_eq]
  generalize ds.sections = draws
  induction draws with
  | nil => simp
  | cons draw draws ih =>
    simp only [List.map_cons, List.sum_cons, ih, Finset.sum_add_distrib, Finset.sum_ite_eq,
      Finset.mem_range, Nat.lt_succ_iff]

lemma coeff_mul_congr {f g : R[X]} {t : ℕ} (h : ∀ i ≤ t, f.coeff i = g.coeff i) (p : R[X]) :
    (f * p).coeff t = (g * p).coeff t := by
  rw [coeff_mul, coeff_mul]
  refine Finset.sum_congr rfl fun x hx => ?_
  rw [h x.1 (Finset.HasAntidiagonal.mem_antidiagonal.mp hx ▸ Nat.le_add_right _ _)]

end Blert.Draws

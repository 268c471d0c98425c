import Mathlib.Data.PEquiv
import Mathlib.Tactic

/-!
Partial maps of indices as arrays.

An array of optional indices maps the index of each slot that is filled to what is in it. Two
arrays can be inverse to one another; an array that only grows at its end is inverse to one whose
slots are set as it grows.
-/

namespace Blert

/-- What is in the slot of an array at an index, if there is such a slot and it is filled. -/
def slot (xs : List (Option ℕ)) (i : ℕ) : Option ℕ := xs[i]?.join

lemma slot_eq_some {xs : List (Option ℕ)} {i p : ℕ} :
    slot xs i = some p ↔ xs[i]? = some (some p) := by
  unfold slot
  cases h : xs[i]? with
  | none => simp
  | some x => simp

lemma lt_of_slot {xs : List (Option ℕ)} {i p : ℕ} (h : slot xs i = some p) : i < xs.length :=
  (List.getElem?_eq_some_iff.mp (slot_eq_some.1 h)).1

lemma slot_replicate (n i : ℕ) : slot (List.replicate n none) i = none := by
  unfold slot
  by_cases h : i < n <;> simp [h]

lemma slot_set {xs : List (Option ℕ)} {i : ℕ} (hi : i < xs.length) (p j : ℕ) :
    slot (xs.set i (some p)) j = if j = i then some p else slot xs j := by
  unfold slot
  rw [List.getElem?_set]
  by_cases h : i = j
  · subst h
    simp [hi]
  · have h' : j ≠ i := fun hji => h hji.symm
    simp [h, h']

lemma slot_append (xs : List (Option ℕ)) (x : Option ℕ) (j : ℕ) :
    slot (xs ++ [x]) j = if j = xs.length then x else slot xs j := by
  unfold slot
  rcases lt_trichotomy j xs.length with h | h | h
  · rw [List.getElem?_append_left h, if_neg h.ne]
  · subst h
    simp
  · rw [if_neg h.ne', List.getElem?_eq_none (by simp; omega), List.getElem?_eq_none h.le]

/-! ### Inverse arrays -/

/-- Each array maps back what the other one maps. -/
def Inverse (xs ys : List (Option ℕ)) : Prop := ∀ i p, slot xs i = some p ↔ slot ys p = some i

section Inverse

variable {xs ys : List (Option ℕ)}

lemma inverse_empty (n : ℕ) : Inverse (List.replicate n none) [] := by
  intro i p
  rw [slot_replicate]
  simp [slot]

lemma Inverse.set {i : ℕ} (h : Inverse xs ys) (hi : i < xs.length)
    (hnew : ∀ p, slot ys p ≠ some i) :
    Inverse (xs.set i (some ys.length)) (ys ++ [some i]) := by
  intro j p
  rw [slot_set hi, slot_append]
  by_cases hj : j = i
  · subst hj
    by_cases hp : p = ys.length
    · simp [hp]
    · simp only [if_true, hp, if_false, Option.some.injEq]
      exact ⟨fun he => absurd he.symm hp, fun he => absurd he (hnew p)⟩
  · by_cases hp : p = ys.length
    · subst hp
      simp only [hj, if_false, if_true, Option.some.injEq]
      refine ⟨fun he => absurd (lt_of_slot ((h j ys.length).mp he)) (lt_irrefl _), fun he => ?_⟩
      exact absurd he.symm hj
    · simpa [hj, hp] using h j p

lemma Inverse.skip (h : Inverse xs ys) : Inverse xs (ys ++ [none]) := by
  intro j p
  rw [slot_append]
  by_cases hp : p = ys.length
  · subst hp
    simp only [if_true, reduceCtorEq, iff_false]
    exact fun he => absurd (lt_of_slot ((h j ys.length).mp he)) (lt_irrefl _)
  · simpa [hp] using h j p

/-- Inverse arrays are a partial equivalence of indices. -/
def Inverse.equiv (h : Inverse xs ys) : ℕ ≃. ℕ where
  toFun := slot xs
  invFun := slot ys
  inv i p := (h i p).symm

end Inverse

/-! ### Increasing arrays -/

def Increasing (xs : List (Option ℕ)) : Prop :=
  ∀ i j p q, i < j → slot xs i = some p → slot xs j = some q → p < q

lemma Increasing.nil : Increasing [] := by
  intro i j p q _ h
  simp [slot] at h

lemma Increasing.snoc {xs : List (Option ℕ)} {k : ℕ} (h : Increasing xs)
    (hk : ∀ i p, slot xs i = some p → p < k) : Increasing (xs ++ [some k]) := by
  intro i j p q hij hp hq
  have hj := lt_of_slot hq
  rw [List.length_append, List.length_singleton] at hj
  rw [slot_append] at hp hq
  rw [if_neg (by omega)] at hp
  split_ifs at hq with hjl
  · cases hq
    exact hk i p hp
  · exact h i j p q hij hp hq

lemma Increasing.skip {xs : List (Option ℕ)} (h : Increasing xs) : Increasing (xs ++ [none]) := by
  intro i j p q hij hp hq
  rw [slot_append] at hp hq
  split_ifs at hp hq
  exact h i j p q hij hp hq

lemma Inverse.increasing {xs ys : List (Option ℕ)} (h : Inverse xs ys) (hi : Increasing ys) :
    Increasing xs := by
  intro i j p q hij hp hq
  have hp' := (h i p).mp hp
  have hq' := (h j q).mp hq
  rcases lt_trichotomy p q with hlt | rfl | hlt
  · exact hlt
  · rw [hp'] at hq'
    cases hq'
    exact absurd hij (lt_irrefl _)
  · exact absurd (hi q p j i hlt hq' hp') (by omega)

/-! ### Inverting an array -/

/-- The array of length `n` that is inverse to an array of indices below `n`. -/
def invert (n : ℕ) (xs : List (Option ℕ)) : List (Option ℕ) :=
  xs.zipIdx.foldl
    (fun ys (p, i) =>
      match p with
      | some p => ys.set p (some i)
      | none => ys)
    (List.replicate n none)

lemma slot_foldl_set (zs : List (Option ℕ × ℕ)) (ys : List (Option ℕ))
    (hlt : ∀ p i, (some p, i) ∈ zs → p < ys.length)
    (huniq : ∀ p i j, (some p, i) ∈ zs → (some p, j) ∈ zs → i = j) :
    (zs.foldl (fun ys (x : Option ℕ × ℕ) =>
      match x.1 with
      | some p => ys.set p (some x.2)
      | none => ys) ys).length = ys.length ∧
    ∀ p i, (some p, i) ∈ zs ∨ ((∀ j, (some p, j) ∉ zs) ∧ slot ys p = some i) ↔
      slot (zs.foldl (fun ys (x : Option ℕ × ℕ) =>
        match x.1 with
        | some p => ys.set p (some x.2)
        | none => ys) ys) p = some i := by
  induction zs generalizing ys with
  | nil => simp
  | cons z zs ih =>
    obtain ⟨x, k⟩ := z
    have huniq' : ∀ p i j, (some p, i) ∈ zs → (some p, j) ∈ zs → i = j := fun p i j hi hj =>
      huniq p i j (List.mem_cons_of_mem _ hi) (List.mem_cons_of_mem _ hj)
    cases x with
    | none =>
      have h := ih ys (fun p i hp => hlt p i (List.mem_cons_of_mem _ hp)) huniq'
      refine ⟨h.1, fun p i => ?_⟩
      rw [List.foldl_cons]
      simpa using h.2 p i
    | some q =>
      have hq : q < ys.length := hlt q k List.mem_cons_self
      have h := ih (ys.set q (some k))
        (fun p i hp => by simpa using hlt p i (List.mem_cons_of_mem _ hp)) huniq'
      refine ⟨by simpa using h.1, fun p i => ?_⟩
      rw [List.foldl_cons]
      refine Iff.trans ?_ (h.2 p i)
      rw [slot_set hq]
      by_cases hp : p = q
      · subst hp
        constructor
        · rintro (hm | ⟨hm, -⟩)
          · have hik := huniq p i k hm List.mem_cons_self
            subst hik
            by_cases hex : ∃ j, (some p, j) ∈ zs
            · obtain ⟨j, hj⟩ := hex
              have := huniq p j i (List.mem_cons_of_mem _ hj) List.mem_cons_self
              exact Or.inl (this ▸ hj)
            · exact Or.inr ⟨fun j hj => hex ⟨j, hj⟩, by simp⟩
          · exact absurd List.mem_cons_self (hm k)
        · rintro (hm | ⟨-, hs⟩)
          · exact Or.inl (List.mem_cons_of_mem _ hm)
          · rw [if_pos rfl] at hs
            cases hs
            exact Or.inl List.mem_cons_self
      · have hne : ∀ j, (some p, j) ∈ (some q, k) :: zs ↔ (some p, j) ∈ zs := by
          intro j
          simp [hp]
        simp only [hne, if_neg hp]

lemma invert_eq {xs ys : List (Option ℕ)} (h : Inverse xs ys) : invert ys.length xs = ys := by
  have hmem : ∀ p i, (some p, i) ∈ xs.zipIdx ↔ slot ys p = some i := by
    intro p i
    rw [List.mem_zipIdx_iff_getElem?, ← h i p, slot_eq_some]
  have hset := slot_foldl_set xs.zipIdx (List.replicate ys.length none)
    (fun p i hp => by simpa using lt_of_slot ((hmem p i).mp hp))
    (fun p i j hi hj => Option.some.inj (((hmem p i).mp hi).symm.trans ((hmem p j).mp hj)))
  have hlen : (invert ys.length xs).length = ys.length := by simpa [invert] using hset.1
  refine List.ext_getElem hlen fun p hp hp' => ?_
  have hslot : slot (invert ys.length xs) p = slot ys p := by
    refine Option.ext fun i => ?_
    refine Iff.trans (hset.2 p i).symm ?_
    rw [hmem, slot_replicate]
    simp
  simpa [slot, hp, hp'] using hslot

end Blert

import Blert.Fallible

/-!
Computations that may panic, with the arithmetic of machine integers.

An operation of a machine integer panics if its result does not fit. A fold returns exactly if
each of its steps does, from the state that the steps before it have led to.
-/

namespace Blert.Checked

open Fallible

inductive Panic
  | overflow
  | indexOutOfBounds
  /-- A value was unwrapped that is not there, or a place was reached that should not be. -/
  | message (text : String)

/-! ### Returning -/

section Returns

variable {ε α β : Type}

def Returns (x : Except ε α) : Prop := ∃ a, x = .ok a

instance : (x : Except ε α) → Decidable (Returns x)
  | .error _ => isFalse (by rintro ⟨_, h⟩; cases h)
  | .ok a => isTrue ⟨a, rfl⟩

@[simp] lemma returns_ok (a : α) : Returns (.ok a : Except ε α) ↔ True := by
  exact iff_true_intro ⟨a, rfl⟩

@[simp] lemma returns_pure (a : α) : Returns (pure a : Except ε α) ↔ True := returns_ok a

@[simp] lemma returns_error (e : ε) : Returns (.error e : Except ε α) ↔ False := by
  refine iff_false_intro ?_
  rintro ⟨a, h⟩
  cases h

lemma returns_bind {x : Except ε α} {f : α → Except ε β} :
    Returns (x >>= f) ↔ ∃ a, x = .ok a ∧ Returns (f a) := by
  constructor
  · rintro ⟨b, h⟩
    obtain ⟨a, ha, hb⟩ := bind_eq_ok.1 h
    exact ⟨a, ha, b, hb⟩
  · rintro ⟨a, ha, b, hb⟩
    exact ⟨b, bind_eq_ok.2 ⟨a, ha, hb⟩⟩

lemma returns_bind_iff {x : Except ε α} {f : α → Except ε β}
    (h : ∀ a, x = .ok a → Returns (f a)) : Returns (x >>= f) ↔ Returns x := by
  rw [returns_bind]
  constructor
  · rintro ⟨a, ha, -⟩
    exact ⟨a, ha⟩
  · rintro ⟨a, ha⟩
    exact ⟨a, ha, h a ha⟩

lemma returns_mapM {f : α → Except ε β} {xs : List α} :
    Returns (xs.mapM f) ↔ ∀ x ∈ xs, Returns (f x) := by
  induction xs with
  | nil => simp
  | cons x xs ih =>
    rw [List.mapM_cons, returns_bind, List.forall_mem_cons, ← ih]
    constructor
    · rintro ⟨b, hb, h⟩
      obtain ⟨bs, hbs, -⟩ := returns_bind.1 h
      exact ⟨⟨b, hb⟩, bs, hbs⟩
    · rintro ⟨⟨b, hb⟩, bs, hbs⟩
      exact ⟨b, hb, returns_bind.2 ⟨bs, hbs, _, rfl⟩⟩

end Returns

/-! ### Folds -/

section Folds

variable {ε α β : Type} {f : β → α → Except ε β} {P : β → α → Prop}

/-- What holds of each element of a fold, in the state that the fold meets it in. -/
def Along (f : β → α → Except ε β) (P : β → α → Prop) : β → List α → Prop
  | _, [] => True
  | b, x :: xs => P b x ∧ ∀ b', f b x = .ok b' → Along f P b' xs

/-- A fold returns exactly if each step satisfies the condition under which a step returns in a
state with the invariant. -/
lemma returns_foldlM_of {I : β → Prop} (hstep : ∀ b x b', I b → f b x = .ok b' → I b')
    {xs : List α} (h : ∀ b, ∀ x ∈ xs, I b → (Returns (f b x) ↔ P b x)) {b : β} (hb : I b) :
    Returns (xs.foldlM f b) ↔ Along f P b xs := by
  induction xs generalizing b with
  | nil => simp [Along]
  | cons x xs ih =>
    have hrest : ∀ b', f b x = .ok b' → (Returns (xs.foldlM f b') ↔ Along f P b' xs) :=
      fun b' hb' => ih (fun c y hy => h c y (List.mem_cons_of_mem x hy)) (hstep b x b' hb hb')
    rw [List.foldlM_cons, returns_bind, Along, ← h b x List.mem_cons_self hb]
    constructor
    · rintro ⟨b', hb', hreturns⟩
      refine ⟨⟨b', hb'⟩, fun b'' hb'' => ?_⟩
      cases hb'.symm.trans hb''
      exact (hrest b' hb').mp hreturns
    · rintro ⟨⟨b', hb'⟩, hfits⟩
      exact ⟨b', hb', (hrest b' hb').mpr (hfits b' hb')⟩

end Folds

/-! ### Machine integers -/

def I32 (n : ℤ) : Prop := -2 ^ 31 ≤ n ∧ n < 2 ^ 31

instance : DecidablePred I32 := fun _ => by unfold I32; infer_instance

def i32 (n : ℤ) : Except Panic ℤ := if I32 n then .ok n else .error .overflow

def u32 (n : ℕ) : Except Panic ℕ := if n < 2 ^ 32 then .ok n else .error .overflow

/-- A number converted to a narrower type, which holds the numbers below a bound. -/
def tryFrom (bound n : ℕ) (expected : String) : Except Panic ℕ :=
  if n < bound then .ok n else .error (.message expected)

@[simp] lemma i32_eq_ok {n m : ℤ} : i32 n = .ok m ↔ I32 n ∧ n = m := by
  unfold i32
  split_ifs with h
  · simp only [Except.ok.injEq, h, true_and]
  · simp only [h, false_and]

@[simp] lemma returns_i32 {n : ℤ} : Returns (i32 n) ↔ I32 n := by simp [Returns]

@[simp] lemma u32_eq_ok {n m : ℕ} : u32 n = .ok m ↔ n < 2 ^ 32 ∧ n = m := by
  unfold u32
  split_ifs with h
  · simp only [Except.ok.injEq, h, true_and]
  · simp only [h, false_and]

@[simp] lemma returns_u32 {n : ℕ} : Returns (u32 n) ↔ n < 2 ^ 32 := by simp [Returns]

@[simp] lemma tryFrom_eq_ok {bound n m : ℕ} {expected : String} :
    tryFrom bound n expected = .ok m ↔ n < bound ∧ n = m := by
  unfold tryFrom
  split_ifs with h
  · simp only [Except.ok.injEq, h, true_and]
  · simp only [h, false_and]

@[simp] lemma returns_tryFrom {bound n : ℕ} {expected : String} :
    Returns (tryFrom bound n expected) ↔ n < bound := by simp [Returns]

end Blert.Checked

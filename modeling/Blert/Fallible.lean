import Mathlib.Data.List.Forall2
import Mathlib.Tactic

/-!
Computations that may fail, and what follows from their success.

A sequence of steps succeeds if each of them does; a traversal that succeeds relates each element
to its result, and a fold that succeeds keeps what each of its steps keeps.
-/

namespace Blert.Fallible

variable {ε α β : Type}

lemma bind_eq_ok {x : Except ε α} {f : α → Except ε β} {b : β} :
    (x >>= f) = .ok b ↔ ∃ a, x = .ok a ∧ f a = .ok b := by
  cases x with
  | error e => exact ⟨nofun, fun ⟨_, h, _⟩ => nomatch h⟩
  | ok a =>
    constructor
    · exact fun h => ⟨a, rfl, h⟩
    · rintro ⟨a', h, hf⟩
      cases h
      exact hf

lemma bind_eq_error {x : Except ε α} {f : α → Except ε β} {e : ε} :
    (x >>= f) = .error e ↔ x = .error e ∨ ∃ a, x = .ok a ∧ f a = .error e := by
  cases x with
  | error e' =>
    constructor
    · intro h
      cases h
      exact .inl rfl
    · rintro (h | ⟨a, h, -⟩)
      · cases h
        rfl
      · cases h
  | ok a =>
    constructor
    · exact fun h => .inr ⟨a, rfl, h⟩
    · rintro (h | ⟨a', h, hf⟩)
      · cases h
      · cases h
        exact hf

lemma map_eq_ok {x : Except ε α} {f : α → β} {b : β} :
    x.map f = .ok b ↔ ∃ a, x = .ok a ∧ f a = b := by
  cases x with
  | error e => exact ⟨nofun, fun ⟨_, h, _⟩ => nomatch h⟩
  | ok a => simp [Except.map]

lemma map_eq_error {x : Except ε α} {f : α → β} {e : ε} : x.map f = .error e ↔ x = .error e := by
  cases x <;> simp [Except.map]

lemma mapM_ok {f : α → Except ε β} {xs : List α} {ys : List β} (h : xs.mapM f = .ok ys) :
    List.Forall₂ (fun x y => f x = .ok y) xs ys := by
  induction xs generalizing ys with
  | nil =>
    cases h
    exact .nil
  | cons x xs ih =>
    rw [List.mapM_cons] at h
    obtain ⟨y, hy, h⟩ := bind_eq_ok.1 h
    obtain ⟨ys', hys, h⟩ := bind_eq_ok.1 h
    cases h
    exact .cons hy (ih hys)

lemma mem_mapM_ok {f : α → Except ε β} {xs : List α} {ys : List β} (h : xs.mapM f = .ok ys)
    {y : β} (hy : y ∈ ys) : ∃ x ∈ xs, f x = .ok y := by
  have hall := mapM_ok h
  clear h
  induction hall with
  | nil => cases hy
  | @cons x z xs ys hxz _ ih =>
    rcases List.mem_cons.mp hy with rfl | hy
    · exact ⟨x, List.mem_cons_self, hxz⟩
    · obtain ⟨x', hx', hf⟩ := ih hy
      exact ⟨x', List.mem_cons_of_mem x hx', hf⟩

lemma mapM_ok_of_mem {f : α → Except ε β} {xs : List α} {ys : List β} (h : xs.mapM f = .ok ys)
    {x : α} (hx : x ∈ xs) : ∃ y ∈ ys, f x = .ok y := by
  have hall := mapM_ok h
  clear h
  induction hall with
  | nil => cases hx
  | @cons z y xs ys hzy _ ih =>
    rcases List.mem_cons.mp hx with rfl | hx
    · exact ⟨y, List.mem_cons_self, hzy⟩
    · obtain ⟨y', hy', hf⟩ := ih hx
      exact ⟨y', List.mem_cons_of_mem y hy', hf⟩

lemma mapM_eq_ok {f : α → Except ε β} {g : α → β} {xs : List α}
    (h : ∀ x ∈ xs, f x = .ok (g x)) : xs.mapM f = .ok (xs.map g) := by
  induction xs with
  | nil => rfl
  | cons x xs ih =>
    rw [List.mapM_cons, h x List.mem_cons_self, ih fun y hy => h y (List.mem_cons_of_mem x hy)]
    rfl

lemma foldlM_inv {f : β → α → Except ε β} {P : List α → β → Prop}
    (hstep : ∀ done x b b', P done b → f b x = .ok b' → P (done ++ [x]) b')
    {xs done : List α} {b b' : β} (hb : P done b) (h : xs.foldlM f b = .ok b') :
    P (done ++ xs) b' := by
  induction xs generalizing done b with
  | nil =>
    cases h
    simpa using hb
  | cons x xs ih =>
    rw [List.foldlM_cons] at h
    obtain ⟨c, hc, h⟩ := bind_eq_ok.1 h
    simpa using ih (hstep done x b c hb hc) h

lemma foldlM_eq_error {f : β → α → Except ε β} {xs : List α} {b : β} {e : ε} :
    xs.foldlM f b = .error e ↔ ∃ earlier x later c, xs = earlier ++ x :: later ∧
      earlier.foldlM f b = .ok c ∧ f c x = .error e := by
  induction xs generalizing b with
  | nil =>
    constructor
    · exact nofun
    · rintro ⟨earlier, x, later, c, h, -⟩
      simp at h
  | cons y ys ih =>
    rw [List.foldlM_cons, bind_eq_error]
    constructor
    · rintro (h | ⟨a, ha, h⟩)
      · exact ⟨[], y, ys, b, rfl, rfl, h⟩
      · obtain ⟨earlier, x, later, c, rfl, hc, hx⟩ := ih.mp h
        refine ⟨y :: earlier, x, later, c, rfl, ?_, hx⟩
        rw [List.foldlM_cons]
        exact bind_eq_ok.2 ⟨a, ha, hc⟩
    · rintro ⟨earlier, x, later, c, h, hc, hx⟩
      cases earlier with
      | nil =>
        obtain ⟨rfl, rfl⟩ := List.cons.inj h
        cases hc
        exact .inl hx
      | cons z earlier =>
        obtain ⟨rfl, rfl⟩ := List.cons.inj h
        rw [List.foldlM_cons] at hc
        obtain ⟨a, ha, hc⟩ := bind_eq_ok.1 hc
        exact .inr ⟨a, ha, ih.mpr ⟨earlier, x, later, c, rfl, hc, hx⟩⟩

lemma forall_or_first (p : α → Prop) (l : List α) :
    (∀ x ∈ l, p x) ∨ ∃ earlier x later, l = earlier ++ x :: later ∧ (∀ y ∈ earlier, p y) ∧
      ¬p x := by
  induction l with
  | nil => exact .inl (by simp)
  | cons a l ih =>
    by_cases ha : p a
    · rcases ih with hall | ⟨earlier, x, later, rfl, hearlier, hx⟩
      · exact .inl (List.forall_mem_cons.mpr ⟨ha, hall⟩)
      · exact .inr ⟨a :: earlier, x, later, rfl, List.forall_mem_cons.mpr ⟨ha, hearlier⟩, hx⟩
    · exact .inr ⟨[], a, l, rfl, by simp, ha⟩

section State

variable {σ : Type}

lemma run_bind_ok {x : StateT σ (Except ε) α} {f : α → StateT σ (Except ε) β} {s s' : σ} {b : β} :
    (x >>= f).run s = .ok (b, s') ↔
      ∃ a s₁, x.run s = .ok (a, s₁) ∧ (f a).run s₁ = .ok (b, s') := by
  rw [StateT.run_bind, bind_eq_ok]
  simp only [Prod.exists]

lemma run_mapM_ok {f : α → StateT σ (Except ε) β} {xs : List α} {ys : List β} {s s' : σ}
    (h : (xs.mapM f).run s = .ok (ys, s')) :
    List.Forall₂ (fun x y => ∃ s s', (f x).run s = .ok (y, s')) xs ys := by
  induction xs generalizing ys s with
  | nil =>
    cases h
    exact .nil
  | cons x xs ih =>
    rw [List.mapM_cons] at h
    obtain ⟨y, s₁, hy, h⟩ := run_bind_ok.1 h
    obtain ⟨ys', s₂, hys, h⟩ := run_bind_ok.1 h
    cases h
    exact .cons ⟨s, s₁, hy⟩ (ih hys)

/-! ### Frames -/

variable {γ : Type}

/-- A computation that succeeds leaves a part of its state as it is. -/
def Frames (p : σ → γ) (x : StateT σ (Except ε) α) : Prop :=
  ∀ s a s', x.run s = .ok (a, s') → p s' = p s

variable {p : σ → γ}

lemma frames_pure (a : α) : Frames (ε := ε) p (pure a) := by
  rintro s b s' h
  cases h
  rfl

lemma frames_modify {f : σ → σ} (h : ∀ s, p (f s) = p s) :
    Frames p (modify f : StateT σ (Except ε) Unit) := by
  rintro s a s' hrun
  cases hrun
  exact h s

lemma Frames.bind {x : StateT σ (Except ε) α} {f : α → StateT σ (Except ε) β}
    (hx : Frames p x) (hf : ∀ a, Frames p (f a)) : Frames p (x >>= f) := by
  rintro s b s' h
  obtain ⟨a, s₁, ha, hb⟩ := run_bind_ok.1 h
  exact (hf a s₁ b s' hb).trans (hx s a s₁ ha)

lemma frames_get_bind {f : σ → StateT σ (Except ε) α}
    (h : ∀ s a s', (f s).run s = .ok (a, s') → p s' = p s) : Frames p (get >>= f) := by
  rintro s a s' hrun
  obtain ⟨s₀, s₁, hget, hrun⟩ := run_bind_ok.1 hrun
  cases hget
  exact h s a s' hrun

lemma frames_forM {f : β → StateT σ (Except ε) PUnit} {xs : List β}
    (h : ∀ x, Frames p (f x)) : Frames p (xs.forM f) := by
  induction xs with
  | nil => exact frames_pure _
  | cons x xs ih => exact (h x).bind fun _ => ih

end State

end Blert.Fallible

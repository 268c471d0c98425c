import Mathlib.Data.Option.Basic
import Mathlib.Tactic

/-!
Walks over lists that may end early.

A walk goes over a list with a state. Each of its steps knows the index it is at, may fail, makes
something of the element there, and may end the walk, which leaves the elements after it as they
are. Two walks whose steps are related have related results.
-/

namespace Blert.Walks

variable {α β σ τ : Type}

/-- Walks over a list whose first element is at an index. -/
def walk (step : ℕ → σ → α → Option (α × Option σ)) : ℕ → σ → List α → Option (List α)
  | _, _, [] => some []
  | n, s, a :: as => do
    let (a', next) ← step n s a
    match next with
    | none => return a' :: as
    | some s' => return a' :: (← walk step (n + 1) s' as)

/-- Lists that are related index by index, from one on. -/
inductive Alike (R : ℕ → α → β → Prop) : ℕ → List α → List β → Prop
  | nil {n : ℕ} : Alike R n [] []
  | cons {n : ℕ} {a : α} {b : β} {as : List α} {bs : List β} (head : R n a b)
      (tail : Alike R (n + 1) as bs) : Alike R n (a :: as) (b :: bs)

section Related

variable {R R' : ℕ → α → β → Prop} {S : σ → τ → Prop} {n : ℕ} {as : List α} {bs : List β}

lemma Alike.mono (hR : ∀ n a b, R n a b → R' n a b) (h : Alike R n as bs) : Alike R' n as bs := by
  induction h with
  | nil => exact .nil
  | cons head _ ih => exact .cons (hR _ _ _ head) ih

lemma rel_bind {r : α → β → Prop} {x : Option α} {y : Option β} {f : α → Option σ}
    {g : β → Option τ} (h : Option.Rel r x y) (hfg : ∀ a b, r a b → Option.Rel S (f a) (g b)) :
    Option.Rel S (x.bind f) (y.bind g) := by
  cases h with
  | none => exact .none
  | some h => exact hfg _ _ h

/-- Walks are related if their steps are. -/
theorem walk_rel {step : ℕ → σ → α → Option (α × Option σ)}
    {step' : ℕ → τ → β → Option (β × Option τ)} (hR : ∀ n a b, R n a b → R' n a b)
    (hstep : ∀ n s t a b, S s t → R n a b →
      Option.Rel (fun x y => R' n x.1 y.1 ∧ Option.Rel S x.2 y.2) (step n s a) (step' n t b))
    {s : σ} {t : τ} (hS : S s t) (h : Alike R n as bs) :
    Option.Rel (Alike R' n) (walk step n s as) (walk step' n t bs) := by
  induction h generalizing s t with
  | nil => exact .some .nil
  | @cons n a b as bs head tail ih =>
    refine rel_bind (hstep n s t a b hS head) ?_
    rintro ⟨a', next⟩ ⟨b', next'⟩ ⟨hhead, hnext⟩
    cases hnext with
    | none => exact .some (.cons hhead (tail.mono hR))
    | some hS' => exact rel_bind (ih hS') fun _ _ hwalk => .some (.cons hhead hwalk)

end Related

end Blert.Walks

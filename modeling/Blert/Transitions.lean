import Mathlib.Tactic

/-!
Systems that move by actions, and the states they reach.

An action is enabled in some states, and is then one step. A condition on steps picks out those
runs in which every step meets it: what each such step keeps holds in all states they reach.
-/

namespace Blert

/-- What actions a state allows, and where they lead. -/
structure TransitionSystem (σ α : Type*) where
  Enabled : σ → α → Prop
  next : σ → α → σ

namespace TransitionSystem

variable {σ α : Type*} {S : TransitionSystem σ α} {Init I : σ → Prop} {C : σ → α → Prop} {s : σ}

/-- The states reached from an initial one by enabled actions that meet a condition. -/
inductive Reachable (S : TransitionSystem σ α) (Init : σ → Prop) (C : σ → α → Prop) : σ → Prop
  | init {s : σ} (h : Init s) : Reachable S Init C s
  | step {s : σ} {a : α} (h : Reachable S Init C s) (henabled : S.Enabled s a) (hmeets : C s a) :
      Reachable S Init C (S.next s a)

lemma Reachable.invariant (hinit : ∀ s, Init s → I s)
    (hstep : ∀ s a, I s → S.Enabled s a → C s a → I (S.next s a))
    (h : S.Reachable Init C s) : I s := by
  induction h with
  | init h => exact hinit _ h
  | step _ henabled hmeets ih => exact hstep _ _ ih henabled hmeets

variable (S)

def run (s : σ) (as : List α) : σ := as.foldl S.next s

/-- Each action of a list is enabled, and meets the condition, in the state it is met in. -/
def Allows (C : σ → α → Prop) (s : σ) : List α → Prop
  | [] => True
  | a :: as => S.Enabled s a ∧ C s a ∧ Allows C (S.next s a) as

instance Allows.decidable [∀ s a, Decidable (S.Enabled s a)] [∀ s a, Decidable (C s a)] (s : σ) :
    (as : List α) → Decidable (S.Allows C s as)
  | [] => inferInstanceAs (Decidable True)
  | a :: as =>
    have := Allows.decidable (S.next s a) as
    inferInstanceAs (Decidable (S.Enabled s a ∧ C s a ∧ S.Allows C (S.next s a) as))

variable {S}

lemma Reachable.run {as : List α} (h : S.Reachable Init C s) (has : S.Allows C s as) :
    S.Reachable Init C (S.run s as) := by
  induction as generalizing s with
  | nil => exact h
  | cons a as ih => exact ih (h.step has.1 has.2.1) has.2.2

end TransitionSystem

end Blert

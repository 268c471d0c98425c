import Mathlib.Data.Int.Basic

/-!
The conditions of a search query, and what a database makes of them.

A comparison with null is neither true nor false, and a row is selected only where its condition
is true.
-/

namespace Blert.Search

inductive CompareOp
  | lt | gt | le | ge | eq | ne | is | isnot
  deriving DecidableEq

inductive Connective
  | and | or
  deriving DecidableEq

inductive BaseOperand (F : Type)
  | number (n : ℤ)
  | field (f : F)
  | null
  deriving DecidableEq

inductive Condition (F : Type)
  | compare (lhs : BaseOperand F) (op : CompareOp) (rhs : BaseOperand F)
  | join (lhs : Condition F) (op : Connective) (rhs : Condition F)

/-! ### Three-valued logic -/

def and3 : Option Bool → Option Bool → Option Bool
  | some false, _ | _, some false => some false
  | some true, b => b
  | a, some true => a
  | none, none => none

def or3 : Option Bool → Option Bool → Option Bool
  | some true, _ | _, some true => some true
  | some false, b => b
  | a, some false => a
  | none, none => none

@[simp] lemma and3_eq_true {a b : Option Bool} :
    and3 a b = some true ↔ a = some true ∧ b = some true := by
  rcases a with _ | _ | _ <;> rcases b with _ | _ | _ <;> decide

@[simp] lemma or3_eq_true {a b : Option Bool} :
    or3 a b = some true ↔ a = some true ∨ b = some true := by
  rcases a with _ | _ | _ <;> rcases b with _ | _ | _ <;> decide

/-- Only `IS` and `IS NOT` have a value for a null. -/
def CompareOp.eval : CompareOp → Option ℤ → Option ℤ → Option Bool
  | .is, a, b => some (a = b)
  | .isnot, a, b => some (a ≠ b)
  | .lt, some a, some b => some (a < b)
  | .gt, some a, some b => some (b < a)
  | .le, some a, some b => some (a ≤ b)
  | .ge, some a, some b => some (b ≤ a)
  | .eq, some a, some b => some (a = b)
  | .ne, some a, some b => some (a ≠ b)
  | _, _, _ => none

def Connective.eval : Connective → Option Bool → Option Bool → Option Bool
  | .and => and3
  | .or => or3

variable {F : Type}

def BaseOperand.eval (column : F → Option ℤ) : BaseOperand F → Option ℤ
  | .number n => some n
  | .field f => column f
  | .null => none

/-- The value in a row of the expression that `conditionToSql` writes. -/
def Condition.eval (column : F → Option ℤ) : Condition F → Option Bool
  | .compare lhs op rhs => op.eval (lhs.eval column) (rhs.eval column)
  | .join lhs op rhs => op.eval (lhs.eval column) (rhs.eval column)

def Condition.Selects (column : F → Option ℤ) (condition : Condition F) : Prop :=
  condition.eval column = some true

instance (column : F → Option ℤ) (condition : Condition F) :
    Decidable (condition.Selects column) := inferInstanceAs (Decidable (_ = _))

section

variable {column : F → Option ℤ}

@[simp] lemma selects_or {a b : Condition F} :
    (Condition.join a .or b).Selects column ↔ a.Selects column ∨ b.Selects column := or3_eq_true

@[simp] lemma selects_and {a b : Condition F} :
    (Condition.join a .and b).Selects column ↔ a.Selects column ∧ b.Selects column := and3_eq_true

@[simp] lemma selects_is_null {f : F} :
    (Condition.compare (.field f) .is .null).Selects column ↔ column f = none :=
  Option.some_inj.trans decide_eq_true_iff

@[simp] lemma selects_isnot_null {f : F} :
    (Condition.compare (.field f) .isnot .null).Selects column ↔ column f ≠ none :=
  Option.some_inj.trans decide_eq_true_iff

@[simp] lemma not_selects_eq_null {f : F} :
    ¬ (Condition.compare (.field f) .eq .null).Selects column := by
  rw [Condition.Selects, Condition.eval, BaseOperand.eval, BaseOperand.eval]
  cases column f <;> simp [CompareOp.eval]

@[simp] lemma selects_eq {f : F} {n : ℤ} :
    (Condition.compare (.field f) .eq (.number n)).Selects column ↔ column f = some n := by
  rw [Condition.Selects, Condition.eval, BaseOperand.eval, BaseOperand.eval]
  cases column f <;> simp [CompareOp.eval]

@[simp] lemma selects_lt {f : F} {n : ℤ} :
    (Condition.compare (.field f) .lt (.number n)).Selects column ↔
      ∃ v, column f = some v ∧ v < n := by
  rw [Condition.Selects, Condition.eval, BaseOperand.eval, BaseOperand.eval]
  cases column f <;> simp [CompareOp.eval]

@[simp] lemma selects_gt {f : F} {n : ℤ} :
    (Condition.compare (.field f) .gt (.number n)).Selects column ↔
      ∃ v, column f = some v ∧ n < v := by
  rw [Condition.Selects, Condition.eval, BaseOperand.eval, BaseOperand.eval]
  cases column f <;> simp [CompareOp.eval]

end

end Blert.Search

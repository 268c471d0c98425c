import Mathlib.Data.Finset.Powerset
import Mathlib.Data.List.Sublists
import Mathlib.Order.Preorder.Chain
import Mathlib.Tactic

/-!
Counting chains.

The sublists of a list in which every element is related to all that come after it are counted by
their length. A list without duplicates in which elements are related in their order only has as
many of them as its elements have subsets that are chains.
-/

namespace Blert

section Chains

variable {α : Type*} (r : α → α → Prop) [DecidableRel r]

/-- The number of chains of a length among the sublists of a list. -/
def chains (size : ℕ) (l : List α) : ℕ := (l.sublistsLen size).countP fun t => t.Pairwise r

/-- The number of those that can be put after an element. -/
def chainsAfter (size : ℕ) (a : α) (l : List α) : ℕ :=
  (l.sublistsLen size).countP fun t => t.Pairwise r ∧ ∀ x ∈ t, r a x

@[simp] lemma chains_zero (l : List α) : chains r 0 l = 1 := by
  simp [chains]

@[simp] lemma chains_nil (size : ℕ) : chains r (size + 1) [] = 0 := by
  simp [chains]

@[simp] lemma chainsAfter_zero (a : α) (l : List α) : chainsAfter r 0 a l = 1 := by
  simp [chainsAfter]

@[simp] lemma chainsAfter_nil (size : ℕ) (a : α) : chainsAfter r (size + 1) a [] = 0 := by
  simp [chainsAfter]

lemma chains_cons (size : ℕ) (a : α) (l : List α) :
    chains r (size + 1) (a :: l) = chains r (size + 1) l + chainsAfter r size a l := by
  unfold chains chainsAfter
  rw [List.sublistsLen_succ_cons, List.countP_append, List.countP_map]
  congr 1
  refine List.countP_congr fun t _ => ?_
  simp only [Function.comp_apply, List.pairwise_cons, decide_eq_true_eq]
  exact and_comm

lemma chainsAfter_cons [IsTrans α r] (size : ℕ) (c a : α) (l : List α) :
    chainsAfter r (size + 1) c (a :: l) =
      chainsAfter r (size + 1) c l + if r c a then chainsAfter r size a l else 0 := by
  unfold chainsAfter
  rw [List.sublistsLen_succ_cons, List.countP_append, List.countP_map]
  congr 1
  split_ifs with h
  · refine List.countP_congr fun t _ => ?_
    simp only [Function.comp_apply, List.pairwise_cons, List.forall_mem_cons, decide_eq_true_eq]
    constructor
    · rintro ⟨⟨ha, ht⟩, -⟩
      exact ⟨ht, ha⟩
    · rintro ⟨ht, ha⟩
      exact ⟨⟨ha, ht⟩, h, fun x hx => IsTrans.trans c a x h (ha x hx)⟩
  · refine List.countP_eq_zero.mpr fun t _ => ?_
    simp [h]

/-! ### Chains as subsets -/

section Subsets

variable {r}

omit [DecidableRel r] in
lemma pairwise_iff_chain {l : List α} (hnd : l.Nodup) (horder : l.Pairwise fun a b => ¬ r b a)
    {t : List α} (ht : t.Sublist l) :
    t.Pairwise r ↔ ∀ a ∈ t, ∀ b ∈ t, a ≠ b → r a b ∨ r b a := by
  have hnd' := hnd.sublist ht
  have horder' := horder.sublist ht
  constructor
  · intro h
    have : Std.Symm fun a b => r a b ∨ r b a := ⟨fun _ _ => Or.symm⟩
    have hcomparable : t.Pairwise fun a b => r a b ∨ r b a := h.imp Or.inl
    exact fun a ha b hb hab => hcomparable.forall ha hb hab
  · intro h
    refine (hnd'.and horder').imp_of_mem fun ha hb hab => ?_
    exact (h _ ha _ hb hab.1).resolve_right hab.2

open Classical in
/-- **Counting chains counts subsets.** -/
theorem chains_eq_card [DecidableEq α] {l : List α} (hnd : l.Nodup)
    (horder : l.Pairwise fun a b => ¬ r b a) (size : ℕ) :
    chains r size l =
      ((l.toFinset.powersetCard size).filter fun t : Finset α => IsChain r (t : Set α)).card := by
  have hval : l.toFinset.val = (l : Multiset α) := by
    rw [List.toFinset_val, hnd.dedup]
  let chain : Multiset α → Prop := fun t => ∀ a ∈ t, ∀ b ∈ t, a ≠ b → r a b ∨ r b a
  have hsub : chains r size l = ((l : Multiset α).powersetCard size).countP chain := by
    rw [Multiset.powersetCard_coe, Multiset.coe_countP, List.countP_map]
    refine List.countP_congr fun t ht => ?_
    simp only [Function.comp_apply, decide_eq_true_eq]
    exact pairwise_iff_chain hnd horder (List.mem_sublistsLen.mp ht).1
  rw [hsub, ← hval, ← Finset.map_val_val_powersetCard, Multiset.countP_map, Finset.card_def,
    Finset.filter_val]
  exact congrArg Multiset.card (Multiset.filter_congr fun t _ => Iff.rfl)

end Subsets

end Chains

end Blert

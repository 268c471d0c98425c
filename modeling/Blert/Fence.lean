import Mathlib.Data.List.Nodup
import Mathlib.Logic.Relation
import Mathlib.Tactic

/-!
Fenced resources.

A resource is owned under epochs. Each is granted above the ones before, and only the holder,
the last one granted, can write to the resource or destroy it. Then no epoch is granted twice,
the epochs along what is written never go back, and a resource that was destroyed stays so.
-/

namespace Blert

/-- The fence of a resource: the epoch that holds it while it exists, the epochs granted so far,
and the epochs of the writes it keeps, both in order. -/
structure Fence (α : Type*) where
  holder : Option α
  granted : List α
  written : List α

namespace Fence

variable {α : Type*} [Preorder α]

inductive Step (f : Fence α) : Fence α → Prop
  | create (e : α) (h : f.granted = []) : Step f { f with holder := some e, granted := [e] }
  | grant {e : α} (e' : α) (h : f.holder = some e) (hlt : e < e') :
    Step f { f with holder := some e', granted := f.granted ++ [e'] }
  | write {e : α} (h : f.holder = some e) : Step f { f with written := f.written ++ [e] }
  | destroy {e : α} (h : f.holder = some e) : Step f { f with holder := none }
  | forget (h : f.holder = none) : Step f { f with written := [] }

/-- A resource comes to another fence in any number of steps. -/
abbrev Steps : Fence α → Fence α → Prop := Relation.ReflTransGen Step

/-- The holder is the last epoch granted, and nothing was written above it. -/
structure Inv (f : Fence α) : Prop where
  granted : f.granted.Pairwise (· < ·)
  latest : ∀ e, f.holder = some e → e ∈ f.granted ∧ ∀ g ∈ f.granted, g ≤ e
  written : f.written.Pairwise (· ≤ ·)
  bounded : ∀ e, f.holder = some e → ∀ w ∈ f.written, w ≤ e
  fresh : f.granted = [] → f.written = []

variable {f f' : Fence α}

lemma Inv.step (h : f.Inv) (hs : f.Step f') : f'.Inv := by
  cases hs with
  | create e hg =>
    refine ⟨List.pairwise_singleton _ _, ?_, h.written, ?_, by simp⟩
    · rintro _ ⟨⟩
      exact ⟨List.mem_singleton.mpr rfl, fun g hg' => (List.mem_singleton.mp hg').le⟩
    · intro _ _ w hw
      rw [show f.written = [] from h.fresh hg] at hw
      cases hw
  | @grant e e' hh hlt =>
    obtain ⟨-, hle⟩ := h.latest e hh
    refine ⟨?_, ?_, h.written, ?_, by simp⟩
    · refine List.pairwise_append.mpr ⟨h.granted, List.pairwise_singleton _ _, ?_⟩
      intro g hg e'' he''
      rw [List.mem_singleton.mp he'']
      exact lt_of_le_of_lt (hle g hg) hlt
    · rintro _ ⟨⟩
      refine ⟨List.mem_append_right _ (List.mem_singleton.mpr rfl), fun g hg => ?_⟩
      rcases List.mem_append.mp hg with hg | hg
      · exact (lt_of_le_of_lt (hle g hg) hlt).le
      · exact (List.mem_singleton.mp hg).le
    · rintro _ ⟨⟩ w hw
      exact (lt_of_le_of_lt (h.bounded e hh w hw) hlt).le
  | @write e hh =>
    refine ⟨h.granted, h.latest, ?_, ?_, fun hg => ?_⟩
    · refine List.pairwise_append.mpr ⟨h.written, List.pairwise_singleton _ _, ?_⟩
      intro w hw e' he'
      rw [List.mem_singleton.mp he']
      exact h.bounded e hh w hw
    · intro e' he' w hw
      obtain rfl : e = e' := Option.some.inj (hh.symm.trans he')
      rcases List.mem_append.mp hw with hw | hw
      · exact h.bounded e hh w hw
      · exact (List.mem_singleton.mp hw).le
    · have hmem := (h.latest e hh).1
      rw [show f.granted = [] from hg] at hmem
      cases hmem
  | destroy hh => exact ⟨h.granted, by simp, h.written, by simp, h.fresh⟩
  | forget hh => exact ⟨h.granted, h.latest, List.Pairwise.nil, by simp, fun _ => rfl⟩

theorem Inv.run (h : f.Inv) (hs : Steps f f') : f'.Inv := by
  induction hs with
  | refl => exact h
  | tail _ hstep ih => exact ih.step hstep

lemma inv_empty : (Fence.mk none [] [] : Fence α).Inv :=
  ⟨List.Pairwise.nil, by simp, List.Pairwise.nil, by simp, fun _ => rfl⟩

lemma Inv.nodup (h : f.Inv) : f.granted.Nodup := h.granted.imp fun hlt => ne_of_lt hlt

lemma Inv.holder_ne (h : f.Inv) {e g : α} (hg : g ∈ f.granted) (hlt : e < g) :
    f.holder ≠ some e :=
  fun hh => not_le_of_gt hlt ((h.latest e hh).2 g hg)

lemma Inv.grants_fresh (h : f.Inv) (hs : Steps f f') :
    (∀ e ∈ f.granted, e ∈ f'.granted) ∧
      ∀ e, f'.holder = some e → f.holder = some e ∨ e ∉ f.granted := by
  induction hs with
  | refl => exact ⟨fun _ hg => hg, fun _ => Or.inl⟩
  | tail hs hstep ih =>
    obtain ⟨hkept, hfresh⟩ := ih
    cases hstep with
    | create e hnone =>
      rw [hnone] at hkept
      refine ⟨fun e hg => absurd (hkept e hg) List.not_mem_nil, fun e _ => Or.inr fun hg => ?_⟩
      exact absurd (hkept e hg) List.not_mem_nil
    | grant e' hh hlt =>
      refine ⟨fun e hg => List.mem_append_left _ (hkept e hg), ?_⟩
      rintro _ ⟨⟩
      exact Or.inr fun hg => not_le_of_gt hlt (((h.run hs).latest _ hh).2 e' (hkept e' hg))
    | write => exact ⟨hkept, hfresh⟩
    | destroy => exact ⟨hkept, nofun⟩
    | forget => exact ⟨hkept, hfresh⟩

/-! ### Destroyed resources -/

/-- The resource was created, and is destroyed. -/
def Gone (f : Fence α) : Prop := f.holder = none ∧ f.granted ≠ []

lemma Gone.step (h : f.Gone) (hs : f.Step f') : f'.Gone := by
  obtain ⟨hnone, hgranted⟩ := h
  cases hs with
  | create e hg => exact absurd hg hgranted
  | grant e' hh _ => rw [hnone] at hh; cases hh
  | write hh => rw [hnone] at hh; cases hh
  | destroy _ => exact ⟨rfl, hgranted⟩
  | forget _ => exact ⟨hnone, hgranted⟩

/-- **What is destroyed stays destroyed.** -/
theorem Gone.run (h : f.Gone) (hs : Steps f f') : f'.Gone := by
  induction hs with
  | refl => exact h
  | tail _ hstep ih => exact ih.step hstep

end Fence

end Blert

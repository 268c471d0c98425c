import Blert.Gear.Editing

/-!
What undoing and redoing reach.

A command leaves the history as it is, appends to what has not been undone, overwrites the entry
that a run of updates is combined into, or moves along the history. So undoing an edit gives the
setup before it, or before the run it belongs to, and what has been saved stays in the history
until an edit cuts it off.
-/

namespace Blert.Gear

namespace Command

def isEdit : Command → Bool
  | update _ _ _ | deleteSelection | completeDrag _ _ _ | applyClipboard _ _ _ => true
  | _ => false

def isUpdate : Command → Bool
  | update _ _ _ => true
  | _ => false

end Command

namespace EditableGearSetup

variable {getItem : ℕ → Option ItemData} {s s' : EditableGearSetup}

/-! ### What a command does to the history -/

structure Kept (s s' : EditableGearSetup) : Prop where
  history : s'.history = s.history
  position : s'.position = s.position
  coalesce : s'.coalesce = s.coalesce

/-- A setup is put after the present one, and what was undone is gone. -/
structure Appended (s s' : EditableGearSetup) (setup : GearSetup) : Prop where
  history : s'.history = s.history.take (s.position + 1) ++ [setup]
  position : s'.position = s.position + 1

/-- The present setup is the last, and it is overwritten. -/
structure Combined (s s' : EditableGearSetup) (setup : GearSetup) : Prop where
  last : s.position = s.history.length - 1
  history : s'.history = s.history.take s.position ++ [setup]
  position : s'.position = s.position

lemma modeTransitions_kept (s : EditableGearSetup) (mode : OperationMode) :
    Kept s (s.modeTransitions mode) := ⟨rfl, rfl, rfl⟩

lemma gridEdit_cases {c : Command} (hedit : c.isEdit = true) (hupdate : c.isUpdate = false)
    (h : s.step getItem c = some s') :
    Kept s s' ∨ ∃ setup, Appended s s' setup ∧ s'.coalesce = s.coalesce := by
  cases c with
  | update updater coalesce now => cases hupdate
  | deleteSelection =>
    simp only [step, deleteSelection] at h
    split at h
    · cases h
      exact Or.inl ⟨rfl, rfl, rfl⟩
    · split_ifs at h
      · simp only [bind, Option.bind_eq_some_iff, pure, Option.some.injEq] at h
        obtain ⟨setup, -, cloned, -, rfl⟩ := h
        exact Or.inr ⟨cloned, ⟨rfl, rfl⟩, rfl⟩
      · cases h
        exact Or.inl (modeTransitions_kept _ _)
  | completeDrag container playerIndex gridCoords =>
    simp only [step, completeDrag] at h
    split at h
    · cases h
      exact Or.inl ⟨rfl, rfl, rfl⟩
    · split_ifs at h
      · cases h
        exact Or.inl ⟨rfl, rfl, rfl⟩
      · simp only [bind, Option.bind_eq_some_iff] at h
        obtain ⟨setup, -, placed, -, h⟩ := h
        rcases placed with _ | ⟨cloned, newRegion⟩
        · cases h
          exact Or.inl (modeTransitions_kept _ _)
        · cases h
          exact Or.inr ⟨cloned, ⟨rfl, rfl⟩, rfl⟩
  | applyClipboard container playerIndex gridCoords =>
    simp only [step, applyClipboard] at h
    split at h
    · cases h
      exact Or.inl ⟨rfl, rfl, rfl⟩
    · rename_i clipboard _
      split_ifs at h
      · cases h
        exact Or.inl ⟨rfl, rfl, rfl⟩
      · simp only [bind, Option.bind_eq_some_iff] at h
        obtain ⟨setup, -, placed, -, h⟩ := h
        rcases placed with _ | ⟨cloned, newRegion⟩
        · cases h
          exact Or.inl (modeTransitions_kept _ _)
        · cases hoperation : clipboard.operation with
          | cut =>
            simp only [hoperation] at h
            cases h
            exact Or.inr ⟨cloned, ⟨rfl, rfl⟩, rfl⟩
          | copy =>
            simp only [hoperation] at h
            cases h
            exact Or.inr ⟨cloned, ⟨rfl, rfl⟩, rfl⟩
  | _ => cases hedit

lemma update_cases {updater : GearSetup → GearSetup} {coalesce : Option String} {now : ℤ}
    (h : s.update updater coalesce now = some s') :
    ∃ setup, s.setup = some setup ∧
      ((s.combines coalesce now = true ∧ Combined s s' (updater setup) ∧
          s'.coalesce = s.coalesce.map fun c => { c with lastAt := now }) ∨
        (s.combines coalesce now = false ∧ Appended s s' (updater setup) ∧
          s'.coalesce = coalesce.map fun key => ⟨key, s.position + 1, now⟩)) := by
  simp only [update, bind, Option.bind_eq_some_iff] at h
  obtain ⟨setup, hsetup, h⟩ := h
  refine ⟨setup, hsetup, ?_⟩
  cases hcombines : s.combines coalesce now with
  | true =>
    rw [hcombines, if_pos rfl] at h
    cases h
    have hlast : s.position = s.history.length - 1 := by
      unfold combines at hcombines
      split at hcombines
      · simp only [Bool.and_eq_true, decide_eq_true_eq] at hcombines
        exact hcombines.1.1.1
      · cases hcombines
    exact Or.inl ⟨rfl, ⟨hlast, rfl, rfl⟩, rfl⟩
  | false =>
    rw [hcombines, if_neg Bool.false_ne_true] at h
    cases h
    exact Or.inr ⟨rfl, ⟨rfl, rfl⟩, rfl⟩

/-- A command that is no edit does nothing to the history, or moves along it, or it ends a run of
updates. -/
lemma step_cases {c : Command} (hedit : c.isEdit = false) (h : s.step getItem c = some s') :
    Kept s s' ∨ (c = .undo ∧ s' = s.undo) ∨ (c = .redo ∧ s' = s.redo) ∨
      (c = .clearModified ∧ s' = { s with coalesce := none, modified := false }) := by
  cases c with
  | undo => exact Or.inr (Or.inl ⟨rfl, (Option.some.inj h).symm⟩)
  | redo => exact Or.inr (Or.inr (Or.inl ⟨rfl, (Option.some.inj h).symm⟩))
  | clearModified => exact Or.inr (Or.inr (Or.inr ⟨rfl, (Option.some.inj h).symm⟩))
  | setSelection region =>
    cases h
    cases region <;> exact Or.inl ⟨rfl, rfl, rfl⟩
  | copySelection =>
    cases h
    unfold takeSelection
    split <;> exact Or.inl ⟨rfl, rfl, rfl⟩
  | cutSelection =>
    cases h
    unfold takeSelection
    split <;> exact Or.inl ⟨rfl, rfl, rfl⟩
  | update updater coalesce now => cases hedit
  | deleteSelection => cases hedit
  | completeDrag container playerIndex gridCoords => cases hedit
  | applyClipboard container playerIndex gridCoords => cases hedit
  | _ =>
    cases h
    exact Or.inl ⟨rfl, rfl, rfl⟩

/-! ### Moving along the history -/

lemma undo_eq (h : s.position ≠ 0) :
    s.undo.history = s.history ∧ s.undo.position = s.position - 1 ∧ s.undo.coalesce = none := by
  unfold undo
  rw [if_neg h]
  exact ⟨rfl, rfl, rfl⟩

lemma redo_eq (h : s.position ≠ s.history.length - 1) :
    s.redo.history = s.history ∧ s.redo.position = s.position + 1 ∧ s.redo.coalesce = none := by
  unfold redo
  rw [if_neg h]
  exact ⟨rfl, rfl, rfl⟩

lemma run_append (s : EditableGearSetup) (cs cs' : List Command) :
    s.run getItem (cs ++ cs') = (s.run getItem cs).bind fun s => s.run getItem cs' := by
  induction cs generalizing s with
  | nil => rfl
  | cons c cs ih =>
    rw [List.cons_append, run, run]
    cases s.step getItem c with
    | none => rfl
    | some s' => exact ih s'

variable (getItem) in
lemma run_undo (s : EditableGearSetup) {n : ℕ} (h : n ≤ s.position) :
    ∃ s', s.run getItem (List.replicate n .undo) = some s' ∧ s'.history = s.history ∧
      s'.position = s.position - n := by
  induction n generalizing s with
  | zero => exact ⟨s, rfl, rfl, rfl⟩
  | succ n ih =>
    obtain ⟨hhistory, hposition, -⟩ := undo_eq (s := s) (by omega)
    obtain ⟨s', hrun, hhistory', hposition'⟩ := ih s.undo (by omega)
    exact ⟨s', hrun, hhistory'.trans hhistory, by omega⟩

variable (getItem) in
lemma run_redo (s : EditableGearSetup) {n : ℕ} (h : s.position + n < s.history.length) :
    ∃ s', s.run getItem (List.replicate n .redo) = some s' ∧ s'.history = s.history ∧
      s'.position = s.position + n := by
  induction n generalizing s with
  | zero => exact ⟨s, rfl, rfl, rfl⟩
  | succ n ih =>
    obtain ⟨hhistory, hposition, -⟩ := redo_eq (s := s) (by omega)
    obtain ⟨s', hrun, hhistory', hposition'⟩ := ih s.redo (by rw [hhistory, hposition]; omega)
    exact ⟨s', hrun, hhistory'.trans hhistory, by omega⟩

lemma setup_congr (hhistory : s'.history = s.history) (hposition : s'.position = s.position) :
    s'.setup = s.setup := by
  unfold setup
  rw [hhistory, hposition]

lemma Appended.undo {new : GearSetup} (h : Appended s s' new)
    (hposition : s.position < s.history.length) :
    s'.setup = some new ∧ s'.undo.setup = s.setup := by
  obtain ⟨hhistory, hposition'⟩ := undo_eq (s := s') (by rw [h.position]; omega)
  have hlength : (s.history.take (s.position + 1)).length = s.position + 1 := by
    rw [List.length_take]
    omega
  unfold setup
  rw [hhistory, hposition'.1, h.history, h.position]
  constructor
  · rw [List.getElem?_append_right hlength.le, hlength]
    simp
  · rw [List.getElem?_append_left (by omega), List.getElem?_take_of_lt (by omega)]
    rfl

/-! ### Runs of updates -/

variable (getItem) in
/-- Updates with a key that have been combined into one entry, since the setup before the first of
them. -/
inductive UpdateRun (key : String) (s₀ : EditableGearSetup) : EditableGearSetup → Prop
  | first {updater : GearSetup → GearSetup} {now : ℤ} {s : EditableGearSetup}
    (hnew : s₀.combines (some key) now = false)
    (hupdate : s₀.update updater (some key) now = some s) : UpdateRun key s₀ s
  | more {updater : GearSetup → GearSetup} {now : ℤ} {s s' : EditableGearSetup}
    (h : UpdateRun key s₀ s) (hcombines : s.combines (some key) now = true)
    (hupdate : s.update updater (some key) now = some s') : UpdateRun key s₀ s'
  | other {c : Command} {s s' : EditableGearSetup} (h : UpdateRun key s₀ s)
    (hstep : s.step getItem c = some s') (hkept : Kept s s') : UpdateRun key s₀ s'

variable (getItem) in
/-- The entry that updates are combined into is the present one, at most, and then it has been made
by a run of updates. -/
structure Good (s : EditableGearSetup) : Prop where
  position : s.position < s.history.length
  coalesce : ∀ c ∈ s.coalesce, c.position ≤ s.position ∧
    (c.position = s.position → s.position ≠ 0 ∧ ∃ s₀, s₀.Reachable getItem ∧
      UpdateRun getItem c.key s₀ s ∧ s.history[s.position - 1]? = s₀.setup)

lemma combines_some {coalesce : Option String} {now : ℤ} (h : s.combines coalesce now = true) :
    ∃ c, s.coalesce = some c ∧ coalesce = some c.key ∧ c.position = s.position := by
  unfold combines at h
  split at h
  · rename_i key c hc
    simp only [Bool.and_eq_true, decide_eq_true_eq] at h
    exact ⟨c, hc, congrArg some h.1.1.2.symm, h.1.2⟩
  · cases h

namespace Good

lemma new (setup : GearSetup) : Good getItem (newEditableGearSetup setup) where
  position := Nat.zero_lt_one
  coalesce := nofun

lemma kept {c : Command} (h : Good getItem s) (hstep : s.step getItem c = some s')
    (hkept : Kept s s') : Good getItem s' where
  position := by
    rw [hkept.history, hkept.position]
    exact h.position
  coalesce := by
    intro cc hcc
    rw [hkept.coalesce] at hcc
    obtain ⟨hle, hrun⟩ := h.coalesce cc hcc
    rw [hkept.history, hkept.position]
    refine ⟨hle, fun heq => ?_⟩
    obtain ⟨hne, s₀, hreachable, hrun, hbefore⟩ := hrun heq
    exact ⟨hne, s₀, hreachable, hrun.other hstep hkept, hbefore⟩

lemma cleared (hposition : s'.position < s'.history.length) (hcoalesce : s'.coalesce = none) :
    Good getItem s' where
  position := hposition
  coalesce := by
    rw [hcoalesce]
    exact nofun

lemma appended_length {new : GearSetup} (h : Good getItem s) (happended : Appended s s' new) :
    s'.position < s'.history.length := by
  have hposition := h.position
  rw [happended.history, happended.position, List.length_append, List.length_take,
    List.length_singleton]
  omega

lemma update {updater : GearSetup → GearSetup} {coalesce : Option String} {now : ℤ}
    (hr : s.Reachable getItem) (h : Good getItem s)
    (hupdate : s.update updater coalesce now = some s') : Good getItem s' := by
  obtain ⟨setup, hsetup, ⟨hcombines, hcombined, hcoalesce⟩ | ⟨hnew, happended, hcoalesce⟩⟩ :=
    update_cases hupdate
  · obtain ⟨cc, hcc, rfl, hat⟩ := combines_some hcombines
    obtain ⟨-, hrun⟩ := h.coalesce cc hcc
    obtain ⟨hne, s₀, hreachable, hrun, hbefore⟩ := hrun hat
    have hposition := h.position
    refine ⟨?_, fun c hc => ?_⟩
    · rw [hcombined.history, hcombined.position, List.length_append, List.length_take,
        List.length_singleton]
      omega
    · rw [hcoalesce, hcc] at hc
      cases hc
      rw [hcombined.position]
      refine ⟨hat.le, fun _ => ⟨hne, s₀, hreachable, hrun.more hcombines hupdate, ?_⟩⟩
      have hlength : s.position - 1 < (s.history.take s.position).length := by
        rw [List.length_take]
        omega
      rw [hcombined.history, List.getElem?_append_left hlength, List.getElem?_take_of_lt (by omega)]
      exact hbefore
  · refine ⟨h.appended_length happended, fun c hc => ?_⟩
    rw [hcoalesce] at hc
    obtain ⟨key, rfl, rfl⟩ := Option.map_eq_some_iff.mp hc
    have hposition := h.position
    have hlength : s.position < (s.history.take (s.position + 1)).length := by
      rw [List.length_take]
      omega
    refine ⟨happended.position.ge, fun _ => ⟨by rw [happended.position]; omega, s, hr,
      .first hnew hupdate, ?_⟩⟩
    rw [happended.history, happended.position, Nat.add_sub_cancel,
      List.getElem?_append_left hlength, List.getElem?_take_of_lt (by omega)]
    rfl

lemma step {c : Command} (hr : s.Reachable getItem) (h : Good getItem s)
    (hstep : s.step getItem c = some s') : Good getItem s' := by
  have hposition := h.position
  cases hedit : c.isEdit with
  | false =>
    rcases step_cases hedit hstep with hkept | ⟨rfl, rfl⟩ | ⟨rfl, rfl⟩ | ⟨rfl, rfl⟩
    · exact h.kept hstep hkept
    · by_cases hzero : s.position = 0
      · have hsame : s.undo = s := if_pos hzero
        rw [hsame]
        exact h
      · obtain ⟨hhistory, hback, hnone⟩ := undo_eq hzero
        exact cleared (by rw [hhistory, hback]; omega) hnone
    · by_cases hlast : s.position = s.history.length - 1
      · have hsame : s.redo = s := if_pos hlast
        rw [hsame]
        exact h
      · obtain ⟨hhistory, hon, hnone⟩ := redo_eq hlast
        exact cleared (by rw [hhistory, hon]; omega) hnone
    · exact cleared hposition rfl
  | true =>
    cases hupdate : c.isUpdate with
    | true =>
      cases c with
      | update updater coalesce now => exact update hr h hstep
      | _ => cases hupdate
    | false =>
      rcases gridEdit_cases hedit hupdate hstep with hkept | ⟨new, happended, hcoalesce⟩
      · exact h.kept hstep hkept
      · refine ⟨h.appended_length happended, fun cc hcc => ?_⟩
        rw [hcoalesce] at hcc
        have hle := (h.coalesce cc hcc).1
        rw [happended.position]
        exact ⟨by omega, fun heq => by omega⟩

end Good

lemma Reachable.good (h : s.Reachable getItem) : Good getItem s := by
  induction h with
  | new setup => exact .new setup
  | step h hstep ih => exact ih.step h hstep

/-! ### Saved setups -/

variable (getItem) in
/-- Commands after a save at a position, none of which is an edit that is made where the save has
been undone. -/
inductive NotCutOff (position : ℕ) (saved : EditableGearSetup) : EditableGearSetup → Prop
  | refl : NotCutOff position saved saved
  | step {s s' : EditableGearSetup} {c : Command} (h : NotCutOff position saved s)
    (hstep : s.step getItem c = some s')
    (hedit : s.position < position → c.isEdit = true →
      s'.history = s.history ∧ s'.position = s.position) : NotCutOff position saved s'

/-- What has been saved is in the history, before the entry that updates are combined into. -/
structure HasSaved (position : ℕ) (saved : Option GearSetup) (s : EditableGearSetup) : Prop where
  saved : s.history[position]? = saved
  coalesce : ∀ c ∈ s.coalesce, position < c.position

namespace HasSaved

variable {position : ℕ} {saved : Option GearSetup}

lemma congr (h : HasSaved position saved s) (hhistory : s'.history = s.history)
    (hcoalesce : s'.coalesce = s.coalesce ∨ s'.coalesce = none) :
    HasSaved position saved s' where
  saved := by
    rw [hhistory]
    exact h.saved
  coalesce := by
    rcases hcoalesce with hcoalesce | hcoalesce <;> rw [hcoalesce]
    · exact h.coalesce
    · exact nofun

lemma take_append {n : ℕ} {new : GearSetup} (h : HasSaved position saved s) (hn : position < n)
    (hle : n ≤ s.history.length) (hhistory : s'.history = s.history.take n ++ [new]) :
    s'.history[position]? = saved := by
  have hlength : position < (s.history.take n).length := by
    rw [List.length_take]
    omega
  rw [hhistory, List.getElem?_append_left hlength, List.getElem?_take_of_lt hn]
  exact h.saved

lemma step {c : Command} (h : HasSaved position saved s) (hgood : Good getItem s)
    (hstep : s.step getItem c = some s')
    (hedit : s.position < position → c.isEdit = true →
      s'.history = s.history ∧ s'.position = s.position) : HasSaved position saved s' := by
  have hlength := hgood.position
  -- An appended setup is not put where the save has been undone.
  have hafter : ∀ new, Appended s s' new → c.isEdit = true → position ≤ s.position := by
    intro new happended hc
    by_contra hlt
    have hsame := (hedit (by omega) hc).2
    have hnext := happended.position
    omega
  cases hc : c.isEdit with
  | false =>
    rcases step_cases hc hstep with hkept | ⟨rfl, rfl⟩ | ⟨rfl, rfl⟩ | ⟨rfl, rfl⟩
    · exact h.congr hkept.history (Or.inl hkept.coalesce)
    · unfold undo
      split_ifs
      · exact h
      · exact h.congr rfl (Or.inr rfl)
    · unfold redo
      split_ifs
      · exact h
      · exact h.congr rfl (Or.inr rfl)
    · exact h.congr rfl (Or.inr rfl)
  | true =>
    cases hupdate : c.isUpdate with
    | true =>
      cases c with
      | update updater coalesce now =>
        obtain ⟨setup, -, ⟨hcombines, hcombined, hcoalesce⟩ | ⟨-, happended, hcoalesce⟩⟩ :=
          update_cases hstep
        · obtain ⟨cc, hcc, -, hat⟩ := combines_some hcombines
          have hbefore := h.coalesce cc hcc
          refine ⟨h.take_append (by omega) (by omega) hcombined.history, fun c' hc' => ?_⟩
          rw [hcoalesce, hcc] at hc'
          cases hc'
          exact hbefore
        · have hle := hafter _ happended rfl
          refine ⟨h.take_append (by omega) (by omega) happended.history, fun c' hc' => ?_⟩
          rw [hcoalesce] at hc'
          obtain ⟨key, -, rfl⟩ := Option.map_eq_some_iff.mp hc'
          exact Nat.lt_succ_of_le hle
      | _ => cases hupdate
    | false =>
      rcases gridEdit_cases hc hupdate hstep with hkept | ⟨new, happended, hcoalesce⟩
      · exact h.congr hkept.history (Or.inl hkept.coalesce)
      · have hle := hafter new happended hc
        refine ⟨h.take_append (by omega) (by omega) happended.history, fun c' hc' => ?_⟩
        rw [hcoalesce] at hc'
        exact h.coalesce c' hc'

end HasSaved

lemma NotCutOff.hasSaved {saved : EditableGearSetup} (hr : saved.Reachable getItem)
    (hcleared : saved.coalesce = none) (h : NotCutOff getItem saved.position saved s) :
    s.Reachable getItem ∧ HasSaved saved.position saved.setup s := by
  induction h with
  | refl =>
    refine ⟨hr, rfl, ?_⟩
    rw [hcleared]
    exact nofun
  | step h hstep hedit ih => exact ⟨ih.1.step hstep, ih.2.step ih.1.good hstep hedit⟩

/-- An edit does nothing, or undoing it gives the setup before it, or before the run of updates that
it is combined with. -/
lemma edit_undo {c : Command} (hr : s.Reachable getItem) (hedit : c.isEdit = true)
    (hstep : s.step getItem c = some s') :
    (c.isUpdate = false ∧ Kept s s') ∨
      (∃ new, Appended s s' new ∧ s'.setup = some new ∧ s'.undo.setup = s.setup) ∨
      ∃ new key s₀, Combined s s' new ∧ s'.setup = some new ∧ s₀.Reachable getItem ∧
        UpdateRun getItem key s₀ s' ∧ s'.undo.setup = s₀.setup := by
  have hgood := hr.good
  cases hupdate : c.isUpdate with
  | false =>
    rcases gridEdit_cases hedit hupdate hstep with hkept | ⟨new, happended, -⟩
    · exact Or.inl ⟨rfl, hkept⟩
    · exact Or.inr (Or.inl ⟨new, happended, happended.undo hgood.position⟩)
  | true =>
    cases c with
    | update updater coalesce now =>
      obtain ⟨setup, -, ⟨hcombines, hcombined, hcoalesce⟩ | ⟨-, happended, -⟩⟩ :=
        update_cases hstep
      · obtain ⟨cc, hcc, -, hat⟩ := combines_some hcombines
        have hgood' := (hr.step hstep).good
        have hc' : { cc with lastAt := now } ∈ s'.coalesce := by
          rw [hcoalesce, hcc]
          rfl
        obtain ⟨-, hrun⟩ := hgood'.coalesce _ hc'
        obtain ⟨hne, s₀, hreachable, hrun, hbefore⟩ := hrun (hat.trans hcombined.position.symm)
        obtain ⟨hhistory, hposition, -⟩ := undo_eq hne
        have hlength := hgood.position
        have hpresent : (s.history.take s.position).length = s.position := by
          rw [List.length_take]
          omega
        refine Or.inr (Or.inr ⟨_, _, s₀, hcombined, ?_, hreachable, hrun, ?_⟩)
        · unfold EditableGearSetup.setup
          rw [hcombined.history, hcombined.position, List.getElem?_append_right hpresent.le,
            hpresent]
          simp
        · unfold EditableGearSetup.setup at hbefore ⊢
          rw [hhistory, hposition]
          exact hbefore
      · exact Or.inr (Or.inl ⟨_, happended, happended.undo hgood.position⟩)
    | _ => cases hupdate

/-- **Undo and redo are exact**: the position stays within the history; undoing, at most back to
the first setup, and redoing as often changes nothing; an edit discards what was undone, and undoing
it gives the setup before it or before the run of updates it is combined with; and what has been
saved is reached by undoing, or by redoing where it has been undone, until it is cut off. -/
theorem undo_redo_exact (h : s.Reachable getItem) :
    s.position < s.history.length ∧
      (∀ n ≤ s.position, ∃ s', s.run getItem (List.replicate n .undo ++ List.replicate n .redo) =
        some s' ∧ s'.history = s.history ∧ s'.position = s.position ∧ s'.setup = s.setup) ∧
      (∀ c s', c.isEdit = true → s.step getItem c = some s' →
        (c.isUpdate = false ∧ Kept s s') ∨
          (∃ new, Appended s s' new ∧ s'.setup = some new ∧ s'.undo.setup = s.setup) ∨
          ∃ new key s₀, Combined s s' new ∧ s'.setup = some new ∧ s₀.Reachable getItem ∧
            UpdateRun getItem key s₀ s' ∧ s'.undo.setup = s₀.setup) ∧
      ∀ saved s', s.step getItem .clearModified = some saved →
        NotCutOff getItem s.position saved s' → ∃ n s'',
          s''.setup = s.setup ∧ s.setup.isSome ∧
            ((s.position ≤ s'.position ∧ s'.run getItem (List.replicate n .undo) = some s'') ∨
              (s'.position < s.position ∧
                s'.run getItem (List.replicate n .redo) = some s'')) := by
  have hgood := h.good
  refine ⟨hgood.position, fun n hn => ?_, fun c s' hedit hstep => edit_undo h hedit hstep, ?_⟩
  · obtain ⟨back, hback, hhistory, hposition⟩ := run_undo getItem s hn
    obtain ⟨on, hon, hhistory', hposition'⟩ := run_redo getItem back (n := n) (by
      rw [hhistory, hposition]
      have := hgood.position
      omega)
    have hsame : on.position = s.position := by omega
    refine ⟨on, ?_, hhistory'.trans hhistory, hsame, ?_⟩
    · rw [run_append, hback]
      exact hon
    · exact setup_congr (hhistory'.trans hhistory) hsame
  · intro saved s' hsave hsince
    cases hsave
    have hreachable := h.step (c := .clearModified) rfl
    obtain ⟨hr', hsaved⟩ := hsince.hasSaved hreachable rfl
    have hlength := hr'.good.position
    have hpresent : s.setup.isSome := by
      unfold EditableGearSetup.setup
      rw [List.getElem?_eq_getElem hgood.position]
      rfl
    have hat : s'.history[s.position]? = s.setup := hsaved.saved
    have hinside : s.position < s'.history.length := by
      rw [← hat] at hpresent
      by_contra hout
      rw [List.getElem?_eq_none (not_lt.mp hout)] at hpresent
      cases hpresent
    rcases Nat.lt_or_ge s'.position s.position with hbefore | hafter
    · obtain ⟨s'', hrun, hhistory, hposition⟩ := run_redo getItem s'
        (n := s.position - s'.position) (by omega)
      refine ⟨_, s'', ?_, hpresent, Or.inr ⟨hbefore, hrun⟩⟩
      rw [← hat, EditableGearSetup.setup, hhistory, hposition]
      congr 1
      omega
    · obtain ⟨s'', hrun, hhistory, hposition⟩ := run_undo getItem s'
        (n := s'.position - s.position) (by omega)
      refine ⟨_, s'', ?_, hpresent, Or.inl ⟨hafter, hrun⟩⟩
      rw [← hat, EditableGearSetup.setup, hhistory, hposition]
      congr 1
      omega

def typeTitle (title : String) (coalesce : Option String) (now : ℤ) : Command :=
  .update (fun setup => { setup with title := title }) coalesce now

def emptyEditor : EditableGearSetup := newEditableGearSetup ⟨"", "", 0, []⟩

/-- Two letters that are typed soon after each other are undone together. -/
def typedEditor : EditableGearSetup :=
  { emptyEditor with
    history := [⟨"", "", 0, []⟩, ⟨"ab", "", 0, []⟩]
    position := 1
    coalesce := some ⟨"title", 1, 100⟩
    modified := true }

theorem typedEditor_undo :
    typedEditor.undo.setup = emptyEditor.setup ∧
      ∃ s', typedEditor.run (fun _ => none) (List.replicate 1 .undo ++ List.replicate 1 .redo) =
        some s' ∧ s'.history = typedEditor.history ∧ s'.position = typedEditor.position ∧
          s'.setup = typedEditor.setup := by
  have hfirst : Reachable (fun _ => none)
      { typedEditor with
        history := [⟨"", "", 0, []⟩, ⟨"a", "", 0, []⟩]
        coalesce := some ⟨"title", 1, 0⟩ } :=
    .step (c := typeTitle "a" (some "title") 0) (.new _) rfl
  have htyped : typedEditor.Reachable fun _ => none :=
    .step (c := typeTitle "ab" (some "title") 100) hfirst (by decide)
  exact ⟨rfl, (undo_redo_exact htyped).2.1 1 le_rfl⟩

/-- Undoing further than to the first setup is redone too far, and what has been saved is not
reached by undoing where it has been undone. -/
theorem undone_too_far :
    (∃ s s', emptyEditor.run (fun _ => none)
        [typeTitle "b" none 0, typeTitle "c" none 0, .undo] = some s ∧
      s.run (fun _ => none) (List.replicate 2 .undo ++ List.replicate 2 .redo) = some s' ∧
      s'.setup ≠ s.setup) ∧
    ∃ saved s, emptyEditor.run (fun _ => none) [typeTitle "b" none 0, .clearModified] =
        some saved ∧
      saved.run (fun _ => none) [.undo] = some s ∧
      ∀ n s', s.run (fun _ => none) (List.replicate n .undo) = some s' →
        s'.setup ≠ saved.setup := by
  refine ⟨⟨_, _, rfl, rfl, by decide⟩, _, _, rfl, rfl, fun n s' hrun => ?_⟩
  have hstays : ∀ (s : EditableGearSetup), s.position = 0 → ∀ n,
      s.run (fun _ => none) (List.replicate n .undo) = some s := by
    intro s hs n
    induction n with
    | zero => rfl
    | succ n ih =>
      have hsame : s.undo = s := if_pos hs
      rw [List.replicate_succ, run]
      simp only [step, Option.bind_some, hsame]
      exact ih
  rw [hstays _ rfl n] at hrun
  cases hrun
  decide

end EditableGearSetup

end Blert.Gear

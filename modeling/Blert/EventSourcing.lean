import Mathlib.Data.List.Induction
import Mathlib.Order.Basic
import Mathlib.Tactic

/-!
Event-sourced machines.

A machine answers an input with a list of events and its state is a fold of the events so
far. What it journals over a run is therefore enough to rebuild it. Two arguments about such
machines are made once here. An invariant is shown event by event, each event given only what
licenses it in the state it meets. And a machine that stopped is brought back by folding its
journal and replaying the inputs behind its cursor, which does nothing when inputs it had no
answer to stay without one.
-/

namespace Blert

/-- A machine that answers inputs with events and changes its state only by events. -/
structure Machine (σ ι ε : Type*) where
  decide : σ → ι → List ε
  apply : σ → ε → σ

namespace Machine

variable {σ ι ε α : Type*} (m : Machine σ ι ε)

def fold (s : σ) (es : List ε) : σ := es.foldl m.apply s

def step (s : σ) (i : ι) : σ := m.fold s (m.decide s i)

def run (s : σ) (is : List ι) : σ := is.foldl m.step s

def journal (s : σ) : List ι → List ε
  | [] => []
  | i :: is => m.decide s i ++ journal (m.step s i) is

@[simp] lemma fold_nil (s : σ) : m.fold s [] = s := rfl
@[simp] lemma fold_cons (s : σ) (e : ε) (es : List ε) :
    m.fold s (e :: es) = m.fold (m.apply s e) es := rfl
lemma fold_append (s : σ) (es fs : List ε) : m.fold s (es ++ fs) = m.fold (m.fold s es) fs := by
  simp [fold]

@[simp] lemma run_nil (s : σ) : m.run s [] = s := rfl
@[simp] lemma run_cons (s : σ) (i : ι) (is : List ι) :
    m.run s (i :: is) = m.run (m.step s i) is := rfl
lemma run_append (s : σ) (is js : List ι) : m.run s (is ++ js) = m.run (m.run s is) js := by
  simp [run]

@[simp] lemma journal_nil (s : σ) : m.journal s [] = [] := rfl
@[simp] lemma journal_cons (s : σ) (i : ι) (is : List ι) :
    m.journal s (i :: is) = m.decide s i ++ m.journal (m.step s i) is := rfl
lemma journal_append (s : σ) (is js : List ι) :
    m.journal s (is ++ js) = m.journal s is ++ m.journal (m.run s is) js := by
  induction is generalizing s with
  | nil => rfl
  | cons i is ih => simp [ih]

/-- **The journal rebuilds the machine**: folding it gives the state the run ended in. -/
theorem fold_journal (s : σ) (is : List ι) : m.fold s (m.journal s is) = m.run s is := by
  induction is generalizing s with
  | nil => rfl
  | cons i is ih => rw [journal_cons, fold_append, run_cons, ← ih (m.step s i)]; rfl

/-! ### Journals licensed event by event -/

/-- Every event of the list is licensed in the state it meets. -/
def Licensed (R : σ → ε → Prop) (s : σ) : List ε → Prop
  | [] => True
  | e :: es => R s e ∧ Licensed R (m.apply s e) es

variable {R : σ → ε → Prop}

@[simp] lemma licensed_nil (s : σ) : m.Licensed R s [] := trivial
@[simp] lemma licensed_cons (s : σ) (e : ε) (es : List ε) :
    m.Licensed R s (e :: es) ↔ R s e ∧ m.Licensed R (m.apply s e) es := Iff.rfl
lemma licensed_append (s : σ) (es fs : List ε) :
    m.Licensed R s (es ++ fs) ↔ m.Licensed R s es ∧ m.Licensed R (m.fold s es) fs := by
  induction es generalizing s with
  | nil => simp
  | cons e es ih => simp [ih, and_assoc]

lemma Licensed.mono {R' : σ → ε → Prop} (hR : ∀ s e, R s e → R' s e) {s : σ} {es : List ε}
    (h : m.Licensed R s es) : m.Licensed R' s es := by
  induction es generalizing s with
  | nil => trivial
  | cons e es ih => exact ⟨hR s e h.1, ih h.2⟩

lemma Licensed.and {R' : σ → ε → Prop} {s : σ} {es : List ε} (h : m.Licensed R s es)
    (h' : m.Licensed R' s es) : m.Licensed (fun s e => R s e ∧ R' s e) s es := by
  induction es generalizing s with
  | nil => trivial
  | cons e es ih => exact ⟨⟨h.1, h'.1⟩, ih h.2 h'.2⟩

lemma Licensed.at {s : σ} {es pre post : List ε} {e : ε} (h : m.Licensed R s es)
    (hes : es = pre ++ e :: post) : R (m.fold s pre) e := by
  rw [hes, licensed_append] at h
  exact h.2.1

/-- Every input of the run is handled in a state where the condition holds. -/
def Meets (C : σ → ι → Prop) (s : σ) : List ι → Prop
  | [] => True
  | i :: is => C s i ∧ Meets C (m.step s i) is

variable {C : σ → ι → Prop}

@[simp] lemma meets_nil (s : σ) : m.Meets C s [] := trivial
@[simp] lemma meets_cons (s : σ) (i : ι) (is : List ι) :
    m.Meets C s (i :: is) ↔ C s i ∧ m.Meets C (m.step s i) is := Iff.rfl
instance Meets.decidable [∀ s i, Decidable (C s i)] (s : σ) :
    (is : List ι) → Decidable (m.Meets C s is)
  | [] => inferInstanceAs (Decidable True)
  | i :: is =>
    have := Meets.decidable (m.step s i) is
    inferInstanceAs (Decidable (C s i ∧ m.Meets C (m.step s i) is))

lemma meets_of_forall (h : ∀ s i, C s i) (s : σ) (is : List ι) : m.Meets C s is := by
  induction is generalizing s with
  | nil => trivial
  | cons i is ih => exact ⟨h s i, ih _⟩

/-- A run whose steps all meet a condition journals licensed events, if each such step does. -/
theorem licensed_journal (h : ∀ s i, C s i → m.Licensed R s (m.decide s i)) {s : σ} {is : List ι}
    (hC : m.Meets C s is) : m.Licensed R s (m.journal s is) := by
  induction is generalizing s with
  | nil => trivial
  | cons i is ih =>
    rw [journal_cons, licensed_append]
    exact ⟨h s i hC.1, ih hC.2⟩

/-- **The invariant rule**: what holds of the state and the journal at the start, and is kept
by a licensed event, holds after every licensed journal. -/
theorem fold_inv {P : σ → List ε → Prop} (step : ∀ s js e, P s js → R s e →
    P (m.apply s e) (js ++ [e])) {s : σ} {js es : List ε} (h : P s js) (hes : m.Licensed R s es) :
    P (m.fold s es) (js ++ es) := by
  induction es generalizing s js with
  | nil => simpa using h
  | cons e es ih =>
    have h' := ih (step s js e h hes.1) hes.2
    rwa [List.append_assoc] at h'

lemma fold_keeps {P : σ → Prop} (step : ∀ s e, P s → R s e → P (m.apply s e)) {s : σ}
    {es : List ε} (h : P s) (hes : m.Licensed R s es) : P (m.fold s es) := by
  induction es generalizing s with
  | nil => exact h
  | cons e es ih => exact ih (step s e h hes.1) hes.2

/-- The invariant rule for a run, in every state it passes through. -/
theorem prefix_inv {P : σ → List ε → Prop}
    (hdec : ∀ s i, C s i → m.Licensed R s (m.decide s i))
    (step : ∀ s js e, P s js → R s e → P (m.apply s e) (js ++ [e])) {s : σ} {is : List ι}
    {js : List ε} (h : P s []) (hC : m.Meets C s is) (hjs : js <+: m.journal s is) :
    P (m.fold s js) js := by
  obtain ⟨rest, hrest⟩ := hjs
  have hl := m.licensed_journal hdec hC
  rw [← hrest, licensed_append] at hl
  simpa using m.fold_inv step h hl.1

/-- The invariant rule for the state a run ends in. -/
theorem run_inv {P : σ → List ε → Prop} (hdec : ∀ s i, C s i → m.Licensed R s (m.decide s i))
    (step : ∀ s js e, P s js → R s e → P (m.apply s e) (js ++ [e])) {s : σ} {is : List ι}
    (h : P s []) (hC : m.Meets C s is) : P (m.run s is) (m.journal s is) := by
  rw [← fold_journal]
  exact m.prefix_inv hdec step h hC (List.prefix_refl _)

/-! ### What a fold gives off -/

/-- The outputs of a fold whose every event gives off some. -/
def emit (f : σ → ε → List α) (s : σ) : List ε → List α
  | [] => []
  | e :: es => f s e ++ emit f (m.apply s e) es

@[simp] lemma emit_nil (f : σ → ε → List α) (s : σ) : m.emit f s [] = [] := rfl
@[simp] lemma emit_cons (f : σ → ε → List α) (s : σ) (e : ε) (es : List ε) :
    m.emit f s (e :: es) = f s e ++ m.emit f (m.apply s e) es := rfl
lemma emit_append (f : σ → ε → List α) (s : σ) (es fs : List ε) :
    m.emit f s (es ++ fs) = m.emit f s es ++ m.emit f (m.fold s es) fs := by
  induction es generalizing s with
  | nil => rfl
  | cons e es ih => simp [ih]

lemma emit_snoc (f : σ → ε → List α) (s : σ) (es : List ε) (e : ε) :
    m.emit f s (es ++ [e]) = m.emit f s es ++ f (m.fold s es) e := by
  simp [emit_append]

/-! ### Runs that come to an end -/

/-- **The ranking rule**: if every step from a state that is not done lowers its rank, then a
state is done after as many steps as its rank. -/
theorem done_of_rank [Nonempty ι] (step : σ → ι → σ) (rank : σ → ℕ) (Inv Done : σ → Prop)
    (hinv : ∀ s i, Inv s → Inv (step s i)) (hdone : ∀ s i, Inv s → Done s → Done (step s i))
    (hrank : ∀ s i, Inv s → ¬ Done s → rank (step s i) < rank s) {s : σ} {is : List ι}
    (h : Inv s) (hlen : rank s ≤ is.length) : Done (is.foldl step s) := by
  have hstay : ∀ (is : List ι) (s : σ), Inv s → Done s → Done (is.foldl step s) := by
    intro is
    induction is with
    | nil => exact fun s _ hd => hd
    | cons i is ih => exact fun s hs hd => ih _ (hinv s i hs) (hdone s i hs hd)
  induction is generalizing s with
  | nil =>
    by_contra hd
    -- The rank is zero, yet a step would lower it.
    obtain ⟨i⟩ := ‹Nonempty ι›
    have hlt := hrank s i h hd
    simp only [List.length_nil] at hlen
    omega
  | cons i is ih =>
    by_cases hd : Done s
    · exact hstay _ s h hd
    · have hlt := hrank s i h hd
      simp only [List.length_cons] at hlen
      exact ih (hinv s i h) (by omega)

/-! ### Recovery -/

section Recovery

variable {π : Type*} [LinearOrder π]

/-- A machine some of whose inputs have a position, that keeps the position of the last of
these it answered. -/
structure Cursor (m : Machine σ ι ε) (π : Type*) [LinearOrder π] where
  position : ι → Option π
  cursor : σ → π
  /-- An answer to an input at a position moves the cursor there. -/
  moves : ∀ s i p, position i = some p → m.decide s i ≠ [] → cursor (m.step s i) = p
  /-- An answer to another input leaves the cursor where it is. -/
  stays : ∀ s i, position i = none → cursor (m.step s i) = cursor s
  /-- Other inputs never give an answer to an input at a position that had none. -/
  silent : ∀ s i j, position i ≠ none → position j = none → m.decide s i = [] →
    m.decide (m.step s j) i = []

variable {m} (c : Cursor m π)

namespace Cursor

/-- The inputs that are behind the cursor, and are redelivered to a machine in that state. -/
def behind (s : σ) (is : List ι) : List ι :=
  is.filter fun i => (c.position i).any (c.cursor s < ·)

lemma mem_behind {s : σ} {is : List ι} {i : ι} :
    i ∈ c.behind s is ↔ i ∈ is ∧ ∃ p, c.position i = some p ∧ c.cursor s < p := by
  simp [behind, Option.any_eq_true]

lemma step_eq_of_silent {s : σ} {i : ι} (h : m.decide s i = []) : m.step s i = s := by
  simp [step, h]

lemma run_silent {s : σ} {is : List ι} (h : ∀ i ∈ is, m.decide s i = []) :
    m.run s is = s ∧ m.journal s is = [] := by
  induction is with
  | nil => exact ⟨rfl, rfl⟩
  | cons i is ih =>
    have hi := h i List.mem_cons_self
    rw [run_cons, journal_cons, step_eq_of_silent hi, hi]
    exact ih fun j hj => h j (List.mem_cons_of_mem _ hj)

/-- The inputs behind the cursor were all left without an answer, and still are. -/
theorem behind_silent {s : σ} {is : List ι}
    (hpos : (is.filterMap c.position).Pairwise (· < ·)) :
    ∀ i ∈ c.behind (m.run s is) is, m.decide (m.run s is) i = [] := by
  induction is using List.reverseRecOn with
  | nil => intro i hi; simp [behind] at hi
  | append_singleton is j ih =>
    rw [List.filterMap_append, List.pairwise_append] at hpos
    obtain ⟨hpre, -, hlast⟩ := hpos
    have ih := ih hpre
    rw [run_append, run_cons, run_nil]
    intro i hi
    obtain ⟨hmem, p, hp, hlt⟩ := c.mem_behind.mp hi
    cases hj : c.position j with
    | none =>
      have hij : i ≠ j := by rintro rfl; rw [hp] at hj; cases hj
      have hi' : i ∈ is := by simpa [hij] using hmem
      rw [c.stays _ _ hj] at hlt
      refine c.silent _ i j (by simp [hp]) hj (ih i ?_)
      exact c.mem_behind.mpr ⟨hi', p, hp, hlt⟩
    | some q =>
      by_cases hs : m.decide (m.run s is) j = []
      · rw [step_eq_of_silent hs] at hlt ⊢
        rcases List.mem_append.mp hmem with hi' | hi'
        · exact ih i (c.mem_behind.mpr ⟨hi', p, hp, hlt⟩)
        · rw [List.mem_singleton.mp hi']
          exact hs
      · -- An answered input is the last one delivered, so nothing is behind it.
        rw [c.moves _ _ q hj hs] at hlt
        rcases List.mem_append.mp hmem with hi' | hi'
        · have hpq := hlast p (List.mem_filterMap.mpr ⟨i, hi', hp⟩) q (by simp [hj])
          exact absurd hlt hpq.not_gt
        · rw [List.mem_singleton.mp hi', hj] at hp
          cases hp
          exact absurd hlt (lt_irrefl _)

/-- **Recovery is exact**: the machine rebuilt from the journal of a run, and handed the
inputs behind its cursor again, journals nothing and is the machine that stopped. -/
theorem recover {s : σ} {is : List ι} (hpos : (is.filterMap c.position).Pairwise (· < ·)) :
    let recovered := m.fold s (m.journal s is)
    recovered = m.run s is ∧ m.journal recovered (c.behind recovered is) = [] ∧
      m.run recovered (c.behind recovered is) = m.run s is := by
  intro recovered
  have hr : recovered = m.run s is := m.fold_journal s is
  have h := run_silent (c.behind_silent hpos (s := s))
  rw [hr]
  exact ⟨rfl, h.2, h.1⟩

end Cursor

end Recovery

end Machine

end Blert

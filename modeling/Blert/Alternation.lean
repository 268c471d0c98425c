import Mathlib.Data.List.Basic
import Mathlib.Tactic

/-!
Sequences in which attempts are opened and closed one at a time.

An event opens an attempt under some key, closes one, or has nothing to do with attempts. In an
alternating sequence nothing is opened while an attempt is open, and only the open attempt is
closed. Between two openings there is then one closing, of what the first one opened.
-/

namespace Blert

/-- What an event means for the attempts under way. -/
inductive Mark (κ : Type*)
  | opens (key : κ)
  | closes (key : κ)
  | other

namespace Mark

variable {κ ε : Type*}

def isOpen : Mark κ → Bool
  | .opens _ => true
  | _ => false

def isClose : Mark κ → Bool
  | .closes _ => true
  | _ => false

def next (o : Option κ) : Mark κ → Option κ
  | .opens k => some k
  | .closes _ => none
  | .other => o

/-- An event that may happen while `o` is the open attempt. -/
def Fits (o : Option κ) : Mark κ → Prop
  | .opens _ => o = none
  | .closes k => o = some k
  | .other => True

variable (mark : ε → Mark κ)

/-- The open attempt after a sequence of events. -/
def after (o : Option κ) (es : List ε) : Option κ := es.foldl (fun o e => next o (mark e)) o

/-- Attempts are opened and closed one at a time. -/
def Alternates (o : Option κ) : List ε → Prop
  | [] => True
  | e :: es => Fits o (mark e) ∧ Alternates (next o (mark e)) es

@[simp] lemma after_nil (o : Option κ) : after mark o [] = o := rfl
@[simp] lemma after_cons (o : Option κ) (e : ε) (es : List ε) :
    after mark o (e :: es) = after mark (next o (mark e)) es := rfl
lemma after_append (o : Option κ) (es fs : List ε) :
    after mark o (es ++ fs) = after mark (after mark o es) fs := by
  simp [after]

@[simp] lemma alternates_nil (o : Option κ) : Alternates mark o [] := trivial
@[simp] lemma alternates_cons (o : Option κ) (e : ε) (es : List ε) :
    Alternates mark o (e :: es) ↔ Fits o (mark e) ∧ Alternates mark (next o (mark e)) es := Iff.rfl
lemma alternates_append (o : Option κ) (es fs : List ε) :
    Alternates mark o (es ++ fs) ↔
      Alternates mark o es ∧ Alternates mark (after mark o es) fs := by
  induction es generalizing o with
  | nil => simp
  | cons e es ih => simp [ih, and_assoc]

variable {mark}

lemma no_close_of_none {es : List ε} (h : Alternates mark none es)
    (hopen : ∀ e ∈ es, (mark e).isOpen = false) :
    es.filter (fun e => (mark e).isClose) = [] := by
  induction es with
  | nil => rfl
  | cons e es ih =>
    have he := hopen e List.mem_cons_self
    have hes : ∀ f ∈ es, (mark f).isOpen = false := fun f hf => hopen f (List.mem_cons_of_mem _ hf)
    obtain ⟨hfit, halt⟩ := h
    cases hm : mark e with
    | opens k => simp [hm, isOpen] at he
    | closes k => simp [hm, Fits] at hfit
    | other =>
      rw [hm] at halt
      simpa [hm, isClose] using ih halt hes

lemma close_of_some {es : List ε} {k : κ} (h : Alternates mark (some k) es)
    (hopen : ∀ e ∈ es, (mark e).isOpen = false) (hnone : after mark (some k) es = none) :
    ∃ e, es.filter (fun e => (mark e).isClose) = [e] ∧ mark e = .closes k := by
  induction es with
  | nil => cases hnone
  | cons e es ih =>
    have he := hopen e List.mem_cons_self
    have hes : ∀ f ∈ es, (mark f).isOpen = false := fun f hf => hopen f (List.mem_cons_of_mem _ hf)
    obtain ⟨hfit, halt⟩ := h
    rw [after_cons] at hnone
    cases hm : mark e with
    | opens k' => simp [hm, isOpen] at he
    | closes k' =>
      have hk : k = k' := by simpa [hm, Fits] using hfit
      subst hk
      rw [hm] at halt
      refine ⟨e, ?_, hm⟩
      have hnil := no_close_of_none halt hes
      simpa [hm, isClose] using hnil
    | other =>
      rw [hm] at halt hnone
      obtain ⟨f, hf, hfk⟩ := ih halt hes hnone
      exact ⟨f, by simpa [hm, isClose] using hf, hfk⟩

/-- **Between two openings** there is exactly one closing, and it closes what the first one
opened. -/
theorem between_opens {o : Option κ} {pre mid post : List ε} {e e' : ε} {k k' : κ}
    (h : Alternates mark o (pre ++ e :: (mid ++ e' :: post))) (he : mark e = .opens k)
    (he' : mark e' = .opens k') (hmid : ∀ f ∈ mid, (mark f).isOpen = false) :
    ∃ f, mid.filter (fun f => (mark f).isClose) = [f] ∧ mark f = .closes k := by
  obtain ⟨-, -, h⟩ := (alternates_append mark o pre _).mp h
  rw [he, alternates_append] at h
  obtain ⟨hm, hfit, -⟩ := h
  rw [he'] at hfit
  exact close_of_some hm hmid hfit

end Mark

end Blert

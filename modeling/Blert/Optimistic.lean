import Mathlib.Logic.Function.Basic
import Mathlib.Tactic

/-!
Transactions that are tried again when what they have read was changed.

A transaction reads keys of a store one after another and queues writes. At its end the writes are
made all at once, provided that every key it read still holds what it read there. One that has
queued nothing ends without that check, so that it may have seen a store that never was.
-/

namespace Blert.Optimistic

abbrev Store {κ : Type} (V : κ → Type) := ∀ k, V k

structure Write {κ : Type} (V : κ → Type) where
  key : κ
  change : V key → V key

/-- What a transaction does, each part chosen by what was read before it. -/
inductive Txn {κ : Type} (V : κ → Type) (ε α : Type)
  | pure (a : α)
  | fail (e : ε)
  | read (key : κ) (next : V key → Txn V ε α)
  | queue (w : Write V) (next : Txn V ε α)

variable {κ ε α β : Type} {V : κ → Type}

namespace Txn

def bind : Txn V ε α → (α → Txn V ε β) → Txn V ε β
  | pure a, f => f a
  | fail e, _ => fail e
  | read k next, f => read k fun v => (next v).bind f
  | queue w next, f => queue w (next.bind f)

instance : Monad (Txn V ε) where
  pure := Txn.pure
  bind := Txn.bind

def get (k : κ) : Txn V ε (V k) := read k pure

def put : List (Write V) → Txn V ε Unit
  | [] => pure ()
  | w :: ws => queue w (put ws)

/-- The result of a transaction, and the writes it queues, if all it reads is of one store. -/
def eval (s : Store V) : Txn V ε α → Except ε (α × List (Write V))
  | pure a => .ok (a, [])
  | fail e => .error e
  | read k next => (next (s k)).eval s
  | queue w next => (next.eval s).map fun r => (r.1, w :: r.2)

variable {s : Store V}

@[simp] lemma eval_pure (a : α) : (Pure.pure a : Txn V ε α).eval s = .ok (a, []) := rfl
@[simp] lemma eval_fail (e : ε) : (fail e : Txn V ε α).eval s = .error e := rfl
@[simp] lemma eval_get (k : κ) : (get k : Txn V ε (V k)).eval s = .ok (s k, []) := rfl

@[simp] lemma eval_put (ws : List (Write V)) : (put ws : Txn V ε Unit).eval s = .ok ((), ws) := by
  induction ws with
  | nil => rfl
  | cons w ws ih => simp [put, eval, ih, Except.map]

lemma eval_bind (t : Txn V ε α) (f : α → Txn V ε β) :
    (t >>= f).eval s =
      match t.eval s with
      | .error e => .error e
      | .ok (a, ws) => ((f a).eval s).map fun r => (r.1, ws ++ r.2) := by
  change (t.bind f).eval s = _
  induction t with
  | pure a => simp [bind, eval, Except.map]; cases (f a).eval s <;> rfl
  | fail e => rfl
  | read k next ih => exact ih (s k)
  | queue w next ih =>
    simp only [bind, eval, ih]
    cases next.eval s with
    | error e => rfl
    | ok r =>
      simp only [Except.map]
      cases (f r.1).eval s <;> rfl

/-! ### Attempts -/

abbrev Reads {κ : Type} (V : κ → Type) := List (Σ k, V k)

/-- A transaction gets, by some reads, to where it has queued some writes and has a rest to do. -/
def Leads : Txn V ε α → Reads V → List (Write V) → Txn V ε α → Prop
  | read k next, reads, ws, rest =>
    (reads = [] ∧ ws = [] ∧ rest = read k next) ∨
      ∃ v reads', reads = ⟨k, v⟩ :: reads' ∧ (next v).Leads reads' ws rest
  | queue w next, reads, ws, rest => ∃ ws', ws = w :: ws' ∧ next.Leads reads ws' rest
  | t, reads, ws, rest => reads = [] ∧ ws = [] ∧ rest = t

/-- The writes that a transaction queues before it reads or ends, and its rest. -/
def drain : Txn V ε α → List (Write V) × Txn V ε α
  | queue w next => (w :: next.drain.1, next.drain.2)
  | t => ([], t)

lemma leads_drain (t : Txn V ε α) : t.Leads [] t.drain.1 t.drain.2 := by
  induction t with
  | queue w next ih => exact ⟨next.drain.1, rfl, ih⟩
  | read k next => exact Or.inl ⟨rfl, rfl, rfl⟩
  | pure a => exact ⟨rfl, rfl, rfl⟩
  | fail e => exact ⟨rfl, rfl, rfl⟩

lemma Leads.read {t : Txn V ε α} {reads : Reads V} {ws : List (Write V)} {k : κ}
    {next : V k → Txn V ε α} (h : t.Leads reads ws (.read k next)) (v : V k) :
    t.Leads (reads ++ [⟨k, v⟩]) (ws ++ (next v).drain.1) (next v).drain.2 := by
  induction t generalizing reads ws with
  | pure a => cases h.2.2
  | fail e => cases h.2.2
  | queue w t ih =>
    obtain ⟨ws', rfl, h⟩ := h
    exact ⟨_, rfl, ih h⟩
  | read k' next' ih =>
    rcases h with ⟨rfl, rfl, heq⟩ | ⟨v', reads', rfl, h⟩
    · cases heq
      exact Or.inr ⟨v, [], rfl, leads_drain (next v)⟩
    · exact Or.inr ⟨v', _, rfl, ih v' h⟩

lemma Leads.eval {t : Txn V ε α} {reads : Reads V} {ws : List (Write V)} {rest : Txn V ε α}
    (h : t.Leads reads ws rest) (hs : ∀ r ∈ reads, s r.1 = r.2) :
    t.eval s = (rest.eval s).map fun r => (r.1, ws ++ r.2) := by
  induction t generalizing reads ws with
  | pure a =>
    obtain ⟨rfl, rfl, rfl⟩ := h
    rfl
  | fail e =>
    obtain ⟨rfl, rfl, rfl⟩ := h
    rfl
  | queue w t ih =>
    obtain ⟨ws', rfl, h⟩ := h
    rw [Txn.eval, ih h hs]
    cases rest.eval s <;> rfl
  | read k next ih =>
    rcases h with ⟨rfl, rfl, rfl⟩ | ⟨v, reads', rfl, h⟩
    · simp only [List.nil_append]
      cases (Txn.read k next).eval s <;> rfl
    · have hv : s k = v := hs ⟨k, v⟩ List.mem_cons_self
      rw [Txn.eval, hv]
      exact ih v h fun r hr => hs r (List.mem_cons_of_mem _ hr)

def Total : Txn V ε α → Prop
  | pure _ => True
  | fail _ => False
  | read _ next => ∀ v, (next v).Total
  | queue _ next => next.Total

lemma Total.bind {t : Txn V ε α} {f : α → Txn V ε β} (h : t.Total) (hf : ∀ a, (f a).Total) :
    (t >>= f).Total := by
  change (t.bind f).Total
  induction t with
  | pure a => exact hf a
  | fail e => cases h
  | read k next ih => exact fun v => ih v (h v)
  | queue w next ih => exact ih h

lemma total_get (k : κ) : (get k : Txn V ε (V k)).Total := fun _ => trivial

lemma total_put (ws : List (Write V)) : (put ws : Txn V ε Unit).Total := by
  induction ws with
  | nil => trivial
  | cons w ws ih => exact ih

lemma Leads.total {t rest : Txn V ε α} {reads : Reads V} {ws : List (Write V)}
    (h : t.Leads reads ws rest) (ht : t.Total) : rest.Total := by
  induction t generalizing reads ws with
  | pure a =>
    obtain ⟨-, -, rfl⟩ := h
    exact ht
  | fail e => cases ht
  | queue w t ih =>
    obtain ⟨ws', -, h⟩ := h
    exact ih h ht
  | read k next ih =>
    rcases h with ⟨-, -, rfl⟩ | ⟨v, reads', -, h⟩
    · exact ht
    · exact ih v h (ht v)

lemma leads_bind {t : Txn V ε α} {f : α → Txn V ε β} {reads : Reads V} {ws : List (Write V)}
    {b : β} (h : (t >>= f).Leads reads ws (.pure b)) :
    ∃ a reads₁ reads₂ ws₁ ws₂, reads = reads₁ ++ reads₂ ∧ ws = ws₁ ++ ws₂ ∧
      t.Leads reads₁ ws₁ (.pure a) ∧ (f a).Leads reads₂ ws₂ (.pure b) := by
  change (t.bind f).Leads reads ws (.pure b) at h
  induction t generalizing reads ws with
  | pure a => exact ⟨a, [], reads, [], ws, rfl, rfl, ⟨rfl, rfl, rfl⟩, h⟩
  | fail e => cases h.2.2
  | queue w t ih =>
    obtain ⟨ws', rfl, h⟩ := h
    obtain ⟨a, r₁, r₂, w₁, w₂, rfl, rfl, h₁, h₂⟩ := ih h
    exact ⟨a, r₁, r₂, w :: w₁, w₂, rfl, rfl, ⟨w₁, rfl, h₁⟩, h₂⟩
  | read k next ih =>
    rcases h with ⟨-, -, heq⟩ | ⟨v, reads', rfl, h⟩
    · cases heq
    · obtain ⟨a, r₁, r₂, w₁, w₂, rfl, rfl, h₁, h₂⟩ := ih v h
      exact ⟨a, ⟨k, v⟩ :: r₁, r₂, w₁, w₂, rfl, rfl, Or.inr ⟨v, r₁, rfl, h₁⟩, h₂⟩

lemma leads_get {k : κ} {v : V k} {reads : Reads V} {ws : List (Write V)}
    (h : (get k : Txn V ε (V k)).Leads reads ws (.pure v)) : reads = [⟨k, v⟩] ∧ ws = [] := by
  rcases h with ⟨-, -, heq⟩ | ⟨v', reads', rfl, rfl, rfl, heq⟩
  · cases heq
  · cases heq
    exact ⟨rfl, rfl⟩

lemma leads_put {ws ws' : List (Write V)} {reads : Reads V} {u : Unit}
    (h : (put ws : Txn V ε Unit).Leads reads ws' (.pure u)) : reads = [] ∧ ws' = ws := by
  induction ws generalizing ws' with
  | nil => exact ⟨h.1, h.2.1⟩
  | cons w ws ih =>
    obtain ⟨ws'', rfl, h⟩ := h
    obtain ⟨rfl, rfl⟩ := ih h
    exact ⟨rfl, rfl⟩

lemma leads_put_bind {ws ws' : List (Write V)} {f : Unit → Txn V ε β} {reads : Reads V} {b : β}
    (h : (put ws >>= f).Leads reads ws' (.pure b)) (hws : ws ≠ []) : ws' ≠ [] := by
  obtain ⟨u, r₁, r₂, w₁, w₂, rfl, rfl, hput, -⟩ := leads_bind h
  rw [(leads_put hput).2]
  exact List.append_ne_nil_of_left_ne_nil hws _

lemma leads_pure {a b : α} {reads : Reads V} {ws : List (Write V)}
    (h : (Pure.pure a : Txn V ε α).Leads reads ws (.pure b)) : reads = [] ∧ ws = [] ∧ b = a := by
  obtain ⟨rfl, rfl, heq⟩ := h
  cases heq
  exact ⟨rfl, rfl, rfl⟩

end Txn

/-- An attempt at a transaction: what it has read and queued, and what it has yet to do. -/
structure Attempt (t : Txn V ε α) where
  reads : Txn.Reads V
  queued : List (Write V)
  rest : Txn V ε α
  leads : t.Leads reads queued rest

namespace Attempt

variable {t : Txn V ε α}

def start (t : Txn V ε α) : Attempt t where
  reads := []
  queued := t.drain.1
  rest := t.drain.2
  leads := t.leads_drain

@[simp] lemma reads_start (t : Txn V ε α) : (start t).reads = [] := rfl

def read (a : Attempt t) (s : Store V) : Attempt t :=
  match h : a.rest with
  | .read k next =>
    { reads := a.reads ++ [⟨k, s k⟩]
      queued := a.queued ++ (next (s k)).drain.1
      rest := (next (s k)).drain.2
      leads := (h ▸ a.leads : t.Leads a.reads a.queued (.read k next)).read (s k) }
  | _ => a

/-- The result of an attempt that has nothing left to do, and its writes. -/
def outcome (a : Attempt t) : Option (Except ε (α × List (Write V))) :=
  match a.rest with
  | .pure x => some (.ok (x, a.queued))
  | .fail e => some (.error e)
  | _ => none

/-- Every key that was read holds what was read there. -/
def Valid (a : Attempt t) (s : Store V) : Prop := ∀ r ∈ a.reads, s r.1 = r.2

instance [∀ k, DecidableEq (V k)] (a : Attempt t) (s : Store V) : Decidable (a.Valid s) :=
  inferInstanceAs (Decidable (∀ r ∈ a.reads, s r.1 = r.2))

lemma mem_read {a : Attempt t} {s : Store V} {r : Σ k, V k} (h : r ∈ (a.read s).reads) :
    r ∈ a.reads ∨ r = ⟨r.1, s r.1⟩ := by
  unfold read at h
  split at h
  · rcases List.mem_append.mp h with h | h
    · exact Or.inl h
    · rw [List.mem_singleton] at h
      subst h
      exact Or.inr rfl
  · exact Or.inl h

lemma eval_of_valid {a : Attempt t} {s : Store V} {o : Except ε (α × List (Write V))}
    (h : a.outcome = some o) (hv : a.Valid s) : t.eval s = o := by
  have heval := a.leads.eval hv
  unfold outcome at h
  split at h
  · rename_i x hrest
    rw [hrest] at heval
    simpa [Txn.eval, Except.map, ← Option.some.inj h] using heval
  · rename_i e hrest
    rw [hrest] at heval
    simpa [Txn.eval, Except.map, ← Option.some.inj h] using heval
  · cases h

end Attempt

section Writes

variable [DecidableEq κ]

def Write.apply (w : Write V) (s : Store V) : Store V :=
  Function.update s w.key (w.change (s w.key))

def applyAll (ws : List (Write V)) (s : Store V) : Store V := ws.foldl (fun s w => w.apply s) s

@[simp] lemma applyAll_nil (s : Store V) : applyAll [] s = s := rfl

@[simp] lemma applyAll_cons (w : Write V) (ws : List (Write V)) (s : Store V) :
    applyAll (w :: ws) s = applyAll ws (w.apply s) := rfl

lemma applyAll_append (ws ws' : List (Write V)) (s : Store V) :
    applyAll (ws ++ ws') s = applyAll ws' (applyAll ws s) := by
  simp [applyAll, List.foldl_append]

lemma Write.apply_of_ne {w : Write V} {k : κ} (h : k ≠ w.key) (s : Store V) : w.apply s k = s k :=
  Function.update_of_ne h _ _

lemma applyAll_of_ne {ws : List (Write V)} {k : κ} (h : ∀ w ∈ ws, w.key ≠ k) (s : Store V) :
    applyAll ws s k = s k := by
  induction ws generalizing s with
  | nil => rfl
  | cons w ws ih =>
    rw [applyAll_cons, ih fun w' hw' => h w' (List.mem_cons_of_mem _ hw')]
    exact Write.apply_of_ne (Ne.symm (h w List.mem_cons_self)) s

end Writes

/-- How an attempt goes on: it is still at work, or it has ended and left a store. -/
inductive Advance (t : Txn V ε α)
  | running (a : Attempt t)
  | ended (result : Except ε α) (s : Store V)

namespace Attempt

variable [DecidableEq κ] [∀ k, DecidableEq (V k)] {t : Txn V ε α}

/-- Reads the next key, or ends an attempt that has read all. One whose writes can no longer be made
starts over. -/
def advance (a : Attempt t) (s : Store V) : Advance t :=
  match a.outcome with
  | none => .running (a.read s)
  | some (.ok (x, ws)) =>
    if ws.isEmpty ∨ a.Valid s then .ended (.ok x) (applyAll ws s) else .running (start t)
  | some (.error e) => .ended (.error e) s

/-- An attempt that has made writes has done what the transaction alone would do; one that has made
none leaves the store as it is. -/
lemma ended_cases {a : Attempt t} {s s' : Store V} {r : Except ε α}
    (h : a.advance s = .ended r s') :
    (∃ x ws, r = .ok x ∧ ws ≠ [] ∧ t.eval s = .ok (x, ws) ∧ s' = applyAll ws s) ∨
    (∃ x, r = .ok x ∧ t.Leads a.reads [] (.pure x) ∧ s' = s) ∨
    ∃ e, r = .error e ∧ ¬t.Total ∧ s' = s := by
  unfold advance at h
  split at h
  · cases h
  · rename_i x ws hout
    split_ifs at h with hok
    cases h
    cases ws with
    | nil =>
      refine Or.inr (Or.inl ⟨x, rfl, ?_, rfl⟩)
      have hleads := a.leads
      unfold outcome at hout
      split at hout
      · rename_i y hrest
        simp only [Option.some.injEq, Except.ok.injEq, Prod.mk.injEq] at hout
        rwa [hrest, hout.1, hout.2] at hleads
      · cases hout
      · cases hout
    | cons w ws =>
      exact Or.inl ⟨x, w :: ws, rfl, by simp, eval_of_valid hout (hok.resolve_left (by simp)), rfl⟩
  · rename_i e hout
    cases h
    refine Or.inr (Or.inr ⟨_, rfl, fun ht => ?_, rfl⟩)
    have hrest := a.leads.total ht
    unfold outcome at hout
    split at hout
    · cases hout
    · rename_i e' heq
      rw [heq] at hrest
      exact hrest
    · cases hout

lemma mem_running {a a' : Attempt t} {s : Store V} (h : a.advance s = .running a')
    {r : Σ k, V k} (hr : r ∈ a'.reads) : r ∈ a.reads ∨ r = ⟨r.1, s r.1⟩ := by
  unfold advance at h
  split at h
  · cases h
    exact mem_read hr
  · split_ifs at h
    cases h
    cases hr
  · cases h

end Attempt

end Blert.Optimistic

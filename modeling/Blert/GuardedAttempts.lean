import Blert.ReadCommitted

/-!
Repeated attempts at one piece of work, each a transaction that first checks a guard.

The guard reads what an earlier attempt recorded. It is checked once, when an attempt begins:
nothing stops an attempt whose guard passed from going on after another has committed.
-/

namespace Blert.ReadCommitted

variable {ι D C L ε ρ γ : Type} [Storage D C L]

/-- What an attempt returns: what it found recorded, or what it did itself. -/
inductive Reply (ρ : Type)
  | alreadyApplied (r : ρ)
  | applied (r : ρ)
  deriving DecidableEq

def Reply.payload : Reply ρ → ρ
  | .alreadyApplied r => r
  | .applied r => r

/-- A guard, which yields what was recorded or lets the work begin, and each attempt's work. -/
structure Guarded (ι D C ε ρ γ : Type) where
  guard : D → Except ε (ρ ⊕ γ)
  work : ι → γ → Program D C ε ρ

namespace Guarded

variable (G : Guarded ι D C ε ρ γ)

def proceed (i : ι) : ρ ⊕ γ → Program D C ε (Reply ρ)
  | .inl r => .pure (.alreadyApplied r)
  | .inr g => (G.work i g).map .applied

def attempt (i : ι) : Program D C ε (Reply ρ) :=
  .statement (fun db => (G.guard db).map (·, [])) (G.proceed i)

def Passes (db : D) : Prop := ∃ g, G.guard db = .ok (.inr g)

/-- Whatever the guard reads in a database, it is that this was recorded. -/
def Recorded (r : ρ) (db : D) : Prop := ∀ x, G.guard db = .ok x → x = .inl r

/-- Work that succeeds leaves its result for the guard to find. -/
def Seals : Prop :=
  ∀ i db g r cs, G.guard db = .ok (.inr g) → (G.work i g).exec db = .ok (r, cs) →
    G.Recorded r (applyAll cs db)

/-- Going on with `rest` has no further effect and no other result. -/
def Harmless (db : D) (done : List C) (rest : Program D C ε ρ) (r : ρ) : Prop :=
  ∀ r' cs, rest.exec (applyAll done db) = .ok (r', cs) →
    r' = r ∧ applyAll (done ++ cs) db = db

/-- Once one attempt has committed its work, another that shares no lock with it and whose
guard passed before can only finish without effect. -/
def OverlapSafe (db : D) : Prop :=
  ∀ i j g r cs done rest, G.guard db = .ok (.inr g) → (G.work i g).exec db = .ok (r, cs) →
    Reaches (G.work j g) db done rest → (locksOf D done).Disjoint (locksOf D cs) →
    Harmless (applyAll cs db) done rest r

/-- The database is as some one attempt alone leaves it, and whatever attempt returned,
returned what that one did; or no attempt has returned and nothing has changed. -/
def Once (db : D) (s : System ι D C ε (Reply ρ)) : Prop :=
  (s.db = db ∧ ∀ i a, s.txn i ≠ .committed a) ∨
  ∃ k a cs, (G.attempt k).exec db = .ok (a, cs) ∧ s.db = applyAll cs db ∧
    ∀ i b, s.txn i = .committed b → b.payload = a.payload

/-- Between the two states no attempt commits work of its own once the guard has stopped
passing. -/
def CommitsUnderGuard (s s' : System ι D C ε (Reply ρ)) : Prop :=
  ∀ i r, s'.txn i = .committed (.applied r) → s.txn i = .committed (.applied r) ∨ G.Passes s.db

/-! ### What an attempt has done so far -/

/-- An attempt on a database nobody has changed: it has not begun, has found an earlier
result, or is at work. -/
inductive Early (db : D) (i : ι) : List C → Program D C ε (Reply ρ) → Prop
  | start : Early db i [] (G.attempt i)
  | already {r} : G.guard db = .ok (.inl r) → Early db i [] (.pure (.alreadyApplied r))
  | working {g done rest} : G.guard db = .ok (.inr g) → Reaches (G.work i g) db done rest →
      Early db i done (rest.map .applied)

/-- An attempt on a database on which `r` was recorded: if it was at work when that happened,
it goes on with it. -/
inductive Late (db : D) (safe : Prop) (i : ι) (r : ρ) :
    List C → Program D C ε (Reply ρ) → Prop
  | start : Late db safe i r [] (G.attempt i)
  | already : Late db safe i r [] (.pure (.alreadyApplied r))
  | working {done rest} : (safe → Harmless db done rest r) →
      Late db safe i r done (rest.map .applied)

variable {G}

lemma Early.step {db : D} {i : ι} {done cs : List C} {β : Type}
    {run : D → Except ε (β × List C)} {next : β → Program D C ε (Reply ρ)} {b : β}
    (h : G.Early db i done (.statement run next)) (hrun : run (applyAll done db) = .ok (b, cs)) :
    G.Early db i (done ++ cs) (next b) := by
  generalize hp : Program.statement run next = p at h
  cases h with
  | start =>
    cases hp
    cases hg : G.guard db with
    | error e => simp [hg, Except.map] at hrun
    | ok x =>
      simp only [applyAll_nil, hg, Except.map, Except.ok.injEq, Prod.mk.injEq] at hrun
      obtain ⟨rfl, rfl⟩ := hrun
      cases x with
      | inl r => exact .already hg
      | inr g => exact .working hg .start
  | already => cases hp
  | @working g _ rest hg hr =>
    cases rest with
    | pure a => cases hp
    | fail e => cases hp
    | statement run' next' =>
      cases hp
      exact .working hg (hr.statement hrun)

lemma Late.step {db : D} {safe : Prop} {i : ι} {r : ρ} {done cs : List C} {β : Type}
    {run : D → Except ε (β × List C)} {next : β → Program D C ε (Reply ρ)} {b : β}
    (hrec : G.Recorded r db) (h : G.Late db safe i r done (.statement run next))
    (hrun : run (applyAll done db) = .ok (b, cs)) : G.Late db safe i r (done ++ cs) (next b) := by
  generalize hp : Program.statement run next = p at h
  cases h with
  | start =>
    cases hp
    cases hg : G.guard db with
    | error e => simp [hg, Except.map] at hrun
    | ok x =>
      simp only [applyAll_nil, hg, Except.map, Except.ok.injEq, Prod.mk.injEq] at hrun
      obtain ⟨rfl, rfl⟩ := hrun
      rw [hrec x hg]
      exact .already
  | already => cases hp
  | @working _ rest hw =>
    cases rest with
    | pure a => cases hp
    | fail e => cases hp
    | statement run' next' =>
      cases hp
      refine .working fun hs r' cs' hexec => ?_
      rw [applyAll_append] at hexec
      rw [List.append_assoc]
      exact hw hs r' (cs ++ cs') (Program.exec_statement_ok.mpr ⟨b, cs, cs', hrun, hexec, rfl⟩)

lemma Early.finished {db : D} {i : ι} {done : List C} {a : Reply ρ}
    (h : G.Early db i done (.pure a)) :
    (∃ r, a = .alreadyApplied r ∧ G.guard db = .ok (.inl r) ∧ done = []) ∨
      ∃ g r, a = .applied r ∧ G.guard db = .ok (.inr g) ∧ (G.work i g).exec db = .ok (r, done) := by
  generalize hp : Program.pure a = p at h
  cases h with
  | start => cases hp
  | already hg =>
    cases hp
    exact Or.inl ⟨_, rfl, hg, rfl⟩
  | @working g _ rest hg hr =>
    cases rest with
    | statement run next => cases hp
    | fail e => cases hp
    | pure r =>
      cases hp
      have hw := hr.exec (show _ = Except.ok (r, []) from rfl)
      rw [List.append_nil] at hw
      exact Or.inr ⟨g, r, rfl, hg, hw⟩

lemma Late.finished {db : D} {safe : Prop} {i : ι} {r : ρ} {done : List C} {a : Reply ρ}
    (h : G.Late db safe i r done (.pure a)) :
    (a = .alreadyApplied r ∧ done = []) ∨
      ∃ r', a = .applied r' ∧ (safe → r' = r ∧ applyAll done db = db) := by
  generalize hp : Program.pure a = p at h
  cases h with
  | start => cases hp
  | already => cases hp; exact Or.inl ⟨rfl, rfl⟩
  | @working _ rest hw =>
    cases rest with
    | statement run next => cases hp
    | fail e => cases hp
    | pure r' =>
      cases hp
      refine Or.inr ⟨r', rfl, fun hs => ?_⟩
      have hq := hw hs r' [] rfl
      rwa [List.append_nil] at hq

lemma exec_attempt_already {db : D} (i : ι) {r : ρ} (hg : G.guard db = .ok (.inl r)) :
    (G.attempt i).exec db = .ok (.alreadyApplied r, []) :=
  Program.exec_statement_ok.mpr ⟨.inl r, [], [], by rw [hg]; rfl, rfl, rfl⟩

lemma exec_attempt_applied {db : D} {i : ι} {g : γ} {r : ρ} {cs : List C}
    (hg : G.guard db = .ok (.inr g)) (hw : (G.work i g).exec db = .ok (r, cs)) :
    (G.attempt i).exec db = .ok (.applied r, cs) :=
  Program.exec_statement_ok.mpr ⟨.inr g, [], cs, by rw [hg]; rfl, Program.exec_map hw, rfl⟩

lemma Early.late {db : D} {safe : Prop} (hsafe : safe → G.OverlapSafe db) {i j : ι} {g : γ}
    {r : ρ} {cs done : List C} {rest : Program D C ε (Reply ρ)}
    (hg : G.guard db = .ok (.inr g)) (hw : (G.work i g).exec db = .ok (r, cs))
    (h : G.Early db j done rest) (hfree : (locksOf D done).Disjoint (locksOf D cs)) :
    G.Late (applyAll cs db) safe j r done rest := by
  cases h with
  | start => exact .start
  | already hg' =>
    rw [hg] at hg'
    cases hg'
  | working hg' hr =>
    rw [hg] at hg'
    cases hg'
    exact .working fun hs => hsafe hs i j g r cs done _ hg hw hr hfree

/-! ### What holds between steps -/

def Exclusive (s : System ι D C ε (Reply ρ)) : Prop :=
  ∀ i j done done' rest rest', i ≠ j → s.txn i = .running done rest →
    s.txn j = .running done' rest' → (locksOf D done).Disjoint (locksOf D done')

variable (G)

/-- A transaction before any work is committed. -/
def EarlyTxn (db : D) (i : ι) : Txn D C ε (Reply ρ) → Prop
  | .running done rest => G.Early db i done rest
  | .committed a => ∃ r, a = .alreadyApplied r ∧ G.guard db = .ok (.inl r)
  | .rolledBack => True

def LateTxn (db : D) (safe : Prop) (r : ρ) (i : ι) : Txn D C ε (Reply ρ) → Prop
  | .running done rest => G.Late db safe i r done rest
  | .committed a => a.payload = r
  | .rolledBack => True

/-- Before any work is committed every attempt is early; afterwards every attempt is late. -/
inductive Inv (db : D) (safe : Prop) (s : System ι D C ε (Reply ρ)) : Prop
  | early (hdb : s.db = db) (htxn : ∀ i, G.EarlyTxn db i (s.txn i))
  | late {k r cs} (hexec : (G.attempt k).exec db = .ok (.applied r, cs))
      (hdb : s.db = applyAll cs db) (hrec : G.Recorded r s.db)
      (htxn : ∀ i, G.LateTxn s.db safe r i (s.txn i))

variable {G}

variable [DecidableEq ι]

lemma exclusive_set {s : System ι D C ε (Reply ρ)} (h : Exclusive s) {i : ι}
    {t : Txn D C ε (Reply ρ)}
    (ht : ∀ done rest, t = .running done rest → ∀ j done' rest', j ≠ i →
      s.txn j = .running done' rest' → (locksOf D done').Disjoint (locksOf D done)) :
    Exclusive (s.set i t) := by
  intro a b done done' rest rest' hab ha hb
  simp only [System.set] at ha hb
  by_cases hai : a = i
  · subst hai
    rw [Function.update_self] at ha
    rw [Function.update_of_ne (Ne.symm hab)] at hb
    exact (ht done rest ha b done' rest' (Ne.symm hab) hb).symm
  · rw [Function.update_of_ne hai] at ha
    by_cases hbi : b = i
    · subst hbi
      rw [Function.update_self] at hb
      exact ht done' rest' hb a done rest hai ha
    · rw [Function.update_of_ne hbi] at hb
      exact h a b done done' rest rest' hab ha hb

lemma exclusive_step {s s' : System ι D C ε (Reply ρ)} (h : Exclusive s) (hstep : Step s s') :
    Exclusive s' := by
  cases hstep with
  | @statement i done _ run next b cs hi hrun hfree =>
    refine exclusive_set h ?_
    rintro _ _ ⟨⟩ j done' rest' hj hjr
    rw [locksOf_append]
    exact List.disjoint_append_right.mpr
      ⟨h j i done' done rest' _ hj hjr hi, hfree j done' rest' hj hjr⟩
  | commit hi => exact exclusive_set h (by rintro _ _ ⟨⟩)
  | rollback hi => exact exclusive_set h (by rintro _ _ ⟨⟩)

lemma forall_set {s : System ι D C ε (Reply ρ)} {P : ι → Txn D C ε (Reply ρ) → Prop}
    (h : ∀ j, P j (s.txn j)) {i : ι} {t : Txn D C ε (Reply ρ)} (ht : P i t) (j : ι) :
    P j ((s.set i t).txn j) := by
  simp only [System.set]
  by_cases hj : j = i
  · subst hj
    rwa [Function.update_self]
  · rw [Function.update_of_ne hj]
    exact h j

lemma inv_step_early {db : D} {safe : Prop} (hseal : G.Seals) (hsafe : safe → G.OverlapSafe db)
    {s s' : System ι D C ε (Reply ρ)} (hex : Exclusive s) (hdb : s.db = db)
    (htxn : ∀ i, G.EarlyTxn db i (s.txn i)) (hstep : Step s s') : G.Inv db safe s' := by
  cases hstep with
  | @statement i done _ run next b cs hi hr hfree =>
    have h := htxn i
    rw [hi] at h
    rw [hdb] at hr
    exact .early hdb (forall_set htxn (Early.step h hr))
  | @commit i done a hi =>
    have h := htxn i
    rw [hi] at h
    rcases Early.finished h with ⟨r, rfl, hg, rfl⟩ | ⟨g, r, rfl, hg, hw⟩
    · -- an attempt that found an earlier result changes nothing
      exact .early hdb (forall_set htxn ⟨r, rfl, hg⟩)
    · have hrec := hseal i db g r done hg hw
      rw [← hdb] at hrec
      refine .late (exec_attempt_applied hg hw) (by rw [← hdb]) hrec fun j => ?_
      by_cases hji : j = i
      · subst hji
        simp [System.set, LateTxn, Reply.payload]
      · simp only [System.set, Function.update_of_ne hji]
        have hj := htxn j
        cases hjt : s.txn j with
        | running done' rest' =>
          rw [hjt] at hj
          have hfree := hex j i done' done rest' _ hji hjt hi
          simp only [hdb]
          exact Early.late hsafe hg hw hj hfree
        | committed a =>
          rw [hjt] at hj
          obtain ⟨r', -, hg'⟩ := hj
          rw [hg] at hg'
          cases hg'
        | rolledBack => trivial
  | rollback => exact .early hdb (forall_set htxn trivial)

lemma inv_step_late {db : D} {safe : Prop} {s s' : System ι D C ε (Reply ρ)} {k : ι} {r : ρ}
    {cs : List C} (hexec : (G.attempt k).exec db = .ok (.applied r, cs))
    (hdb : s.db = applyAll cs db) (hrec : G.Recorded r s.db)
    (htxn : ∀ i, G.LateTxn s.db safe r i (s.txn i))
    (hstep : Step s s') (hmeets : safe ∨ G.CommitsUnderGuard s s') : G.Inv db safe s' := by
  cases hstep with
  | @statement i done _ run next b cs hi hr hfree =>
    have h := htxn i
    rw [hi] at h
    exact .late hexec hdb hrec (forall_set htxn (Late.step hrec h hr))
  | @commit i done a hi =>
    have h := htxn i
    rw [hi] at h
    have hquiet : a.payload = r ∧ applyAll done s.db = s.db := by
      rcases Late.finished h with ⟨rfl, rfl⟩ | ⟨r', rfl, hw⟩
      · exact ⟨rfl, rfl⟩
      · refine hw (hmeets.resolve_right fun hm => ?_)
        -- the guard does not pass on a database where the work is recorded
        rcases hm i r' (by simp [System.set]) with hi' | ⟨g, hg⟩
        · rw [hi'] at hi
          cases hi
        · cases hrec _ hg
    refine .late hexec (hquiet.2.trans hdb) (by rwa [← hquiet.2] at hrec) ?_
    rw [hquiet.2]
    exact forall_set htxn hquiet.1
  | rollback => exact .late hexec hdb hrec (forall_set htxn trivial)

omit [DecidableEq ι] in
lemma Inv.once {db : D} {safe : Prop} {s : System ι D C ε (Reply ρ)} (h : G.Inv db safe s) :
    G.Once db s := by
  cases h with
  | early hdb htxn =>
    by_cases hany : ∃ i a, s.txn i = .committed a
    · obtain ⟨k, a, hk⟩ := hany
      have hkt := htxn k
      rw [hk] at hkt
      obtain ⟨r, rfl, hg⟩ := hkt
      refine Or.inr ⟨k, _, [], exec_attempt_already k hg, hdb, fun i b hi => ?_⟩
      have hit := htxn i
      rw [hi] at hit
      obtain ⟨r', rfl, hg'⟩ := hit
      rw [hg] at hg'
      cases hg'
      rfl
    · exact Or.inl ⟨hdb, fun i a hi => hany ⟨i, a, hi⟩⟩
  | late hexec hdb hrec htxn =>
    refine Or.inr ⟨_, _, _, hexec, hdb, fun i b hi => ?_⟩
    have hit := htxn i
    rwa [hi] at hit

/-- **Attempts at one piece of work take effect once**, whatever the order of their statements:
if their overlap is safe, or none commits its work after the guard has stopped passing. -/
theorem once_of_run {db : D} {safe : Prop} (hseal : G.Seals) (hsafe : safe → G.OverlapSafe db)
    {s : System ι D C ε (Reply ρ)}
    (hrun : Run (fun s s' => safe ∨ G.CommitsUnderGuard s s') (.start G.attempt db) s) :
    G.Once db s := by
  have hinv : Exclusive s ∧ G.Inv db safe s := by
    induction hrun with
    | refl =>
      refine ⟨fun i j done done' rest rest' _ hi hj => ?_, .early rfl fun i => .start⟩
      cases hi
      exact List.disjoint_nil_left _
    | tail _ hstep ih =>
      obtain ⟨hex, hinv⟩ := ih
      refine ⟨exclusive_step hex hstep.1, ?_⟩
      cases hinv with
      | early hdb htxn => exact inv_step_early hseal hsafe hex hdb htxn hstep.1
      | late hexec hdb hrec htxn =>
        exact inv_step_late hexec hdb hrec htxn hstep.1 hstep.2
  exact hinv.2.once

end Guarded

/-! ### Safe overlap: repeating the same work -/

lemma Reaches.first {α β : Type} {run : D → Except ε (β × List C)}
    {next : β → Program D C ε α} {db : D} {done : List C} {rest : Program D C ε α}
    (h : Reaches (.statement run next) db done rest) :
    (done = [] ∧ rest = .statement run next) ∨
      ∃ b cs₁ cs₂, run db = .ok (b, cs₁) ∧ done = cs₁ ++ cs₂ := by
  induction h with
  | start => exact Or.inl ⟨rfl, rfl⟩
  | @statement done _ run' next' b cs _ hrun ih =>
    rcases ih with ⟨rfl, hrest⟩ | ⟨b₁, cs₁, cs₂, hrun₁, rfl⟩
    · cases hrest
      exact Or.inr ⟨b, cs, [], hrun, by simp⟩
    · exact Or.inr ⟨b₁, cs₁, cs₂ ++ cs, hrun₁, by simp⟩

/-- Attempts that all do the same, whose first statement takes a lock and whose work leaves
nothing to change when done again. -/
theorem Guarded.overlapSafe_of_repeatable {G : Guarded ι D C ε ρ γ} {db : D} {β : Type}
    {run : γ → D → Except ε (β × List C)} {next : γ → β → Program D C ε ρ}
    (hwork : ∀ i g, G.guard db = .ok (.inr g) → G.work i g = .statement (run g) (next g))
    (hlock : ∀ g b cs₁ r cs₂, G.guard db = .ok (.inr g) → run g db = .ok (b, cs₁) →
      (next g b).exec (applyAll cs₁ db) = .ok (r, cs₂) → locksOf D cs₁ ≠ [])
    (hagain : ∀ i g r cs r' cs', G.guard db = .ok (.inr g) → (G.work i g).exec db = .ok (r, cs) →
      (G.work i g).exec (applyAll cs db) = .ok (r', cs') →
      r' = r ∧ applyAll cs' (applyAll cs db) = applyAll cs db) :
    G.OverlapSafe db := by
  intro i j g r cs done rest hg hw hreach hfree r' cs' hexec
  rw [hwork j g hg] at hreach
  rcases hreach.first with ⟨rfl, rfl⟩ | ⟨b, cs₁, cs₂, hrun, rfl⟩
  · -- the other has not begun its first statement
    rw [applyAll_nil, ← hwork i g hg] at hexec
    exact hagain i g r cs r' cs' hg hw hexec
  · -- it has, and holds the lock that the committed work took there
    rw [hwork i g hg] at hw
    obtain ⟨b', cs₁', cs₂', hrun', hnext, rfl⟩ := Program.exec_statement_ok.mp hw
    rw [hrun] at hrun'
    cases hrun'
    obtain ⟨ℓ, hℓ⟩ := List.exists_mem_of_ne_nil _ (hlock g b cs₁ r cs₂' hg hrun hnext)
    rw [locksOf_append, locksOf_append] at hfree
    exact absurd (List.mem_append_left _ hℓ) (hfree (List.mem_append_left _ hℓ))

/-! ### Safe overlap: a unique entry -/

namespace Program

variable {α β : Type}

/-- Every way through the program puts an entry where there must be none, under a lock. -/
def Inserts (K : D → Prop) (ℓ : L) : Program D C ε α → Prop
  | pure _ => False
  | fail _ => True
  | statement run next => ∀ db b cs, run db = .ok (b, cs) →
    (¬ K db ∧ ℓ ∈ locksOf D cs) ∨ ((∀ c ∈ cs, Storage.Safe K c) ∧ (next b).Inserts K ℓ)

lemma Inserts.bind {K : D → Prop} {ℓ : L} {p : Program D C ε α} (h : p.Inserts K ℓ)
    (f : α → Program D C ε β) : (p >>= f).Inserts K ℓ := by
  change (p.bind f).Inserts K ℓ
  induction p with
  | pure a => exact h.elim
  | fail e => trivial
  | statement run next ih =>
    intro db b cs hrun
    exact (h db b cs hrun).imp id fun ⟨hk, hn⟩ => ⟨hk, ih b hn⟩

lemma Writes.bind_inserts {K : D → Prop} {ℓ : L} {p : Program D C ε α}
    (h : p.Writes (Storage.Safe K)) {f : α → Program D C ε β} (hf : ∀ a, (f a).Inserts K ℓ) :
    (p >>= f).Inserts K ℓ := by
  change (p.bind f).Inserts K ℓ
  induction p with
  | pure a => exact hf a
  | fail e => trivial
  | statement run next ih =>
    intro db b cs hrun
    obtain ⟨hk, hn⟩ := h db b cs hrun
    exact Or.inr ⟨hk, ih b hn⟩

lemma Inserts.not_exec {K : D → Prop} {ℓ : L} {p : Program D C ε α} (h : p.Inserts K ℓ)
    {db : D} (hdb : K db) {a : α} {cs : List C} : p.exec db ≠ .ok (a, cs) := by
  induction p generalizing db cs with
  | pure a => exact h.elim
  | fail e => rintro ⟨⟩
  | statement run next ih =>
    intro hexec
    obtain ⟨b, cs₁, cs₂, hrun, hnext, rfl⟩ := exec_statement_ok.1 hexec
    rcases h db b cs₁ hrun with ⟨hno, -⟩ | ⟨hk, hn⟩
    · exact hno hdb
    · exact ih b hn (applyAll_safe hk hdb) hnext

lemma Inserts.lock {K : D → Prop} {ℓ : L} {p : Program D C ε α} (h : p.Inserts K ℓ) {db : D}
    {a : α} {cs : List C} (hexec : p.exec db = .ok (a, cs)) : ℓ ∈ locksOf D cs := by
  induction p generalizing db cs with
  | pure a => exact h.elim
  | fail e => cases hexec
  | statement run next ih =>
    obtain ⟨b, cs₁, cs₂, hrun, hnext, rfl⟩ := exec_statement_ok.1 hexec
    rw [locksOf_append]
    rcases h db b cs₁ hrun with ⟨-, hℓ⟩ | ⟨-, hn⟩
    · exact List.mem_append_left _ hℓ
    · exact List.mem_append_right _ (ih b hn hnext)

lemma Inserts.reaches {K : D → Prop} {ℓ : L} {p : Program D C ε α} (h : p.Inserts K ℓ) {db : D}
    {done : List C} {rest : Program D C ε α} (hreach : Reaches p db done rest) :
    ℓ ∈ locksOf D done ∨ ((∀ c ∈ done, Storage.Safe K c) ∧ rest.Inserts K ℓ) := by
  induction hreach with
  | start => exact Or.inr ⟨by rintro c ⟨⟩, h⟩
  | @statement done _ run next b cs _ hrun ih =>
    rw [locksOf_append]
    rcases ih with hℓ | ⟨hk, hrest⟩
    · exact Or.inl (List.mem_append_left _ hℓ)
    · rcases hrest _ b cs hrun with ⟨-, hℓ⟩ | ⟨hk', hn⟩
      · exact Or.inl (List.mem_append_right _ hℓ)
      · refine Or.inr ⟨fun c hc => ?_, hn⟩
        exact (List.mem_append.mp hc).elim (hk c) (hk' c)

end Program

/-- Attempts that all insert one unique entry: once it is committed, the others fail. -/
theorem Guarded.overlapSafe_of_inserts {G : Guarded ι D C ε ρ γ} {db : D} {K : γ → D → Prop}
    {ℓ : γ → L} (hins : ∀ i g, G.guard db = .ok (.inr g) → (G.work i g).Inserts (K g) (ℓ g))
    (hentry : ∀ i g r cs, G.guard db = .ok (.inr g) → (G.work i g).exec db = .ok (r, cs) →
      K g (applyAll cs db)) :
    G.OverlapSafe db := by
  intro i j g r cs done rest hg hw hreach hfree r' cs' hexec
  rcases (hins j g hg).reaches hreach with hℓ | ⟨hk, hrest⟩
  · exact absurd ((hins i g hg).lock hw) (hfree hℓ)
  · exact absurd hexec (hrest.not_exec (applyAll_safe hk (hentry i g r cs hg hw)))

end Blert.ReadCommitted

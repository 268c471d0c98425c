import Mathlib.Data.List.Basic
import Mathlib.Logic.Function.Basic
import Mathlib.Logic.Relation
import Mathlib.Tactic

/-!
Transactions under read committed isolation.

A transaction is a program of statements. Each statement sees what was committed before it ran
and what its own transaction has changed; a statement that changes what another open
transaction has changed waits for that transaction to end. Changes are what a statement puts in
place, with the locks it holds on them until its transaction commits or is rolled back.
-/

namespace Blert.ReadCommitted

/-- How the changes of a database take effect, and which locks they need. -/
class Storage (D C : Type) (L : outParam Type) where
  apply : C → D → D
  locks : C → List L

section Programs

variable {D C L ε : Type} [Storage D C L]

def applyAll (cs : List C) (db : D) : D := cs.foldl (fun db c => Storage.apply c db) db

def locksOf (D : Type) [Storage D C L] (cs : List C) : List L :=
  cs.flatMap (Storage.locks D)

@[simp] lemma applyAll_nil (db : D) : applyAll ([] : List C) db = db := rfl

@[simp] lemma applyAll_cons (c : C) (cs : List C) (db : D) :
    applyAll (c :: cs) db = applyAll cs (Storage.apply c db) := rfl

lemma applyAll_append (cs cs' : List C) (db : D) :
    applyAll (cs ++ cs') db = applyAll cs' (applyAll cs db) := by
  simp [applyAll, List.foldl_append]

@[simp] lemma locksOf_nil : locksOf D ([] : List C) = [] := rfl

lemma locksOf_append (cs cs' : List C) :
    locksOf D (cs ++ cs') = locksOf D cs ++ locksOf D cs' := by
  simp [locksOf]

/-- A change that cannot take away a property of the database. -/
def Storage.Safe (K : D → Prop) (c : C) : Prop := ∀ db, K db → K (Storage.apply c db)

lemma applyAll_safe {K : D → Prop} {cs : List C} (h : ∀ c ∈ cs, Storage.Safe K c) {db : D}
    (hdb : K db) : K (applyAll cs db) := by
  induction cs generalizing db with
  | nil => exact hdb
  | cons c cs ih =>
    exact ih (fun c' hc' => h c' (List.mem_cons_of_mem c hc')) (h c List.mem_cons_self db hdb)

/-- What a transaction does: statements one at a time, each chosen by the answers before it. -/
inductive Program (D C ε α : Type) : Type 1
  | pure (a : α)
  | fail (e : ε)
  | statement {β : Type} (run : D → Except ε (β × List C)) (next : β → Program D C ε α)

namespace Program

variable {α β γ : Type}

def bind : Program D C ε α → (α → Program D C ε β) → Program D C ε β
  | pure a, f => f a
  | fail e, _ => fail e
  | statement run next, f => statement run fun b => (next b).bind f

def map (f : α → β) : Program D C ε α → Program D C ε β
  | pure a => pure (f a)
  | fail e => fail e
  | statement run next => statement run fun b => (next b).map f

instance : Monad (Program D C ε) where
  pure := Program.pure
  bind := Program.bind

lemma bind_assoc (p : Program D C ε α) (f : α → Program D C ε β) (g : β → Program D C ε γ) :
    (p >>= f) >>= g = p >>= fun a => f a >>= g := by
  change (p.bind f).bind g = p.bind fun a => (f a).bind g
  induction p with
  | pure a => rfl
  | fail e => rfl
  | statement run next ih =>
    simp only [bind]
    exact congrArg _ (funext ih)

def write (run : D → Except ε (β × List C)) : Program D C ε β := statement run pure

def read (run : D → Except ε β) : Program D C ε β :=
  statement (fun db => (run db).map (·, [])) pure

/-- A result that is known without the database. -/
def lift : Except ε β → Program D C ε β
  | .ok b => pure b
  | .error e => fail e

def forEach (f : α → Program D C ε Unit) : List α → Program D C ε Unit
  | [] => pure ()
  | a :: as => (f a).bind fun _ => forEach f as

/-- Runs a program alone, returning its result and the changes it makes. -/
def exec : Program D C ε α → D → Except ε (α × List C)
  | pure a, _ => .ok (a, [])
  | fail e, _ => .error e
  | statement run next, db =>
    match run db with
    | .error e => .error e
    | .ok (b, cs) => ((next b).exec (applyAll cs db)).map fun r => (r.1, cs ++ r.2)

lemma exec_statement (run : D → Except ε (β × List C)) (next : β → Program D C ε α) (db : D) :
    (statement run next).exec db =
      match run db with
      | .error e => .error e
      | .ok (b, cs) => ((next b).exec (applyAll cs db)).map fun r => (r.1, cs ++ r.2) := by
  rw [exec]

lemma exec_statement_ok {run : D → Except ε (β × List C)} {next : β → Program D C ε α} {db : D}
    {a : α} {cs : List C} :
    (statement run next).exec db = .ok (a, cs) ↔
      ∃ b cs₁ cs₂, run db = .ok (b, cs₁) ∧ (next b).exec (applyAll cs₁ db) = .ok (a, cs₂) ∧
        cs = cs₁ ++ cs₂ := by
  rw [exec_statement]
  constructor
  · intro h
    split at h
    · cases h
    · rename_i b cs₁ hrun
      cases hnext : (next b).exec (applyAll cs₁ db) with
      | error e => rw [hnext] at h; cases h
      | ok r =>
        rw [hnext] at h
        cases h
        exact ⟨b, cs₁, r.2, hrun, hnext, rfl⟩
  · rintro ⟨b, cs₁, cs₂, hrun, hnext, rfl⟩
    rw [hrun]
    dsimp only
    rw [hnext]
    rfl

lemma exec_bind_ok {p : Program D C ε α} {f : α → Program D C ε β} {db : D} {b : β}
    {cs : List C} :
    (p >>= f).exec db = .ok (b, cs) ↔
      ∃ a cs₁ cs₂, p.exec db = .ok (a, cs₁) ∧ (f a).exec (applyAll cs₁ db) = .ok (b, cs₂) ∧
        cs = cs₁ ++ cs₂ := by
  change (p.bind f).exec db = _ ↔ _
  induction p generalizing db cs with
  | pure a =>
    constructor
    · intro h
      exact ⟨a, [], cs, rfl, h, rfl⟩
    · rintro ⟨_, _, cs₂, h, hf, rfl⟩
      cases h
      exact hf
  | fail e =>
    constructor
    · intro h; cases h
    · rintro ⟨_, _, _, h, -, -⟩; cases h
  | statement run next ih =>
    simp only [bind, exec_statement_ok, ih]
    constructor
    · rintro ⟨x, cs₁, _, hrun, ⟨a, cs₂, cs₃, hnext, hf, rfl⟩, rfl⟩
      refine ⟨a, cs₁ ++ cs₂, cs₃, ⟨x, cs₁, cs₂, hrun, hnext, rfl⟩, ?_, by simp⟩
      rw [applyAll_append]
      exact hf
    · rintro ⟨a, _, cs₃, ⟨x, cs₁, cs₂, hrun, hnext, rfl⟩, hf, rfl⟩
      rw [applyAll_append] at hf
      exact ⟨x, cs₁, cs₂ ++ cs₃, hrun, ⟨a, cs₂, cs₃, hnext, hf, rfl⟩, by simp⟩

lemma exec_map_ok {p : Program D C ε α} {f : α → β} {db : D} {b : β} {cs : List C} :
    (p.map f).exec db = .ok (b, cs) ↔ ∃ a, f a = b ∧ p.exec db = .ok (a, cs) := by
  induction p generalizing db cs with
  | pure a =>
    constructor
    · rintro ⟨⟩
      exact ⟨a, rfl, rfl⟩
    · rintro ⟨_, rfl, ⟨⟩⟩
      rfl
  | fail e =>
    constructor
    · rintro ⟨⟩
    · rintro ⟨_, -, ⟨⟩⟩
  | statement run next ih =>
    simp only [map, exec_statement_ok, ih]
    constructor
    · rintro ⟨x, cs₁, cs₂, hrun, ⟨a, ha, hnext⟩, rfl⟩
      exact ⟨a, ha, x, cs₁, cs₂, hrun, hnext, rfl⟩
    · rintro ⟨a, ha, x, cs₁, cs₂, hrun, hnext, rfl⟩
      exact ⟨x, cs₁, cs₂, hrun, ⟨a, ha, hnext⟩, rfl⟩

lemma exec_map {p : Program D C ε α} {f : α → β} {db : D} {a : α} {cs : List C}
    (h : p.exec db = .ok (a, cs)) : (p.map f).exec db = .ok (f a, cs) :=
  exec_map_ok.2 ⟨a, rfl, h⟩

lemma exec_pure_ok {a b : α} {db : D} {cs : List C} :
    (pure a : Program D C ε α).exec db = .ok (b, cs) ↔ b = a ∧ cs = [] := by
  constructor
  · rintro ⟨⟩
    exact ⟨rfl, rfl⟩
  · rintro ⟨rfl, rfl⟩
    rfl

lemma exec_write_ok {run : D → Except ε (β × List C)} {db : D} {b : β} {cs : List C} :
    (write run).exec db = .ok (b, cs) ↔ run db = .ok (b, cs) := by
  unfold write
  rw [exec_statement_ok]
  constructor
  · rintro ⟨_, _, _, hrun, hnext, rfl⟩
    obtain ⟨rfl, rfl⟩ := exec_pure_ok.1 hnext
    rwa [List.append_nil]
  · intro h
    exact ⟨b, cs, [], h, rfl, (List.append_nil cs).symm⟩

lemma exec_read_ok {run : D → Except ε β} {db : D} {b : β} {cs : List C} :
    (read run : Program D C ε β).exec db = .ok (b, cs) ↔ run db = .ok b ∧ cs = [] := by
  change (write fun db => (run db).map (·, [])).exec db = _ ↔ _
  rw [exec_write_ok]
  cases run db with
  | error e => simp [Except.map]
  | ok r => simp [Except.map, eq_comm]

lemma exec_lift_ok {r : Except ε β} {db : D} {b : β} {cs : List C} :
    (lift r : Program D C ε β).exec db = .ok (b, cs) ↔ r = .ok b ∧ cs = [] := by
  cases r with
  | error e =>
    constructor
    · rintro ⟨⟩
    · rintro ⟨⟨⟩, -⟩
  | ok a =>
    change (pure a : Program D C ε β).exec db = _ ↔ _
    rw [exec_pure_ok, Except.ok.injEq, eq_comm]

lemma exec_forEach_inv {f : α → Program D C ε Unit} {P : List α → D → Prop} {as : List α}
    (hstep : ∀ done a, a ∈ as → ∀ db cs, P done db → (f a).exec db = .ok ((), cs) →
      P (done ++ [a]) (applyAll cs db))
    {done : List α} {db : D} {u : Unit} {cs : List C} (hstart : P done db)
    (h : (forEach f as).exec db = .ok (u, cs)) : P (done ++ as) (applyAll cs db) := by
  induction as generalizing done db cs with
  | nil =>
    obtain ⟨-, rfl⟩ := exec_pure_ok.1 h
    rwa [List.append_nil]
  | cons a as ih =>
    obtain ⟨_, cs₁, cs₂, h₁, h₂, rfl⟩ := exec_bind_ok.1 h
    have hfirst := hstep done a List.mem_cons_self db cs₁ hstart h₁
    rw [applyAll_append, List.append_cons done a as]
    exact ih (fun done' a' ha' => hstep done' a' (List.mem_cons_of_mem a ha')) hfirst h₂

/-! ### What a program writes -/

/-- Every change that a statement of the program makes is of a kind. -/
def Writes (Q : C → Prop) : Program D C ε α → Prop
  | pure _ => True
  | fail _ => True
  | statement run next => ∀ db b cs, run db = .ok (b, cs) → (∀ c ∈ cs, Q c) ∧ (next b).Writes Q

lemma Writes.bind {Q : C → Prop} {p : Program D C ε α} (h : p.Writes Q)
    {f : α → Program D C ε β} (hf : ∀ a, (f a).Writes Q) : (p >>= f).Writes Q := by
  change (p.bind f).Writes Q
  induction p with
  | pure a => exact hf a
  | fail e => trivial
  | statement run next ih =>
    intro db b cs hrun
    obtain ⟨hq, hn⟩ := h db b cs hrun
    exact ⟨hq, ih b hn⟩

lemma writes_forEach {Q : C → Prop} {f : α → Program D C ε Unit} (h : ∀ a, (f a).Writes Q)
    (as : List α) : (forEach f as).Writes Q := by
  induction as with
  | nil => trivial
  | cons a as ih => exact (h a).bind fun _ => ih

lemma Writes.mono {Q Q' : C → Prop} (hQ : ∀ c, Q c → Q' c) {p : Program D C ε α}
    (h : p.Writes Q) : p.Writes Q' := by
  induction p with
  | pure a => trivial
  | fail e => trivial
  | statement run next ih =>
    intro db b cs hrun
    obtain ⟨hq, hn⟩ := h db b cs hrun
    exact ⟨fun c hc => hQ c (hq c hc), ih b hn⟩

lemma writes_pure {Q : C → Prop} (a : α) : (pure a : Program D C ε α).Writes Q := trivial

lemma writes_read {Q : C → Prop} (run : D → Except ε β) :
    (read run : Program D C ε β).Writes Q := by
  intro db b cs hrun
  refine ⟨fun c hc => ?_, trivial⟩
  change (run db).map (·, []) = _ at hrun
  cases hr : run db with
  | error e => rw [hr] at hrun; cases hrun
  | ok b' =>
    rw [hr] at hrun
    cases hrun
    cases hc

lemma writes_lift {Q : C → Prop} (r : Except ε β) : (lift r : Program D C ε β).Writes Q := by
  cases r <;> trivial

lemma writes_write {Q : C → Prop} {run : D → Except ε (β × List C)}
    (h : ∀ db b cs, run db = .ok (b, cs) → ∀ c ∈ cs, Q c) : (write run).Writes Q :=
  fun db b cs hrun => ⟨h db b cs hrun, trivial⟩

lemma Writes.exec {Q : C → Prop} {p : Program D C ε α} (h : p.Writes Q) {db : D} {a : α}
    {cs : List C} (hexec : p.exec db = .ok (a, cs)) : ∀ c ∈ cs, Q c := by
  induction p generalizing db cs with
  | pure a =>
    obtain ⟨-, rfl⟩ := exec_pure_ok.1 hexec
    rintro c ⟨⟩
  | fail e => cases hexec
  | statement run next ih =>
    obtain ⟨b, cs₁, cs₂, hrun, hnext, rfl⟩ := exec_statement_ok.1 hexec
    obtain ⟨hq, hn⟩ := h db b cs₁ hrun
    intro c hc
    rcases List.mem_append.mp hc with hc | hc
    · exact hq c hc
    · exact ih b hn hnext c hc

/-! ### Programs without effect -/

/-- Running the program on a database changes nothing there. -/
def Quiet (p : Program D C ε α) (db : D) : Prop :=
  ∀ a cs, p.exec db = .ok (a, cs) → applyAll cs db = db

lemma Quiet.bind {p : Program D C ε α} {db : D} (h : p.Quiet db) {f : α → Program D C ε β}
    (hf : ∀ a, (f a).Quiet db) : (p >>= f).Quiet db := by
  intro b cs hexec
  obtain ⟨a, cs₁, cs₂, h₁, h₂, rfl⟩ := exec_bind_ok.1 hexec
  have hdb := h a cs₁ h₁
  rw [hdb] at h₂
  rw [applyAll_append, hdb]
  exact hf a b cs₂ h₂

lemma quiet_pure (a : α) (db : D) : (pure a : Program D C ε α).Quiet db := by
  intro b cs h
  obtain ⟨-, rfl⟩ := exec_pure_ok.1 h
  rfl

lemma applyAll_of_forall {cs : List C} {db : D} (h : ∀ c ∈ cs, Storage.apply c db = db) :
    applyAll cs db = db := by
  induction cs with
  | nil => rfl
  | cons c cs ih =>
    rw [applyAll_cons, h c List.mem_cons_self]
    exact ih fun c' hc' => h c' (List.mem_cons_of_mem c hc')

lemma quiet_write {run : D → Except ε (β × List C)} {db : D}
    (h : ∀ b cs, run db = .ok (b, cs) → ∀ c ∈ cs, Storage.apply c db = db) :
    (write run).Quiet db :=
  fun b cs hexec => applyAll_of_forall (h b cs (exec_write_ok.1 hexec))

/-! ### What a program keeps -/

/-- Running the program takes any database to a related one. -/
def Keeps (R : D → D → Prop) (p : Program D C ε α) : Prop :=
  ∀ db a cs, p.exec db = .ok (a, cs) → R db (applyAll cs db)

section Keeps

variable {R : D → D → Prop}

lemma keeps_pure (hrefl : ∀ db, R db db) (a : α) : (pure a : Program D C ε α).Keeps R := by
  intro db b cs h
  obtain ⟨-, rfl⟩ := exec_pure_ok.1 h
  exact hrefl db

lemma keeps_fail (e : ε) : (fail e : Program D C ε α).Keeps R := by
  rintro db b cs ⟨⟩

lemma keeps_lift (hrefl : ∀ db, R db db) (r : Except ε α) :
    (lift r : Program D C ε α).Keeps R := by
  intro db b cs h
  obtain ⟨-, rfl⟩ := exec_lift_ok.1 h
  exact hrefl db

lemma keeps_write {run : D → Except ε (β × List C)}
    (h : ∀ db b cs, run db = .ok (b, cs) → R db (applyAll cs db)) :
    (write run : Program D C ε β).Keeps R :=
  fun db b cs hexec => h db b cs (exec_write_ok.1 hexec)

lemma Keeps.bind (htrans : ∀ a b c, R a b → R b c → R a c) {p : Program D C ε α}
    (h : p.Keeps R) {f : α → Program D C ε β} (hf : ∀ a, (f a).Keeps R) : (p >>= f).Keeps R := by
  intro db b cs hexec
  obtain ⟨a, cs₁, cs₂, h₁, h₂, rfl⟩ := exec_bind_ok.1 hexec
  rw [applyAll_append]
  exact htrans _ _ _ (h db a cs₁ h₁) (hf a _ b cs₂ h₂)

end Keeps

end Program

/-! ### Interleaved transactions -/

variable {ι α : Type} [DecidableEq ι]

inductive Txn (D C ε α : Type)
  /-- Open: what it has changed and what it is yet to do. -/
  | running (done : List C) (rest : Program D C ε α)
  | committed (a : α)
  | rolledBack

/-- The committed database and every transaction on it. -/
structure System (ι D C ε α : Type) where
  db : D
  txn : ι → Txn D C ε α

def System.start (p : ι → Program D C ε α) (db : D) : System ι D C ε α :=
  ⟨db, fun i => .running [] (p i)⟩

def System.set (s : System ι D C ε α) (i : ι) (t : Txn D C ε α) : System ι D C ε α :=
  { s with txn := Function.update s.txn i t }

/-- No other open transaction holds a lock on these changes. -/
def System.Free (s : System ι D C ε α) (i : ι) (cs : List C) : Prop :=
  ∀ j done rest, j ≠ i → s.txn j = .running done rest →
    (locksOf D done).Disjoint (locksOf D cs)

/-- One statement, one commit or one rollback. An open transaction can be rolled back at any
time: by an error of its own, by the server, or by its client going away. -/
inductive Step : System ι D C ε α → System ι D C ε α → Prop
  | statement {s i done} {β : Type} {run : D → Except ε (β × List C)} {next b cs} :
      s.txn i = .running done (.statement run next) →
      run (applyAll done s.db) = .ok (b, cs) →
      s.Free i cs →
      Step s (s.set i (.running (done ++ cs) (next b)))
  | commit {s i done a} :
      s.txn i = .running done (.pure a) →
      Step s { s.set i (.committed a) with db := applyAll done s.db }
  | rollback {s i done rest} :
      s.txn i = .running done rest →
      Step s (s.set i .rolledBack)

/-- Runs all of whose steps meet a condition. -/
def Run (meets : System ι D C ε α → System ι D C ε α → Prop) :
    System ι D C ε α → System ι D C ε α → Prop :=
  Relation.ReflTransGen fun s s' => Step s s' ∧ meets s s'

/-- Where a program has got to on a database that nobody else changes. -/
inductive Reaches (p : Program D C ε α) (db : D) : List C → Program D C ε α → Prop
  | start : Reaches p db [] p
  | statement {done} {β : Type} {run : D → Except ε (β × List C)} {next b cs} :
      Reaches p db done (.statement run next) → run (applyAll done db) = .ok (b, cs) →
      Reaches p db (done ++ cs) (next b)

lemma Reaches.exec {p rest : Program D C ε α} {db : D} {done : List C}
    (h : Reaches p db done rest) {a : α} {cs : List C}
    (hrest : rest.exec (applyAll done db) = .ok (a, cs)) :
    p.exec db = .ok (a, done ++ cs) := by
  induction h generalizing cs with
  | start => exact hrest
  | statement _ hrun ih =>
    rw [applyAll_append] at hrest
    rw [List.append_assoc]
    exact ih (Program.exec_statement_ok.mpr ⟨_, _, _, hrun, hrest, rfl⟩)

/-! ### One transaction going on while the others wait -/

namespace Program

/-- What a program has done after a number of statements, and what it is yet to do. -/
def advance : ℕ → Program D C ε α → D → Option (List C × Program D C ε α)
  | 0, p, _ => some ([], p)
  | _ + 1, pure _, _ => none
  | _ + 1, fail _, _ => none
  | n + 1, statement run next, db =>
    match run db with
    | .error _ => none
    | .ok (b, cs) => (advance n (next b) (applyAll cs db)).map fun r => (cs ++ r.1, r.2)

end Program

/-- Only one transaction has changed anything. -/
def System.Alone (s : System ι D C ε α) (i : ι) : Prop :=
  ∀ j done rest, j ≠ i → s.txn j = .running done rest → done = []

omit [DecidableEq ι] in
lemma System.Alone.free {s : System ι D C ε α} {i : ι} (h : s.Alone i) (cs : List C) :
    s.Free i cs := by
  intro j done rest hj hjr
  rw [h j done rest hj hjr]
  exact List.disjoint_nil_left _

lemma System.Alone.set {s : System ι D C ε α} {i : ι} (h : s.Alone i)
    (t : Txn D C ε α) : (s.set i t).Alone i := by
  intro j done rest hj hjr
  simp only [System.set, Function.update_of_ne hj] at hjr
  exact h j done rest hj hjr

lemma System.set_set (s : System ι D C ε α) (i : ι) (t t' : Txn D C ε α) :
    (s.set i t).set i t' = s.set i t' := by
  simp [System.set]

variable {meets : System ι D C ε α → System ι D C ε α → Prop}

lemma run_advance (hmeets : ∀ s s', meets s s') {s : System ι D C ε α} {i : ι} {n : ℕ}
    {done cs : List C} {p rest : Program D C ε α} (halone : s.Alone i)
    (hi : s.txn i = .running done p)
    (h : p.advance n (applyAll done s.db) = some (cs, rest)) :
    Run meets s (s.set i (.running (done ++ cs) rest)) := by
  induction n generalizing s done cs p with
  | zero =>
    cases h
    rw [List.append_nil, System.set, ← hi, Function.update_eq_self]
    exact .refl
  | succ n ih =>
    cases p with
    | pure a => cases h
    | fail e => cases h
    | statement run next =>
      rw [Program.advance] at h
      split at h
      · cases h
      · rename_i b cs₁ hrun
        obtain ⟨⟨cs₂, rest'⟩, hadv, heq⟩ := Option.map_eq_some_iff.mp h
        cases heq
        have hstep := Step.statement hi hrun (halone.free cs₁)
        have hrest := @ih (s.set i (.running (done ++ cs₁) (next b))) (done ++ cs₁) cs₂ (next b)
          (halone.set _) (by simp [System.set])
          (by rw [applyAll_append]; exact hadv)
        rw [System.set_set, List.append_assoc] at hrest
        exact Relation.ReflTransGen.head ⟨hstep, hmeets _ _⟩ hrest

lemma run_commit (hmeets : ∀ s s', meets s s') {s : System ι D C ε α} {i : ι}
    {done cs : List C} {p : Program D C ε α} {a : α} (halone : s.Alone i)
    (hi : s.txn i = .running done p) (h : p.exec (applyAll done s.db) = .ok (a, cs)) :
    Run meets s { s.set i (.committed a) with db := applyAll (done ++ cs) s.db } := by
  induction p generalizing s done cs with
  | pure a' =>
    obtain ⟨rfl, rfl⟩ := Program.exec_pure_ok.mp h
    rw [List.append_nil]
    exact .single ⟨Step.commit hi, hmeets _ _⟩
  | fail e => cases h
  | statement run next ih =>
    obtain ⟨b, cs₁, cs₂, hrun, hnext, rfl⟩ := Program.exec_statement_ok.mp h
    have hstep := Step.statement hi hrun (halone.free cs₁)
    have hrest := @ih b (s.set i (.running (done ++ cs₁) (next b))) (done ++ cs₁) cs₂
      (halone.set _) (by simp [System.set]) (by rw [applyAll_append]; exact hnext)
    rw [System.set_set, List.append_assoc] at hrest
    exact Relation.ReflTransGen.head ⟨hstep, hmeets _ _⟩ hrest

variable (meets) in
/-- One transaction is interrupted before it has changed anything, by another that runs to its
end, and then goes on to its own. -/
lemma run_overlap (hmeets : ∀ s s', meets s s') (p : ι → Program D C ε α) (db : D) {i j : ι}
    (hij : i ≠ j) {n : ℕ} {rest : Program D C ε α} {a b : α} {cs cs' : List C}
    (hadv : (p i).advance n db = some ([], rest)) (hj : (p j).exec db = .ok (a, cs))
    (hi : rest.exec (applyAll cs db) = .ok (b, cs')) :
    ∃ s, Run meets (.start p db) s ∧ s.db = applyAll cs' (applyAll cs db) ∧
      s.txn j = .committed a ∧ s.txn i = .committed b := by
  have halone : (System.start p db).Alone i := by
    rintro k done r - hk
    cases hk
    rfl
  have h₁ := run_advance hmeets halone rfl hadv
  set s₁ := (System.start p db).set i (.running [] rest) with hs₁
  have hunchanged : ∀ k done r, s₁.txn k = .running done r → done = [] := by
    intro k done r hk
    by_cases hki : k = i
    · subst hki
      simp only [hs₁, System.set, Function.update_self, Txn.running.injEq] at hk
      exact hk.1.symm
    · simp only [hs₁, System.set, Function.update_of_ne hki] at hk
      cases hk
      rfl
  have hj₁ : s₁.txn j = .running [] (p j) := by
    simp [hs₁, System.set, System.start, Function.update_of_ne hij.symm]
  have h₂ := run_commit hmeets (fun k done r _ hk => hunchanged k done r hk) hj₁ hj
  set s₂ : System ι D C ε α := { s₁.set j (.committed a) with db := applyAll ([] ++ cs) s₁.db }
    with hs₂
  have halone₂ : s₂.Alone i := by
    intro k done r _ hk
    by_cases hkj : k = j
    · subst hkj
      simp [hs₂, System.set] at hk
    · simp only [hs₂, System.set, Function.update_of_ne hkj] at hk
      exact hunchanged k done r hk
  have hi₂ : s₂.txn i = .running [] rest := by
    simp [hs₂, hs₁, System.set, Function.update_of_ne hij]
  have h₃ := run_commit hmeets halone₂ hi₂ hi
  refine ⟨_, (h₁.trans h₂).trans h₃, rfl, ?_, ?_⟩
  · simp [hs₂, System.set, Function.update_of_ne hij.symm]
  · simp [System.set]

end Programs

end Blert.ReadCommitted

import Blert.Lifecycle.Actor
import Blert.Redis.Fencing
import Blert.Transitions

/-!
Appending to a journal over a connection that can fail.

An owner stores each batch before it applies it, and tries again when the store does not answer.
A try can take effect although its reply is lost. Then the batch is stored a second time, or
stored by an owner that gives up without having applied it. The stored journal is what the
owner applied exactly when no try that took effect lost its reply. While replies come back, the
journal is that of one actor, however many owners there have been.
-/

namespace Blert.Redis

open Blert.Lifecycle

/-! ### Retries -/

inductive StoreError
  /-- A newer incarnation owns the challenge. -/
  | fenced
  /-- The operation could not be completed. -/
  | unavailable (reason : String)
  /-- Stored state exists but cannot be interpreted. -/
  | corrupt (reason : String)

def storeAttempts : ℕ := 3

/-- Runs a store operation, and again after a transient failure while retries are left. The tries
are given one after the other. -/
def withRetries {σ τ α : Type*} (op : τ → σ → Except StoreError α × σ) :
    ℕ → (ℕ → τ) → σ → Except StoreError α × σ
  | 0, tries, s => op (tries 0) s
  | retries + 1, tries, s =>
    match op (tries 0) s with
    | (.error (.unavailable _), s) => withRetries op retries (fun i => tries (i + 1)) s
    | result => result

/-! ### Appends -/

/-- What becomes of a request to the store. -/
inductive Delivery
  | lost
  | replyLost
  | answered
  deriving DecidableEq

/-- A call that leaves a challenge's journal alone. -/
def Call.spares (uuid : Uuid) : Call → Bool
  | .append u _ _ => u ≠ uuid
  | .expireStreams u => u ≠ uuid
  | _ => true

/-- One try of an append: the calls others make before it reaches the store, and what becomes of
it. Nobody else appends to the journal. -/
structure Try (uuid : Uuid) where
  meanwhile : List Call
  delivery : Delivery
  spares : ∀ c ∈ meanwhile, c.spares uuid = true

variable {uuid : Uuid}

def Try.reach (t : Try uuid) (s : Store) : Store :=
  t.meanwhile.foldl (fun s c => (c.exec s).2) s

def append (epoch : Epoch) (batch : List JournalEntry) (t : Try uuid) (s : Store) :
    Except StoreError Unit × Store :=
  let s := t.reach s
  match t.delivery with
  | .lost => (.error (.unavailable "no connection"), s)
  | .replyLost => (.error (.unavailable "no reply"), (APPEND uuid epoch batch s).2)
  | .answered =>
    let (accepted, s) := APPEND uuid epoch batch s
    (if accepted then .ok () else .error .fenced, s)

/-- Every entry in a challenge's journal, in order. -/
def loadJournal (uuid : Uuid) (s : Store) : List JournalEntry :=
  (s.journal uuid).flatMap JournalRecord.batch

/-! ### The owner -/

/-- An owner of a challenge, with the batches it applied. It stops when a batch cannot be
stored. -/
structure Owner where
  store : Store
  actor : Actor
  applied : List (List JournalEntry)
  running : Bool

/-- An input, and what becomes of the tries to store its batch. -/
structure Turn (uuid : Uuid) where
  input : Input
  tries : ℕ → Try uuid

namespace Owner

def load (uuid : Uuid) (config : LifecycleConfig) (s : Store) : Owner :=
  { store := s, actor := .load uuid config (loadJournal uuid s), applied := [], running := true }

/-- Processes an input, whose batch is applied once it has been stored. -/
def handleCommand (config : LifecycleConfig) (epoch : Epoch) (o : Owner) (t : Turn uuid) : Owner :=
  let batch := o.actor.batch config t.input
  if o.running = false ∨ batch = [] then o
  else
    match withRetries (append epoch batch) (storeAttempts - 1) t.tries o.store with
    | (.ok _, store) =>
      { o with
        store, actor := o.actor.handleCommand config t.input, applied := o.applied ++ [batch] }
    | (.error _, store) => { o with store, running := false }

def run (config : LifecycleConfig) (epoch : Epoch) (o : Owner) (ts : List (Turn uuid)) : Owner :=
  ts.foldl (handleCommand config epoch) o

end Owner

/-! ### Replies that are lost -/

/-- Whether a try takes effect, because the epoch holds the fence, and its reply is lost. -/
def Try.losesReply (epoch : Epoch) (t : Try uuid) (s : Store) : Bool :=
  t.delivery = .replyLost && (t.reach s).fence uuid = some epoch

/-- Whether one of the tries takes effect and loses its reply. An answer ends the tries. -/
def losesReply (epoch : Epoch) : ℕ → (ℕ → Try uuid) → Store → Bool
  | 0, tries, s => (tries 0).losesReply epoch s
  | retries + 1, tries, s =>
    (tries 0).losesReply epoch s ||
      ((tries 0).delivery ≠ .answered &&
        losesReply epoch retries (fun i => tries (i + 1)) ((tries 0).reach s))

/-- Whether the owner has a batch to store and one of its tries loses its reply. -/
def Owner.losesReply (config : LifecycleConfig) (epoch : Epoch) (o : Owner) (t : Turn uuid) :
    Bool :=
  o.running && o.actor.batch config t.input ≠ [] &&
    Redis.losesReply epoch (storeAttempts - 1) t.tries o.store

/-- No try that takes effect loses its reply. -/
def Owner.Answered (config : LifecycleConfig) (epoch : Epoch) (o : Owner) :
    List (Turn uuid) → Prop
  | [] => True
  | t :: ts =>
    o.losesReply config epoch t = false ∧ (o.handleCommand config epoch t).Answered config epoch ts

/-! ### What a try stores -/

lemma journal_of_tenure {s s' : Store} (h : s'.tenure = s.tenure) : s'.journal = s.journal := by
  simp only [Store.tenure, Prod.mk.injEq] at h
  exact h.2.2.1

lemma journal_claimAll (claimant : Identity) (now deadline : Timestamp) (batchSize : ℕ)
    (skip : List Uuid) : ∀ (index : List (Uuid × Timestamp)) (claimed : List (Uuid × Epoch))
      (s : Store), (claimAll claimant now deadline batchSize skip index claimed s).2.journal =
        s.journal := by
  intro index
  induction index with
  | nil => exact fun _ _ => rfl
  | cons p index ih =>
    intro claimed s
    unfold claimAll
    split_ifs
    · rfl
    · exact ih _ _
    · exact ih _ _

lemma journal_start (args : StartArgs) (now : Timestamp) (s : Store) :
    (START args now s).2.journal = s.journal := by
  have hcreate : (startCreate args now s).2.journal = s.journal := by
    have ht := tenure_startCreate args now s
    simp only [Store.tenure, Prod.mk.injEq] at ht
    exact ht.2.2.1
  unfold START
  split
  · split_ifs
    · exact journal_of_tenure (tenure_startJoin args now _ s)
    · exact hcreate
  · exact hcreate

lemma journal_fenced {u : Uuid} {epoch : Epoch} {writes : Store → Store} {s : Store}
    (h : (writes s).journal uuid = s.journal uuid) :
    (fenced u epoch writes s).2.journal uuid = s.journal uuid := by
  unfold fenced
  split_ifs
  · exact h
  · rfl

lemma journal_exec {c : Call} (h : c.spares uuid = true) (s : Store) :
    (c.exec s).2.journal uuid = s.journal uuid := by
  cases c with
  | renew | release | project | announce | markProcessed | removeStream | delete =>
    simp only [Call.exec, Prod.map_snd, id_eq]
    exact journal_fenced rfl
  | append u e batch =>
    have hne : uuid ≠ u := by
      have hne : u ≠ uuid := by simpa [Call.spares] using h
      exact hne.symm
    simp only [Call.exec, Prod.map_snd, id_eq]
    exact journal_fenced (Function.update_of_ne hne _ _)
  | claim claimant now deadline batchSize skip =>
    exact congrFun (journal_claimAll claimant now deadline batchSize skip _ _ s) uuid
  | start args now => exact congrFun (journal_start args now s) uuid
  | rejoin now u client join =>
    exact congrFun (journal_of_tenure (tenure_rejoin now u client join s)) uuid
  | send now u cmd => exact congrFun (journal_of_tenure (tenure_send now u cmd s)) uuid
  | clientSend now client cmd =>
    exact congrFun (journal_of_tenure (tenure_clientSend now client cmd s)) uuid
  | expireState u => exact congrFun (journal_of_tenure (tenure_expireState u s)) uuid
  | expireStreams u =>
    have hne : uuid ≠ u := by
      have hne : u ≠ uuid := by simpa [Call.spares] using h
      exact hne.symm
    show (expireStreams u s).journal uuid = s.journal uuid
    unfold expireStreams
    split_ifs
    · simp [hne]
    · rfl

lemma journal_reach (t : Try uuid) (s : Store) : (t.reach s).journal uuid = s.journal uuid := by
  have hfold : ∀ (cs : List Call) (s : Store), (∀ c ∈ cs, c.spares uuid = true) →
      (cs.foldl (fun s c => (c.exec s).2) s).journal uuid = s.journal uuid := by
    intro cs
    induction cs with
    | nil => exact fun _ _ => rfl
    | cons c cs ih =>
      intro s hcs
      rw [List.foldl_cons, ih _ fun d hd => hcs d (List.mem_cons_of_mem _ hd)]
      exact journal_exec (hcs c List.mem_cons_self) s
  exact hfold t.meanwhile s t.spares

lemma append_script (uuid : Uuid) (epoch : Epoch) (batch : List JournalEntry) (s : Store) :
    (s.fence uuid = some epoch ∧ (APPEND uuid epoch batch s).1 = true ∧
      (APPEND uuid epoch batch s).2.journal uuid = s.journal uuid ++ [⟨epoch, batch⟩]) ∨
    (s.fence uuid ≠ some epoch ∧ APPEND uuid epoch batch s = (false, s)) := by
  unfold APPEND fenced
  split_ifs with h
  · exact Or.inl ⟨h, rfl, by simp⟩
  · exact Or.inr ⟨h, rfl⟩

/-- How often a batch is stored according to the result of its append. -/
def stored : Except StoreError Unit → ℕ
  | .ok _ => 1
  | .error _ => 0

/-- What is stored in the place of a batch: as many copies as the result says, or more when a
reply is lost. -/
def Stores (epoch : Epoch) (batch : List JournalEntry) (before after : List JournalRecord)
    (lost : Bool) (result : Except StoreError Unit) : Prop :=
  ∃ n, after = before ++ List.replicate n ⟨epoch, batch⟩ ∧
    (lost = false → n = stored result) ∧ (lost = true → stored result < n)

section Retries

variable {epoch : Epoch} {batch : List JournalEntry} {t : Try uuid} {s : Store}

lemma append_lost (h : t.delivery = .lost) :
    append epoch batch t s = (.error (.unavailable "no connection"), t.reach s) := by
  simp [append, h]

lemma append_replyLost (h : t.delivery = .replyLost) :
    append epoch batch t s =
      (.error (.unavailable "no reply"), (APPEND uuid epoch batch (t.reach s)).2) := by
  simp [append, h]

lemma append_answered (h : t.delivery = .answered) :
    (append epoch batch t s).1 = .ok () ∨ (append epoch batch t s).1 = .error .fenced := by
  unfold append
  rw [h]
  dsimp only
  split_ifs
  · exact Or.inl rfl
  · exact Or.inr rfl

lemma stores_try (epoch : Epoch) (batch : List JournalEntry) (t : Try uuid) (s : Store) :
    Stores epoch batch (s.journal uuid) ((append epoch batch t s).2.journal uuid)
      (t.losesReply epoch s) (append epoch batch t s).1 := by
  have hreach := journal_reach t s
  unfold append Try.losesReply
  cases hd : t.delivery with
  | lost => exact ⟨0, by simp [hreach], fun _ => rfl, by simp⟩
  | replyLost =>
    obtain ⟨hf, -, hj⟩ | ⟨hf, hno⟩ := append_script uuid epoch batch (t.reach s)
    · exact ⟨1, by simpa [hreach] using hj, by simp [hf], fun _ => Nat.one_pos⟩
    · exact ⟨0, by simp [hno, hreach], fun _ => rfl, by simp [hf]⟩
  | answered =>
    obtain ⟨-, hacc, hj⟩ | ⟨-, hno⟩ := append_script uuid epoch batch (t.reach s)
    · exact ⟨1, by simpa [hreach] using hj, fun _ => by simp [hacc, stored], by simp⟩
    · exact ⟨0, by simp [hno, hreach], fun _ => by simp [hno, stored], by simp⟩

lemma Stores.again {before between after : List JournalRecord} {lost lost' : Bool}
    {error : StoreError} {result : Except StoreError Unit}
    (h : Stores epoch batch before between lost (.error error))
    (h' : Stores epoch batch between after lost' result) :
    Stores epoch batch before after (lost || lost') result := by
  obtain ⟨n, hj, hexact, hmore⟩ := h
  obtain ⟨m, hj', hexact', hmore'⟩ := h'
  have hcopies : after = before ++ List.replicate (n + m) ⟨epoch, batch⟩ := by
    rw [hj', hj, List.append_assoc, List.replicate_append_replicate]
  refine ⟨n + m, hcopies, fun hl => ?_, fun hl => ?_⟩
  · rw [Bool.or_eq_false_iff] at hl
    have hn : n = 0 := hexact hl.1
    rw [hn, Nat.zero_add]
    exact hexact' hl.2
  · cases lost with
    | true =>
      have hn : 0 < n := hmore rfl
      cases lost' with
      | true => have hm := hmore' rfl; omega
      | false => have hm := hexact' rfl; omega
    | false => have hm := hmore' hl; omega

/-- **What the tries of an append store.** -/
theorem retries_store (epoch : Epoch) (batch : List JournalEntry) (retries : ℕ)
    (tries : ℕ → Try uuid) (s : Store) :
    Stores epoch batch (s.journal uuid)
      ((withRetries (append epoch batch) retries tries s).2.journal uuid)
      (losesReply epoch retries tries s)
      (withRetries (append epoch batch) retries tries s).1 := by
  induction retries generalizing tries s with
  | zero => exact stores_try epoch batch (tries 0) s
  | succ retries ih =>
    have hfirst := stores_try epoch batch (tries 0) s
    have hagain := ih fun i => tries (i + 1)
    unfold withRetries losesReply
    cases hd : (tries 0).delivery with
    | lost =>
      rw [append_lost hd] at hfirst ⊢
      simpa using hfirst.again (hagain ((tries 0).reach s))
    | answered =>
      have hresult : (append epoch batch (tries 0) s).1 = .ok () ∨
          (append epoch batch (tries 0) s).1 = .error .fenced := append_answered hd
      generalize append epoch batch (tries 0) s = result at hfirst hresult
      obtain ⟨r, s'⟩ := result
      rcases hresult with rfl | rfl
      · simpa using hfirst
      · simpa using hfirst
    | replyLost =>
      rw [append_replyLost hd] at hfirst ⊢
      have hmore := hfirst.again (hagain (APPEND uuid epoch batch ((tries 0).reach s)).2)
      obtain ⟨hf, -, -⟩ | ⟨-, hno⟩ := append_script uuid epoch batch ((tries 0).reach s)
      · have hl : (tries 0).losesReply epoch s = true := by simp [Try.losesReply, hd, hf]
        rw [hl] at hmore ⊢
        simpa using hmore
      · rw [hno] at hmore ⊢
        simpa using hmore

end Retries

/-! ### The run -/

section Run

variable (config : LifecycleConfig) (epoch : Epoch)

lemma loadJournal_append {s s' : Store} {rs : List JournalRecord}
    (h : s'.journal uuid = s.journal uuid ++ rs) :
    loadJournal uuid s' = loadJournal uuid s ++ rs.flatMap JournalRecord.batch := by
  rw [loadJournal, h, List.flatMap_append]
  rfl

lemma handleCommand_stores (o : Owner) (t : Turn uuid) :
    ∃ n m, loadJournal uuid (o.handleCommand config epoch t).store =
        loadJournal uuid o.store ++
          (List.replicate n (o.actor.batch config t.input)).flatten ∧
      (o.handleCommand config epoch t).applied =
        o.applied ++ List.replicate m (o.actor.batch config t.input) ∧
      (o.losesReply config epoch t = false → n = m) ∧
      (o.losesReply config epoch t = true → m < n ∧ o.actor.batch config t.input ≠ []) := by
  by_cases hidle : o.running = false ∨ o.actor.batch config t.input = []
  · have hsame : o.handleCommand config epoch t = o := by
      unfold Owner.handleCommand
      exact if_pos hidle
    have hnone : o.losesReply config epoch t = false := by
      unfold Owner.losesReply
      rcases hidle with h | h <;> simp [h]
    rw [hsame, hnone]
    exact ⟨0, 0, by simp, by simp, fun _ => rfl, by simp⟩
  · have hloses : o.losesReply config epoch t =
        losesReply epoch (storeAttempts - 1) t.tries o.store := by
      unfold Owner.losesReply
      rw [not_or] at hidle
      simp [hidle.1, hidle.2]
    obtain ⟨n, hj, hexact, hmore⟩ := retries_store epoch (o.actor.batch config t.input)
      (storeAttempts - 1) t.tries o.store
    have hload := loadJournal_append hj
    rw [hloses]
    unfold Owner.handleCommand
    rw [if_neg hidle]
    generalize withRetries (append epoch (o.actor.batch config t.input)) (storeAttempts - 1)
      t.tries o.store = result at hload hexact hmore
    obtain ⟨r, s'⟩ := result
    rw [not_or] at hidle
    refine ⟨n, stored r, ?_, ?_, hexact, fun h => ⟨hmore h, hidle.2⟩⟩
    · cases r <;> simpa [List.flatMap_replicate] using hload
    · cases r <;> simp [stored]

lemma run_cons (o : Owner) (t : Turn uuid) (ts : List (Turn uuid)) :
    o.run config epoch (t :: ts) = (o.handleCommand config epoch t).run config epoch ts := rfl

/-- The journal is ahead of what was there and what was applied, by some entries. -/
def Ahead (uuid : Uuid) (initial : ℕ) (k : ℕ) (o : Owner) : Prop :=
  initial + o.applied.flatten.length + k ≤ (loadJournal uuid o.store).length

lemma ahead_turn {initial k : ℕ} {o : Owner} (h : Ahead uuid initial k o) (t : Turn uuid) :
    Ahead uuid initial (if o.losesReply config epoch t then k + 1 else k)
      (o.handleCommand config epoch t) := by
  obtain ⟨n, m, hj, ha, hexact, hmore⟩ := handleCommand_stores config epoch o t
  have hlen : (loadJournal uuid (o.handleCommand config epoch t).store).length =
      (loadJournal uuid o.store).length + n * (o.actor.batch config t.input).length := by
    simp [hj]
  have happ : (o.handleCommand config epoch t).applied.flatten.length =
      o.applied.flatten.length + m * (o.actor.batch config t.input).length := by
    simp [ha]
  unfold Ahead at h ⊢
  rw [hlen, happ]
  split_ifs with hl
  · obtain ⟨hlt, hne⟩ := hmore hl
    have hpos := List.length_pos_iff.mpr hne
    have hmul := Nat.mul_le_mul_right (o.actor.batch config t.input).length (Nat.succ_le_of_lt hlt)
    rw [Nat.succ_mul] at hmul
    omega
  · rw [hexact (by simpa using hl)]
    omega

lemma ahead_run {initial k : ℕ} (ts : List (Turn uuid)) {o : Owner}
    (h : Ahead uuid initial k o) : Ahead uuid initial k (o.run config epoch ts) := by
  induction ts generalizing o with
  | nil => exact h
  | cons t ts ih =>
    have ht := ahead_turn config epoch h t
    refine ih ?_
    unfold Ahead at ht ⊢
    split_ifs at ht <;> omega

/-- **What is stored is what was applied**, entry for entry and in order, if and only if no try of
the run that took effect lost its reply. -/
theorem stored_iff_answered (uuid : Uuid) (s : Store) (ts : List (Turn uuid)) :
    let o := (Owner.load uuid config s).run config epoch ts
    loadJournal uuid o.store = loadJournal uuid s ++ o.applied.flatten ↔
      (Owner.load uuid config s).Answered config epoch ts := by
  intro o
  have hrun : ∀ (ts : List (Turn uuid)) (o : Owner),
      loadJournal uuid o.store = loadJournal uuid s ++ o.applied.flatten →
      (loadJournal uuid (o.run config epoch ts).store =
        loadJournal uuid s ++ (o.run config epoch ts).applied.flatten ↔
          o.Answered config epoch ts) := by
    intro ts
    induction ts with
    | nil => exact fun o h => ⟨fun _ => trivial, fun _ => h⟩
    | cons t ts ih =>
      intro o h
      rw [run_cons]
      cases hl : o.losesReply config epoch t with
      | false =>
        have hsame : loadJournal uuid (o.handleCommand config epoch t).store =
            loadJournal uuid s ++ (o.handleCommand config epoch t).applied.flatten := by
          obtain ⟨n, m, hj, ha, hexact, -⟩ := handleCommand_stores config epoch o t
          rw [hj, ha, hexact hl, h, List.flatten_append, List.append_assoc]
        rw [ih _ hsame]
        exact ⟨fun ha => ⟨hl, ha⟩, fun ha => ha.2⟩
      | true =>
        -- A copy too many is never made up for.
        have hahead : Ahead uuid (loadJournal uuid s).length 0 o := by
          simp [Ahead, h]
        have hturn := ahead_turn config epoch hahead t
        rw [if_pos hl] at hturn
        have hend := ahead_run config epoch ts hturn
        refine ⟨fun heq => ?_, fun ha => ?_⟩
        · unfold Ahead at hend
          rw [heq, List.length_append] at hend
          omega
        · have hfalse := ha.1
          rw [hl] at hfalse
          cases hfalse
  exact hrun ts _ (by simp [Owner.load])

end Run

/-- The first try to store the first batch takes effect without the owner's knowing, so it tries
again, and the batch it applied once is stored twice. -/
theorem lost_reply_stores_twice :
    let s := ((Call.start soloStart 0).exec .empty).2
    let t : Turn 7 :=
      { input := soloCreate
        tries := fun i => ⟨[], if i = 0 then .replyLost else .answered, by simp⟩ }
    let o := (Owner.load 7 soloConfig s).run soloConfig Epoch.initial [t]
    let batch := (Actor.new 7 soloConfig).batch soloConfig soloCreate
    o.applied = [batch] ∧ loadJournal 7 o.store = batch ++ batch ∧
      loadJournal 7 o.store ≠ loadJournal 7 s ++ o.applied.flatten := by
  decide

/-! ### Owners at the same time -/

/-- The store, the actor of each epoch's owner, and the inputs whose batches went through. -/
structure Ownership where
  sys : System
  owners : Epoch → Option Actor
  handled : List Input

def Ownership.init : Ownership := ⟨.init, fun _ => none, []⟩

inductive Move
  | call (c : Call)
  | load (epoch : Epoch)
  | handle (epoch : Epoch) (input : Input)

/-- Anyone makes calls. An owner takes the journal in at some time after it was granted its epoch,
applies a batch when the store accepts it, and stops once it is fenced off. -/
def ownership (uuid : Uuid) (config : LifecycleConfig) : TransitionSystem Ownership Move where
  Enabled w
    | .call c => c.spares uuid = true ∧ ∀ u, c.fresh = some u → u ∉ w.sys.granted.map (·.1)
    | .load epoch => (uuid, epoch) ∈ w.sys.granted
    | .handle _ _ => True
  next w
    | .call c => { w with sys := w.sys.step c }
    | .load epoch =>
      { w with
        owners := Function.update w.owners epoch
          (some (.load uuid config (loadJournal uuid w.sys.store))) }
    | .handle epoch input =>
      match w.owners epoch with
      | none => w
      | some actor =>
        let batch := actor.batch config input
        if batch = [] then w
        else
          match APPEND uuid epoch batch w.sys.store with
          | (true, store) =>
            { sys := { w.sys with store }
              owners := Function.update w.owners epoch (some (actor.handleCommand config input))
              handled := w.handled ++ [input] }
          | (false, _) => { w with owners := Function.update w.owners epoch none }

/-- Owners have epochs that were granted, what is stored is the journal of one actor, and whoever
holds the fence is that actor. -/
structure Agreed (uuid : Uuid) (config : LifecycleConfig) (w : Ownership) : Prop where
  owned : Owned w.sys.store w.sys.granted
  granted : ∀ epoch actor, w.owners epoch = some actor → (uuid, epoch) ∈ w.sys.granted
  stored : loadJournal uuid w.sys.store = (machine config).journal (.new uuid config) w.handled
  holder : ∀ epoch actor, w.sys.store.fence uuid = some epoch → w.owners epoch = some actor →
    actor = (machine config).run (.new uuid config) w.handled

section Ownership

variable {config : LifecycleConfig} {w : Ownership}

lemma Agreed.call (h : Agreed uuid config w) {c : Call} (hspares : c.spares uuid = true)
    (hnew : ∀ u, c.fresh = some u → u ∉ w.sys.granted.map (·.1)) :
    Agreed uuid config { w with sys := w.sys.step c } := by
  obtain ⟨howned, hsteps⟩ := moves_exec h.owned hnew
  refine ⟨howned, fun e a ha => List.mem_append_left _ (h.granted e a ha),
    (congrArg (List.flatMap JournalRecord.batch) (journal_exec hspares _)).trans h.stored,
    fun e a hf ha => ?_⟩
  -- a fence that changes hands goes to an epoch that nobody had
  rcases ((h.owned.fence uuid).grants_fresh (hsteps uuid)).2 e hf with hold | hfresh
  · exact h.holder e a hold ha
  · refine absurd (List.mem_map.mpr ⟨_, List.mem_filter.mpr ⟨h.granted e a ha, ?_⟩, rfl⟩) hfresh
    exact decide_eq_true rfl

lemma Agreed.load (h : Agreed uuid config w) {epoch : Epoch}
    (hgranted : (uuid, epoch) ∈ w.sys.granted) :
    Agreed uuid config ((ownership uuid config).next w (.load epoch)) := by
  refine ⟨h.owned, fun e a ha => ?_, h.stored, fun e a hf ha => ?_⟩
  all_goals
    simp only [ownership, Function.update_apply] at ha
    split_ifs at ha with he
  · exact he ▸ hgranted
  · exact h.granted e a ha
  · rw [← Option.some.inj ha, load_eq_fold, h.stored, Machine.fold_journal]
    rfl
  · exact h.holder e a hf ha

lemma Agreed.handle (h : Agreed uuid config w) (epoch : Epoch) (input : Input) :
    Agreed uuid config ((ownership uuid config).next w (.handle epoch input)) := by
  simp only [ownership]
  split
  · exact h
  rename_i actor hactor
  split_ifs
  · exact h
  by_cases hf : w.sys.store.fence uuid = some epoch
  · obtain rfl : actor = (machine config).run (.new uuid config) w.handled :=
      h.holder epoch actor hf hactor
    rw [APPEND, fenced, if_pos hf]
    refine ⟨(moves_append h.owned hf rfl).1, fun e a ha => ?_, ?_, fun e a hf' ha => ?_⟩
    · dsimp only at ha
      rw [Function.update_apply] at ha
      split_ifs at ha with he
      · exact he ▸ h.granted epoch _ hactor
      · exact h.granted e a ha
    · rw [loadJournal_append (Function.update_self _ _ _), h.stored, Machine.journal_append]
      simp [machine]
    · obtain rfl : epoch = e := Option.some.inj (hf.symm.trans hf')
      dsimp only at ha
      rw [Function.update_self] at ha
      rw [← Option.some.inj ha, Machine.run_append, ← step_eq_handleCommand]
      rfl
  · rw [APPEND, fenced, if_neg hf]
    have hothers : ∀ e a, Function.update w.owners epoch none e = some a → w.owners e = some a := by
      intro e a ha
      rw [Function.update_apply] at ha
      split_ifs at ha
      exact ha
    exact ⟨h.owned, fun e a ha => h.granted e a (hothers e a ha), h.stored,
      fun e a hf' ha => h.holder e a hf' (hothers e a ha)⟩

/-- **A challenge has one history**, in whatever order owners come and go, with those that have been
fenced off still at work. -/
theorem owners_agree (h : (ownership uuid config).Reachable (· = .init) (fun _ _ => True) w) :
    Agreed uuid config w := by
  refine TransitionSystem.Reachable.invariant (fun w hw => ?_) (fun w m hw henabled _ => ?_) h
  · have hnone : ∀ epoch actor, w.owners epoch ≠ some actor := by simp [hw, Ownership.init]
    exact ⟨by rw [hw]; exact owned_empty, fun e a ha => absurd ha (hnone e a), by rw [hw]; rfl,
      fun e a _ ha => absurd ha (hnone e a)⟩
  cases m with
  | call c => exact hw.call henabled.1 henabled.2
  | load epoch => exact hw.load henabled
  | handle epoch input => exact hw.handle epoch input

end Ownership

/-- The first owner is still at work when a second one has taken over. -/
theorem owners_agree_solo :
    let w := (ownership 7 soloConfig).run .init [.call (.start soloStart 0), .load 1,
      .handle 1 soloCreate, .call (.claim "b" 99 200 5 []), .load 2, .handle 1 (soloFinish 4),
      .handle 2 (soloFinish 4)]
    w.handled = [soloCreate, soloFinish 4] ∧ Agreed 7 soloConfig w := by
  intro w
  refine ⟨rfl, owners_agree (.run (.init rfl) ?_)⟩
  exact ⟨⟨rfl, fun _ _ => List.not_mem_nil⟩, trivial, List.mem_cons_self, trivial, trivial, trivial,
    ⟨rfl, nofun⟩, trivial, List.mem_cons_of_mem _ List.mem_cons_self, trivial, trivial, trivial,
    trivial, trivial, trivial⟩

end Blert.Redis

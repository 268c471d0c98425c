import Blert.Processing.ExactlyOnce

/-!
Attempts at processing, one after the other.

An attempt that fails is rolled back, so what a sequence of attempts makes of a database is told by
those that return.
-/

namespace Blert.Processing

open Lifecycle ReadCommitted Fallible

variable {σ Custom Own : Type}

/-- An attempt at processing: its trigger, and what it is told. -/
structure Attempt (σ : Type) where
  trigger : Trigger
  inputs : Inputs σ

def Attempt.run (a : Attempt σ) (env : Environment σ Custom Own) (db : Database Custom Own) :
    Except Failure (Reply ProcessingPayload × List (Change Custom Own)) :=
  ((process env a.inputs.info.uuid a.trigger fun _ : Unit => a.inputs).attempt ()).exec db

/-- What attempts make of a database, with what each has returned. -/
inductive Runs (env : Environment σ Custom Own) :
    Database Custom Own → List (Attempt σ × Reply ProcessingPayload) → Database Custom Own → Prop
  | none {db} : Runs env db [] db
  | next {db a reply cs runs finish} (run : a.run env db = .ok (reply, cs))
      (rest : Runs env (applyAll cs db) runs finish) : Runs env db ((a, reply) :: runs) finish

/-- What attempts return one after the other, if none fails. -/
def replies (env : Environment σ Custom Own) :
    List (Attempt σ) → Database Custom Own → Option (List (Reply ProcessingPayload))
  | [], _ => some []
  | a :: as, db =>
    match a.run env db with
    | .ok (reply, cs) => (replies env as (applyAll cs db)).map (reply :: ·)
    | .error _ => none

lemma runs_of_replies {env : Environment σ Custom Own} {as : List (Attempt σ)}
    {db : Database Custom Own} {rs : List (Reply ProcessingPayload)}
    (h : replies env as db = some rs) : ∃ finish, Runs env db (as.zip rs) finish := by
  induction as generalizing db rs with
  | nil =>
    cases h
    exact ⟨db, .none⟩
  | cons a as ih =>
    unfold replies at h
    split at h
    · next reply cs hrun =>
      obtain ⟨rest, hrest, rfl⟩ := Option.map_eq_some_iff.mp h
      obtain ⟨finish, hruns⟩ := ih hrest
      exact ⟨finish, .next hrun hruns⟩
    · cases h

/-- An attempt that does what its trigger demands, and commits it. -/
inductive Attempt.Applies (a : Attempt σ) (env : Environment σ Custom Own)
    (db : Database Custom Own) (payload : ProcessingPayload) :
    List (Change Custom Own) → Prop
  | intro {txn txn' : Transaction Custom} {customData : Option Custom}
      {performed committed : List (Change Custom Own)} {u : Unit}
      (opens : startTransaction a.inputs.info.uuid a.trigger db = .ok (.inr txn))
      (performs : (perform env a.inputs txn).exec db =
        .ok ((txn', payload, customData), performed))
      (commits : (commit txn' payload customData).exec (applyAll performed db) =
        .ok (u, committed)) : Applies a env db payload (performed ++ committed)

lemma Attempt.run_cases {a : Attempt σ} {env : Environment σ Custom Own}
    {db : Database Custom Own} {reply : Reply ProcessingPayload} {cs : List (Change Custom Own)}
    (h : a.run env db = .ok (reply, cs)) :
    (∃ payload, reply = .alreadyApplied payload ∧
        startTransaction a.inputs.info.uuid a.trigger db = .ok (.inl payload) ∧ cs = []) ∨
      ∃ payload, reply = .applied payload ∧ a.Applies env db payload cs := by
  obtain ⟨opened, cs₁, cs₂, hguard, hproceed, rfl⟩ := Program.exec_statement_ok.mp h
  change (startTransaction a.inputs.info.uuid a.trigger db).map _ = _ at hguard
  cases hopen : startTransaction a.inputs.info.uuid a.trigger db with
  | error e =>
    rw [hopen] at hguard
    cases hguard
  | ok x =>
    rw [hopen] at hguard
    cases hguard
    cases opened with
    | inl payload =>
      cases hproceed
      exact .inl ⟨payload, rfl, rfl, rfl⟩
    | inr txn =>
      obtain ⟨payload, rfl, hwork⟩ := Program.exec_map_ok.mp hproceed
      change (work env a.inputs txn).exec db = _ at hwork
      unfold work at hwork
      simp only [Program.exec_bind_ok] at hwork
      obtain ⟨⟨txn', payload', customData⟩, cs₃, _, h₃, ⟨u, cs₄, _, h₄, h₅, rfl⟩, rfl⟩ := hwork
      obtain ⟨rfl, rfl⟩ := Program.exec_pure_ok.mp h₅
      rw [List.nil_append, List.append_nil]
      exact .inr ⟨payload, rfl, .intro hopen h₃ h₄⟩

/-! ### What is stored between runs -/

/-- What is stored of a challenge for its next run. -/
def Database.customData (db : Database Custom Own) (id : ℕ) : Option Custom :=
  (db.processingState.get id).bind ProcessingCursor.customData

variable {uuid : Uuid} {id : ℕ} {db : Database Custom Own} {txn : Transaction Custom}

lemma startTransaction_hasId (hid : HasId uuid id db) {trigger : Trigger}
    (h : startTransaction uuid trigger db = .ok (.inr txn)) :
    txn.challengeId = id ∧ txn.customData = db.customData id := by
  obtain ⟨row, hrow, rfl⟩ := Option.map_eq_some_iff.mp hid
  unfold startTransaction at h
  rw [hrow] at h
  dsimp only at h
  split at h
  · next cursor hcursor =>
    split_ifs at h
    · cases hpayload : storedPayload cursor <;> rw [hpayload] at h <;> cases h
    · cases h
      exact ⟨rfl, rfl⟩
  · cases h
    exact ⟨rfl, rfl⟩

lemma advanceCursor_customData {trigger : Trigger} (hopen : trigger.isFinish = false)
    (payload : ProcessingPayload) (customData : Option Custom)
    (cursor : Option (ProcessingCursor Custom)) :
    (advanceCursor trigger payload customData cursor).customData =
      customData.or (cursor.bind ProcessingCursor.customData) := by
  unfold advanceCursor
  rw [if_neg (by simp [hopen])]

lemma customData_commit (hdel : txn.deleted = false) (hopen : txn.trigger.isFinish = false)
    {payload : ProcessingPayload} {customData : Option Custom} {u : Unit}
    {cs : List (Change Custom Own)} (h : (commit txn payload customData).exec db = .ok (u, cs)) :
    (applyAll cs db).customData txn.challengeId =
      customData.or (db.customData txn.challengeId) := by
  unfold commit at h
  rw [if_neg (by simp [hdel]), Program.exec_write_ok] at h
  obtain ⟨_, -, h⟩ := bind_eq_ok.1 h
  cases h
  change ((db.processingState.set _ _).get _).bind _ = _
  rw [InsertionMap.get_set, if_pos rfl, Option.bind_some, advanceCursor_customData hopen]
  rfl

lemma frame_commit {payload : ProcessingPayload} {customData : Option Custom} {u : Unit}
    {cs : List (Change Custom Own)} (h : (commit txn payload customData).exec db = .ok (u, cs)) :
    ∀ c ∈ cs, c.In [.processingState] := by
  intro c hc
  have hcursor := (writes_commit txn payload customData).exec h c hc
  cases c with
  | processingState => exact List.mem_singleton_self _
  | _ => exact hcursor.elim

lemma HasId.has (hid : HasId uuid id db) : db.challenges.has uuid := by
  obtain ⟨row, hrow, -⟩ := Option.map_eq_some_iff.mp hid
  change (db.challenges.get uuid).isSome = true
  rw [hrow]
  rfl

/-- A step before the finish of a challenge that exists processes a stage, or only notes what its
trigger says. -/
lemma exec_perform_cases {env : Environment σ Custom Own} {inputs : Inputs σ}
    {txn' : Transaction Custom} {payload : ProcessingPayload} {customData : Option Custom}
    {cs : List (Change Custom Own)} (hid : HasId inputs.info.uuid txn.challengeId db)
    (hopen : txn.trigger.isFinish = false)
    (h : (perform env inputs txn).exec db = .ok ((txn', payload, customData), cs)) :
    txn' = txn ∧ HasId inputs.info.uuid txn.challengeId (applyAll cs db) ∧
      ((payload = .none ∧ customData = none ∧
          ∀ c ∈ cs, c.In [.recordedChallenges, .challenges, .sessions]) ∨
        (processStage env inputs txn).exec db = .ok ((payload, customData), cs)) := by
  unfold perform at h
  split at h
  · obtain ⟨_, _, _, hcreate, -⟩ := Program.exec_bind_ok.mp h
    exact absurd hcreate ((inserts_create txn).not_exec hid.has)
  · obtain ⟨_, cs₁, cs₂, h₁, h₂, rfl⟩ := Program.exec_bind_ok.mp h
    obtain ⟨h₂, rfl⟩ := Program.exec_pure_ok.mp h₂
    cases h₂
    rw [List.append_nil]
    exact ⟨rfl, hid.exec (writes_keepsId (writes_addRecorder _ _ _) (by decide)) h₁,
      .inl ⟨rfl, rfl, (writes_within (writes_addRecorder _ _ _) (by decide)).exec h₁⟩⟩
  · obtain ⟨_, cs₁, cs₂, h₁, h₂, rfl⟩ := Program.exec_bind_ok.mp h
    obtain ⟨h₂, rfl⟩ := Program.exec_pure_ok.mp h₂
    cases h₂
    rw [List.append_nil]
    exact ⟨rfl, hid.exec (writes_updateStage txn _) h₁,
      .inl ⟨rfl, rfl, (writes_within in_updateChallenge (by decide)).exec h₁⟩⟩
  · obtain ⟨_, cs₁, cs₂, h₁, h₂, rfl⟩ := Program.exec_bind_ok.mp h
    obtain ⟨h₂, rfl⟩ := Program.exec_pure_ok.mp h₂
    cases h₂
    rw [List.append_nil]
    refine ⟨rfl, hid.exec (writes_updateMode txn _) h₁, .inl ⟨rfl, rfl,
      Program.Writes.exec ?_ h₁⟩⟩
    exact (writes_within in_updateChallenge (by decide)).bind fun _ =>
      writes_within (writes_updateSessionMode txn _) (by decide)
  · next htrigger =>
    rw [htrigger] at hopen
    cases hopen
  · obtain ⟨⟨payload', customData'⟩, cs₁, cs₂, h₁, h₂, rfl⟩ := Program.exec_bind_ok.mp h
    obtain ⟨h₂, rfl⟩ := Program.exec_pure_ok.mp h₂
    cases h₂
    rw [List.append_nil]
    exact ⟨rfl, hid.exec (writes_processStage env inputs txn) h₁, .inr h₁⟩

lemma in_processStage {env : Environment σ Custom Own} {inputs : Inputs σ}
    {a : ProcessingPayload × Option Custom} {cs : List (Change Custom Own)}
    (h : (processStage env inputs txn).exec db = .ok (a, cs)) :
    ∀ c ∈ cs, c.In (.processorRows :: stageTables) := by
  obtain ⟨_, stored, -, -, ⟨-, rfl⟩ | ⟨p, -, ⟨p', -, -, rfl⟩ |
    ⟨output, p', payload, p'', -, hpersist, -⟩⟩⟩ := exec_processStage h
  · rintro c ⟨⟩
  · rintro c ⟨⟩
  · obtain ⟨-, ctx, ticks, own, rest, hown, hrest, rfl⟩ := exec_persist hpersist
    intro c hc
    rcases List.mem_append.mp hc with hc | hc
    · have hmem := ((env.processor.onStageFinished_own _ _ _ _ _ _ _).exec hown c hc).mem
      exact Change.In.mono (by decide) hmem
    · exact List.mem_cons_of_mem _ (hrest c hc)

/-- A step before the finish of a challenge leaves what is stored of it, or replaces it after
processing a stage. -/
lemma Attempt.Applies.kept {a : Attempt σ} {env : Environment σ Custom Own}
    {payload : ProcessingPayload} {cs : List (Change Custom Own)}
    (h : a.Applies env db payload cs) (hid : HasId a.inputs.info.uuid id db)
    (hopen : a.trigger.isFinish = false) :
    HasId a.inputs.info.uuid id (applyAll cs db) ∧ ∃ txn customData performed,
      txn.challengeId = id ∧ txn.customData = db.customData id ∧
        (applyAll cs db).customData id = customData.or (db.customData id) ∧
        (applyAll cs db).processorRows = (applyAll performed db).processorRows ∧
        ((payload = .none ∧ customData = none ∧
            (applyAll performed db).processorRows = db.processorRows) ∨
          (processStage env a.inputs txn).exec db = .ok ((payload, customData), performed)) := by
  obtain ⟨opens, performs, commits⟩ := h
  rename_i txn txn' customData performed committed u
  obtain ⟨htrigger, hdel, -⟩ := startTransaction_pass opens
  obtain ⟨rfl, hcustom⟩ := startTransaction_hasId hid opens
  rw [← htrigger] at hopen
  obtain ⟨rfl, hid', hcases⟩ := exec_perform_cases hid hopen performs
  have hkept : (applyAll performed db).customData txn'.challengeId =
      db.customData txn'.challengeId := by
    unfold Database.customData
    rcases hcases with ⟨-, -, hin⟩ | hstage
    · rw [applyAll_frame holds_processingState (by decide) hin db]
    · rw [applyAll_frame holds_processingState (by decide) (in_processStage hstage) db]
  simp only [applyAll_append]
  refine ⟨hid'.exec ((writes_commit txn' payload customData).mono
    fun _ => Change.IsCursor.keepsId) commits, txn', customData, performed, rfl, hcustom,
    ?_, ?_, ?_⟩
  · rw [customData_commit hdel hopen commits, hkept]
  · exact applyAll_frame holds_processorRows (by decide) (frame_commit commits) _
  · exact hcases.imp (fun ⟨hpayload, hnone, hin⟩ =>
      ⟨hpayload, hnone, applyAll_frame holds_processorRows (by decide) hin db⟩) id

end Blert.Processing

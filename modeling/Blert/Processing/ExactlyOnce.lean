import Blert.Processing.Repeating

/-!
Processing steps under overlapping attempts.

An attempt that timed out goes on running beside the attempt that retries it. The guard of each
is read as its transaction begins, so both may pass it. Attempts at creating a challenge, and at
the steps whose writes can be repeated, still take effect once.
-/

namespace Blert.Processing

open Lifecycle ReadCommitted Fallible Change

variable {σ Custom Own ι : Type}

/-! ### The guard and the cursor -/

lemma startTransaction_pass {uuid : Uuid} {trigger : Trigger} {db : Database Custom Own}
    {txn : Transaction Custom} (h : startTransaction uuid trigger db = .ok (.inr txn)) :
    txn.trigger = trigger ∧ txn.deleted = false ∧
      (HasId uuid txn.challengeId db ∨
        txn.challengeId = 0 ∧ Gone uuid db ∧ trigger.isFinish = false) := by
  unfold startTransaction at h
  cases hrow : db.challenges.get uuid with
  | none =>
    simp only [hrow] at h
    split_ifs at h with hfin
    · cases h
    · cases h
      exact ⟨rfl, rfl, Or.inr ⟨rfl, hrow, by simpa using hfin⟩⟩
  | some row =>
    have hid : HasId uuid row.id db := by simp [HasId, hrow]
    simp only [hrow] at h
    split at h
    · split_ifs at h
      · rename_i cursor _ _
        cases hp : storedPayload cursor <;> rw [hp] at h <;> cases h
      · cases h
        exact ⟨rfl, rfl, Or.inl hid⟩
    · cases h
      exact ⟨rfl, rfl, Or.inl hid⟩

lemma storedPayload_advanceCursor {trigger : Trigger} {payload stored : ProcessingPayload}
    {customData : Option Custom} {cursor : Option (ProcessingCursor Custom)}
    (hfin : trigger.isFinish = true → payload = .none)
    (hlt : ∀ status ticks, payload = .stage status ticks → ticks < 2 ^ 32)
    (h : storedPayload (advanceCursor trigger payload customData cursor) = .ok stored) :
    stored = payload := by
  unfold advanceCursor at h
  split_ifs at h with hf
  · rw [hfin hf]
    cases h
    rfl
  · cases payload with
    | none => cases h; rfl
    | stage status ticks =>
      have hticks := hlt status ticks rfl
      simp only [storedPayload] at h
      split_ifs at h with hnn
      cases h
      congr 1
      unfold castSigned at hnn ⊢
      split_ifs at hnn ⊢ <;> omega

lemma processedSeq_advanceCursor (trigger : Trigger) (payload : ProcessingPayload)
    (customData : Option Custom) (cursor : Option (ProcessingCursor Custom)) :
    (advanceCursor trigger payload customData cursor).processedSeq = trigger.seq := by
  unfold advanceCursor
  split_ifs <;> rfl

lemma startTransaction_stored {uuid : Uuid} {trigger : Trigger} {db : Database Custom Own}
    {id : ℕ} {cursor : ProcessingCursor Custom} (hid : HasId uuid id db)
    (hcursor : db.processingState.get id = some cursor) (hseq : cursor.processedSeq = trigger.seq) :
    startTransaction uuid trigger db = (storedPayload cursor).map .inl := by
  obtain ⟨row, hrow, rfl⟩ := Option.map_eq_some_iff.mp hid
  simp only [startTransaction, hrow, hcursor, hseq, le_refl, if_true]

lemma startTransaction_gone {uuid : Uuid} {trigger : Trigger} {db : Database Custom Own}
    (hgone : Gone uuid db) (hfin : trigger.isFinish = true) :
    startTransaction uuid trigger db = .ok (.inl .none) := by
  simp only [startTransaction, show db.challenges.get uuid = none from hgone, hfin, if_true]

lemma startTransaction_committed {uuid : Uuid} {trigger : Trigger} {txn : Transaction Custom}
    {db : Database Custom Own} (hid : HasId uuid txn.challengeId db)
    (htrigger : txn.trigger = trigger) (payload : ProcessingPayload) (customData : Option Custom) :
    startTransaction uuid trigger (applyAll ([.processingState txn.challengeId
        (some (advanceCursor txn.trigger payload customData
          (db.processingState.get txn.challengeId)))] : List (Change Custom Own)) db) =
      (storedPayload (advanceCursor txn.trigger payload customData
        (db.processingState.get txn.challengeId))).map .inl := by
  set cursor := advanceCursor txn.trigger payload customData
    (db.processingState.get txn.challengeId)
  change startTransaction uuid trigger
    { db with processingState := db.processingState.set txn.challengeId cursor } = _
  have hget : (db.processingState.set txn.challengeId cursor).get txn.challengeId =
      some cursor := by
    rw [InsertionMap.get_set, if_pos rfl]
  refine startTransaction_stored hid hget ?_
  rw [processedSeq_advanceCursor, htrigger]

/-! ### What a run leaves behind -/

variable {env : Environment σ Custom Own} {inputs : Inputs σ}

lemma exec_processStage_payload {txn : Transaction Custom} {payload : ProcessingPayload}
    {customData : Option Custom} {db : Database Custom Own} {cs : List (Change Custom Own)}
    (h : (processStage env inputs txn).exec db = .ok ((payload, customData), cs))
    {status : StageStatus} {ticks : ℕ} (hp : payload = .stage status ticks) : ticks < 2 ^ 32 := by
  obtain ⟨_, _, -, -, ⟨h, -⟩ | ⟨p, -, ⟨p', -, h, -⟩ |
    ⟨output, p', payload', p'', -, hpersist, h⟩⟩⟩ := exec_processStage h
  · cases h
    cases hp
  · cases h
    cases hp
  · cases h
    cases hp.symm.trans (exec_persist hpersist).1
    exact output.events.lastTick_lt

/-- Where a run stands before its commit: at the challenge with its id, or, once it has deleted
it, without one. -/
def Leaves (uuid : Uuid) (txn : Transaction Custom) (db : Database Custom Own) : Prop :=
  (txn.deleted = false ∧ (HasId uuid txn.challengeId db ∨ txn.challengeId = 0)) ∨
    (txn.deleted = true ∧ txn.trigger.isFinish = true ∧ Gone uuid db)

lemma leaves_of_writes {α : Type} {uuid : Uuid} {txn : Transaction Custom} {trigger : Trigger}
    {db : Database Custom Own} (hopen : startTransaction uuid trigger db = .ok (.inr txn))
    {p : Sql Custom Own α} (hp : p.Writes (KeepsId txn.challengeId)) {a : α}
    {cs : List (Change Custom Own)} (h : p.exec db = .ok (a, cs)) :
    Leaves uuid txn (applyAll cs db) := by
  obtain ⟨-, hdel, hid | ⟨hzero, -⟩⟩ := startTransaction_pass hopen
  · exact Or.inl ⟨hdel, Or.inl (hid.exec hp h)⟩
  · exact Or.inl ⟨hdel, Or.inr hzero⟩

lemma exec_perform {uuid : Uuid} {trigger : Trigger} {txn txn' : Transaction Custom}
    {payload : ProcessingPayload} {customData : Option Custom} {db : Database Custom Own}
    {cs : List (Change Custom Own)} (huuid : inputs.info.uuid = uuid)
    (hopen : startTransaction uuid trigger db = .ok (.inr txn))
    (h : (perform env inputs txn).exec db = .ok ((txn', payload, customData), cs)) :
    txn'.trigger = trigger ∧ Leaves uuid txn' (applyAll cs db) ∧
      (trigger.isFinish = true → payload = .none) ∧
      ∀ status ticks, payload = .stage status ticks → ticks < 2 ^ 32 := by
  obtain ⟨htrigger, hdel, hid⟩ := startTransaction_pass hopen
  unfold perform at h
  rw [htrigger] at h
  cases trigger with
  | create seq =>
    rw [Program.exec_bind_ok] at h
    obtain ⟨⟨txn₁, custom⟩, cs₁, _, h₁, h, rfl⟩ := h
    obtain ⟨h, rfl⟩ := Program.exec_pure_ok.mp h
    cases h
    obtain ⟨rfl, hid₁⟩ := exec_create h₁
    rw [huuid, ← List.append_nil cs₁] at hid₁
    exact ⟨htrigger, Or.inl ⟨hdel, Or.inl hid₁⟩, fun _ => rfl, by rintro _ _ ⟨⟩⟩
  | recorder seq userId recordingType =>
    rw [Program.exec_bind_ok] at h
    obtain ⟨_, cs₁, _, h₁, h, rfl⟩ := h
    obtain ⟨h, rfl⟩ := Program.exec_pure_ok.mp h
    cases h
    rw [List.append_nil]
    exact ⟨htrigger, leaves_of_writes hopen
      (writes_keepsId (writes_addRecorder txn userId recordingType) (by decide)) h₁,
      fun _ => rfl, by rintro _ _ ⟨⟩⟩
  | stageStart seq stage =>
    rw [Program.exec_bind_ok] at h
    obtain ⟨_, cs₁, _, h₁, h, rfl⟩ := h
    obtain ⟨h, rfl⟩ := Program.exec_pure_ok.mp h
    cases h
    rw [List.append_nil]
    exact ⟨htrigger, leaves_of_writes hopen (writes_updateStage txn stage) h₁,
      fun _ => rfl, by rintro _ _ ⟨⟩⟩
  | mode seq mode =>
    rw [Program.exec_bind_ok] at h
    obtain ⟨_, cs₁, _, h₁, h, rfl⟩ := h
    obtain ⟨h, rfl⟩ := Program.exec_pure_ok.mp h
    cases h
    rw [List.append_nil]
    exact ⟨htrigger, leaves_of_writes hopen (writes_updateMode txn mode) h₁,
      fun _ => rfl, by rintro _ _ ⟨⟩⟩
  | finish seq =>
    rw [Program.exec_bind_ok] at h
    obtain ⟨txn₁, cs₁, _, h₁, h, rfl⟩ := h
    obtain ⟨h, rfl⟩ := Program.exec_pure_ok.mp h
    cases h
    rw [List.append_nil]
    have hid' : HasId uuid txn.challengeId db := by
      refine hid.resolve_right ?_
      rintro ⟨-, -, ⟨⟩⟩
    rcases exec_finish hid' h₁ with ⟨rfl, hid₁⟩ | ⟨rfl, hgone⟩
    · exact ⟨htrigger, Or.inl ⟨hdel, Or.inl hid₁⟩, fun _ => rfl, by rintro _ _ ⟨⟩⟩
    · exact ⟨htrigger, Or.inr ⟨rfl, by rw [htrigger]; rfl, hgone⟩, fun _ => rfl,
        by rintro _ _ ⟨⟩⟩
  | stage seq stage attempt =>
    rw [Program.exec_bind_ok] at h
    obtain ⟨⟨payload', custom⟩, cs₁, _, h₁, h, rfl⟩ := h
    obtain ⟨h, rfl⟩ := Program.exec_pure_ok.mp h
    cases h
    rw [List.append_nil]
    exact ⟨htrigger, leaves_of_writes hopen (writes_processStage env inputs txn) h₁,
      by rintro ⟨⟩, fun status ticks hp => exec_processStage_payload h₁ hp⟩

lemma requireChallenge_ok {db : Database Custom Own} {id : ℕ} {table : String} {u : Unit}
    (h : db.requireChallenge id table = .ok u) : db.challengesById id ≠ [] := by
  unfold Database.requireChallenge at h
  split_ifs at h with hempty
  simpa using hempty

lemma challengesById_zero (db : Database Custom Own) : db.challengesById 0 = [] := by
  refine List.filter_eq_nil_iff.mpr fun e _ h => ?_
  have hpos := e.2.id_pos
  have hzero : e.2.id = 0 := by simpa using h
  omega

lemma process_seals {uuid : Uuid} {trigger : Trigger} {inputs : ι → Inputs σ}
    (huuid : ∀ i, (inputs i).info.uuid = uuid) : (process env uuid trigger inputs).Seals := by
  intro i db txn payload cs hopen h x hx
  change startTransaction uuid trigger _ = .ok x at hx
  change (work env (inputs i) txn).exec db = _ at h
  unfold work at h
  simp only [Program.exec_bind_ok] at h
  obtain ⟨⟨txn', payload', customData⟩, cs₁, _, h₁, ⟨_, cs₂, _, h₂, h₃, rfl⟩, rfl⟩ := h
  obtain ⟨rfl, rfl⟩ := Program.exec_pure_ok.mp h₃
  obtain ⟨htrigger, hleaves, hfin, hlt⟩ := exec_perform (huuid i) hopen h₁
  rw [List.append_nil, applyAll_append] at hx
  unfold commit at h₂
  rcases hleaves with ⟨hdel, hid⟩ | ⟨hdel, hisFin, hgone⟩
  · rw [if_neg (by simp [hdel]), Program.exec_write_ok] at h₂
    obtain ⟨_, hreq, h₂⟩ := bind_eq_ok.1 h₂
    cases h₂
    have hid' : HasId uuid txn'.challengeId (applyAll cs₁ db) := by
      refine hid.resolve_right fun hzero => requireChallenge_ok hreq ?_
      rw [hzero]
      exact challengesById_zero _
    have hguard := startTransaction_committed hid' htrigger payload customData
    have hx := hguard.symm.trans hx
    cases hst : storedPayload (advanceCursor txn'.trigger payload customData
        ((applyAll cs₁ db).processingState.get txn'.challengeId)) with
    | error e => rw [hst] at hx; cases hx
    | ok stored =>
      rw [hst] at hx
      cases hx
      rw [htrigger] at hst
      rw [storedPayload_advanceCursor hfin hlt hst]
  · rw [if_pos hdel] at h₂
    obtain ⟨-, rfl⟩ := Program.exec_pure_ok.mp h₂
    rw [htrigger] at hisFin
    rw [applyAll_nil, startTransaction_gone hgone hisFin] at hx
    cases hx
    rw [hfin hisFin]

/-! ### Creating a challenge -/

lemma inserts_insertChallengeRow (inputs : Inputs σ) (sessionId : ℕ) :
    (insertChallengeRow inputs sessionId : Sql Custom Own Unit).Inserts
      (fun db => db.challenges.has inputs.info.uuid) (.challenge inputs.info.uuid) := by
  intro db u cs hrun
  dsimp only at hrun
  split_ifs at hrun with hhas
  cases hrun
  exact Or.inl ⟨hhas, List.mem_singleton.mpr rfl⟩

lemma inserts_create (txn : Transaction Custom) :
    (create env inputs txn).Inserts
      (fun db => db.challenges.has inputs.info.uuid) (.challenge inputs.info.uuid) :=
  (((writes_resolveSession env.naming inputs.ids inputs.info _).mono fun _ h =>
    (Change.In.sparesChallenges (by decide) h).safe
      (P := fun m => m.has inputs.info.uuid)).bind_inserts fun sessionId =>
      (inserts_insertChallengeRow inputs sessionId).bind _).bind _

lemma overlapSafe_create {uuid : Uuid} {seq : JournalSeq} {inputs : ι → Inputs σ}
    (huuid : ∀ i, (inputs i).info.uuid = uuid) (db : Database Custom Own) :
    (process env uuid (.create seq) inputs).OverlapSafe db := by
  have hform : ∀ i g, startTransaction uuid (.create seq) db = .ok (.inr g) →
      work env (inputs i) g = (create env (inputs i) g >>= fun r =>
        pure (r.1, ProcessingPayload.none, r.2)) >>= fun r => do
          commit r.1 r.2.1 r.2.2
          return r.2.1 := by
    intro i g hg
    unfold work perform
    rw [(startTransaction_pass hg).1]
  refine Guarded.overlapSafe_of_inserts (K := fun _ db => db.challenges.has uuid)
    (ℓ := fun _ => .challenge uuid) (fun i g hg => ?_) fun i g r cs hg hexec => ?_
  · change (work env (inputs i) g).Inserts _ _
    rw [hform i g hg, ← huuid i]
    exact ((inserts_create g).bind _).bind _
  · change (work env (inputs i) g).exec db = _ at hexec
    rw [hform i g hg] at hexec
    simp only [Program.exec_bind_ok] at hexec
    obtain ⟨_, _, _, ⟨⟨txn', custom⟩, cs₁, _, h₁, h₂, rfl⟩, ⟨_, cs₃, _, h₃, h₄, rfl⟩, rfl⟩ :=
      hexec
    obtain ⟨rfl, rfl⟩ := Program.exec_pure_ok.mp h₂
    obtain ⟨-, rfl⟩ := Program.exec_pure_ok.mp h₄
    have hid := ((exec_create h₁).2).exec
      ((writes_commit _ _ _).mono fun _ => IsCursor.keepsId) (by simpa using h₃)
    rw [huuid i] at hid
    obtain ⟨row, hrow, -⟩ := Option.map_eq_some_iff.mp hid
    change (InsertionMap.get _ uuid).isSome = true
    simp only [List.append_nil, applyAll_append]
    rw [hrow]
    rfl

/-! ### Repeating a step -/

def settle (txn : Transaction Custom) : Sql Custom Own ProcessingPayload := do
  commit txn .none none
  return .none

lemma exec_settle {txn : Transaction Custom} {r : ProcessingPayload} {db : Database Custom Own}
    {cs : List (Change Custom Own)} (h : (settle txn).exec db = .ok (r, cs)) :
    r = .none ∧ ∃ u, (commit txn .none none).exec db = .ok (u, cs) := by
  unfold settle at h
  rw [Program.exec_bind_ok] at h
  obtain ⟨u, cs₁, _, h₁, h₂, rfl⟩ := h
  obtain ⟨rfl, rfl⟩ := Program.exec_pure_ok.mp h₂
  rw [List.append_nil]
  exact ⟨rfl, u, h₁⟩

lemma exec_commit_ne_nil {txn : Transaction Custom} (hdel : txn.deleted = false)
    {payload : ProcessingPayload} {customData : Option Custom} {db : Database Custom Own} {u : Unit}
    {cs : List (Change Custom Own)} (h : (commit txn payload customData).exec db = .ok (u, cs)) :
    db.challengesById txn.challengeId ≠ [] := by
  unfold commit at h
  rw [if_neg (by simp [hdel]), Program.exec_write_ok] at h
  obtain ⟨_, hreq, -⟩ := bind_eq_ok.1 h
  exact requireChallenge_ok hreq

/-- Steps whose first statement locks the challenge's data, and which leave what they set so that
setting it again changes nothing. -/
lemma overlapSafe_of_settles {uuid : Uuid} {trigger : Trigger} {inputs : ι → Inputs σ}
    {db : Database Custom Own}
    {run : Transaction Custom → Database Custom Own →
      Except Failure (Unit × List (Change Custom Own))}
    {R : Transaction Custom → Sql Custom Own Unit}
    {S : Transaction Custom → Database Custom Own → Prop}
    (hwork : ∀ i g, startTransaction uuid trigger db = .ok (.inr g) →
      work env (inputs i) g = .statement (run g) fun _ => R g >>= fun _ => settle g)
    (hlock : ∀ g u cs, run g db = .ok (u, cs) → db.challengesById g.challengeId ≠ [] →
      locksOf (Database Custom Own) cs ≠ [])
    (hset : ∀ g u u' cs cs', run g db = .ok (u, cs) →
      (R g).exec (applyAll cs db) = .ok (u', cs') → S g (applyAll cs' (applyAll cs db)))
    (hsafe : ∀ g (c : Change Custom Own), c.IsCursor → Storage.Safe (S g) c)
    (hquiet : ∀ g db, S g db → (Program.write (run g)).Quiet db ∧ (R g).Quiet db) :
    (process env uuid trigger inputs).OverlapSafe db := by
  refine Guarded.overlapSafe_of_repeatable hwork ?_ ?_
  · intro g u cs r cs' hg hrun hnext
    obtain ⟨-, hdel, hid | ⟨hzero, -⟩⟩ := startTransaction_pass hg
    · obtain ⟨row, -, -, hmem⟩ := mem_challengesById hid
      exact hlock g u cs hrun (List.ne_nil_of_mem hmem)
    · rw [Program.exec_bind_ok] at hnext
      obtain ⟨_, _, _, -, hsettle, -⟩ := hnext
      obtain ⟨-, _, hcommit⟩ := exec_settle hsettle
      refine absurd ?_ (exec_commit_ne_nil hdel hcommit)
      rw [hzero]
      exact challengesById_zero _
  · intro i g r cs r' cs' hg hexec hagain
    obtain ⟨-, hdel, -⟩ := startTransaction_pass hg
    change (work env (inputs i) g).exec db = _ at hexec
    change (work env (inputs i) g).exec _ = _ at hagain
    rw [hwork i g hg] at hexec hagain
    obtain ⟨u, cs₁, _, hrun, hnext, rfl⟩ := Program.exec_statement_ok.mp hexec
    rw [Program.exec_bind_ok] at hnext
    obtain ⟨_, cs₂, cs₃, hrest, hsettle, rfl⟩ := hnext
    obtain ⟨rfl, _, hcommit⟩ := exec_settle hsettle
    have hcommitted := committed_of_commit hdel hcommit
    have hS : S g (applyAll cs₃ (applyAll cs₂ (applyAll cs₁ db))) :=
      applyAll_safe (fun c hc => hsafe g c ((writes_commit g _ _).exec hcommit c hc))
        (hset g _ _ _ _ hrun hrest)
    simp only [applyAll_append] at hagain ⊢
    set db₁ := applyAll cs₃ (applyAll cs₂ (applyAll cs₁ db))
    obtain ⟨hrunq, hrestq⟩ := hquiet g db₁ hS
    have hq : (Program.write (run g) >>= fun _ => R g >>= fun _ => settle g).Quiet db₁ :=
      hrunq.bind fun _ => hrestq.bind fun _ => (quiet_commit hcommitted).bind fun _ =>
        Program.quiet_pure _ _
    refine ⟨?_, hq r' cs' hagain⟩
    obtain ⟨_, _, _, -, hnext', -⟩ := Program.exec_statement_ok.mp hagain
    rw [Program.exec_bind_ok] at hnext'
    obtain ⟨_, _, _, -, hsettle', -⟩ := hnext'
    exact (exec_settle hsettle').1

lemma overlapSafe_recorder {uuid : Uuid} {seq : JournalSeq} {userId : UserId}
    {recordingType : RecordingType} {inputs : ι → Inputs σ} (db : Database Custom Own) :
    (process env uuid (.recorder seq userId recordingType) inputs).OverlapSafe db := by
  refine overlapSafe_of_settles (R := fun _ => pure ())
    (S := fun g => IsRecorded (g.challengeId, userId) recordingType)
    (fun i g hg => ?_) (fun g u cs hrun _ => ?_) (fun g u u' cs cs' hrun hrest => ?_)
    (fun g c hc db hdb => ?_) fun g db hdb => ⟨quiet_addRecorder hdb, Program.quiet_pure _ _⟩
  · unfold work perform
    rw [(startTransaction_pass hg).1]
    rfl
  · obtain ⟨_, -, hrun⟩ := bind_eq_ok.1 hrun
    cases hrun
    exact List.cons_ne_nil _ _
  · obtain ⟨-, rfl⟩ := Program.exec_pure_ok.mp hrest
    rw [applyAll_nil]
    exact isRecorded_of_addRecorder (Program.exec_write_ok.mpr hrun)
  · cases c with
    | processingState => exact hdb
    | _ => exact hc.elim

lemma overlapSafe_stageStart {uuid : Uuid} {seq : JournalSeq} {stage : Stage}
    {inputs : ι → Inputs σ} (db : Database Custom Own) :
    (process env uuid (.stageStart seq stage) inputs).OverlapSafe db := by
  refine overlapSafe_of_settles (R := fun _ => pure ())
    (S := fun g => Updated g.challengeId fun row => .ok { row with stage })
    (fun i g hg => ?_) (fun g u cs hrun hid => locks_updateChallenge hrun hid)
    (fun g u u' cs cs' hrun hrest => ?_) (fun g c hc db hdb => ?_)
    fun g db hdb => ⟨quiet_updateChallenge hdb, Program.quiet_pure _ _⟩
  · unfold work perform
    rw [(startTransaction_pass hg).1]
    rfl
  · obtain ⟨-, rfl⟩ := Program.exec_pure_ok.mp hrest
    rw [applyAll_nil]
    exact updated_of_updateChallenge (by rintro r _ ⟨⟩; rfl) hrun
  · cases c with
    | processingState => exact hdb
    | _ => exact hc.elim

lemma overlapSafe_mode {uuid : Uuid} {seq : JournalSeq} {mode : ChallengeMode}
    {inputs : ι → Inputs σ} (db : Database Custom Own) :
    (process env uuid (.mode seq mode) inputs).OverlapSafe db := by
  refine overlapSafe_of_settles (R := fun g => updateSessionMode g mode)
    (S := fun g db => Updated g.challengeId (fun row => .ok { row with mode }) db ∧
      SessionInMode g mode db)
    (fun i g hg => ?_) (fun g u cs hrun hid => ?_)
    (fun g u u' cs cs' hrun hrest => ?_) (fun g c hc db hdb => ?_) fun g db hdb =>
      ⟨quiet_updateChallenge hdb.1, quiet_updateSessionMode hdb.2⟩
  · unfold work perform
    rw [(startTransaction_pass hg).1]
    change Program.statement _ (fun _ => ((updateSessionMode g mode >>= fun _ =>
      pure (g, ProcessingPayload.none, none)) >>= fun r => _)) = _
    simp only [Program.bind_assoc]
    rfl
  · exact locks_updateChallenge hrun hid
  · obtain ⟨hspares, hsession⟩ := exec_updateSessionMode hrest
    refine ⟨applyAll_safe (fun c hc => (hspares c hc).safe
      (P := fun m => ∀ k row, m.get k = some row → row.id = g.challengeId →
        (.ok { row with mode } : Except Failure Challenge) = .ok row))
      (updated_of_updateChallenge (by rintro r _ ⟨⟩; rfl) hrun), hsession⟩
  · cases c with
    | processingState => exact hdb
    | _ => exact hc.elim

/-! ### Steps take effect once -/

/-- The steps that stand any overlap of their attempts: what they write can be written again, or
can only be written once. -/
def OverlapsSafely : Trigger → Prop
  | .create _ | .recorder _ _ _ | .stageStart _ _ | .mode _ _ => True
  | .stage _ _ _ | .finish _ => False

lemma overlapSafe_of_overlapsSafely {uuid : Uuid} {trigger : Trigger} {inputs : ι → Inputs σ}
    (huuid : ∀ i, (inputs i).info.uuid = uuid) (db : Database Custom Own)
    (h : OverlapsSafely trigger) : (process env uuid trigger inputs).OverlapSafe db := by
  cases trigger with
  | create => exact overlapSafe_create huuid db
  | recorder => exact overlapSafe_recorder db
  | stageStart => exact overlapSafe_stageStart db
  | mode => exact overlapSafe_mode db
  | stage => exact h.elim
  | finish => exact h.elim

/-- **A processing step takes effect once** in every interleaving of its attempts, if its writes
stand an overlap or if no attempt commits its work once the guard has stopped passing. -/
theorem takes_effect_once [DecidableEq ι] (env : Environment σ Custom Own) (uuid : Uuid)
    (trigger : Trigger) (inputs : ι → Inputs σ) (huuid : ∀ i, (inputs i).info.uuid = uuid)
    (db : Database Custom Own)
    (s : System ι (Database Custom Own) (Change Custom Own) Failure (Reply ProcessingPayload))
    (hrun : Run (fun s s' => OverlapsSafely trigger ∨
        (process env uuid trigger inputs).CommitsUnderGuard s s')
      (.start (process env uuid trigger inputs).attempt db) s) :
    (process env uuid trigger inputs).Once db s :=
  Guarded.once_of_run (process_seals huuid) (overlapSafe_of_overlapsSafely huuid db) hrun

/-! ### Overlapping finishes -/

section Overlap

/-- A challenge type whose processor only keeps its state. -/
def plainProcessor : ChallengeProcessor Unit Unit Unit where
  onCreate p _ := pure p
  onStageFinished p _ _ _ ctx _ events := pure (p, ctx, .add events.lastTick)
  onFinish p _ _ ctx _ := pure (p, ctx)
  customData _ := none
  finalChallengeTicks _ ticks := ticks
  hasFullyRecordedUpTo _ _ := false
  onCreate_own _ _ := Program.writes_pure _
  onStageFinished_own _ _ _ _ _ _ _ := Program.writes_pure _
  onFinish_own _ _ _ _ _ := Program.writes_pure _

def plainEnvironment : Environment Unit Unit Unit where
  processor := plainProcessor
  processorFor _ _ := .ok (some ())
  naming := ⟨id, id⟩

/-- A solo Colosseum that ended before anything was recorded of it. -/
def emptyInputs : Inputs Unit where
  info :=
    { uuid := 7, sessionUuid := 8, challengeType := .colosseum, mode := .noMode
      party := ["WWWWWWWWWWWQ"], partyChanged := false, stage := ⟨100, by decide⟩
      stageAttempt := none, status := .reset, createdUnixMs := 1000
      finishedUnixMs := some 5000, reportedTimes := none }
  recorded := .ok fun p => (none, p)
  saveChallenge := .ok ()
  saveStageEvents := .ok ()
  deleteChallenge := .ok ()
  prices _ := none
  now := 6000
  ids := ⟨5, by decide, 6, fun _ => 9, id, id, id⟩

/-- The database once the challenge was created: the player's third recording. -/
def createdDatabase : Database Unit Unit where
  challenges := (∅ : InsertionMap Uuid Challenge).set 7
    { id := 3, id_pos := by decide, sessionId := some 4, challengeType := .colosseum
      mode := .noMode, scale := 1, stage := ⟨100, by decide⟩, status := .inProgress
      startTime := 1000, finishTime := none, challengeTicks := 0, overallTicks := none
      totalDeaths := 0, fullRecording := false }
  processingState := (∅ : InsertionMap ℕ (ProcessingCursor Unit)).set 3 ⟨1, none, none, none, none⟩
  challengePlayers := (∅ : InsertionMap (ℕ × ℕ) ChallengePlayer).set (3, 0)
    ⟨2, "WWWWWWWWWWWQ", .unknown, []⟩
  recordedChallenges := ∅
  challengeSplits := ∅
  personalBestHistory := ∅
  queryableEvents := ∅
  sessions := (∅ : InsertionMap ℕ Session).set 4
    ⟨8, .colosseum, .noMode, 1, "", 1000, none, .active⟩
  players := (∅ : InsertionMap ℕ Player).set 2 ⟨"WWWWWWWWWWWQ", "wwwwwwwwwwwq", 3⟩
  playerStats := ∅
  processorRows := ∅

abbrev finishes : Guarded Bool (Database Unit Unit) (Change Unit Unit) Failure ProcessingPayload
    (Transaction Unit) :=
  process plainEnvironment 7 (.finish 2) fun _ => emptyInputs

/-- Two attempts at noting one recorder of it. -/
abbrev recorders : Guarded Bool (Database Unit Unit) (Change Unit Unit) Failure
    ProcessingPayload (Transaction Unit) :=
  process plainEnvironment 7 (.recorder 2 5 .participant) fun _ => emptyInputs

def recordings (db : Database Unit Unit) : Option ℤ :=
  (db.players.get 2).map Player.totalRecordings

/-- Two attempts at noting a recorder that have both passed the guard. -/
theorem takes_effect_once_recorder : ∃ s, s.txn true = .committed (.applied .none) ∧
    s.txn false = .committed (.applied .none) ∧ recorders.Once createdDatabase s := by
  obtain ⟨s, hrun, -, hfalse, htrue⟩ := run_overlap
    (fun s s' => OverlapsSafely (.recorder 2 5 .participant) ∨ recorders.CommitsUnderGuard s s')
    (fun _ _ => Or.inl trivial) recorders.attempt createdDatabase
    (i := true) (j := false) (by decide) (n := 1) rfl rfl rfl
  exact ⟨s, htrue, hfalse, takes_effect_once plainEnvironment 7 (.recorder 2 5 .participant)
    (fun _ => emptyInputs) (fun _ => rfl) createdDatabase s hrun⟩

/-- Two attempts at finishing the challenge, the second of which goes on after the first has
committed: the player loses two recordings. -/
theorem finish_takes_effect_twice : ∃ s, Run (fun _ _ => True)
    (.start finishes.attempt createdDatabase) s ∧ ¬ finishes.Once createdDatabase s := by
  obtain ⟨s, hrun, hdb, -, htrue⟩ := run_overlap
    (fun _ _ => True) (fun _ _ => trivial) finishes.attempt createdDatabase
    (i := true) (j := false) (by decide) (n := 3) rfl rfl rfl
  refine ⟨s, hrun, ?_⟩
  have htwice : recordings s.db = some 1 := by
    rw [hdb]
    rfl
  rintro (⟨-, hnone⟩ | ⟨k, a, cs, hexec, hs, -⟩)
  · exact hnone true _ htrue
  · have honce : recordings (applyAll cs createdDatabase) = some 2 := by
      cases k <;>
      · obtain ⟨rfl, rfl⟩ := Prod.mk.inj (Except.ok.inj hexec)
        rfl
    rw [← hs, htwice] at honce
    cases honce

end Overlap

end Blert.Processing

import Blert.Lifecycle.FinishStep

/-!
Deadlines drive an abandoned challenge to its end.

A deadline that is due is always answered, so it is never announced again unchanged. Each
answer uses up some of the work that is left: the attempts of the runs that are queued, the
stage still to be sealed, the termination and the finish. With no client active a challenge
that is not over always has a next deadline.
-/

namespace Blert.Lifecycle

variable {config : LifecycleConfig} {uuid : Uuid}

/-! ### The work that is left -/

namespace Processing

/-- Firings that a run not yet begun can take: a start and a timeout for every attempt. -/
def triggerCost (p : Processing) (t : Trigger) : ℕ := 2 * max 1 (p.config.attemptsFor t)

/-- Firings that the active run can still take. -/
def runCost (p : Processing) (run : ProcessingRun) : ℕ :=
  let left := p.config.attemptsFor run.trigger - run.attempts
  if run.state.isRunning then 1 + 2 * left else 2 * max 1 left

/-- Firings that the runs of the pipeline can still take. -/
def cost (p : Processing) : ℕ :=
  (p.active.map p.runCost).getD 0 + (p.pending.map fun q => p.triggerCost q.trigger).sum

variable {p : Processing} {t : Trigger} {info : ChallengeInfo} {time : Timestamp}
  {run : ProcessingRun}

lemma runCost_new (p : Processing) (q : QueuedTrigger) (time : Timestamp) :
    p.runCost (.new q time) = p.triggerCost q.trigger := by
  simp [runCost, triggerCost, ProcessingRun.new]

lemma cost_push (p : Processing) (t : Trigger) (info : ChallengeInfo) (time : Timestamp) :
    (p.push t info time).cost ≤ p.cost + p.triggerCost t := by
  by_cases hen : p.config.maxAttempts = 0
  · rw [push_disabled hen]
    omega
  · unfold push
    rw [if_neg hen]
    dsimp only
    split
    · rename_i hn
      have hnew := p.runCost_new ⟨t, info⟩ time
      simp only [runCost, triggerCost] at hnew
      simp only [cost, runCost, triggerCost, hn, Option.map_some, Option.getD_some,
        Option.map_none, Option.getD_none]
      omega
    · rename_i r hs
      simp [cost, runCost, triggerCost, hs]
      omega

lemma cost_start (hr : p.active = some run) (hidle : run.state.isRunning = false)
    (time : Timestamp) :
    (p.start run.trigger.seq time).cost + 1 ≤ p.cost := by
  rw [start_eq hr rfl]
  simp only [cost, runCost, triggerCost, hr, hidle, Option.map_some, Option.getD_some,
    ProcessingState.isRunning_running, if_true, Bool.false_eq_true, if_false]
  omega

lemma cost_finish (hr : p.active = some run) (hrun : run.state.isRunning = true)
    (ty : ChallengeType) (time : Timestamp) (result : Except ProcessingError ProcessingPayload) :
    (p.finish ty time result).cost + 1 ≤ p.cost := by
  obtain ⟨status, hf⟩ | ⟨retriable, hlt, hf⟩ := finish_cases hr ty time result
  · rw [hf]
    cases hp : p.pending with
    | nil =>
      simp [cost, advance, hp, hr, runCost, hrun]
    | cons q qs =>
      have hnew := p.runCost_new q time
      simp only [runCost, triggerCost] at hnew
      simp only [cost, advance, hp, hr, runCost, triggerCost, hrun, List.head?_cons,
        List.tail_cons, Option.map_some, Option.getD_some, List.map_cons, List.sum_cons, if_true]
      omega
  · rw [hf]
    simp only [cost, runCost, triggerCost, hr, hrun, Option.map_some, Option.getD_some,
      ProcessingState.isRunning_idle, if_true, Bool.false_eq_true, if_false]
    omega

/-- Firings that a finish still to be queued will take. -/
def finishReserve (p : Processing) : ℕ :=
  if p.finishQueued then 0 else 1 + 2 * max 1 p.config.finishMaxAttempts

lemma reserve_push (p : Processing) (t : Trigger) (info : ChallengeInfo) (time : Timestamp) :
    (p.push t info time).cost + (p.push t info time).finishReserve ≤
      p.cost + p.finishReserve + p.triggerCost t := by
  have hc := cost_push p t info time
  have hr : (p.push t info time).finishReserve ≤ p.finishReserve := by
    by_cases hen : p.config.maxAttempts = 0
    · rw [push_disabled hen]
    · unfold finishReserve
      rw [push_finishQueued hen, push_config]
      cases t.isFinish <;> cases p.finishQueued <;> simp
  omega

lemma reserve_push_finish {seq : JournalSeq} (hq : p.finishQueued = false) :
    (p.push (.finish seq) info time).cost + (p.push (.finish seq) info time).finishReserve ≤
      p.cost + p.finishReserve := by
  have hc := cost_push p (.finish seq) info time
  by_cases hen : p.config.maxAttempts = 0
  · rw [push_disabled hen]
  · have hq' := push_finishQueued hen (.finish seq) info time
    simp only [finishReserve, hq, hq', Trigger.isFinish, Bool.true_or, if_true, Bool.false_eq_true,
      if_false]
    simp only [triggerCost, ProcessingConfig.attemptsFor] at hc
    omega

lemma reserve_start (hr : p.active = some run) (hidle : run.state.isRunning = false)
    (time : Timestamp) :
    (p.start run.trigger.seq time).cost + (p.start run.trigger.seq time).finishReserve + 1 ≤
      p.cost + p.finishReserve := by
  have hc := cost_start hr hidle time
  have hres : (p.start run.trigger.seq time).finishReserve = p.finishReserve := by
    simp [finishReserve]
  omega

lemma reserve_finish (hr : p.active = some run) (hrun : run.state.isRunning = true)
    (ty : ChallengeType) (time : Timestamp) (result : Except ProcessingError ProcessingPayload) :
    (p.finish ty time result).cost + (p.finish ty time result).finishReserve + 1 ≤
      p.cost + p.finishReserve := by
  have hc := cost_finish hr hrun ty time result
  have hres : (p.finish ty time result).finishReserve = p.finishReserve := by
    simp [finishReserve]
  omega

end Processing

/-- Firings that the challenge can still take. -/
def workLeft (s : ChallengeState) : ℕ :=
  s.processing.cost + s.processing.finishReserve +
    (if s.stageState.isComplete then 0 else 1 + 2 * max 1 s.processing.config.maxAttempts) +
    (if s.terminated then 0 else 1)

/-! ### What a firing uses up -/

def LifecycleEvent.isFired : LifecycleEvent → Bool
  | .stageSealed _ _ _ | .clientRemoved _ | .challengeTerminated | .processingStarted _
  | .processingTimedOut _ => true
  | _ => false

/-- The work an event that answers a deadline uses up, at least. -/
def LifecycleEvent.work : LifecycleEvent → ℕ
  | .clientRemoved _ => 0
  | _ => 1

lemma reserve_queueFinish (s : ChallengeState) (e : JournalEntry) :
    (queueFinish s e).processing.cost + (queueFinish s e).processing.finishReserve ≤
      s.processing.cost + s.processing.finishReserve := by
  rw [queueFinish_processing]
  split_ifs with hd
  · refine Processing.reserve_push_finish ?_
    simp only [finishDue, Bool.and_eq_true, Bool.not_eq_true'] at hd
    exact hd.2
  · exact le_refl _

/-- What an event that answers a deadline does to the pipeline: a seal queues a run, the events
about a run use up some of its work, and the others leave the pipeline alone. -/
lemma reserve_fired {a : Actor} {e : JournalEntry} (hf : Follows a e)
    (he : e.event.isFired = true) :
    let p := (applyEvent (moveCursor a.state e) e).processing
    p.cost + p.finishReserve + (if e.event.isProcessing then 1 else 0) ≤
      a.state.processing.cost + a.state.processing.finishReserve +
        (if e.event.isSeal then 2 * max 1 a.state.processing.config.maxAttempts else 0) := by
  have hperm := hf.permits
  unfold applyEvent
  cases hevent : e.event with
  | stageSealed stage attempt forced =>
    exact Processing.reserve_push a.state.processing (.stage e.seq stage attempt) _ e.time
  | clientRemoved id => exact le_refl _
  | challengeTerminated => exact le_refl _
  | processingStarted seq =>
    rw [hevent] at hperm
    obtain ⟨run, hr, rfl, hidle⟩ := hperm
    exact Processing.reserve_start hr hidle e.time
  | processingTimedOut seq =>
    rw [hevent] at hperm
    obtain ⟨run, hr, -, hrun⟩ := hperm
    exact Processing.reserve_finish hr hrun _ e.time _
  | _ => rw [hevent] at he; cases he

lemma workLeft_step {a : Actor} {e : JournalEntry} (hf : Follows a e)
    (he : e.event.isFired = true) :
    workLeft (apply a.state e) + e.event.work ≤ workLeft a.state := by
  have hq := reserve_queueFinish (applyEvent (moveCursor a.state e) e) e
  rw [← apply_processing] at hq
  have hfired := reserve_fired hf he
  have hperm := hf.permits
  have halive := hf.alive
  unfold workLeft
  rw [apply_config, apply_isComplete, apply_terminated]
  cases hevent : e.event with
  | stageSealed stage attempt forced =>
    rw [hevent] at hfired hperm halive
    have hopen : a.state.stageState.isComplete = false := hperm
    simp only [LifecycleEvent.isProcessing, LifecycleEvent.isSeal, if_true, Bool.false_eq_true,
      if_false] at hfired
    simp only [hopen, halive rfl, LifecycleEvent.work, if_true, Bool.false_eq_true, if_false]
    omega
  | clientRemoved id =>
    rw [hevent] at hfired
    simp only [LifecycleEvent.isProcessing, LifecycleEvent.isSeal, Bool.false_eq_true,
      if_false] at hfired
    simp only [LifecycleEvent.work]
    omega
  | challengeTerminated =>
    rw [hevent] at hfired halive
    simp only [LifecycleEvent.isProcessing, LifecycleEvent.isSeal, Bool.false_eq_true,
      if_false] at hfired
    simp only [halive rfl, LifecycleEvent.work, if_true, Bool.false_eq_true, if_false]
    omega
  | processingStarted seq | processingTimedOut seq =>
    rw [hevent] at hfired
    simp only [LifecycleEvent.isProcessing, LifecycleEvent.isSeal, if_true, Bool.false_eq_true,
      if_false] at hfired
    simp only [LifecycleEvent.work]
    omega
  | _ => rw [hevent] at he; cases he

lemma workLeft_chain {a : Actor} {es : List JournalEntry}
    (hes : (machine config).Licensed Follows a es) (hfired : ∀ e ∈ es, e.event.isFired = true) :
    workLeft ((machine config).fold a es).state + (es.map (·.event.work)).sum ≤
      workLeft a.state := by
  induction es generalizing a with
  | nil => simp
  | cons e es ih =>
    have hstep := workLeft_step hes.1 (hfired e List.mem_cons_self)
    have hrest := ih hes.2 fun f hf => hfired f (List.mem_cons_of_mem _ hf)
    have hload : ((machine config).apply a e).state = apply a.state e := rfl
    rw [hload] at hrest
    rw [Machine.fold_cons, List.map_cons, List.sum_cons]
    omega

lemma isFired_terminate (s : ChallengeState) :
    ∀ e ∈ (sealOpenStage s).toList ++ [.challengeTerminated], e.isFired = true := by
  intro e he
  obtain ⟨-, hs⟩ | ⟨-, hs⟩ := sealOpenStage_eq s
  all_goals
    rw [hs] at he
    simp only [Option.toList_none, Option.toList_some, List.nil_append, List.cons_append,
      List.mem_cons, List.not_mem_nil, or_false] at he
  · rw [he]
    rfl
  · rcases he with rfl | rfl <;> rfl

lemma isFired_terminate_all (s : ChallengeState) : ∀ e ∈ terminate s, e.isFired = true := by
  intro e he
  rcases List.mem_append.mp he with he | he
  · obtain ⟨k, -, rfl⟩ := List.mem_map.mp he
    rfl
  · exact isFired_terminate s e he

lemma work_pos_of_mem {es : List LifecycleEvent} (h : .challengeTerminated ∈ es) :
    0 < (es.map LifecycleEvent.work).sum :=
  List.sum_pos_iff_exists_pos_nat.mpr ⟨1, List.mem_map.mpr ⟨_, h, rfl⟩, Nat.one_pos⟩

lemma deadlineFired_work {s : ChallengeState} {d : Deadline}
    (h : nextDeadline s config = some d) :
    (∀ e ∈ deadlineFired s config d, e.isFired = true) ∧
      0 < ((deadlineFired s config d).map LifecycleEvent.work).sum := by
  unfold deadlineFired
  rw [if_neg (by simp [h])]
  rcases nextDeadline_cases h with hl | hp
  · obtain ⟨-, ⟨hk, -⟩ | ⟨hk, since, hs⟩ | ⟨hk, -⟩ | hk⟩ := lifecycleDeadline_cases hl
    · rw [hk]
      refine ⟨fun e he => ?_, Nat.one_pos⟩
      rw [List.mem_singleton.mp he]
      rfl
    · simp only [hk, hs]
      exact ⟨isFired_terminate_all s, work_pos_of_mem (by simp [terminate])⟩
    · rw [hk]
      exact ⟨isFired_terminate s, work_pos_of_mem (by simp)⟩
    · rw [hk]
      exact ⟨isFired_terminate_all s, work_pos_of_mem (by simp [terminate])⟩
  · obtain ⟨run, hr, ⟨hk, -⟩ | ⟨hk, -⟩⟩ := processingDeadline_cases hp
    all_goals
      simp only [hk, hr]
      refine ⟨fun e he => ?_, Nat.one_pos⟩
      rw [List.mem_singleton.mp he]
      rfl

lemma map_work_stamp (seq : JournalSeq) (t : Timestamp) (c : Cause) (es : List LifecycleEvent) :
    (stamp seq t c es).map (·.event.work) = es.map LifecycleEvent.work := by
  induction es generalizing seq with
  | nil => rfl
  | cons e es ih => rw [stamp_cons, List.map_cons, List.map_cons, ih]

/-! ### A deadline while no client is active -/

def NoneActive (s : ChallengeState) : Prop := ∀ client ∈ s.clients.values, client.active = false

lemma dormancy_of_noneActive {s : ChallengeState} : Dormancy.of s ≠ .active ↔ NoneActive s := by
  unfold Dormancy.of NoneActive
  by_cases he : s.clients.isEmpty = true
  · have hnil : s.clients.values = [] := by
      unfold OrdMap.values
      rw [List.isEmpty_iff.mp he]
      rfl
    simp [he, hnil]
  · rw [if_neg he]
    by_cases hall : s.clients.values.all (fun client => !client.active) = true
    · rw [if_pos hall]
      refine ⟨fun _ c hc => ?_, fun _ h => by cases h⟩
      simpa using List.all_eq_true.mp hall c hc
    · rw [if_neg hall]
      simp only [ne_eq, not_true_eq_false, false_iff]
      intro h
      exact hall (List.all_eq_true.mpr fun c hc => by simp [h c hc])

lemma noneActive_fired {s : ChallengeState} {e : JournalEntry} (h : NoneActive s)
    (he : e.event.isFired = true) : NoneActive (apply s e) := by
  intro client hc
  rw [apply_clients] at hc
  cases hev : e.event with
  | clientRemoved id =>
    rw [hev] at hc
    obtain ⟨k, hk⟩ := OrdMap.mem_values.mp hc
    have hk' : (s.clients.erase id).get k = some client := hk
    rw [OrdMap.get_erase] at hk'
    split_ifs at hk'
    exact h client (OrdMap.mem_values.mpr ⟨k, hk'⟩)
  | stageSealed | challengeTerminated | processingStarted | processingTimedOut =>
    rw [hev] at hc
    exact h client hc
  | _ => rw [hev] at he; cases he

lemma applyEvent_dormantSince (s : ChallengeState) (e : JournalEntry) :
    (applyEvent s e).dormantSince = s.dormantSince := by
  unfold applyEvent
  cases e.event with
  | processingFinished t p => cases p <;> rfl
  | _ => simp [ChallengeState.push, recordClient, stageReported,
      apply_ite ChallengeState.dormantSince]

lemma apply_dormantSince (s : ChallengeState) (e : JournalEntry) :
    (apply s e).dormantSince =
      if Dormancy.of (apply s e) = .active then none
      else if Dormancy.of (apply s e) ≠ Dormancy.of s then some e.time
      else s.dormantSince := by
  obtain ⟨p, d, h⟩ := apply_eq s e
  have hd : Dormancy.of (apply s e) =
      Dormancy.of (queueFinish (applyEvent (moveCursor s e) e) e) := by
    unfold Dormancy.of
    rw [h]
    unfold queueFinish ChallengeState.push
    split_ifs <;> rfl
  have hb : Dormancy.of (moveCursor s e) = Dormancy.of s := rfl
  have hq : (queueFinish (applyEvent (moveCursor s e) e) e).dormantSince = s.dormantSince := by
    have hs := applyEvent_dormantSince (moveCursor s e) e
    unfold queueFinish ChallengeState.push
    split_ifs <;> exact hs
  rw [hd]
  unfold apply trackDormancy
  dsimp only
  rw [hb]
  split_ifs with h1 h2
  · rfl
  · rfl
  · exact hq

lemma not_noneActive_joined {s : ChallengeState} {e : JournalEntry} {id : ClientId}
    {user : UserId} {token : SessionToken} {r : RecordingType}
    (he : e.event = .clientJoined id user token r) : ¬ NoneActive (apply s e) := by
  intro hnone
  obtain ⟨client, hcl, hact⟩ : ∃ client : ClientState,
      (apply s e).clients = s.clients.insert id client ∧ client.active = true := by
    rw [apply_clients, he]
    exact ⟨_, rfl, rfl⟩
  have hget : (apply s e).clients.get id = some client := by
    rw [hcl, OrdMap.get_insert, if_pos rfl]
  rw [hnone client (OrdMap.mem_values.mpr ⟨id, hget⟩)] at hact
  cases hact

/-- Once a client has joined, the time since none is active is known. -/
def Dormant (s : ChallengeState) : Prop :=
  s.recordedBy.Nonempty → NoneActive s → s.dormantSince.isSome = true

lemma dormant_step {s : ChallengeState} (h : Dormant s) (e : JournalEntry) :
    Dormant (apply s e) := by
  intro hrec hnone
  have hafter := dormancy_of_noneActive.2 hnone
  rw [apply_dormantSince, if_neg hafter]
  split_ifs with hb
  · rfl
  · -- The clients are as dormant as before, so it was known before.
    have hbefore : NoneActive s := by
      rw [← dormancy_of_noneActive, ← not_ne_iff.mp hb]
      exact hafter
    refine h ?_ hbefore
    rw [apply_recordedBy] at hrec
    cases hev : e.event with
    | clientJoined id u token r => exact absurd hnone (not_noneActive_joined hev)
    | _ => rw [hev] at hrec; exact hrec

lemma dormant_run (uuid : Uuid) (config : LifecycleConfig) (js : List JournalEntry) :
    Dormant (Actor.load uuid config js).state := by
  induction js using List.reverseRecOn with
  | nil =>
    rintro ⟨id, hid⟩
    cases hid
  | append_singleton js e ih =>
    rw [load_snoc]
    exact dormant_step ih e

lemma nextDeadline_of_dormant {s : ChallengeState} (config : LifecycleConfig)
    (hd : Dormant s) (hrec : s.recordedBy.Nonempty) (hnone : NoneActive s) (hb : s.processing.Busy)
    (hover : ¬ (s.terminated = true ∧ s.processing.settled = true)) :
    ∃ d, nextDeadline s config = some d := by
  rw [← Option.isSome_iff_exists, nextDeadline_isSome]
  by_cases ht : s.terminated = true
  · right
    unfold processingDeadline
    rw [Option.isSome_map]
    by_contra hn
    have hact : s.processing.active = none := by simpa using hn
    exact hover ⟨ht, by simp [Processing.settled, hact, hb hact]⟩
  · left
    unfold lifecycleDeadline
    rw [if_neg ht]
    split
    · rfl
    · split
      · rfl
      · rw [Option.isSome_map]
        exact hd hrec hnone

/-! ### Created challenges -/

def LifecycleEvent.isCreated : LifecycleEvent → Bool
  | .challengeCreated _ _ _ _ _ _ => true
  | _ => false

lemma isFired_not_created {e : LifecycleEvent} (h : e.isFired = true) : e.isCreated = false := by
  cases e <;> first | rfl | cases h

def LifecycleEvent.isUpdate : LifecycleEvent → Bool
  | .modeChanged _ | .partyChanged _ | .clientStageReported _ _ _ | .stageStarted _
  | .stageAttemptStarted _ _ | .stageSealed _ _ _ => true
  | _ => false

lemma isUpdate_not_created {e : LifecycleEvent} (h : e.isUpdate = true) :
    e.isCreated = false := by
  cases e <;> first | rfl | cases h

lemma reportFinished_isUpdate {s : ChallengeState} {id : ClientId} {client : ClientState}
    {progress : StageProgress} : ∀ e ∈ reportFinished s id client progress,
    e.isUpdate = true := by
  intro e he
  unfold reportFinished at he
  grind [LifecycleEvent.isUpdate]

lemma reportStarted_isUpdate {s : ChallengeState} {id : ClientId} {client : ClientState}
    {progress : StageProgress} : ∀ e ∈ reportStarted s id client progress,
    e.isUpdate = true := by
  intro e he
  unfold reportStarted at he
  grind [LifecycleEvent.isUpdate]

lemma update_isUpdate {s : ChallengeState} {u : Update} :
    ∀ e ∈ update s u, e.isUpdate = true := by
  have hmode : ∀ e ∈ modeEvents s u, e.isUpdate = true := by
    intro e he
    unfold modeEvents at he
    grind [LifecycleEvent.isUpdate]
  have hparty : ∀ e ∈ partyEvents s u, e.isUpdate = true := by
    intro e he
    unfold partyEvents at he
    grind [LifecycleEvent.isUpdate]
  intro e he
  unfold update at he
  dsimp only at he
  split at he
  · grind
  · split at he
    · cases he
    · split_ifs at he
      · cases he
      · rcases List.mem_append.mp he with he | he
        · grind
        · split at he
          · exact reportFinished_isUpdate e he
          · exact reportFinished_isUpdate e he
          · exact reportStarted_isUpdate e he
          · grind [LifecycleEvent.isUpdate]

lemma create_of_created {s : ChallengeState} {cmd : Command} {e : LifecycleEvent}
    (he : e ∈ decide s config cmd) (hc : e.isCreated = true) :
    ∃ c, cmd = .create c ∧ decide s config cmd =
      [.challengeCreated s.uuid c.sessionUuid c.challengeType c.mode c.party c.stage,
       .clientJoined c.clientId c.userId c.sessionToken c.recordingType] := by
  have hdead : ∀ d, e ∉ deadlineFired s config d := by
    intro d hd
    by_cases hn : nextDeadline s config = some d
    · rw [isFired_not_created ((deadlineFired_work hn).1 e hd)] at hc
      cases hc
    · simp [deadlineFired, hn] at hd
  have hproc : ∀ r, e ∉ processed s r := by
    intro r hr
    unfold processed at hr
    grind [LifecycleEvent.isCreated]
  unfold decide at he ⊢
  split_ifs at he ⊢ with ht
  · split at he
    · exact absurd he (hproc _)
    · exact absurd he (hdead _)
    · cases he
  · cases cmd with
    | create c =>
      refine ⟨c, rfl, ?_⟩
      dsimp only [create] at he ⊢
      split_ifs at he ⊢
      · cases he
      · rfl
    | update u =>
      rw [isUpdate_not_created (update_isUpdate e he)] at hc
      cases hc
    | deadlineFired d => exact absurd he (hdead d)
    | processed r => exact absurd he (hproc r)
    | join j =>
      dsimp only [join] at he
      grind [LifecycleEvent.isCreated]
    | finish f =>
      dsimp only [finish] at he
      grind [LifecycleEvent.isCreated, sealOpenStage]
    | clientStatus c =>
      dsimp only [clientStatus] at he
      grind [LifecycleEvent.isCreated]
    | clientMovedOn m =>
      dsimp only [clientMovedOn] at he
      grind [LifecycleEvent.isCreated]

lemma recordedBy_fold {a : Actor} (es : List JournalEntry)
    (h : a.state.recordedBy.Nonempty ∨ ∃ e ∈ es, ∃ id u token r,
      e.event = .clientJoined id u token r) :
    ((machine config).fold a es).state.recordedBy.Nonempty := by
  induction es generalizing a with
  | nil =>
    rcases h with h | ⟨e, he, -⟩
    · exact h
    · cases he
  | cons f es ih =>
    have hrec := apply_recordedBy a.state f
    refine ih ?_
    have hload : ((machine config).apply a f).state.recordedBy = (apply a.state f).recordedBy := rfl
    rw [hload, hrec]
    rcases h with h | ⟨e, he, id, u, token, r, hev⟩
    · left
      split
      · exact Finset.insert_nonempty _ _
      · exact h
    · rcases List.mem_cons.mp he with rfl | he
      · left
        rw [hev]
        exact Finset.insert_nonempty _ _
      · exact Or.inr ⟨e, he, id, u, token, r, hev⟩

def Created (config : LifecycleConfig) (uuid : Uuid) (is : List Input) : Prop :=
  ∃ e ∈ (machine config).journal (Actor.new uuid config) is, e.event.isCreated = true

lemma exists_mem_stamp (seq : JournalSeq) (t : Timestamp) (c : Cause)
    {es : List LifecycleEvent} {ev : LifecycleEvent} (h : ev ∈ es) :
    ∃ e ∈ stamp seq t c es, e.event = ev := by
  induction es generalizing seq with
  | nil => cases h
  | cons a es ih =>
    rcases List.mem_cons.mp h with rfl | h
    · exact ⟨_, List.mem_cons_self, rfl⟩
    · obtain ⟨e, he, hev⟩ := ih (seq + 1) h
      exact ⟨e, List.mem_cons_of_mem _ he, hev⟩

lemma recordedBy_of_created {is : List Input} (h : Created config uuid is) :
    ((machine config).run (Actor.new uuid config) is).state.recordedBy.Nonempty := by
  obtain ⟨e, he, hc⟩ := h
  have hjoin : ∀ (is : List Input) (a : Actor), e ∈ (machine config).journal a is →
      ∃ f ∈ (machine config).journal a is, ∃ id u token r,
        f.event = .clientJoined id u token r := by
    intro is
    induction is with
    | nil => intro a he; cases he
    | cons i is ih =>
      intro a he
      rcases List.mem_append.mp he with he | he
      · obtain ⟨c, -, hdec⟩ := create_of_created (event_of_mem_stamp he) hc
        have hmem : .clientJoined c.clientId c.userId c.sessionToken c.recordingType ∈
            decide a.state config i.cmd := by
          rw [hdec]
          exact List.mem_cons_of_mem _ List.mem_cons_self
        obtain ⟨f, hf, hev⟩ := exists_mem_stamp a.nextSeq i.time i.cause hmem
        exact ⟨f, List.mem_append_left _ hf, _, _, _, _, hev⟩
      · obtain ⟨f, hf, hev⟩ := ih _ he
        exact ⟨f, List.mem_append_right _ hf, hev⟩
  rw [← Machine.fold_journal]
  exact recordedBy_fold _ (Or.inr (hjoin is _ he))

/-! ### Firing the next deadline -/

/-- Fires the actor's next deadline, if it has one. -/
def fireNext (config : LifecycleConfig) (a : Actor) (t : Timestamp) : Actor :=
  match nextDeadline a.state config with
  | some d => a.handleCommand config (.deadline t d)
  | none => a

/-- The challenge is over and fully processed. -/
def Over (a : Actor) : Prop := a.state.terminated = true ∧ a.state.processing.settled = true

/-- What is known of an abandoned challenge while only its deadlines fire. -/
structure Abandoned (a : Actor) : Prop where
  noneActive : NoneActive a.state
  recorded : a.state.recordedBy.Nonempty
  dormant : Dormant a.state
  busy : a.state.processing.Busy

lemma abandoned_chain {a : Actor} {es : List JournalEntry} (h : Abandoned a)
    (hes : ∀ e ∈ es, e.event.isFired = true) : Abandoned ((machine config).fold a es) := by
  induction es generalizing a with
  | nil => exact h
  | cons e es ih =>
    refine ih ⟨?_, ?_, ?_, ?_⟩ fun f hf => hes f (List.mem_cons_of_mem _ hf)
    · exact noneActive_fired h.noneActive (hes e List.mem_cons_self)
    · exact recordedBy_fold [e] (Or.inl h.recorded)
    · exact dormant_step h.dormant e
    · exact apply_busy h.busy

lemma fire_step {a : Actor} {d : Deadline} (h : Abandoned a)
    (hd : nextDeadline a.state config = some d) (t : Timestamp) :
    Abandoned (fireNext config a t) ∧
      workLeft (fireNext config a t).state < workLeft a.state := by
  have hfire : fireNext config a t = (machine config).step a (.deadline t d) := by
    rw [step_eq_handleCommand]
    simp [fireNext, hd]
  have hdec : decide a.state config (.deadlineFired d) = deadlineFired a.state config d := by
    unfold decide
    split_ifs <;> rfl
  have hbatch : (machine config).decide a (.deadline t d) =
      stamp a.nextSeq t (.deadline d.kind) (deadlineFired a.state config d) := by
    rw [← hdec]
    rfl
  obtain ⟨hfired, hwork⟩ := deadlineFired_work hd
  have hfired' : ∀ e ∈ (machine config).decide a (.deadline t d), e.event.isFired = true := by
    intro e he
    rw [hbatch] at he
    exact hfired _ (event_of_mem_stamp he)
  have hchain := workLeft_chain (batch_follows config a (.deadline t d)) hfired'
  rw [hfire]
  refine ⟨abandoned_chain h hfired', ?_⟩
  rw [hbatch, map_work_stamp, ← hbatch] at hchain
  show workLeft ((machine config).fold a _).state < _
  omega

lemma fireNext_of_over {a : Actor} (h : Over a) (t : Timestamp) : fireNext config a t = a := by
  have hnone : nextDeadline a.state config = none := by
    rw [← Option.not_isSome_iff_eq_none, nextDeadline_isSome]
    have hs := h.2
    simp only [Processing.settled, Bool.and_eq_true, Option.isNone_iff_eq_none] at hs
    simp [lifecycleDeadline, processingDeadline, h.1, hs.1]
  simp [fireNext, hnone]

lemma fireNext_of_not_over {a : Actor} (h : Abandoned a) (hover : ¬ Over a) (t : Timestamp) :
    Abandoned (fireNext config a t) ∧
      workLeft (fireNext config a t).state < workLeft a.state := by
  obtain ⟨d, hd⟩ := nextDeadline_of_dormant config h.dormant h.recorded h.noneActive
    h.busy hover
  exact fire_step h hd t

lemma over_of_work {a : Actor} (h : Abandoned a) {ts : List Timestamp}
    (hts : workLeft a.state ≤ ts.length) : Over (ts.foldl (fireNext config) a) := by
  refine Machine.done_of_rank (fireNext config) (fun a => workLeft a.state) Abandoned Over
    (fun a t ha => ?_) (fun a t _ ho => ?_) (fun a t ha ho => ?_) h hts
  · by_cases ho : Over a
    · rwa [fireNext_of_over ho]
    · exact (fireNext_of_not_over ha ho t).1
  · rwa [fireNext_of_over ho]
  · exact (fireNext_of_not_over ha ho t).2

/-- **Deadlines are answered, and abandoned challenges settle.** A due deadline is always
answered with at least one entry; and from every state a run reaches after the challenge was
created in which no client is active, firing the next deadline over and over, at whatever
times, terminates and settles the challenge after finitely many firings. -/
theorem deadlines_settle (uuid : Uuid) (config : LifecycleConfig) :
    (∀ (s : ChallengeState) (d : Deadline), nextDeadline s config = some d →
      decide s config (.deadlineFired d) ≠ []) ∧
    (∀ is : List Input, Created config uuid is →
      NoneActive ((machine config).run (Actor.new uuid config) is).state →
      ∃ n, ∀ ts : List Timestamp, n ≤ ts.length →
        Over (ts.foldl (fireNext config) ((machine config).run (Actor.new uuid config) is))) := by
  constructor
  · intro s d hd
    have hne := deadlineFired_ne_nil hd
    unfold decide
    split_ifs <;> exact hne
  · intro is hcreated hnone
    have hload : (machine config).run (Actor.new uuid config) is =
        Actor.load uuid config ((machine config).journal (Actor.new uuid config) is) := by
      rw [load_eq_fold, Machine.fold_journal]
    have hab : Abandoned ((machine config).run (Actor.new uuid config) is) := by
      refine ⟨hnone, recordedBy_of_created hcreated, ?_, ?_⟩
      · rw [hload]
        exact dormant_run uuid config _
      · rw [hload]
        exact busy_run uuid config _
    exact ⟨_, fun ts hts => over_of_work hab hts⟩

end Blert.Lifecycle

import Blert.Lifecycle.Attempts

/-!
The finish step: once a challenge is over and the rest of its pipeline has settled, its finish
is queued, as the last trigger there is, with the status the challenge keeps from then on.
-/

namespace Blert.Lifecycle

variable {config : LifecycleConfig} {uuid : Uuid}

/-! ### What is queued, and what becomes of it -/

lemma Processing.push_finishQueued {p : Processing} (hen : p.config.maxAttempts ≠ 0)
    (t : Trigger) (info : ChallengeInfo) (time : Timestamp) :
    (p.push t info time).finishQueued = (t.isFinish || p.finishQueued) := by
  unfold push
  rw [if_neg hen]
  dsimp only
  split <;> cases t.isFinish <;> simp

@[simp] lemma Processing.push_status {p : Processing} {t : Trigger} {info : ChallengeInfo}
    {time : Timestamp} : (p.push t info time).status = p.status := by
  unfold push
  dsimp only
  split
  · rfl
  · split <;> rfl

@[simp] lemma Processing.start_finishQueued {p : Processing} {seq : JournalSeq}
    {time : Timestamp} : (p.start seq time).finishQueued = p.finishQueued := by
  obtain h | ⟨run, -, -, h⟩ := start_cases p seq time <;> rw [h]

@[simp] lemma Processing.finish_finishQueued {p : Processing} {ty : ChallengeType}
    {time : Timestamp} {result : Except ProcessingError ProcessingPayload} :
    (p.finish ty time result).finishQueued = p.finishQueued := by
  cases h : p.active with
  | none => rw [finish_of_none h]
  | some run =>
    obtain ⟨status, hf⟩ | ⟨retriable, -, hf⟩ := finish_cases h ty time result <;> rw [hf]
    rfl

lemma Processing.finish_status {p : Processing} {run : ProcessingRun} {ty : ChallengeType}
    {time : Timestamp} {result : Except ProcessingError ProcessingPayload}
    (h : p.active = some run) (hfin : run.trigger.isFinish = true) :
    (p.finish ty time result).status = p.status := by
  unfold finish
  rw [h]
  cases ht : run.trigger with
  | finish seq =>
    dsimp only
    split
    · rw [ht]
      rfl
    · rw [ht]
      rfl
    · split_ifs <;> rfl
  | _ => simp [ht, Trigger.isFinish] at hfin

lemma eventTrigger_isFinish {s : ChallengeState} {e : JournalEntry} {t : Trigger}
    (h : eventTrigger s e = some t) : t.isFinish = false := by
  unfold eventTrigger at h
  split at h
  all_goals first
    | cases h; rfl
    | split_ifs at h; cases h; rfl
    | cases h

lemma applyEvent_finishQueued {s : ChallengeState} {e : JournalEntry}
    (hen : s.processing.config.maxAttempts ≠ 0) :
    (applyEvent (moveCursor s e) e).processing.finishQueued = s.processing.finishQueued := by
  have hp : (moveCursor s e).processing = s.processing := rfl
  obtain ⟨t, info, ht, -, h⟩ | ⟨-, ⟨-, h⟩ | ⟨seq, -, h⟩ | ⟨seq, result, -, h⟩⟩ :=
    applyEvent_processing (moveCursor s e) e <;> rw [h, hp]
  · rw [Processing.push_finishQueued hen, eventTrigger_isFinish ht, Bool.false_or]
  · exact Processing.start_finishQueued
  · exact Processing.finish_finishQueued

lemma status_congr {s s' : ChallengeState} (hphase : s'.phase.phase = s.phase.phase)
    (hstatus : s'.processing.status = s.processing.status)
    (htype : s'.challengeType = s.challengeType) (hstage : s'.stage = s.stage)
    (hss : s'.stageStatus = s.stageStatus) : s'.status = s.status := by
  unfold ChallengeState.status
  rw [hstatus, htype, hstage, hss]
  cases h : s.phase <;> cases h' : s'.phase <;> simp_all [PhaseState.phase]

/-! ### The invariant -/

/-- The pipeline is at the finish, which has the challenge's status, or has completed it. -/
def AtFinish (s : ChallengeState) : Prop :=
  (∃ run, s.processing.active = some run ∧ run.trigger.isFinish = true ∧
    run.info.status = s.status) ∨
  (s.processing.active = none ∧ ∃ pre t, s.processing.completed = pre ++ [t] ∧
    t.isFinish = true)

/-- Nothing is a finish before it is queued, and nothing else is left once it is. -/
structure FinishInv (s : ChallengeState) : Prop where
  before : s.processing.finishQueued = false →
    (∀ t ∈ s.processing.jobs, t.isFinish = false) ∧
      ¬ (s.terminated = true ∧ s.processing.settled = true)
  queued : s.processing.finishQueued = true →
    s.terminated = true ∧ s.processing.pending = [] ∧ AtFinish s

lemma finishDue_of_queued {s : ChallengeState} (h : s.processing.finishQueued = true) :
    finishDue s = false := by
  simp [finishDue, h]

lemma processesCurrent_finish {s : ChallengeState} {run : ProcessingRun}
    (hr : s.processing.active = some run) (hfin : run.trigger.isFinish = true) :
    processesCurrent s = false := by
  unfold processesCurrent
  rw [hr, Option.map_some]
  cases ht : run.trigger <;> simp_all [Trigger.isFinish]

lemma status_of_finish {s : ChallengeState} {e : JournalEntry} {run : ProcessingRun}
    (he : e.event.isProcessing = true) (hr : s.processing.active = some run)
    (hfin : run.trigger.isFinish = true)
    (hstatus : (apply s e).processing.status = s.processing.status) :
    (apply s e).status = s.status := by
  refine status_congr ?_ hstatus ?_ ?_ ?_
  · rw [apply_phase]
    cases hev : e.event <;> simp_all [LifecycleEvent.isProcessing]
  · rw [apply_challengeType]
    cases hev : e.event <;> simp_all [LifecycleEvent.isProcessing]
  · rw [apply_stage]
    cases hev : e.event <;> simp_all [LifecycleEvent.isProcessing]
  · rw [apply_stageStatus]
    cases hev : e.event with
    | processingFinished seq payload =>
      cases payload with
      | stage => simp [processesCurrent_finish hr hfin]
      | none => rfl
    | _ => simp_all [LifecycleEvent.isProcessing]

lemma terminated_of_processing {s : ChallengeState} {e : JournalEntry}
    (he : e.event.isProcessing = true) : (apply s e).terminated = s.terminated := by
  rw [apply_terminated]
  cases hev : e.event <;> simp_all [LifecycleEvent.isProcessing]

lemma applyEvent_of_processing {a : Actor} {e : JournalEntry} (hf : Follows a e)
    (he : e.event.isProcessing = true) :
    ∃ run, a.state.processing.active = some run ∧ eventTrigger a.state e = none ∧
      ((applyEvent (moveCursor a.state e) e).processing =
          a.state.processing.start run.trigger.seq e.time ∨
        ∃ result, (applyEvent (moveCursor a.state e) e).processing =
          a.state.processing.finish a.state.challengeType e.time result) := by
  obtain ⟨t, info, -, hn, -⟩ | ⟨hnone, ⟨hn, -⟩ | ⟨seq, hs, h1⟩ | ⟨seq, result, hs, h1⟩⟩ :=
    applyEvent_processing (moveCursor a.state e) e
  · rw [he] at hn
    cases hn
  · rw [he] at hn
    cases hn
  · have hperm := hf.permits
    rw [hs] at hperm
    obtain ⟨run, hr, rfl, -⟩ := hperm
    exact ⟨run, hr, hnone, Or.inl h1⟩
  · obtain ⟨run, hr, -⟩ := outcome_activeRun hs hf.permits
    exact ⟨run, hr, hnone, Or.inr ⟨result, h1⟩⟩

lemma finish_step_active {a : Actor} {e : JournalEntry} {run : ProcessingRun}
    (hr : a.state.processing.active = some run) (hfin : run.trigger.isFinish = true)
    (hpend : a.state.processing.pending = []) (hinfo : run.info.status = a.state.status)
    (hq : a.state.processing.finishQueued = true) (ht : a.state.terminated = true)
    (hf : Follows a e) :
    pushes a.state e = [] ∧ (apply a.state e).processing.finishQueued = true ∧
      (apply a.state e).processing.pending = [] ∧
      (apply a.state e).status = a.state.status ∧ AtFinish (apply a.state e) := by
  have he := hf.live ht
  obtain ⟨run', hr', hnone, h1⟩ := applyEvent_of_processing hf he
  obtain rfl : run = run' := Option.some.inj (hr.symm.trans hr')
  have hq1 : (applyEvent (moveCursor a.state e) e).processing.finishQueued = true := by
    rcases h1 with h1 | ⟨result, h1⟩ <;> simpa [h1] using hq
  have hp1 : (apply a.state e).processing = (applyEvent (moveCursor a.state e) e).processing := by
    rw [apply_processing, queueFinish_processing, finishDue_of_queued hq1]
    rfl
  have hpush : pushes a.state e = [] := by simp [pushes, hnone, finishDue_of_queued hq1]
  have hq' : (apply a.state e).processing.finishQueued = true := hp1 ▸ hq1
  rcases h1 with h1 | ⟨result, h1⟩
  · rw [h1, Processing.start_eq hr rfl] at hp1
    have hst := status_of_finish he hr hfin (by rw [hp1])
    refine ⟨hpush, hq', by rw [hp1]; exact hpend, hst, Or.inl ?_⟩
    rw [hp1, hst]
    exact ⟨_, rfl, hfin, hinfo⟩
  · rw [h1] at hp1
    have hst := status_of_finish he hr hfin (by rw [hp1, Processing.finish_status hr hfin])
    unfold AtFinish
    obtain ⟨status, hc⟩ | ⟨retriable, -, hc⟩ := Processing.finish_cases hr a.state.challengeType
      e.time result
    · rw [hc] at hp1
      refine ⟨hpush, hq', ?_, hst, Or.inr ⟨?_, a.state.processing.completed, run.trigger, ?_, hfin⟩⟩
      · rw [hp1]
        simp [Processing.advance, hpend]
      · rw [hp1]
        simp [Processing.advance, hpend]
      · rw [hp1]
        rfl
    · rw [hc] at hp1
      refine ⟨hpush, hq', by rw [hp1]; exact hpend, hst, Or.inl ?_⟩
      rw [hp1, hst]
      exact ⟨_, rfl, hfin, hinfo⟩

lemma finish_step_queued {a : Actor} {e : JournalEntry} (h : FinishInv a.state)
    (hq : a.state.processing.finishQueued = true) (hf : Follows a e) :
    pushes a.state e = [] ∧ (apply a.state e).processing.finishQueued = true ∧
      (apply a.state e).status = a.state.status ∧ FinishInv (apply a.state e) := by
  obtain ⟨ht, hpend, hat⟩ := h.queued hq
  have he := hf.live ht
  obtain ⟨run, hr, hfin, hinfo⟩ | ⟨hnone, -⟩ := hat
  · obtain ⟨hpush, hq', hpend', hst, hat'⟩ := finish_step_active hr hfin hpend hinfo hq ht hf
    refine ⟨hpush, hq', hst, fun hn => ?_, fun _ => ⟨?_, hpend', hat'⟩⟩
    · rw [hq'] at hn
      cases hn
    · rwa [terminated_of_processing he]
  · obtain ⟨run, hr, -⟩ := applyEvent_of_processing hf he
    rw [hnone] at hr
    cases hr

lemma finish_step_notDue {a : Actor} {e : JournalEntry} (h : FinishInv a.state)
    (hen : a.state.processing.config.maxAttempts ≠ 0) (hb : a.state.processing.Busy)
    (hq : a.state.processing.finishQueued = false)
    (hd : finishDue (applyEvent (moveCursor a.state e) e) = false) :
    FinishInv (apply a.state e) ∧ ∀ t ∈ pushes a.state e, t.isFinish = false := by
  have hq1 : (applyEvent (moveCursor a.state e) e).processing.finishQueued = false :=
    (applyEvent_finishQueued hen).trans hq
  have hpushes : pushes a.state e = (eventTrigger a.state e).toList := by simp [pushes, hd]
  have hnofin : ∀ t ∈ pushes a.state e, t.isFinish = false := by
    intro t ht
    rw [hpushes] at ht
    exact eventTrigger_isFinish (Option.mem_toList.mp ht)
  have hp' : (apply a.state e).processing = (applyEvent (moveCursor a.state e) e).processing := by
    rw [apply_processing, queueFinish_processing, hd]
    rfl
  obtain ⟨p, d, heq⟩ := apply_eq a.state e
  refine ⟨⟨fun _ => ⟨fun t ht => ?_, ?_⟩, fun hn => ?_⟩, hnofin⟩
  · rw [apply_jobs (e := e) hb hen] at ht
    rcases List.mem_append.mp ht with ht | ht
    · exact (h.before hq).1 t ht
    · exact hnofin t ht
  · have hterm : (apply a.state e).terminated =
        (applyEvent (moveCursor a.state e) e).terminated := by rw [heq]; rfl
    rw [hp', hterm]
    rintro ⟨h1, h2⟩
    simp [finishDue, h1, h2, hq1] at hd
  · rw [hp', hq1] at hn
    cases hn

lemma finish_step_due {a : Actor} {e : JournalEntry}
    (hen : a.state.processing.config.maxAttempts ≠ 0)
    (hd : finishDue (applyEvent (moveCursor a.state e) e) = true) :
    FinishInv (apply a.state e) ∧ pushes a.state e = [.finish e.seq] := by
  have hcfg := apply_config a.state e
  have hp' : (apply a.state e).processing =
      (applyEvent (moveCursor a.state e) e).processing.push (.finish e.seq)
        (applyEvent (moveCursor a.state e) e).challengeInfo e.time := by
    rw [apply_processing, queueFinish_processing, if_pos hd]
  have hen1 : (applyEvent (moveCursor a.state e) e).processing.config.maxAttempts ≠ 0 := by
    rw [hp', Processing.push_config] at hcfg
    rwa [hcfg]
  obtain ⟨hnone, -⟩ := finishDue_jobs hd
  have htrig : eventTrigger a.state e = none := by
    obtain ⟨t, info, -, -, h1⟩ | ⟨ht, -⟩ := applyEvent_processing (moveCursor a.state e) e
    · have hen' : (moveCursor a.state e).processing.config.maxAttempts ≠ 0 := hen
      rw [h1, Processing.push_active hen' t info e.time] at hnone
      cases hnone
    · exact ht
  refine ⟨⟨fun hn => ?_, fun _ => ?_⟩, by simp [pushes, htrig, hd]⟩
  · rw [hp', Processing.push_finishQueued hen1] at hn
    cases hn
  · unfold finishDue Processing.settled at hd
    simp only [Bool.and_eq_true, List.isEmpty_iff] at hd
    obtain ⟨p, d, heq⟩ := apply_eq a.state e
    have hst : (apply a.state e).status = (applyEvent (moveCursor a.state e) e).status := by
      refine status_congr ?_ ?_ ?_ ?_ ?_
      · rw [heq]
      · rw [hp', Processing.push_status]
      · rw [heq]
      · rw [heq]
      · rw [heq]
    let info := (applyEvent (moveCursor a.state e) e).challengeInfo
    refine ⟨?_, ?_, Or.inl ⟨.new ⟨.finish e.seq, info⟩ e.time, ?_, rfl, hst.symm⟩⟩
    · rw [heq]
      exact hd.1.1
    · rw [hp']
      unfold Processing.push
      rw [if_neg hen1]
      simp only [hnone]
      exact hd.1.2.2
    · rw [hp', Processing.push_active hen1, hnone]
      rfl

/-- Along the triggers pushed so far, nothing comes after a finish. -/
def FinishLast (ts : List Trigger) : Prop :=
  ∀ pre t post, ts = pre ++ t :: post → t.isFinish = true → post = []

lemma finish_step_before {a : Actor} {e : JournalEntry} (h : FinishInv a.state)
    (hen : a.state.processing.config.maxAttempts ≠ 0) (hb : a.state.processing.Busy)
    (hq : a.state.processing.finishQueued = false) :
    FinishInv (apply a.state e) ∧ FinishLast (pushes a.state e) := by
  cases hd : finishDue (applyEvent (moveCursor a.state e) e) with
  | true =>
    obtain ⟨hinv, hpush⟩ := finish_step_due hen hd
    refine ⟨hinv, fun pre t post heq _ => ?_⟩
    have hlen := congrArg List.length (hpush.symm.trans heq)
    simp only [List.length_append, List.length_cons, List.length_nil] at hlen
    exact List.eq_nil_of_length_eq_zero (by omega)
  | false =>
    obtain ⟨hinv, hnofin⟩ := finish_step_notDue h hen hb hq hd
    refine ⟨hinv, fun pre t post heq hfin => ?_⟩
    rw [hnofin t (by simp [heq])] at hfin
    cases hfin

/-! ### The run -/

lemma finish_init : FinishInv (Actor.new uuid config).state where
  before := by
    intro _
    refine ⟨fun t ht => ?_, fun h => ?_⟩
    · cases ht
    · cases h.1
  queued := by intro h; cases h

lemma finishLast_append {ts us : List Trigger} (ht : ∀ t ∈ ts, t.isFinish = false)
    (hu : FinishLast us) : FinishLast (ts ++ us) := by
  intro pre t post h hfin
  rcases List.append_eq_append_iff.mp h with ⟨as, -, hus⟩ | ⟨bs, hts, hpost⟩
  · exact hu as t post hus hfin
  · cases bs with
    | nil => exact hu [] t post (by simpa using hpost.symm) hfin
    | cons b bs =>
      obtain ⟨rfl, -⟩ := List.cons.inj hpost
      have := ht t (by rw [hts]; simp)
      rw [hfin] at this
      cases this

lemma finish_run (hen : config.processing.maxAttempts ≠ 0) {is : List Input}
    {js : List JournalEntry} (hjs : js <+: (machine config).journal (Actor.new uuid config) is) :
    FinishInv (Actor.load uuid config js).state ∧ FinishLast (pushed uuid config js) := by
  have hfol := journal_follows config (Actor.new uuid config) is
  obtain ⟨rest, hrest⟩ := hjs
  rw [← hrest, Machine.licensed_append] at hfol
  obtain ⟨hfol, -⟩ := hfol
  clear hrest
  induction js using List.reverseRecOn with
  | nil => exact ⟨finish_init, by intro pre t post h; simp [pushed] at h⟩
  | append_singleton js e ih =>
    rw [Machine.licensed_append] at hfol
    obtain ⟨hinv, hlast⟩ := ih hfol.1
    have hf : Follows (Actor.load uuid config js) e := hfol.2.1
    have hen' : (Actor.load uuid config js).state.processing.config.maxAttempts ≠ 0 := by
      rwa [config_run]
    rw [load_snoc, pushed_snoc]
    cases hq : (Actor.load uuid config js).state.processing.finishQueued with
    | true =>
      obtain ⟨hpush, -, -, hinv'⟩ := finish_step_queued hinv hq hf
      rw [hpush, List.append_nil]
      exact ⟨hinv', hlast⟩
    | false =>
      obtain ⟨hinv', hone⟩ := finish_step_before hinv hen' (busy_run uuid config js) hq
      refine ⟨hinv', finishLast_append ?_ hone⟩
      rw [← jobs_run uuid hen]
      exact (hinv.before hq).1

lemma status_final {a : Actor} {es : List JournalEntry} (h : FinishInv a.state)
    (hq : a.state.processing.finishQueued = true)
    (hes : (machine config).Licensed Follows a es) :
    ((machine config).fold a es).state.status = a.state.status := by
  have hfin := (machine config).fold_keeps
    (P := fun b => FinishInv b.state ∧ b.state.processing.finishQueued = true ∧
      b.state.status = a.state.status) (fun b e hb hf => ?_) ⟨h, hq, rfl⟩ hes
  · exact hfin.2.2
  · obtain ⟨hinv, hqb, hst⟩ := hb
    obtain ⟨-, hq', hst', hinv'⟩ := finish_step_queued hinv hqb hf
    exact ⟨hinv', hq', hst'.trans hst⟩

/-- **The finish is processed once and last.** With processing enabled, along every run nothing
is pushed after a finish; a challenge is terminated and settled only when the last completed
trigger is a finish; and the status handed to the finish is the challenge's at every later
point. -/
theorem finish_once_last (hen : config.processing.maxAttempts ≠ 0) {is : List Input}
    {js more : List JournalEntry}
    (hjs : js ++ more <+: (machine config).journal (Actor.new uuid config) is) :
    let s := (Actor.load uuid config js).state
    (∀ pre t post, pushed uuid config js = pre ++ t :: post → t.isFinish = true → post = []) ∧
    (s.terminated = true → s.processing.settled = true →
      ∃ pre t, s.processing.completed = pre ++ [t] ∧ t.isFinish = true) ∧
    (∀ run, s.processing.active = some run → run.trigger.isFinish = true →
      run.info.status = (Actor.load uuid config (js ++ more)).state.status) := by
  intro s
  obtain ⟨hinv, hlast⟩ := finish_run hen ((List.prefix_append js more).trans hjs)
  refine ⟨hlast, fun ht hs => ?_, fun run hr hfin => ?_⟩
  · have hq : s.processing.finishQueued = true := by
      by_contra hn
      exact (hinv.before (by simpa using hn)).2 ⟨ht, hs⟩
    obtain ⟨-, -, ⟨run, hr, -⟩ | ⟨-, hc⟩⟩ := hinv.queued hq
    · have hs' : s.processing.settled = true := hs
      rw [Processing.settled, show s.processing.active = some run from hr] at hs'
      cases hs'
    · exact hc
  · have hq : s.processing.finishQueued = true := by
      by_contra hn
      have hmem : run.trigger ∈ s.processing.jobs := by
        unfold Processing.jobs
        rw [Processing.outstanding_of_some hr]
        simp
      have := (hinv.before (by simpa using hn)).1 _ hmem
      rw [hfin] at this
      cases this
    have hfol := journal_follows config (Actor.new uuid config) is
    obtain ⟨rest, hrest⟩ := hjs
    rw [← hrest, Machine.licensed_append, Machine.licensed_append] at hfol
    have hst := status_final hinv hq hfol.1.2
    have hload : Actor.load uuid config (js ++ more) =
        (machine config).fold (Actor.load uuid config js) more := by
      rw [load_eq_fold, Machine.fold_append]
      rfl
    rw [hload, hst]
    obtain ⟨-, -, ⟨run', hr', -, hinfo⟩ | ⟨hnone, -⟩⟩ := hinv.queued hq
    · have hr'' : (Actor.load uuid config js).state.processing.active = some run := hr
      rw [hr'] at hr''
      cases hr''
      exact hinfo
    · have hr'' : (Actor.load uuid config js).state.processing.active = some run := hr
      rw [hnone] at hr''
      cases hr''

/-- A run after which the finish is processed. -/
theorem finish_once_last_solo :
    let js := (machine soloConfig).journal (Actor.new 0 soloConfig) soloProcessed
    let more := (machine soloConfig).journal
      ((machine soloConfig).run (Actor.new 0 soloConfig) soloProcessed)
      [.deadline 7 ⟨.processingDue, 6⟩, .report 8 ⟨7, 1, .ok .none⟩]
    let s := (Actor.load 0 soloConfig js).state
    (∀ pre t post, pushed 0 soloConfig js = pre ++ t :: post → t.isFinish = true → post = []) ∧
    (s.terminated = true → s.processing.settled = true →
      ∃ pre t, s.processing.completed = pre ++ [t] ∧ t.isFinish = true) ∧
    (∀ run, s.processing.active = some run → run.trigger.isFinish = true →
      run.info.status = (Actor.load 0 soloConfig (js ++ more)).state.status) := by
  have hjs := List.prefix_refl ((machine soloConfig).journal (Actor.new 0 soloConfig)
    (soloProcessed ++ [.deadline 7 ⟨.processingDue, 6⟩, .report 8 ⟨7, 1, .ok .none⟩]))
  nth_rewrite 1 [Machine.journal_append] at hjs
  exact finish_once_last (by decide) hjs

end Blert.Lifecycle

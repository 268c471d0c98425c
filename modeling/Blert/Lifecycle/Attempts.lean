import Blert.Lifecycle.Pipeline

/-!
The processing pipeline over every run of a challenge: nothing pushed is lost, duplicated or
reordered, and attempts alternate with their results within the limits.
-/

namespace Blert.Lifecycle

variable {config : LifecycleConfig} {uuid : Uuid}

/-! ### The step -/

lemma starts_snoc (js : List JournalEntry) (e : JournalEntry) (seq : JournalSeq) :
    starts (js ++ [e]) seq =
      starts js seq + if e.event = .processingStarted seq then 1 else 0 := by
  unfold starts
  rw [List.countP_append, List.countP_singleton]
  simp

lemma starts_snoc_of_ne {js : List JournalEntry} {e : JournalEntry}
    (h : ∀ seq, e.event ≠ .processingStarted seq) : starts (js ++ [e]) = starts js := by
  funext seq
  rw [starts_snoc, if_neg (h seq), Nat.add_zero]

lemma eventTrigger_seq {s : ChallengeState} {e : JournalEntry} {t : Trigger}
    (h : eventTrigger s e = some t) : t.seq = e.seq := by
  unfold eventTrigger at h
  split at h
  all_goals first
    | cases h; rfl
    | split_ifs at h; cases h; rfl
    | cases h

lemma outcome_activeRun {s : ChallengeState} {ev : LifecycleEvent} {seq : JournalSeq}
    {result : Except ProcessingError ProcessingPayload} (h : ev.outcome = some (seq, result))
    (hp : Permits s ev) : ActiveRun s seq true := by
  cases ev with
  | processingFinished | processingFailed | processingTimedOut =>
    simp only [LifecycleEvent.outcome, Option.some.injEq, Prod.mk.injEq] at h
    rw [← h.1]
    exact hp
  | _ => cases h

lemma ne_started_of_outcome {ev : LifecycleEvent} {o} (h : ev.outcome = some o)
    (seq : JournalSeq) : ev ≠ .processingStarted seq := by
  rintro rfl
  cases h

lemma ne_started_of_isProcessing {ev : LifecycleEvent} (h : ev.isProcessing = false)
    (seq : JournalSeq) : ev ≠ .processingStarted seq := by
  rintro rfl
  cases h

lemma Processing.Inv.queueFinish {s : ChallengeState} {e : JournalEntry}
    {st : JournalSeq → ℕ} (h : s.processing.Inv e.seq st) :
    (queueFinish s e).processing.Inv (e.seq + 1) st := by
  rw [queueFinish_processing]
  split_ifs
  · exact h.push rfl _ _
  · exact h.mono (Nat.le_succ _)

lemma Processing.Inv.queueFinish_of_push {s : ChallengeState} {p : Processing} {e : JournalEntry}
    {t : Trigger} {info : ChallengeInfo} {st : JournalSeq → ℕ} (h : p.Inv e.seq st)
    (ht : t.seq = e.seq) (hs : s.processing = p.push t info e.time) :
    (Lifecycle.queueFinish s e).processing.Inv (e.seq + 1) st := by
  have hinv := h.push ht info e.time
  rw [← hs] at hinv
  rw [queueFinish_processing]
  split_ifs with hd
  · obtain ⟨hnone, -⟩ := finishDue_jobs hd
    by_cases hen : s.processing.config.maxAttempts = 0
    · rwa [Processing.push_disabled hen]
    · rw [hs, Processing.push_config] at hen
      rw [hs, Processing.push_active hen t info e.time] at hnone
      cases hnone
  · exact hinv

lemma pipeline_step {a : Actor} {js : List JournalEntry} {e : JournalEntry}
    (h : a.state.processing.Inv a.nextSeq (starts js)) (hf : Follows a e) :
    (a.loadEntry e).state.processing.Inv (a.loadEntry e).nextSeq (starts (js ++ [e])) := by
  rw [← hf.seq] at h
  show (apply a.state e).processing.Inv (e.seq + 1) _
  rw [apply_processing]
  have hp : (moveCursor a.state e).processing = a.state.processing := rfl
  have hev := applyEvent_processing (moveCursor a.state e) e
  obtain ⟨t, info, ht, hn, h1⟩ | ⟨-, ⟨hn, h1⟩ | ⟨seq, hs, h1⟩ | ⟨seq, result, hs, h1⟩⟩ := hev
  · rw [starts_snoc_of_ne (ne_started_of_isProcessing hn)]
    exact h.queueFinish_of_push (eventTrigger_seq ht) h1
  · rw [starts_snoc_of_ne (ne_started_of_isProcessing hn)]
    refine Processing.Inv.queueFinish ?_
    rwa [h1]
  · have hperm := hf.permits
    rw [hs] at hperm
    obtain ⟨run, hr, rfl, hidle⟩ := hperm
    have hst : starts (js ++ [e]) =
        fun seq => starts js seq + if seq = run.trigger.seq then 1 else 0 := by
      funext seq
      rw [starts_snoc, hs]
      simp only [LifecycleEvent.processingStarted.injEq, eq_comm]
    rw [hst]
    refine Processing.Inv.queueFinish ?_
    rw [h1]
    exact h.start hr hidle _
  · rw [starts_snoc_of_ne (ne_started_of_outcome hs)]
    obtain ⟨run, hr, -, hrun⟩ := outcome_activeRun hs hf.permits
    refine Processing.Inv.queueFinish ?_
    rw [h1]
    exact h.finish hr hrun _ _ _

lemma pipeline_init (config : ProcessingConfig) : (Processing.new config).Inv 0 (starts []) where
  busy := fun _ => rfl
  ordered := List.Pairwise.nil
  numbered := by intro t ht; cases ht
  completed := by intro t ht; cases ht
  active := by intro run hr; cases hr
  waiting := fun _ _ => rfl

/-- **The run**: the invariant holds after every start of a journal. -/
theorem pipeline_run (uuid : Uuid) {is : List Input} {js : List JournalEntry}
    (hjs : js <+: (machine config).journal (Actor.new uuid config) is) :
    (Actor.load uuid config js).state.processing.Inv (Actor.load uuid config js).nextSeq
      (starts js) :=
  (machine config).prefix_inv
    (P := fun a js => a.state.processing.Inv a.nextSeq (starts js))
    (fun a i _ => batch_follows config a i) (fun _ _ _ h hf => pipeline_step h hf)
    (pipeline_init config.processing)
    ((machine config).meets_of_forall (fun _ _ => trivial) _ is) hjs

lemma config_run (uuid : Uuid) (config : LifecycleConfig) (js : List JournalEntry) :
    (Actor.load uuid config js).state.processing.config = config.processing := by
  induction js using List.reverseRecOn with
  | nil => rfl
  | append_singleton js e ih =>
    unfold Actor.load at ih ⊢
    rw [List.foldl_append, ← ih]
    exact apply_config _ e

/-! ### The queue -/

def pushed (uuid : Uuid) (config : LifecycleConfig) (js : List JournalEntry) : List Trigger :=
  (machine config).emit (fun a e => pushes a.state e) (Actor.new uuid config) js

lemma pushed_snoc (js : List JournalEntry) (e : JournalEntry) :
    pushed uuid config (js ++ [e]) =
      pushed uuid config js ++ pushes (Actor.load uuid config js).state e :=
  (machine config).emit_snoc _ _ _ _

lemma load_snoc (js : List JournalEntry) (e : JournalEntry) :
    Actor.load uuid config (js ++ [e]) = (Actor.load uuid config js).loadEntry e := by
  simp [Actor.load]

lemma busy_run (uuid : Uuid) (config : LifecycleConfig) (js : List JournalEntry) :
    (Actor.load uuid config js).state.processing.Busy := by
  induction js using List.reverseRecOn with
  | nil => exact fun _ => rfl
  | append_singleton js e ih =>
    rw [load_snoc]
    exact apply_busy ih

lemma jobs_run (uuid : Uuid) (hen : config.processing.maxAttempts ≠ 0)
    (js : List JournalEntry) :
    (Actor.load uuid config js).state.processing.jobs = pushed uuid config js := by
  induction js using List.reverseRecOn with
  | nil => rfl
  | append_singleton js e ih =>
    have hjobs := apply_jobs (e := e) (busy_run uuid config js) (by rwa [config_run])
    rw [load_snoc, pushed_snoc, ← ih]
    exact hjobs

lemma seqs_nodup {p : Processing} {n : JournalSeq} {st : JournalSeq → ℕ} (h : p.Inv n st) :
    (p.jobs.map Trigger.seq).Nodup :=
  List.pairwise_map.mpr (h.ordered.imp fun hlt => ne_of_lt hlt)

/-- **The pipeline loses, duplicates and reorders nothing**: at every point of every run, what
it has completed, what it is at and what waits are the triggers pushed so far, in order and
with distinct journal positions, and none waits while none is active. -/
theorem pipeline_exact (hen : config.processing.maxAttempts ≠ 0) {is : List Input}
    {js : List JournalEntry} (hjs : js <+: (machine config).journal (Actor.new uuid config) is) :
    let p := (Actor.load uuid config js).state.processing
    p.completed ++ (p.active.map (·.trigger)).toList ++ p.pending.map (·.trigger) =
        pushed uuid config js ∧
      ((pushed uuid config js).map Trigger.seq).Nodup ∧ (p.active = none → p.pending = []) := by
  intro p
  have hjobs := jobs_run uuid hen js
  refine ⟨?_, ?_, busy_run uuid config js⟩
  · rw [← hjobs]
    unfold Processing.jobs Processing.outstanding
    rw [List.append_assoc]
    cases h : p.active <;> simp [p, h] at *
  · rw [← hjobs]
    exact seqs_nodup (pipeline_run uuid hjs)

/-- A run after which the pipeline is at the finish. -/
theorem pipeline_exact_solo :
    let js := (machine soloConfig).journal (Actor.new 0 soloConfig) soloProcessed
    let p := (Actor.load 0 soloConfig js).state.processing
    p.completed ++ (p.active.map (·.trigger)).toList ++ p.pending.map (·.trigger) =
        pushed 0 soloConfig js ∧
      ((pushed 0 soloConfig js).map Trigger.seq).Nodup ∧ (p.active = none → p.pending = []) :=
  pipeline_exact (by decide) (List.prefix_refl _)

/-! ### Attempts -/

/-- The position whose attempt an event resolves. -/
def LifecycleEvent.resolves : LifecycleEvent → Option JournalSeq
  | .processingFinished seq _ | .processingFailed seq _ | .processingTimedOut seq => some seq
  | _ => none

/-- What an entry means for the attempts of the pipeline. -/
def attemptMark (e : JournalEntry) : Mark JournalSeq :=
  match e.event with
  | .processingStarted seq => .opens seq
  | .processingFinished seq _ | .processingFailed seq _ | .processingTimedOut seq => .closes seq
  | _ => .other

def Processing.running (p : Processing) : Option JournalSeq :=
  (p.active.filter (·.state.isRunning)).map (·.trigger.seq)

lemma Processing.push_running {p : Processing} {t : Trigger} {info : ChallengeInfo}
    {time : Timestamp} : (p.push t info time).running = p.running := by
  by_cases hen : p.config.maxAttempts = 0
  · rw [push_disabled hen]
  · unfold running
    rw [push_active hen]
    cases p.active <;> simp [ProcessingRun.new, ProcessingState.isRunning]

lemma Processing.finish_running {p : Processing} {run : ProcessingRun} {ty : ChallengeType}
    {time : Timestamp} {result : Except ProcessingError ProcessingPayload}
    (h : p.active = some run) : (p.finish ty time result).running = none := by
  obtain ⟨status, hf⟩ | ⟨retriable, -, hf⟩ := finish_cases h ty time result
  · rw [hf]
    unfold advance running
    cases p.pending <;> simp [ProcessingRun.new, ProcessingState.isRunning]
  · rw [hf]
    simp [running, ProcessingState.isRunning]

lemma queueFinish_running (s : ChallengeState) (e : JournalEntry) :
    (queueFinish s e).processing.running = s.processing.running := by
  rw [queueFinish_processing]
  split_ifs
  · exact Processing.push_running
  · rfl

lemma ActiveRun.running {s : ChallengeState} {seq : JournalSeq} (h : ActiveRun s seq true) :
    s.processing.running = some seq := by
  obtain ⟨run, hr, rfl, hrun⟩ := h
  simp [Processing.running, hr, hrun]

lemma ActiveRun.idle {s : ChallengeState} {seq : JournalSeq} (h : ActiveRun s seq false) :
    s.processing.running = none := by
  obtain ⟨run, hr, -, hrun⟩ := h
  simp [Processing.running, hr, hrun]

lemma attemptMark_of_resolves {e : JournalEntry} {seq : JournalSeq}
    (h : e.event.resolves = some seq) : attemptMark e = .closes seq := by
  unfold LifecycleEvent.resolves at h
  unfold attemptMark
  split at h <;> simp_all

lemma resolves_isSome (e : JournalEntry) :
    (attemptMark e).isClose = e.event.resolves.isSome := by
  unfold attemptMark LifecycleEvent.resolves
  cases e.event <;> rfl

lemma outcome_resolves {ev : LifecycleEvent} {seq : JournalSeq}
    {result : Except ProcessingError ProcessingPayload} (h : ev.outcome = some (seq, result)) :
    ev.resolves = some seq := by
  cases ev <;> simp_all [LifecycleEvent.outcome, LifecycleEvent.resolves]

lemma attemptMark_other {e : JournalEntry} (h : e.event.isProcessing = false) :
    attemptMark e = .other := by
  unfold attemptMark
  cases he : e.event <;> simp_all [LifecycleEvent.isProcessing]

lemma attempt_step {a : Actor} {e : JournalEntry} (hf : Follows a e) :
    Mark.Fits a.state.processing.running (attemptMark e) ∧
      (a.loadEntry e).state.processing.running =
        Mark.next a.state.processing.running (attemptMark e) := by
  have hafter : (a.loadEntry e).state.processing.running =
      (applyEvent (moveCursor a.state e) e).processing.running := by
    show (apply a.state e).processing.running = _
    rw [apply_processing, queueFinish_running]
  rw [hafter]
  have hp : (moveCursor a.state e).processing = a.state.processing := rfl
  have hev := applyEvent_processing (moveCursor a.state e) e
  obtain ⟨t, info, -, hn, h1⟩ | ⟨-, ⟨hn, h1⟩ | ⟨seq, hs, h1⟩ | ⟨seq, result, hs, h1⟩⟩ := hev
  · rw [h1, attemptMark_other hn]
    exact ⟨trivial, Processing.push_running⟩
  · rw [h1, attemptMark_other hn]
    exact ⟨trivial, rfl⟩
  · have hperm := hf.permits
    rw [hs] at hperm
    have hm : attemptMark e = .opens seq := by
      unfold attemptMark
      rw [hs]
    rw [h1, hm]
    refine ⟨hperm.idle, ?_⟩
    obtain ⟨run, hr, hseq, -⟩ := hperm
    rw [hp, Processing.start_eq hr hseq]
    simp [Processing.running, ProcessingState.isRunning, Mark.next, hseq]
  · have hact := outcome_activeRun hs hf.permits
    rw [h1, attemptMark_of_resolves (outcome_resolves hs)]
    refine ⟨hact.running, ?_⟩
    obtain ⟨run, hr, -, -⟩ := hact
    exact Processing.finish_running hr

theorem attempts_run (uuid : Uuid) (config : LifecycleConfig) (is : List Input) :
    Mark.Alternates attemptMark none ((machine config).journal (Actor.new uuid config) is) := by
  have h := (machine config).run_inv
    (P := fun a js => Mark.Alternates attemptMark none js ∧
      Mark.after attemptMark none js = a.state.processing.running)
    (fun a i _ => batch_follows config a i) (fun a js e hP hf => ?_) ⟨trivial, rfl⟩
    ((machine config).meets_of_forall (fun _ _ => trivial) (Actor.new uuid config) is)
  · exact h.1
  · obtain ⟨halt, hafter⟩ := hP
    obtain ⟨hfit, hnext⟩ := attempt_step hf
    rw [Mark.alternates_append, Mark.after_append, hafter]
    exact ⟨⟨halt, hfit, trivial⟩, hnext.symm⟩

lemma apply_completed (s : ChallengeState) (e : JournalEntry) :
    s.processing.completed <+: (apply s e).processing.completed := by
  have h1 : s.processing.completed <+: (applyEvent (moveCursor s e) e).processing.completed := by
    have hp : (moveCursor s e).processing = s.processing := rfl
    obtain ⟨t, info, -, -, h⟩ | ⟨-, ⟨-, h⟩ | ⟨seq, -, h⟩ | ⟨seq, result, -, h⟩⟩ :=
      applyEvent_processing (moveCursor s e) e
    · rw [h, Processing.push_completed, hp]
    · rw [h, hp]
    · rw [h, hp]
      obtain h' | ⟨run, -, -, h'⟩ := Processing.start_cases s.processing seq e.time <;> rw [h']
    · rw [h, hp]
      cases ha : s.processing.active with
      | none => rw [Processing.finish_of_none ha]
      | some run =>
        obtain ⟨status, hf⟩ | ⟨retriable, -, hf⟩ := Processing.finish_cases ha
          (moveCursor s e).challengeType e.time result
        · rw [hf]
          exact List.prefix_append _ _
        · rw [hf]
  rw [apply_processing, queueFinish_processing]
  split_ifs
  · rwa [Processing.push_completed]
  · exact h1

lemma completed_fold (a : Actor) (js : List JournalEntry) :
    a.state.processing.completed <+:
      ((machine config).fold a js).state.processing.completed := by
  induction js generalizing a with
  | nil => exact List.prefix_refl _
  | cons e js ih => exact (apply_completed a.state e).trans (ih (a.loadEntry e))

/-- **Attempts alternate with their results and are bounded.** Between two consecutive starts
there is exactly one result, of the trigger that was started. Every start is of a trigger the
pipeline was given, and no trigger is started more often than its limit, or once. The completed
triggers are distinct and are never taken back, so each settles at most once. -/
theorem attempts_bounded (uuid : Uuid) (config : LifecycleConfig) (is more : List Input) :
    let journal := (machine config).journal (Actor.new uuid config) is
    let p := ((machine config).run (Actor.new uuid config) is).state.processing
    (∀ pre mid post e e' seq seq', journal = pre ++ e :: (mid ++ e' :: post) →
      e.event = .processingStarted seq → e'.event = .processingStarted seq' →
      (∀ f ∈ mid, ∀ k, f.event ≠ .processingStarted k) →
      ∃ r, mid.filter (fun f => f.event.resolves.isSome) = [r] ∧ r.event.resolves = some seq) ∧
    (∀ seq, 0 < starts journal seq → ∃ t ∈ p.jobs, t.seq = seq ∧
      starts journal seq ≤ max 1 (config.processing.attemptsFor t)) ∧
    (p.jobs.map Trigger.seq).Nodup ∧
    p.completed <+:
      ((machine config).run (Actor.new uuid config) (is ++ more)).state.processing.completed := by
  intro journal p
  have hinv := pipeline_run uuid (List.prefix_refl journal)
  have hcfg := config_run uuid config journal
  rw [load_eq_fold, Machine.fold_journal] at hinv hcfg
  refine ⟨?_, ?_, seqs_nodup hinv, ?_⟩
  · intro pre mid post e e' seq seq' hj he he' hmid
    have halt := attempts_run uuid config is
    rw [show (machine config).journal (Actor.new uuid config) is = _ from hj] at halt
    have hmark : attemptMark e = .opens seq := by
      unfold attemptMark
      rw [he]
    have hmark' : attemptMark e' = .opens seq' := by
      unfold attemptMark
      rw [he']
    obtain ⟨r, hr, hrk⟩ := Mark.between_opens halt hmark hmark' fun f hf => by
      unfold attemptMark
      cases hev : f.event <;> first | rfl | exact absurd hev (hmid f hf _)
    refine ⟨r, by simpa only [resolves_isSome] using hr, ?_⟩
    unfold attemptMark at hrk
    split at hrk <;> simp_all [LifecycleEvent.resolves]
  · intro seq hpos
    by_cases hmem : seq ∈ p.begun.map Trigger.seq
    · obtain ⟨t, ht, rfl⟩ := List.mem_map.mp hmem
      refine ⟨t, Processing.Inv.begun_subset ht, rfl, ?_⟩
      rw [← hcfg]
      unfold Processing.begun at ht
      rcases List.mem_append.mp ht with ht | ht
      · exact hinv.completed t ht
      · obtain ⟨run, hrun, rfl⟩ : ∃ run, p.active = some run ∧ run.trigger = t := by
          simpa [Option.mem_toList] using ht
        have hact := hinv.active run hrun
        rw [hact.1]
        exact le_trans (Nat.le_add_right _ _) hact.2
    · exact absurd (hinv.waiting seq hmem) (Nat.ne_of_gt hpos)
  · rw [Machine.run_append, ← Machine.fold_journal _ _ more]
    exact completed_fold _ _

/-! ### Recorders -/

def Trigger.isRecorder : Trigger → Bool
  | .recorder _ _ _ => true
  | _ => false

/-- The client that joins with an entry. -/
def JournalEntry.joins (e : JournalEntry) : Option ClientId :=
  match e.event with
  | .clientJoined clientId _ _ _ => some clientId
  | _ => none

lemma recordedBy_load (js : List JournalEntry) :
    (Actor.load uuid config js).state.recordedBy = (js.filterMap JournalEntry.joins).toFinset := by
  induction js using List.reverseRecOn with
  | nil => rfl
  | append_singleton js e ih =>
    rw [load_snoc, List.filterMap_append, List.toFinset_append, ← ih]
    refine (apply_recordedBy _ e).trans ?_
    ext id
    cases he : e.event <;> simp [JournalEntry.joins, he]

lemma recorders_pushed (s : ChallengeState) (e : JournalEntry) :
    (pushes s e).countP Trigger.isRecorder =
      if ∃ id ∈ e.joins, id ∉ s.recordedBy then 1 else 0 := by
  have hfinish : ∀ b, (if finishDue b then [Trigger.finish e.seq] else []).countP
      Trigger.isRecorder = 0 := fun b => by split_ifs <;> rfl
  rw [pushes, List.countP_append, hfinish, Nat.add_zero]
  unfold eventTrigger JournalEntry.joins
  cases e.event <;> dsimp only <;> (try split_ifs) <;> simp_all [Trigger.isRecorder]

/-- **Each client is recorded once**: however often clients leave and join again, the pipeline is
given one recorder for each client that ever joined. -/
theorem recorded_once (uuid : Uuid) (hen : config.processing.maxAttempts ≠ 0)
    (js : List JournalEntry) :
    (Actor.load uuid config js).state.processing.jobs.countP Trigger.isRecorder =
      (js.filterMap JournalEntry.joins).toFinset.card := by
  rw [jobs_run uuid hen]
  induction js using List.reverseRecOn with
  | nil => rfl
  | append_singleton js e ih =>
    rw [pushed_snoc, List.countP_append, ih, recorders_pushed, recordedBy_load,
      List.filterMap_append, List.toFinset_append]
    generalize (js.filterMap JournalEntry.joins).toFinset = ids
    cases he : e.joins with
    | none => simp [he]
    | some id =>
      have hids : ids ∪ ([e].filterMap JournalEntry.joins).toFinset = insert id ids := by
        ext c
        simp [he]
      by_cases hid : id ∈ ids <;> simp [hids, hid]

theorem recorded_once_solo : (Actor.load 0 soloConfig
    ((machine soloConfig).journal (Actor.new 0 soloConfig) soloRun)).state.processing.jobs.countP
      Trigger.isRecorder = 1 :=
  recorded_once 0 (by decide) _

end Blert.Lifecycle

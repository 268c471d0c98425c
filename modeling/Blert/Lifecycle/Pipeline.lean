import Blert.Alternation
import Blert.Lifecycle.Batch

/-!
The processing pipeline over a run.

The pipeline is a queue: what it has completed, what it is at and what waits are together
every trigger that was ever pushed, in order. On it attempts are started and resolved one at
a time, and no more often than the trigger's limit.
-/

namespace Blert.Lifecycle

/-! ### The pipeline as a queue -/

namespace Processing

/-- Every trigger the pipeline has been given, in the order it works on them. -/
def jobs (p : Processing) : List Trigger := p.completed ++ p.outstanding

def Busy (p : Processing) : Prop := p.active = none → p.pending = []

variable {p : Processing} {t : Trigger} {info : ChallengeInfo} {time : Timestamp}
  {seq : JournalSeq} {ty : ChallengeType} {result : Except ProcessingError ProcessingPayload}
  {run : ProcessingRun}

lemma outstanding_of_some (h : p.active = some run) :
    p.outstanding = run.trigger :: p.pending.map (·.trigger) := by
  simp [outstanding, h]

lemma outstanding_of_none (h : p.active = none) :
    p.outstanding = p.pending.map (·.trigger) := by
  simp [outstanding, h]

@[simp] lemma push_config : (p.push t info time).config = p.config := by
  unfold push
  dsimp only
  split
  · rfl
  · split <;> rfl

@[simp] lemma push_completed : (p.push t info time).completed = p.completed := by
  unfold push
  dsimp only
  split
  · rfl
  · split <;> rfl

lemma push_busy (h : p.Busy) : (p.push t info time).Busy := by
  unfold push
  dsimp only
  split
  · exact h
  · split
    · intro hn; cases hn
    · rename_i hs
      intro hn
      simp [hs] at hn

lemma push_jobs (h : p.Busy) (hen : p.config.maxAttempts ≠ 0) (t : Trigger)
    (info : ChallengeInfo) (time : Timestamp) : (p.push t info time).jobs = p.jobs ++ [t] := by
  unfold push jobs
  rw [if_neg hen]
  dsimp only
  split
  · rename_i hn
    simp [outstanding, hn, h hn, ProcessingRun.new]
  · rename_i r hs
    simp [outstanding, hs]

lemma push_disabled (hen : p.config.maxAttempts = 0) : p.push t info time = p := by
  simp [push, hen]

lemma push_active (hen : p.config.maxAttempts ≠ 0) (t : Trigger) (info : ChallengeInfo)
    (time : Timestamp) :
    (p.push t info time).active = some (p.active.getD (.new ⟨t, info⟩ time)) := by
  unfold push
  rw [if_neg hen]
  dsimp only
  split <;> simp [*]

lemma start_eq (h : p.active = some run) (hseq : run.trigger.seq = seq) :
    p.start seq time = { p with
      active := some { run with attempts := run.attempts + 1, state := .running time } } := by
  simp [start, h, hseq]

lemma advance_jobs (h : p.active = some run) : (p.advance run time).jobs = p.jobs := by
  unfold jobs
  rw [outstanding_of_some h]
  unfold advance outstanding
  cases p.pending <;> simp [ProcessingRun.new]

lemma advance_busy : (p.advance run time).Busy := by
  unfold advance Busy
  cases p.pending <;> simp

lemma start_cases (p : Processing) (seq : JournalSeq) (time : Timestamp) :
    p.start seq time = p ∨ ∃ run, p.active = some run ∧ run.trigger.seq = seq ∧
      p.start seq time = { p with
        active := some { run with attempts := run.attempts + 1, state := .running time } } := by
  cases h : p.active with
  | none => exact Or.inl (by simp [start, h])
  | some run =>
    by_cases hs : run.trigger.seq = seq
    · exact Or.inr ⟨run, rfl, hs, start_eq h hs⟩
    · exact Or.inl (by simp [start, h, hs])

lemma start_jobs (p : Processing) (seq : JournalSeq) (time : Timestamp) :
    (p.start seq time).jobs = p.jobs := by
  obtain h | ⟨run, hr, -, h⟩ := start_cases p seq time
  · rw [h]
  · rw [h]
    simp [jobs, outstanding, hr]

lemma start_busy (hb : p.Busy) (seq : JournalSeq) (time : Timestamp) : (p.start seq time).Busy := by
  obtain h | ⟨run, hr, -, h⟩ := start_cases p seq time
  · rwa [h]
  · rw [h]
    intro hn
    cases hn

lemma finish_cases (h : p.active = some run) (ty : ChallengeType) (time : Timestamp)
    (result : Except ProcessingError ProcessingPayload) :
    (∃ status, p.finish ty time result = { p with status }.advance run time) ∨
    (∃ retriable, run.attempts < p.config.attemptsFor run.trigger ∧
      p.finish ty time result =
        { p with active := some { run with retriable, state := .idle time } }) := by
  unfold finish
  rw [h]
  dsimp only
  split
  · left
    split <;> exact ⟨_, rfl⟩
  · left
    split <;> exact ⟨_, rfl⟩
  · split_ifs with hex
    · left
      exact ⟨_, rfl⟩
    · right
      refine ⟨_, ?_, rfl⟩
      simp only [ProcessingRun.exhausted, ge_iff_le, Bool.or_eq_true, not_or] at hex
      simpa using hex.2

lemma finish_of_none (h : p.active = none) : p.finish ty time result = p := by
  simp [finish, h]

lemma finish_jobs (p : Processing) (ty : ChallengeType) (time : Timestamp)
    (result : Except ProcessingError ProcessingPayload) :
    (p.finish ty time result).jobs = p.jobs := by
  cases h : p.active with
  | none => rw [finish_of_none h]
  | some run =>
    obtain ⟨status, hf⟩ | ⟨retriable, -, hf⟩ := finish_cases h ty time result
    · rw [hf]
      exact advance_jobs (p := { p with status }) h
    · rw [hf]
      simp [jobs, outstanding, h]

lemma finish_busy (hb : p.Busy) (ty : ChallengeType) (time : Timestamp)
    (result : Except ProcessingError ProcessingPayload) : (p.finish ty time result).Busy := by
  cases h : p.active with
  | none => rwa [finish_of_none h]
  | some run =>
    obtain ⟨status, hf⟩ | ⟨retriable, -, hf⟩ := finish_cases h ty time result
    · rw [hf]
      exact advance_busy
    · rw [hf]
      intro hn
      cases hn

@[simp] lemma start_config : (p.start seq time).config = p.config := by
  obtain h | ⟨run, -, -, h⟩ := start_cases p seq time <;> rw [h]

@[simp] lemma finish_config : (p.finish ty time result).config = p.config := by
  cases h : p.active with
  | none => rw [finish_of_none h]
  | some run =>
    obtain ⟨status, hf⟩ | ⟨retriable, -, hf⟩ := finish_cases h ty time result <;> rw [hf]
    rfl

end Processing

/-! ### What an entry does to the pipeline -/

def eventTrigger (s : ChallengeState) (e : JournalEntry) : Option Trigger :=
  match e.event with
  | .challengeCreated _ _ _ _ _ _ => some (.create e.seq)
  | .clientJoined clientId userId _ recordingType =>
    if clientId ∈ s.recordedBy then none else some (.recorder e.seq userId recordingType)
  | .stageStarted stage => if stage = s.stage then none else some (.stageStart e.seq stage)
  | .stageSealed stage attempt _ => some (.stage e.seq stage attempt)
  | .modeChanged mode => some (.mode e.seq mode)
  | _ => none

def finishDue (s : ChallengeState) : Bool :=
  s.terminated && s.processing.settled && !s.processing.finishQueued

/-- The triggers an entry pushes: the event's, and the finish once it is due. -/
def pushes (s : ChallengeState) (e : JournalEntry) : List Trigger :=
  (eventTrigger s e).toList ++
    if finishDue (applyEvent (moveCursor s e) e) then [.finish e.seq] else []

/-- The attempt an event resolves, and the result the pipeline is given. -/
def LifecycleEvent.outcome : LifecycleEvent →
    Option (JournalSeq × Except ProcessingError ProcessingPayload)
  | .processingFinished seq payload => some (seq, .ok payload)
  | .processingFailed seq error => some (seq, .error error)
  | .processingTimedOut seq => some (seq, .error { message := "timed out", retriable := true })
  | _ => none

lemma applyEvent_processing (s : ChallengeState) (e : JournalEntry) :
    (∃ t info, eventTrigger s e = some t ∧ e.event.isProcessing = false ∧
      (applyEvent s e).processing = s.processing.push t info e.time) ∨
    (eventTrigger s e = none ∧
      ((e.event.isProcessing = false ∧ (applyEvent s e).processing = s.processing) ∨
       (∃ seq, e.event = .processingStarted seq ∧
         (applyEvent s e).processing = s.processing.start seq e.time) ∨
       (∃ seq result, e.event.outcome = some (seq, result) ∧
         (applyEvent s e).processing = s.processing.finish s.challengeType e.time result))) := by
  unfold applyEvent eventTrigger
  cases e.event with
  | clientJoined clientId userId token recordingType =>
    by_cases h : clientId ∈ s.recordedBy
    · simp [h, recordClient, LifecycleEvent.isProcessing]
    · refine Or.inl ⟨_, s.challengeInfo, if_neg h, rfl, ?_⟩
      dsimp only
      unfold recordClient
      rw [if_neg h]
      rfl
  | stageStarted stage =>
    by_cases h : stage = s.stage
    · simp [h, LifecycleEvent.isProcessing]
    · refine Or.inl ⟨_, { s with
        stage, stageAttempt := stage.firstAttempt, stageStatus := .started
        stageState := .inProgress }.challengeInfo, if_neg h, rfl, ?_⟩
      dsimp only
      rw [if_pos h]
      rfl
  | challengeCreated => exact Or.inl ⟨_, _, rfl, rfl, rfl⟩
  | stageSealed => exact Or.inl ⟨_, _, rfl, rfl, rfl⟩
  | modeChanged => exact Or.inl ⟨_, _, rfl, rfl, rfl⟩
  | clientStageReported =>
    exact Or.inr ⟨rfl, Or.inl ⟨rfl, by simp [stageReported, apply_ite ChallengeState.processing]⟩⟩
  | processingStarted => exact Or.inr ⟨rfl, Or.inr (Or.inl ⟨_, rfl, rfl⟩)⟩
  | processingFinished seq payload =>
    exact Or.inr ⟨rfl, Or.inr (Or.inr ⟨_, _, rfl, by cases payload <;> rfl⟩)⟩
  | processingFailed => exact Or.inr ⟨rfl, Or.inr (Or.inr ⟨_, _, rfl, rfl⟩)⟩
  | processingTimedOut => exact Or.inr ⟨rfl, Or.inr (Or.inr ⟨_, _, rfl, rfl⟩)⟩
  | _ => exact Or.inr ⟨rfl, Or.inl ⟨rfl, rfl⟩⟩

lemma queueFinish_processing (s : ChallengeState) (e : JournalEntry) :
    (queueFinish s e).processing =
      if finishDue s then s.processing.push (.finish e.seq) s.challengeInfo e.time
      else s.processing := by
  unfold queueFinish finishDue
  by_cases h : s.terminated ∧ s.processing.settled ∧ ¬ s.processing.finishQueued
  · rw [if_pos h]
    simp [h.1, h.2.1, h.2.2, ChallengeState.push]
  · rw [if_neg h]
    have h' : ¬ (s.terminated && s.processing.settled && !s.processing.finishQueued) = true := by
      simpa [and_assoc] using h
    rw [if_neg h']

lemma apply_processing (s : ChallengeState) (e : JournalEntry) :
    (apply s e).processing = (queueFinish (applyEvent (moveCursor s e) e) e).processing := by
  unfold apply trackDormancy
  dsimp only
  split_ifs <;> rfl

lemma finishDue_jobs {s : ChallengeState} (h : finishDue s = true) :
    s.processing.active = none ∧ s.processing.jobs = s.processing.completed := by
  unfold finishDue Processing.settled at h
  simp only [Bool.and_eq_true, Option.isNone_iff_eq_none, List.isEmpty_iff] at h
  obtain ⟨⟨-, ha, hp⟩, -⟩ := h
  exact ⟨ha, by simp [Processing.jobs, Processing.outstanding, ha, hp]⟩

lemma apply_config (s : ChallengeState) (e : JournalEntry) :
    (apply s e).processing.config = s.processing.config := by
  have h1 : (applyEvent (moveCursor s e) e).processing.config = s.processing.config := by
    obtain ⟨t, info, -, -, h⟩ | ⟨-, ⟨-, h⟩ | ⟨seq, -, h⟩ | ⟨seq, result, -, h⟩⟩ :=
      applyEvent_processing (moveCursor s e) e <;> rw [h]
    · simp [moveCursor]
    · rfl
    · simp [moveCursor]
    · simp [moveCursor]
  rw [apply_processing, queueFinish_processing]
  split_ifs
  · rw [Processing.push_config, h1]
  · exact h1

lemma apply_busy {s : ChallengeState} {e : JournalEntry} (hb : s.processing.Busy) :
    (apply s e).processing.Busy := by
  have h1 : (applyEvent (moveCursor s e) e).processing.Busy := by
    obtain ⟨t, info, -, -, h⟩ | ⟨-, ⟨-, h⟩ | ⟨seq, -, h⟩ | ⟨seq, result, -, h⟩⟩ :=
      applyEvent_processing (moveCursor s e) e <;> rw [h]
    · exact Processing.push_busy hb
    · exact hb
    · exact Processing.start_busy hb seq e.time
    · exact Processing.finish_busy hb _ e.time result
  rw [apply_processing, queueFinish_processing]
  split_ifs
  · exact Processing.push_busy h1
  · exact h1

lemma apply_jobs {s : ChallengeState} {e : JournalEntry} (hb : s.processing.Busy)
    (hen : s.processing.config.maxAttempts ≠ 0) :
    (apply s e).processing.jobs = s.processing.jobs ++ pushes s e := by
  have hevent : (applyEvent (moveCursor s e) e).processing.jobs =
      s.processing.jobs ++ (eventTrigger s e).toList := by
    have htrig : eventTrigger (moveCursor s e) e = eventTrigger s e := rfl
    obtain ⟨t, info, ht, -, h⟩ | ⟨ht, ⟨-, h⟩ | ⟨seq, -, h⟩ | ⟨seq, result, -, h⟩⟩ :=
      applyEvent_processing (moveCursor s e) e <;> rw [h, ← htrig, ht]
    · exact Processing.push_jobs hb hen t info e.time
    · simp [moveCursor]
    · simp [Processing.start_jobs, moveCursor]
    · simp [Processing.finish_jobs, moveCursor]
  rw [apply_processing, queueFinish_processing]
  unfold pushes
  split_ifs with hd
  · obtain ⟨hnone, -⟩ := finishDue_jobs hd
    have hb' : (applyEvent (moveCursor s e) e).processing.Busy := by
      intro _
      unfold finishDue Processing.settled at hd
      simp_all
    have hen' : (applyEvent (moveCursor s e) e).processing.config.maxAttempts ≠ 0 := by
      have h := apply_config s e
      rw [apply_processing, queueFinish_processing] at h
      split_ifs at h
      rw [Processing.push_config] at h
      rwa [h]
    rw [Processing.push_jobs hb' hen', hevent, List.append_assoc]
  · rw [hevent, List.append_nil]

/-! ### Attempts -/

/-- How often a journal starts an attempt of the run that `seq` triggered. -/
def starts (js : List JournalEntry) (seq : JournalSeq) : ℕ :=
  js.countP fun e => e.event = .processingStarted seq

def Processing.begun (p : Processing) : List Trigger :=
  p.completed ++ (p.active.map (·.trigger)).toList

/-- Jobs are in the order of their journal positions, all of them before `next`, and the
attempts counted by `starts` are within the limits. -/
structure Processing.Inv (p : Processing) (next : JournalSeq) (starts : JournalSeq → ℕ) :
    Prop where
  busy : p.Busy
  ordered : p.jobs.Pairwise (·.seq < ·.seq)
  numbered : ∀ t ∈ p.jobs, t.seq < next
  completed : ∀ t ∈ p.completed, starts t.seq ≤ max 1 (p.config.attemptsFor t)
  active : ∀ run, p.active = some run → starts run.trigger.seq = run.attempts ∧
    run.attempts + (if run.state.isRunning then 0 else 1) ≤
      max 1 (p.config.attemptsFor run.trigger)
  waiting : ∀ seq, seq ∉ p.begun.map Trigger.seq → starts seq = 0

namespace Processing.Inv

variable {p : Processing} {n : JournalSeq} {st : JournalSeq → ℕ}

lemma mono (h : p.Inv n st) {m : JournalSeq} (hnm : n ≤ m) : p.Inv m st :=
  { h with numbered := fun t ht => lt_of_lt_of_le (h.numbered t ht) hnm }

lemma begun_subset {t : Trigger} (ht : t ∈ p.begun) : t ∈ p.jobs := by
  unfold Processing.begun at ht
  unfold Processing.jobs Processing.outstanding
  rcases List.mem_append.mp ht with h | h
  · exact List.mem_append_left _ h
  · refine List.mem_append_right _ (List.mem_append_left _ ?_)
    cases ha : p.active <;> simp_all

lemma new_le_max (l : ℕ) :
    0 + (if ProcessingState.isRunning (.idle n) then 0 else 1) ≤ max 1 l := by
  simp [ProcessingState.isRunning]

lemma push (h : p.Inv n st) {t : Trigger} (ht : t.seq = n) (info : ChallengeInfo)
    (time : Timestamp) : (p.push t info time).Inv (n + 1) st := by
  by_cases hen : p.config.maxAttempts = 0
  · rw [Processing.push_disabled hen]
    exact h.mono (Nat.le_succ n)
  have hjobs := Processing.push_jobs h.busy hen t info time
  have hact := Processing.push_active hen t info time
  refine ⟨Processing.push_busy h.busy, ?_, ?_, ?_, ?_, ?_⟩
  · rw [hjobs, List.pairwise_append]
    refine ⟨h.ordered, List.pairwise_singleton _ _, fun u hu v hv => ?_⟩
    rw [List.mem_singleton.mp hv, ht]
    exact h.numbered u hu
  · intro u hu
    rw [hjobs] at hu
    rcases List.mem_append.mp hu with hu | hu
    · exact Nat.lt_succ_of_lt (h.numbered u hu)
    · rw [List.mem_singleton.mp hu, ht]
      exact Nat.lt_succ_self n
  · rw [Processing.push_completed, Processing.push_config]
    exact h.completed
  · rw [hact, Processing.push_config]
    intro run hrun
    cases ha : p.active with
    | some r =>
      rw [ha] at hrun
      cases hrun
      exact h.active r ha
    | none =>
      rw [ha] at hrun
      cases hrun
      refine ⟨h.waiting _ fun hmem => ?_, new_le_max _⟩
      obtain ⟨u, hu, hseq⟩ := List.mem_map.mp hmem
      have hlt := h.numbered u (begun_subset hu)
      rw [hseq] at hlt
      exact absurd hlt (by simp [ProcessingRun.new, ht])
  · intro seq hseq
    refine h.waiting seq fun hmem => hseq ?_
    obtain ⟨u, hu, hus⟩ := List.mem_map.mp hmem
    refine List.mem_map.mpr ⟨u, ?_, hus⟩
    unfold Processing.begun at hu ⊢
    rw [Processing.push_completed, hact]
    cases ha : p.active <;> simp_all

lemma start (h : p.Inv n st) {run : ProcessingRun} (hr : p.active = some run)
    (hidle : run.state.isRunning = false) (time : Timestamp) :
    (p.start run.trigger.seq time).Inv n
      (fun seq => st seq + if seq = run.trigger.seq then 1 else 0) := by
  have hjobs := Processing.start_jobs p run.trigger.seq time
  have hbusy := Processing.start_busy h.busy run.trigger.seq time
  have hrest := h.active run hr
  rw [Processing.start_eq hr rfl] at hjobs hbusy ⊢
  refine ⟨hbusy, hjobs ▸ h.ordered, hjobs ▸ h.numbered, ?_, ?_, ?_⟩
  · intro t ht
    have hlt : t.seq < run.trigger.seq := by
      have hord := h.ordered
      unfold Processing.jobs at hord
      rw [Processing.outstanding_of_some hr] at hord
      exact (List.pairwise_append.mp hord).2.2 t ht _ List.mem_cons_self
    simpa [hlt.ne] using h.completed t ht
  · intro r hr'
    cases hr'
    rw [hidle] at hrest
    refine ⟨by simp [hrest.1], ?_⟩
    simpa [ProcessingState.isRunning] using hrest.2
  · intro seq hseq
    have hne : seq ≠ run.trigger.seq := by
      rintro rfl
      exact hseq (by simp [Processing.begun])
    have := h.waiting seq (by simpa [Processing.begun, hr] using hseq)
    simp [this, hne]

lemma finish (h : p.Inv n st) {run : ProcessingRun} (hr : p.active = some run)
    (hrun : run.state.isRunning = true) (ty : ChallengeType) (time : Timestamp)
    (result : Except ProcessingError ProcessingPayload) : (p.finish ty time result).Inv n st := by
  have hjobs := Processing.finish_jobs p ty time result
  have hbusy := Processing.finish_busy h.busy ty time result
  have hrest := h.active run hr
  have hord := h.ordered
  unfold Processing.jobs at hord
  rw [Processing.outstanding_of_some hr, List.pairwise_append, List.pairwise_cons] at hord
  obtain ⟨-, ⟨hpend, -⟩, hcross⟩ := hord
  rw [hrun] at hrest
  obtain ⟨status, hf⟩ | ⟨retriable, hlt, hf⟩ := Processing.finish_cases hr ty time result
  · rw [hf] at hjobs hbusy ⊢
    refine ⟨hbusy, hjobs ▸ h.ordered, hjobs ▸ h.numbered, ?_, ?_, ?_⟩
    · intro t ht
      rcases List.mem_append.mp ht with ht | ht
      · exact h.completed t ht
      · rw [List.mem_singleton.mp ht, hrest.1]
        exact hrest.2
    · -- The next run was waiting, behind everything that has begun.
      intro r hr'
      obtain ⟨q, hq, rfl⟩ := Option.map_eq_some_iff.mp hr'
      have hqmem : q.trigger ∈ p.pending.map (·.trigger) :=
        List.mem_map.mpr ⟨q, List.mem_of_head? hq, rfl⟩
      refine ⟨h.waiting _ fun hmem => ?_, new_le_max _⟩
      obtain ⟨u, hu, hseq⟩ := List.mem_map.mp hmem
      have hult : u.seq < q.trigger.seq := by
        unfold Processing.begun at hu
        rcases List.mem_append.mp hu with hu | hu
        · exact hcross u hu _ (List.mem_cons_of_mem _ hqmem)
        · simp only [hr, Option.map_some, Option.toList_some, List.mem_singleton] at hu
          rw [hu]
          exact hpend _ hqmem
      exact hult.ne hseq
    · intro seq hseq
      refine h.waiting seq fun hmem => hseq ?_
      obtain ⟨u, hu, hus⟩ := List.mem_map.mp hmem
      refine List.mem_map.mpr ⟨u, ?_, hus⟩
      unfold Processing.begun at hu
      refine List.mem_append_left _ ?_
      simpa [Processing.advance, hr] using hu
  · rw [hf] at hjobs hbusy ⊢
    refine ⟨hbusy, hjobs ▸ h.ordered, hjobs ▸ h.numbered, h.completed, ?_, ?_⟩
    · intro r hr'
      cases hr'
      refine ⟨hrest.1, ?_⟩
      simp only [ProcessingState.isRunning, Bool.false_eq_true, if_false]
      exact le_max_of_le_right hlt
    · intro seq hseq
      exact h.waiting seq (by simpa [Processing.begun, hr] using hseq)

end Processing.Inv

end Blert.Lifecycle

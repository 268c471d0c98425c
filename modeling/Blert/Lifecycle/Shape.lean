import Blert.Lifecycle.Recovery

/-!
The shape of a batch, as far as stages go: first come seals, then at most one opening of a
stage attempt. And where a batch goes wrong: a report can seal a stage attempt that is not the
challenge's current one, and a stage attempt that is over can be started again.
-/

namespace Blert.Lifecycle

variable {config : LifecycleConfig}

def LifecycleEvent.isOpening : LifecycleEvent → Bool
  | .challengeCreated _ _ _ _ _ _ | .stageStarted _ | .stageAttemptStarted _ _ => true
  | _ => false

def SealsCurrent (s : ChallengeState) (e : LifecycleEvent) : Prop :=
  ∀ stage attempt forced, e = .stageSealed stage attempt forced →
    stage = s.stage ∧ attempt = s.stageAttempt

/-! ### Inputs that go wrong -/

/-- A report that a stage attempt other than the current one is over, at which every client has
finished the current one while it is not sealed. -/
def misreports (s : ChallengeState) (cmd : Command) : Bool :=
  match cmd with
  | .update u =>
    match u.stage, s.clients.get u.clientId with
    | some progress, some client =>
      !s.terminated && progress.status.isFinished && s.stage ≤ progress.stage &&
        allFinished s u.clientId client progress && !s.stageState.isComplete &&
        !(progress.stage = s.stage && client.stageAttempt = s.stageAttempt)
    | _, _ => false
  | _ => false

/-- A report that the current stage was started, while its current attempt is already sealed
and was then found not to have been started. A retriable stage that never had a numbered
attempt only starts its first one. -/
def restarts (s : ChallengeState) (cmd : Command) : Bool :=
  match cmd with
  | .update u =>
    match u.stage, s.clients.get u.clientId with
    | some progress, some _ =>
      !s.terminated && progress.status = .started && progress.stage = s.stage &&
        s.stageStatus = .entered && s.stageState.isComplete &&
        !(s.stage.isRetriable && s.stageAttempt = none)
    | _, _ => false
  | _ => false

/-- The report of the attempt under way that the current stage attempt was not started, while
that is still open. -/
def reenters (s : ChallengeState) (cmd : Command) : Bool :=
  match cmd with
  | .processed report =>
    match report.result with
    | .ok (.stage .entered _) =>
      processesCurrent s && !s.stageState.isComplete &&
        s.processing.active.any fun run =>
          run.trigger.seq = report.trigger && run.attempts = report.attempt && run.state.isRunning
    | _ => false
  | _ => false

/-! ### The shape of a batch -/

/-- An event that opens nothing, and seals only what is current unless the input misreports. -/
def Seals (s : ChallengeState) (cmd : Command) (e : LifecycleEvent) : Prop :=
  e.isOpening = false ∧ (misreports s cmd = false → SealsCurrent s e)

/-- A start of the current stage opens a new attempt of it unless the input restarts. -/
def Fresh (s : ChallengeState) (cmd : Command) (stage : Stage) : Prop :=
  restarts s cmd = false → s.stageState.isComplete = true →
    stage.isRetriable = true ∧ s.stageAttempt = none

/-- The shapes of a batch: without an opening, or with one as the last event but one. -/
inductive Shape (s : ChallengeState) (cmd : Command) : List LifecycleEvent → Prop
  | closed {xs : List LifecycleEvent} (hx : ∀ e ∈ xs, Seals s cmd e) : Shape s cmd xs
  | opening {xs : List LifecycleEvent} {o r : LifecycleEvent} (hx : ∀ e ∈ xs, Seals s cmd e)
      (ho : o.isSeal = false) (hr : r.isOpening = false ∧ r.isSeal = false)
      (hs : ∀ stage, o = .stageStarted stage → stage = s.stage →
        (∀ e ∈ xs, e.isSeal = false) ∧ Fresh s cmd stage) : Shape s cmd (xs ++ [o, r])

variable {s : ChallengeState} {cmd : Command}

lemma sealsCurrent_of_not_seal {e : LifecycleEvent} (h : e.isSeal = false) :
    SealsCurrent s e := by
  rintro stage attempt forced rfl
  cases h

lemma seals_of_none {e : LifecycleEvent} (h : e.isOpening = false ∧ e.isSeal = false) :
    Seals s cmd e := ⟨h.1, fun _ => sealsCurrent_of_not_seal h.2⟩

lemma shape_of_none {es : List LifecycleEvent}
    (h : ∀ e ∈ es, e.isOpening = false ∧ e.isSeal = false) : Shape s cmd es :=
  .closed fun e he => seals_of_none (h e he)

lemma shape_of_seals {es : List LifecycleEvent}
    (h : ∀ e ∈ es, e.isOpening = false ∧ SealsCurrent s e) : Shape s cmd es :=
  .closed fun e he => ⟨(h e he).1, fun _ => (h e he).2⟩

lemma Shape.append {zs es : List LifecycleEvent} (h : Shape s cmd es)
    (hz : ∀ e ∈ zs, e.isOpening = false ∧ e.isSeal = false) : Shape s cmd (zs ++ es) := by
  have hzs : ∀ e ∈ zs, Seals s cmd e := fun e he => seals_of_none (hz e he)
  cases h with
  | closed hx =>
    refine .closed fun e he => ?_
    rcases List.mem_append.mp he with he | he
    · exact hzs e he
    · exact hx e he
  | opening hx ho hr hs =>
    rw [← List.append_assoc]
    refine .opening (fun e he => ?_) ho hr fun stage hst heq => ?_
    · rcases List.mem_append.mp he with he | he
      · exact hzs e he
      · exact hx e he
    · obtain ⟨hns, hf⟩ := hs stage hst heq
      refine ⟨fun e he => ?_, hf⟩
      rcases List.mem_append.mp he with he | he
      · exact (hz e he).2
      · exact hns e he

lemma seal_open (s : ChallengeState) : ∀ e ∈ (sealOpenStage s).toList ++ [.challengeTerminated],
    e.isOpening = false ∧ SealsCurrent s e := by
  intro e he
  obtain ⟨-, hs⟩ | ⟨-, hs⟩ := sealOpenStage_eq s
  all_goals
    rw [hs] at he
    simp only [Option.toList_none, Option.toList_some, List.nil_append, List.cons_append,
      List.mem_cons, List.not_mem_nil, or_false] at he
  · rw [he]
    exact ⟨rfl, sealsCurrent_of_not_seal rfl⟩
  · rcases he with rfl | rfl
    · refine ⟨rfl, ?_⟩
      rintro stage attempt forced h
      cases h
      exact ⟨rfl, rfl⟩
    · exact ⟨rfl, sealsCurrent_of_not_seal rfl⟩

lemma seal_terminate (s : ChallengeState) : ∀ e ∈ terminate s,
    e.isOpening = false ∧ SealsCurrent s e := by
  intro e he
  rcases List.mem_append.mp he with he | he
  · obtain ⟨k, -, rfl⟩ := List.mem_map.mp he
    exact ⟨rfl, sealsCurrent_of_not_seal rfl⟩
  · exact seal_open s e he

lemma seal_deadlineFired (s : ChallengeState) (d : Deadline) : ∀ e ∈ deadlineFired s config d,
    e.isOpening = false ∧ SealsCurrent s e := by
  intro e he
  unfold deadlineFired at he
  split_ifs at he with hd
  · cases he
  · split at he
    · rw [List.mem_singleton.mp he]
      refine ⟨rfl, ?_⟩
      rintro stage attempt forced h
      cases h
      exact ⟨rfl, rfl⟩
    · split at he
      · exact seal_terminate s e he
      · cases he
    · exact seal_open s e he
    · exact seal_terminate s e he
    all_goals
      split at he
      · rw [List.mem_singleton.mp he]
        exact ⟨rfl, sealsCurrent_of_not_seal rfl⟩
      · cases he

lemma none_processed (s : ChallengeState) (r : Processed) : ∀ e ∈ processed s r,
    e.isOpening = false ∧ e.isSeal = false := by
  intro e he
  unfold processed at he
  grind [LifecycleEvent.isOpening, LifecycleEvent.isSeal]

lemma none_modeParty (s : ChallengeState) (u : Update) :
    ∀ e ∈ modeEvents s u ++ partyEvents s u, e.isOpening = false ∧ e.isSeal = false := by
  intro e he
  rcases List.mem_append.mp he with he | he
  · unfold modeEvents at he
    grind [LifecycleEvent.isOpening, LifecycleEvent.isSeal]
  · unfold partyEvents at he
    grind [LifecycleEvent.isOpening, LifecycleEvent.isSeal]

section Update

variable {u : Update} {client : ClientState} {progress : StageProgress}

lemma shape_reportFinished (ht : s.terminated = false) (hu : u.stage = some progress)
    (hc : s.clients.get u.clientId = some client) (hle : s.stage ≤ progress.stage)
    (hf : progress.status.isFinished = true) :
    Shape s (.update u) (reportFinished s u.clientId client progress) := by
  refine .closed fun e he => ?_
  unfold reportFinished at he
  rcases List.mem_cons.mp he with rfl | he
  · exact seals_of_none ⟨rfl, rfl⟩
  · split_ifs at he with h
    · rw [List.mem_singleton.mp he]
      refine ⟨rfl, fun hmis => ?_⟩
      rintro stage attempt forced heq
      cases heq
      have hopen : s.stageState.isComplete = false := by simpa using h.2
      simpa [misreports, hu, hc, ht, hle, hf, h.1, hopen] using hmis
    · cases he

lemma shape_reportStarted (ht : s.terminated = false) (hu : u.stage = some progress)
    (hc : s.clients.get u.clientId = some client) (hst : progress.status = .started) :
    Shape s (.update u) (reportStarted s u.clientId client progress) := by
  have hseal : ∀ e ∈ [LifecycleEvent.stageSealed s.stage s.stageAttempt true],
      Seals s (.update u) e := by
    intro e he
    rw [List.mem_singleton.mp he]
    refine ⟨rfl, fun _ => ?_⟩
    rintro stage attempt forced heq
    cases heq
    exact ⟨rfl, rfl⟩
  unfold reportStarted
  by_cases h1 : progress.stage ≠ s.stage ∨ s.stageStatus = .entered
  · rw [if_pos h1]
    split_ifs with h2
    · refine .opening hseal rfl ⟨rfl, rfl⟩ fun stage heq hcur => ?_
      cases heq
      exact absurd hcur h2.1
    · refine .opening (by simp) rfl ⟨rfl, rfl⟩ fun stage heq hcur => ⟨by simp, fun hre hcompl => ?_⟩
      cases heq
      have he : s.stageStatus = .entered := by simpa [hcur] using h1
      rw [hcur]
      simpa [restarts, hu, hc, ht, hst, hcur, he, hcompl] using hre
  · rw [if_neg h1]
    split
    · rename_i attempt hatt
      rw [← hatt]
      by_cases h3 : client.stage = s.stage ∧ client.stageAttempt = s.stageAttempt
      · rw [if_pos h3]
        split_ifs with h4
        · exact .opening (by simp) rfl ⟨rfl, rfl⟩ (by simp)
        · exact .opening hseal rfl ⟨rfl, rfl⟩ (by simp)
      · rw [if_neg h3]
        exact shape_of_none (by simp [LifecycleEvent.isOpening, LifecycleEvent.isSeal])
    · exact shape_of_none (by simp [LifecycleEvent.isOpening, LifecycleEvent.isSeal])

lemma shape_update (u : Update) (ht : s.terminated = false) :
    Shape s (.update u) (update s u) := by
  unfold update
  cases hu : u.stage with
  | none => exact shape_of_none (none_modeParty s u)
  | some progress =>
    dsimp only
    split
    · exact shape_of_none (by simp)
    · rename_i client hc
      split_ifs with hlt
      · exact shape_of_none (by simp)
      · refine Shape.append ?_ (none_modeParty s u)
        split
        · rename_i hst
          exact shape_reportFinished ht hu hc (not_lt.mp hlt) (by rw [hst]; rfl)
        · rename_i hst
          exact shape_reportFinished ht hu hc (not_lt.mp hlt) (by rw [hst]; rfl)
        · rename_i hst
          exact shape_reportStarted ht hu hc hst
        · exact shape_of_none (by simp [LifecycleEvent.isOpening, LifecycleEvent.isSeal])

end Update

/-- **Every batch has such a shape.** -/
theorem decide_shape (s : ChallengeState) (config : LifecycleConfig) (cmd : Command) :
    Shape s cmd (decide s config cmd) := by
  unfold decide
  split_ifs with ht
  · split
    · exact shape_of_none (none_processed s _)
    · exact shape_of_seals (seal_deadlineFired s _)
    · exact shape_of_none (by simp)
  · have ht : s.terminated = false := by simpa using ht
    cases cmd with
    | create c =>
      dsimp only [create]
      split_ifs
      · exact shape_of_none (by simp)
      · exact @Shape.opening s (.create c) [] _ _ (by simp) rfl ⟨rfl, rfl⟩ (by simp)
    | join j =>
      refine shape_of_none fun e he => ?_
      dsimp only [join] at he
      grind [LifecycleEvent.isOpening, LifecycleEvent.isSeal]
    | update u => exact shape_update u ht
    | finish f =>
      refine shape_of_seals fun e he => ?_
      dsimp only [finish] at he
      split at he
      · cases he
      · split_ifs at he
        · rcases List.mem_cons.mp he with rfl | he
          · exact ⟨rfl, sealsCurrent_of_not_seal rfl⟩
          · rw [List.mem_singleton.mp he]
            exact ⟨rfl, sealsCurrent_of_not_seal rfl⟩
        · rw [List.mem_singleton.mp he]
          exact ⟨rfl, sealsCurrent_of_not_seal rfl⟩
        · rcases List.mem_cons.mp he with rfl | he
          · exact ⟨rfl, sealsCurrent_of_not_seal rfl⟩
          · exact seal_open s e he
    | clientStatus c =>
      refine shape_of_none fun e he => ?_
      dsimp only [clientStatus] at he
      grind [LifecycleEvent.isOpening, LifecycleEvent.isSeal]
    | clientMovedOn m =>
      refine shape_of_none fun e he => ?_
      dsimp only [clientMovedOn] at he
      grind [LifecycleEvent.isOpening, LifecycleEvent.isSeal]
    | deadlineFired d => exact shape_of_seals (seal_deadlineFired s d)
    | processed r => exact shape_of_none (none_processed s r)

/-! ### What the shape says of the entries -/

def SealsHere (a : Actor) (e : JournalEntry) : Prop := SealsCurrent a.state e.event

/-- An entry that starts the current stage again only where that opens a new attempt. -/
def StartsFresh (a : Actor) (e : JournalEntry) : Prop :=
  ∀ stage, e.event = .stageStarted stage → stage = a.state.stage →
    a.state.stageState.isComplete = true → stage.isRetriable = true ∧ a.state.stageAttempt = none

lemma pair_apply {s : ChallengeState} {e : JournalEntry} (h : e.event.isOpening = false) :
    (apply s e).stage = s.stage ∧ (apply s e).stageAttempt = s.stageAttempt := by
  rw [apply_stage, apply_stageAttempt]
  cases hev : e.event <;> first | exact ⟨rfl, rfl⟩ | (rw [hev] at h; cases h)

lemma complete_apply {s : ChallengeState} {e : JournalEntry} (h : e.event.isOpening = false)
    (hs : e.event.isSeal = false) :
    (apply s e).stageState.isComplete = s.stageState.isComplete := by
  rw [apply_isComplete]
  cases hev : e.event <;> simp_all [LifecycleEvent.isOpening, LifecycleEvent.isSeal]

section Licensed

variable {a : Actor} {t : Timestamp} {c : Cause} {xs : List LifecycleEvent}

lemma stamp_append (seq : JournalSeq) (t : Timestamp) (c : Cause) (es fs : List LifecycleEvent) :
    stamp seq t c (es ++ fs) = stamp seq t c es ++ stamp (seq + es.length) t c fs := by
  induction es generalizing seq with
  | nil => rfl
  | cons e es ih =>
    rw [List.cons_append, stamp_cons, stamp_cons, ih, List.cons_append, List.length_cons,
      Nat.add_right_comm, Nat.add_assoc]

lemma pair_fold (config : LifecycleConfig) (a : Actor) {es : List JournalEntry}
    (h : ∀ e ∈ es, e.event.isOpening = false) :
    ((machine config).fold a es).state.stage = a.state.stage ∧
      ((machine config).fold a es).state.stageAttempt = a.state.stageAttempt := by
  induction es generalizing a with
  | nil => exact ⟨rfl, rfl⟩
  | cons e es ih =>
    have hpair := pair_apply (s := a.state) (h e List.mem_cons_self)
    obtain ⟨h1, h2⟩ := ih (a.loadEntry e) fun f hf => h f (List.mem_cons_of_mem _ hf)
    exact ⟨h1.trans hpair.1, h2.trans hpair.2⟩

lemma complete_fold (config : LifecycleConfig) (a : Actor) {es : List JournalEntry}
    (h : ∀ e ∈ es, e.event.isOpening = false ∧ e.event.isSeal = false) :
    ((machine config).fold a es).state.stageState.isComplete = a.state.stageState.isComplete := by
  induction es generalizing a with
  | nil => rfl
  | cons e es ih =>
    obtain ⟨ho, hs⟩ := h e List.mem_cons_self
    have hrest := ih (a.loadEntry e) fun f hf => h f (List.mem_cons_of_mem _ hf)
    exact hrest.trans (complete_apply ho hs)

lemma licensed_seals {s : ChallengeState}
    (hx : ∀ e ∈ xs, e.isOpening = false ∧ SealsCurrent s e)
    (hpair : a.state.stage = s.stage ∧ a.state.stageAttempt = s.stageAttempt) (n : JournalSeq) :
    (machine config).Licensed SealsHere a (stamp n t c xs) := by
  induction xs generalizing a n with
  | nil => trivial
  | cons e es ih =>
    obtain ⟨ho, hs⟩ := hx e List.mem_cons_self
    refine ⟨fun stage attempt forced heq => ?_,
      ih (fun f hf => hx f (List.mem_cons_of_mem _ hf)) ?_ _⟩
    · rw [hpair.1, hpair.2]
      exact hs stage attempt forced heq
    · have hp := pair_apply (s := a.state) (e := ⟨n, t, c, e⟩) ho
      exact ⟨hp.1.trans hpair.1, hp.2.trans hpair.2⟩

/-- Without a misreport a batch seals nothing but what is current. -/
theorem batch_seals {i : Input} (h : misreports a.state i.cmd = false) :
    (machine config).Licensed SealsHere a ((machine config).decide a i) := by
  show (machine config).Licensed SealsHere a (stamp a.nextSeq i.time i.cause
    (decide a.state config i.cmd))
  have hshape := decide_shape a.state config i.cmd
  generalize decide a.state config i.cmd = es at hshape
  cases hshape with
  | closed hx =>
    exact licensed_seals (fun e he => ⟨(hx e he).1, (hx e he).2 h⟩) ⟨rfl, rfl⟩ _
  | opening hx ho hr hs =>
    rw [stamp_append, Machine.licensed_append]
    refine ⟨licensed_seals (fun e he => ⟨(hx e he).1, (hx e he).2 h⟩) ⟨rfl, rfl⟩ _, ?_, ?_, trivial⟩
    · exact sealsCurrent_of_not_seal ho
    · exact sealsCurrent_of_not_seal hr.2

lemma startsFresh_of_not_opening {b : Actor} {e : JournalEntry} (h : e.event.isOpening = false) :
    StartsFresh b e := by
  intro stage heq
  rw [heq] at h
  cases h

/-- Without a restart a batch starts a stage attempt anew only where it opens a new one. -/
theorem batch_fresh {i : Input} (h : restarts a.state i.cmd = false) :
    (machine config).Licensed StartsFresh a ((machine config).decide a i) := by
  have hclosed : ∀ (es : List LifecycleEvent) (b : Actor) (n : JournalSeq),
      (∀ e ∈ es, e.isOpening = false) →
      (machine config).Licensed StartsFresh b (stamp n i.time i.cause es) := by
    intro es
    induction es with
    | nil => exact fun _ _ _ => trivial
    | cons e es ih =>
      exact fun b n hes => ⟨startsFresh_of_not_opening (hes e List.mem_cons_self),
        ih _ _ fun f hf => hes f (List.mem_cons_of_mem _ hf)⟩
  show (machine config).Licensed StartsFresh a (stamp a.nextSeq i.time i.cause
    (decide a.state config i.cmd))
  have hshape := decide_shape a.state config i.cmd
  generalize decide a.state config i.cmd = es at hshape
  cases hshape with
  | closed hx => exact hclosed _ _ _ fun e he => (hx e he).1
  | @opening xs o r hx ho hr hs =>
    rw [stamp_append, Machine.licensed_append]
    refine ⟨hclosed _ _ _ fun e he => (hx e he).1, ?_, startsFresh_of_not_opening hr.1, trivial⟩
    have hxs : ∀ e ∈ stamp a.nextSeq i.time i.cause xs, e.event.isOpening = false :=
      fun e he => (hx _ (event_of_mem_stamp he)).1
    obtain ⟨hst, hat⟩ := pair_fold config a hxs
    intro stage heq hcur hcompl
    rw [hst] at hcur
    obtain ⟨hns, hfresh⟩ := hs stage heq hcur
    have hc := complete_fold config a fun e he =>
      ⟨hxs e he, hns _ (event_of_mem_stamp he)⟩
    rw [hc] at hcompl
    rw [hat]
    exact hfresh h hcompl

end Licensed

end Blert.Lifecycle

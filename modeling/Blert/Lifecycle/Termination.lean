import Blert.Lifecycle.Sealing

/-!
Termination is absorbing and clean.

A challenge is active, may be finishing, and ends terminated; it never goes back, and once it is
terminated it has no clients and only its processing goes on. That its last stage attempt has
then been sealed, if it was started, holds as long as no report seals another attempt in its
place.
-/

namespace Blert.Lifecycle

variable {config : LifecycleConfig} {uuid : Uuid}

/-! ### Phases in order -/

def ChallengePhase.rank : ChallengePhase → ℕ
  | .active => 0
  | .finishing => 1
  | .terminated => 2

lemma ChallengePhase.rank_injective : Function.Injective ChallengePhase.rank := by
  intro p q h
  cases p <;> cases q <;> first | rfl | cases h

instance : LinearOrder ChallengePhase :=
  LinearOrder.lift' ChallengePhase.rank ChallengePhase.rank_injective

lemma ChallengePhase.le_terminated (p : ChallengePhase) : p ≤ .terminated := by
  show p.rank ≤ ChallengePhase.terminated.rank
  cases p <;> decide

lemma ChallengePhase.active_le (p : ChallengePhase) : ChallengePhase.active ≤ p :=
  Nat.zero_le p.rank

lemma phase_step {a : Actor} {e : JournalEntry} (h : Follows a e) :
    a.state.phase.phase ≤ (a.loadEntry e).state.phase.phase := by
  have hperm := h.permits
  show _ ≤ (apply a.state e).phase.phase
  rw [apply_phase]
  cases hev : e.event with
  | challengeFinishing =>
    rw [hev] at hperm
    rw [show a.state.phase.phase = .active from hperm]
    exact ChallengePhase.active_le _
  | challengeTerminated => exact ChallengePhase.le_terminated _
  | _ => exact le_refl _

lemma phase_fold {a : Actor} {es : List JournalEntry}
    (h : (machine config).Licensed Follows a es) :
    a.state.phase.phase ≤ ((machine config).fold a es).state.phase.phase :=
  (machine config).fold_keeps (P := fun b => a.state.phase.phase ≤ b.state.phase.phase)
    (fun _ _ hle hf => hle.trans (phase_step hf)) (le_refl _) h

/-! ### After termination -/

lemma only_processing {a : Actor} {es : List JournalEntry} (ht : a.state.terminated = true)
    (h : (machine config).Licensed Follows a es) : ∀ e ∈ es, e.event.isProcessing = true := by
  induction es generalizing a with
  | nil => intro e he; cases he
  | cons f es ih =>
    have hf := h.1.live ht
    have ht' : (a.loadEntry f).state.terminated = true := (terminated_of_processing hf).trans ht
    intro e he
    rcases List.mem_cons.mp he with rfl | he
    · exact hf
    · exact ih ht' h.2 e he

lemma clients_step {a : Actor} {e : JournalEntry}
    (hc : a.state.terminated = true → a.state.clients.isEmpty = true) (h : Follows a e) :
    (a.loadEntry e).state.terminated = true → (a.loadEntry e).state.clients.isEmpty = true := by
  show (apply a.state e).terminated = true → (apply a.state e).clients.isEmpty = true
  rw [apply_terminated, apply_clients]
  intro ht
  have hperm := h.permits
  have hlive := h.live
  cases hev : e.event with
  | challengeTerminated =>
    rw [hev] at hperm
    exact hperm.1
  | challengeFinishing =>
    rw [hev] at ht
    cases ht
  | _ =>
    -- Nothing but processing follows a termination, and it leaves the clients alone.
    rw [hev] at ht hlive
    have hp := hlive ht
    first
      | exact hc ht
      | cases hp

/-! ### The open stage attempt -/

def openAfter (before : Option StagePair) : LifecycleEvent → Option StagePair
  | .challengeCreated _ _ _ _ _ _ => none
  | .stageStarted stage => some (stagePair stage stage.firstAttempt)
  | .stageAttemptStarted stage attempt => some (stagePair stage (some attempt))
  | .stageSealed stage attempt _ =>
    if before = some (stagePair stage attempt) then none else before
  | _ => before

/-- The stage attempt that a journal opens last and does not seal after that. -/
def openStage (js : List JournalEntry) : Option StagePair :=
  js.foldl (fun before e => openAfter before e.event) none

lemma openStage_snoc (js : List JournalEntry) (e : JournalEntry) :
    openStage (js ++ [e]) = openAfter (openStage js) e.event := by
  simp [openStage]

/-- Only the current stage attempt is open, and only while it is neither over nor unstarted. -/
def OpenInv (s : ChallengeState) (o : Option StagePair) : Prop :=
  ∀ p, o = some p → p = s.pair ∧ ¬ StageClosed s ∧ s.terminated = false

/-- An entry that finds the current stage attempt not started only when it is complete. -/
def FoundLate (a : Actor) (e : JournalEntry) : Prop :=
  e.event.isUnstarted = true → processesCurrent a.state = true →
    a.state.stageState.isComplete = true

/-- What the entries of a run without misreports and reentries are licensed by. -/
structure OpenStep (a : Actor) (e : JournalEntry) : Prop where
  follows : Follows a e
  seals : SealsHere a e
  found : FoundLate a e

lemma openInv_started {s : ChallengeState} {p : StagePair} (hpair : s.pair = p)
    (hc : s.stageState.isComplete = false) (hst : s.stageStatus = .started)
    (ht : s.terminated = false) : OpenInv s (some p) := by
  rintro q ⟨⟩
  refine ⟨hpair.symm, ?_, ht⟩
  rintro (h | h)
  · rw [hc] at h
    cases h
  · rw [hst] at h
    cases h

lemma openInv_other {a : Actor} {e : JournalEntry} {o : Option StagePair}
    (hinv : OpenInv a.state o) (h : OpenStep a e) (ho : e.event.isOpening = false)
    (hs : e.event.isSeal = false) : OpenInv (apply a.state e) o := by
  intro p hp
  obtain ⟨hcur, hopen, ht⟩ := hinv p hp
  obtain ⟨hst, hat⟩ := pair_apply (s := a.state) ho
  have hcompl := complete_apply (s := a.state) ho hs
  have hpair : (apply a.state e).pair = a.state.pair := by rw [ChallengeState.pair, hst, hat]; rfl
  refine ⟨hcur.trans hpair.symm, ?_, ?_⟩
  · rintro (hc | hent)
    · exact hopen (Or.inl (hcompl ▸ hc))
    · obtain hent | ⟨hun, hproc⟩ := entered_apply ho hent
      · exact hopen (Or.inr hent)
      · exact hopen (Or.inl (h.found hun hproc))
  · have hperm := h.follows.permits
    rw [apply_terminated]
    cases hev : e.event with
    | challengeTerminated =>
      rw [hev] at hperm
      exact absurd hperm.2 hopen
    | challengeFinishing => rfl
    | _ => exact ht

lemma openInv_step {a : Actor} {js : List JournalEntry} {e : JournalEntry}
    (hinv : OpenInv a.state (openStage js)) (h : OpenStep a e) :
    OpenInv (a.loadEntry e).state (openStage (js ++ [e])) := by
  rw [openStage_snoc]
  show OpenInv (apply a.state e) _
  cases hev : e.event with
  | challengeCreated => rintro p ⟨⟩
  | stageStarted stage =>
    refine openInv_started ?_ ?_ ?_ ?_
    · rw [ChallengeState.pair, apply_stage, apply_stageAttempt, hev]
    · rw [apply_isComplete, hev]
    · rw [apply_stageStatus, hev]
    · rw [apply_terminated, hev]
      exact h.follows.alive (by rw [hev]; rfl)
  | stageAttemptStarted stage attempt =>
    have hperm := h.follows.permits
    rw [hev] at hperm
    refine openInv_started ?_ ?_ ?_ ?_
    · rw [ChallengeState.pair, apply_stage, apply_stageAttempt, hev, hperm.1]
    · rw [apply_isComplete, hev]
    · rw [apply_stageStatus, hev]
    · rw [apply_terminated, hev]
      exact h.follows.alive (by rw [hev]; rfl)
  | stageSealed stage attempt forced =>
    obtain ⟨rfl, rfl⟩ := h.seals stage attempt forced hev
    intro p hp
    -- What is open is the current stage attempt, which is the one sealed.
    dsimp only [openAfter] at hp
    split_ifs at hp with hcur
    exact absurd (hp.trans (congrArg some (hinv p hp).1)) hcur
  | _ =>
    have hsame := openInv_other hinv h (by rw [hev]; rfl) (by rw [hev]; rfl)
    exact hsame

/-! ### Findings of unstarted stages -/

lemma isUnstarted_fired {e : LifecycleEvent} (h : e.isFired = true) : e.isUnstarted = false := by
  cases e <;> first | rfl | cases h

lemma isUnstarted_update {e : LifecycleEvent} (h : e.isUpdate = true) : e.isUnstarted = false := by
  cases e <;> first | rfl | cases h

lemma processed_of_unstarted {s : ChallengeState} {cmd : Command} {e : LifecycleEvent}
    (he : e ∈ decide s config cmd) (hun : e.isUnstarted = true) :
    ∃ r, cmd = .processed r ∧ e ∈ processed s r := by
  have hdead : ∀ d, e ∉ deadlineFired s config d := by
    intro d hd
    by_cases hn : nextDeadline s config = some d
    · rw [isUnstarted_fired ((deadlineFired_work hn).1 e hd)] at hun
      cases hun
    · simp [deadlineFired, hn] at hd
  unfold decide at he
  split_ifs at he with ht
  · split at he
    · exact ⟨_, rfl, he⟩
    · exact absurd he (hdead _)
    · cases he
  · cases cmd with
    | processed r => exact ⟨r, rfl, he⟩
    | deadlineFired d => exact absurd he (hdead d)
    | update u =>
      rw [isUnstarted_update (update_isUpdate e he)] at hun
      cases hun
    | create c =>
      dsimp only [create] at he
      grind [LifecycleEvent.isUnstarted]
    | join j =>
      dsimp only [join] at he
      grind [LifecycleEvent.isUnstarted]
    | finish f =>
      dsimp only [finish] at he
      grind [LifecycleEvent.isUnstarted, sealOpenStage]
    | clientStatus c =>
      dsimp only [clientStatus] at he
      grind [LifecycleEvent.isUnstarted]
    | clientMovedOn m =>
      dsimp only [clientMovedOn] at he
      grind [LifecycleEvent.isUnstarted]

lemma processed_unstarted {s : ChallengeState} {r : Processed} {e : LifecycleEvent}
    (he : e ∈ processed s r) (hun : e.isUnstarted = true) :
    processed s r = [e] ∧ (processesCurrent s = true → s.stageState.isComplete = false →
      reenters s (.processed r) = true) := by
  unfold processed at he ⊢
  cases hr : s.processing.active with
  | none =>
    rw [hr] at he
    cases he
  | some run =>
    rw [hr] at he
    dsimp only at he ⊢
    split_ifs at he ⊢ with hmatch
    · cases he
    · push Not at hmatch
      cases hres : r.result with
      | error error =>
        rw [hres] at he
        rw [List.mem_singleton.mp he] at hun
        cases hun
      | ok payload =>
        rw [hres] at he
        have he := List.mem_singleton.mp he
        rw [he] at hun
        refine ⟨by rw [he], fun hproc hopen => ?_⟩
        cases payload with
        | none => cases hun
        | stage status ticks =>
          cases status with
          | entered => simp [reenters, hres, hr, hproc, hopen, hmatch]
          | _ => cases hun

/-- Without a reentry a batch finds a stage attempt not started only when it is complete. -/
theorem batch_foundLate {a : Actor} {i : Input} (h : reenters a.state i.cmd = false) :
    (machine config).Licensed FoundLate a ((machine config).decide a i) := by
  have hnone : ∀ (es : List JournalEntry) (b : Actor), (∀ e ∈ es, e.event.isUnstarted = false) →
      (machine config).Licensed FoundLate b es := by
    intro es
    induction es with
    | nil => exact fun _ _ => trivial
    | cons e es ih =>
      refine fun b hes => ⟨fun hun => ?_, ih _ fun f hf => hes f (List.mem_cons_of_mem _ hf)⟩
      rw [hes e List.mem_cons_self] at hun
      cases hun
  by_cases hex : ∃ e ∈ decide a.state config i.cmd, e.isUnstarted = true
  · obtain ⟨e, he, hun⟩ := hex
    obtain ⟨r, hcmd, hmem⟩ := processed_of_unstarted he hun
    obtain ⟨hone, hre⟩ := processed_unstarted hmem hun
    have hdec : decide a.state config i.cmd = [e] := by
      rw [hcmd, ← hone]
      unfold decide
      split_ifs <;> rfl
    show (machine config).Licensed FoundLate a (stamp a.nextSeq i.time i.cause
      (decide a.state config i.cmd))
    rw [hdec]
    refine ⟨fun _ hproc => ?_, trivial⟩
    by_contra hopen
    rw [hcmd, hre hproc (by simpa using hopen)] at h
    cases h
  · refine hnone _ _ fun e he => ?_
    by_contra hun
    exact hex ⟨e.event, event_of_mem_stamp he, by simpa using hun⟩

/-! ### The run -/

/-- An input that neither misreports a stage attempt nor reenters an open one. -/
def Timely (a : Actor) (i : Input) : Prop :=
  misreports a.state i.cmd = false ∧ reenters a.state i.cmd = false

instance (a : Actor) (i : Input) : Decidable (Timely a i) := inferInstanceAs (Decidable (_ ∧ _))

/-- A challenge's phase never goes back, it is only processed after it terminated, and then it has
no clients and no stage attempt that was started and not sealed. -/
structure EndsClean (uuid : Uuid) (config : LifecycleConfig) (js : List JournalEntry) : Prop where
  phase : ∀ pre post, js = pre ++ post →
    (Actor.load uuid config pre).state.phase.phase ≤ (Actor.load uuid config js).state.phase.phase
  after : ∀ pre e post, js = pre ++ e :: post → e.event = .challengeTerminated →
    ∀ f ∈ post, f.event.isProcessing = true
  clients : (Actor.load uuid config js).state.terminated = true →
    (Actor.load uuid config js).state.clients.isEmpty = true
  stage : (Actor.load uuid config js).state.terminated = true → openStage js = none

/-- **Termination is absorbing**, whatever the inputs: the phase never goes back, nothing but
processing is journaled after the termination, and a terminated challenge has no clients. -/
theorem absorbing_run {is : List Input} {js : List JournalEntry}
    (hjs : js <+: (machine config).journal (Actor.new uuid config) is)
    (hstage : (Actor.load uuid config js).state.terminated = true → openStage js = none) :
    EndsClean uuid config js := by
  have hfol := journal_follows config (Actor.new uuid config) is
  obtain ⟨rest, hrest⟩ := hjs
  rw [← hrest, Machine.licensed_append] at hfol
  have hload : ∀ pre post, js = pre ++ post → Actor.load uuid config js =
      (machine config).fold (Actor.load uuid config pre) post := by
    intro pre post h
    rw [h, load_eq_fold, Machine.fold_append]
    rfl
  refine ⟨fun pre post h => ?_, fun pre e post h he => ?_, ?_, hstage⟩
  · rw [hload pre post h]
    rw [h, Machine.licensed_append] at hfol
    exact phase_fold hfol.1.2
  · rw [h, Machine.licensed_append, Machine.licensed_cons] at hfol
    refine only_processing ?_ hfol.1.2.2
    show (apply _ e).terminated = true
    rw [apply_terminated, he]
  · exact (machine config).fold_keeps
      (P := fun b => b.state.terminated = true → b.state.clients.isEmpty = true)
      (fun _ _ hc hf => clients_step hc hf) (by intro h; cases h) hfol.1

/-- **Termination is absorbing and clean**, along every run in which no input misreports a stage
attempt or reenters an open one. -/
theorem termination_clean {is : List Input}
    (hok : (machine config).Meets Timely (Actor.new uuid config) is) {js : List JournalEntry}
    (hjs : js <+: (machine config).journal (Actor.new uuid config) is) :
    EndsClean uuid config js := by
  refine absorbing_run hjs fun ht => ?_
  have hinv := (machine config).prefix_inv (P := fun a js => OpenInv a.state (openStage js))
    (R := OpenStep) (fun a i h => ?_) (fun _ _ _ => openInv_step) (by rintro p ⟨⟩) hok hjs
  · cases ho : openStage js with
    | none => rfl
    | some p =>
      have hlive := (hinv p ho).2.2
      rw [load_eq_fold, hlive] at ht
      cases ht
  · have hall := ((batch_follows config a i).and _ (batch_seals h.1)).and _ (batch_foundLate h.2)
    exact hall.mono _ fun _ _ h => ⟨h.1.1, h.1.2, h.2⟩

/-- A run that completes its stage before it finishes. -/
theorem termination_clean_solo : EndsClean 0 soloConfig
    ((machine soloConfig).journal (Actor.new 0 soloConfig)
      [soloCreate, soloReport 2 Stage.tobMaiden .started, soloReport 3 Stage.tobMaiden .completed,
       soloFinish 4]) :=
  termination_clean (by decide) (List.prefix_refl _)

/-- After the completion of a later room was reported, the current one is open when the challenge
terminates. -/
theorem terminated_open :
    let journal := (machine soloConfig).journal (Actor.new 0 soloConfig) soloRun
    (Actor.load 0 soloConfig journal).state.terminated = true ∧
      openStage journal = some (stagePair Stage.tobMaiden none) ∧
      ¬ EndsClean 0 soloConfig journal := by
  intro journal
  have ht : (Actor.load 0 soloConfig journal).state.terminated = true := by decide
  have ho : openStage journal = some (stagePair Stage.tobMaiden none) := by decide
  refine ⟨ht, ho, fun h => ?_⟩
  have hnone := h.stage ht
  rw [ho] at hnone
  cases hnone

end Blert.Lifecycle

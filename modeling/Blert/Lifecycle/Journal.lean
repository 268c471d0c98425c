import Blert.Lifecycle.Actor

/-!
The grammar of a challenge's journal.

For each event there is a condition on the state that permits it. The conditions are the whole
of what the invariants of a challenge need to know about its decisions: every batch an actor
journals, entry by entry, is permitted in the state the entry meets, and numbered on from it.
-/

namespace Blert.Lifecycle

def LifecycleEvent.isProcessing : LifecycleEvent → Bool
  | .processingStarted _ | .processingFinished _ _ | .processingFailed _ _
  | .processingTimedOut _ => true
  | _ => false

def LifecycleEvent.isSeal : LifecycleEvent → Bool
  | .stageSealed _ _ _ => true
  | _ => false

def ActiveRun (s : ChallengeState) (seq : JournalSeq) (running : Bool) : Prop :=
  ∃ run, s.processing.active = some run ∧ run.trigger.seq = seq ∧ run.state.isRunning = running

/-- The stage attempt is over, or was never started. -/
def StageClosed (s : ChallengeState) : Prop :=
  s.stageState.isComplete = true ∨ s.stageStatus = .entered

def Permits (s : ChallengeState) : LifecycleEvent → Prop
  | .challengeCreated uuid _ _ _ _ _ => s.challengeType = .unknownChallenge ∧ uuid = s.uuid
  | .clientJoined _ _ _ _ => True
  | .clientRejoined clientId _ | .clientStageReported clientId _ _ | .clientFinished clientId _ _ _
  | .clientActivated clientId | .clientIdled clientId | .clientRemoved clientId =>
    s.clients.contains clientId = true
  | .modeChanged mode => mode ≠ .noMode
  | .partyChanged _ => s.partyChanged = false
  | .stageStarted stage =>
    (s.stage < stage ∧ StageClosed s) ∨ (stage = s.stage ∧ s.stageStatus = .entered)
  | .stageAttemptStarted stage attempt =>
    stage = s.stage ∧ s.stageState.isComplete = true ∧
      ∃ a, s.stageAttempt = some a ∧ attempt = a + 1
  | .stageSealed _ _ _ => s.stageState.isComplete = false
  | .challengeFinishing => s.phase.phase = .active
  | .challengeTerminated => s.clients.isEmpty = true ∧ StageClosed s
  | .processingStarted seq => ActiveRun s seq false
  | .processingFinished seq _ | .processingFailed seq _ | .processingTimedOut seq =>
    ActiveRun s seq true

structure Follows (a : Actor) (e : JournalEntry) : Prop where
  seq : e.seq = a.nextSeq
  live : a.state.terminated = true → e.event.isProcessing = true
  permits : Permits a.state e.event

lemma Follows.alive {a : Actor} {e : JournalEntry} (h : Follows a e)
    (hp : e.event.isProcessing = false) : a.state.terminated = false := by
  by_contra ht
  rw [h.live (by simpa using ht)] at hp
  cases hp

def Actor.next (a : Actor) (t : Timestamp) (c : Cause) (e : LifecycleEvent) : JournalEntry :=
  { seq := a.nextSeq, time := t, causedBy := c, event := e }

/-- Events that follow one another in an actor's journal. -/
def Chain (config : LifecycleConfig) (t : Timestamp) (c : Cause) (a : Actor)
    (es : List LifecycleEvent) : Prop :=
  (machine config).Licensed Follows a (stamp a.nextSeq t c es)

/-! ### What most events leave alone -/

/-- The parts of the state that tell how far the challenge is are the same. -/
structure Keeps (s s' : ChallengeState) : Prop where
  phase : s'.phase.phase = s.phase.phase
  stage : s'.stage = s.stage
  stageAttempt : s'.stageAttempt = s.stageAttempt
  stageStatus : s'.stageStatus = s.stageStatus
  stageState : s'.stageState = s.stageState

lemma Keeps.rfl {s : ChallengeState} : Keeps s s := ⟨Eq.refl _, Eq.refl _, Eq.refl _, Eq.refl _,
  Eq.refl _⟩

lemma Keeps.trans {s s' s'' : ChallengeState} (h : Keeps s s') (h' : Keeps s' s'') :
    Keeps s s'' :=
  ⟨h'.phase.trans h.phase, h'.stage.trans h.stage, h'.stageAttempt.trans h.stageAttempt,
    h'.stageStatus.trans h.stageStatus, h'.stageState.trans h.stageState⟩

lemma Keeps.terminated {s s' : ChallengeState} (h : Keeps s s') :
    s'.terminated = s.terminated := by
  rw [Bool.eq_iff_iff, ChallengeState.terminated_iff, ChallengeState.terminated_iff, h.phase]

lemma Keeps.stageClosed {s s' : ChallengeState} (h : Keeps s s') :
    StageClosed s' ↔ StageClosed s := by
  unfold StageClosed
  rw [h.stageState, h.stageStatus]

/-- Events about one client or the challenge's make-up, and those of a run that has no result. -/
def LifecycleEvent.isQuiet : LifecycleEvent → Bool
  | .clientJoined _ _ _ _ | .clientRejoined _ _ | .modeChanged _ | .partyChanged _
  | .clientFinished _ _ _ _ | .clientActivated _ | .clientIdled _ | .clientRemoved _
  | .processingStarted _ | .processingFailed _ _ | .processingTimedOut _ => true
  | _ => false

lemma keeps_apply {s : ChallengeState} {e : JournalEntry} (h : e.event.isQuiet = true) :
    Keeps s (apply s e) := by
  constructor
  · rw [apply_phase]; cases he : e.event <;> simp_all [LifecycleEvent.isQuiet]
  · rw [apply_stage]; cases he : e.event <;> simp_all [LifecycleEvent.isQuiet]
  · rw [apply_stageAttempt]; cases he : e.event <;> simp_all [LifecycleEvent.isQuiet]
  · rw [apply_stageStatus]; cases he : e.event <;> simp_all [LifecycleEvent.isQuiet]
  · rw [apply_stageState]; cases he : e.event <;> simp_all [LifecycleEvent.isQuiet]

lemma apply_isComplete (s : ChallengeState) (e : JournalEntry) :
    (apply s e).stageState.isComplete =
      match e.event with
      | .challengeCreated _ _ _ _ _ _ | .stageStarted _ | .stageAttemptStarted _ _ => false
      | .stageSealed _ _ _ => true
      | _ => s.stageState.isComplete := by
  rw [apply_stageState]
  cases e.event with
  | clientStageReported id attempt update =>
    dsimp only
    split_ifs with h
    · have hs : s.stageState = .inProgress := by
        unfold endsStage at h
        simp_all
      rw [hs]
      rfl
    · rfl
  | _ => rfl

lemma apply_terminated (s : ChallengeState) (e : JournalEntry) :
    (apply s e).terminated = match e.event with
      | .challengeFinishing => false
      | .challengeTerminated => true
      | _ => s.terminated := by
  rw [Bool.eq_iff_iff, ChallengeState.terminated_iff, apply_phase]
  cases e.event <;> simp [ChallengeState.terminated_iff]

/-! ### Chains -/

section Chain

variable {config : LifecycleConfig} {t : Timestamp} {c : Cause} {a : Actor}
  {e : LifecycleEvent} {es : List LifecycleEvent}

lemma chain_nil : Chain config t c a [] := trivial

lemma chain_cons : Chain config t c a (e :: es) ↔
    Follows a (a.next t c e) ∧ Chain config t c (a.loadEntry (a.next t c e)) es := Iff.rfl

lemma chain_step (ht : a.state.terminated = false) (hp : Permits a.state e)
    (hes : Chain config t c (a.loadEntry (a.next t c e)) es) : Chain config t c a (e :: es) :=
  chain_cons.2 ⟨⟨rfl, by simp [ht], hp⟩, hes⟩

lemma chain_quiet (ht : a.state.terminated = false) (hq : e.isQuiet = true)
    (hp : Permits a.state e)
    (hes : ∀ a' : Actor, Keeps a.state a'.state → a'.state.clients = clientsAfter a.state e →
      Chain config t c a' es) : Chain config t c a (e :: es) :=
  chain_step ht hp (hes _ (keeps_apply hq) (apply_clients _ _))

lemma sealOpenStage_eq (s : ChallengeState) :
    (StageClosed s ∧ sealOpenStage s = none) ∨
      (s.stageState.isComplete = false ∧
        sealOpenStage s = some (.stageSealed s.stage s.stageAttempt true)) := by
  unfold sealOpenStage StageClosed
  by_cases hc : s.stageState.isComplete = true <;> by_cases he : s.stageStatus = .entered <;>
    simp [hc, he]

lemma chain_terminate {s : ChallengeState} (ht : a.state.terminated = false)
    (hk : Keeps s a.state) (hc : a.state.clients.isEmpty = true) :
    Chain config t c a ((sealOpenStage s).toList ++ [.challengeTerminated]) := by
  obtain ⟨hcl, hs⟩ | ⟨hcl, hs⟩ := sealOpenStage_eq s
  · rw [hs]
    exact chain_step ht ⟨hc, hk.stageClosed.mpr hcl⟩ chain_nil
  · rw [hs]
    refine chain_step ht (by simpa [Permits, hk.stageState] using hcl) ?_
    refine chain_step ?_ ⟨?_, Or.inl ?_⟩ chain_nil
    · simpa [Actor.loadEntry, Actor.next, apply_terminated] using ht
    · simpa [Actor.loadEntry, Actor.next, apply_clients, clientsAfter] using hc
    · simp [Actor.loadEntry, Actor.next, apply_isComplete]

lemma chain_removed {ks : List ClientId} (ht : a.state.terminated = false) (hks : ks.Nodup)
    (hc : ∀ k ∈ ks, a.state.clients.contains k = true)
    (hes : ∀ a' : Actor, Keeps a.state a'.state →
      a'.state.clients = ks.foldl OrdMap.erase a.state.clients → Chain config t c a' es) :
    Chain config t c a (ks.map .clientRemoved ++ es) := by
  induction ks generalizing a with
  | nil => exact hes a Keeps.rfl rfl
  | cons k ks ih =>
    obtain ⟨hk, hks⟩ := List.nodup_cons.mp hks
    refine chain_quiet ht rfl (hc k List.mem_cons_self) fun a' hkeep hcl => ?_
    refine ih (hkeep.terminated.trans ht) hks (fun k' hk' => ?_) fun a'' hkeep' hcl' => ?_
    · have hne : k' ≠ k := by rintro rfl; exact hk hk'
      rw [hcl]
      exact (OrdMap.contains_erase_of_ne hne).trans (hc k' (List.mem_cons_of_mem _ hk'))
    · refine hes a'' (hkeep.trans hkeep') ?_
      rw [hcl', hcl]
      rfl

lemma chain_terminate_all (ht : a.state.terminated = false) :
    Chain config t c a (terminate a.state) := by
  unfold terminate
  refine chain_removed ht (OrdMap.keys_nodup _) (fun k hk => ?_) fun a' hk hcl => ?_
  · exact OrdMap.contains_iff.mpr (OrdMap.mem_keys.mp hk)
  · refine chain_terminate (hk.terminated.trans ht) hk ?_
    rw [hcl]
    exact OrdMap.isEmpty_foldl_erase _

end Chain

end Blert.Lifecycle

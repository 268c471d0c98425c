import Blert.Lifecycle.State

/-!
Challenge deadlines. They are not part of the state but derived from it on demand, so that
advancing the state implicitly cancels or reschedules any pending timer.
-/

namespace Blert.Lifecycle

/-- Timing parameters for a challenge's deadlines. -/
structure LifecycleConfig where
  stageEndTimeout : Duration
  challengeEndGrace : Duration
  reconnectionWindow : Duration
  inactivityTimeout : Duration
  processing : ProcessingConfig

def lifecycleDeadline (state : ChallengeState) (config : LifecycleConfig) : Option Deadline :=
  if state.terminated then none
  else match state.stageState with
    -- Stage completions are prioritized before trying to end a challenge.
    | .ending since => some ⟨.stageEnd, Timestamp.add since config.stageEndTimeout⟩
    | _ =>
      match state.phase with
      | .finishing since =>
        -- The grace period runs from when the stage was finalized.
        let anchor := match state.stageState with
          | .complete sealedAt => max since sealedAt
          | _ => since
        some ⟨.challengeEnd, Timestamp.add anchor config.challengeEndGrace⟩
      | _ =>
        state.dormantSince.map fun since =>
          if state.clients.isEmpty then
            ⟨.cleanupDisconnect, Timestamp.add since config.reconnectionWindow⟩
          else ⟨.cleanupAllIdle, Timestamp.add since config.inactivityTimeout⟩

def processingDeadline (state : ChallengeState) : Option Deadline :=
  state.processing.active.map fun run =>
    let config := state.processing.config
    match run.state with
    | .running since => ⟨.processingTimeout, Timestamp.add since config.runTimeout⟩
    | .idle since =>
      let backoff := if run.attempts = 0 then 0 else config.backoffFor run.trigger
      ⟨.processingDue, Timestamp.add since backoff⟩

def nextDeadline (state : ChallengeState) (config : LifecycleConfig) : Option Deadline :=
  match lifecycleDeadline state config, processingDeadline state with
  | some lifecycle, some processing =>
    some (if processing.time < lifecycle.time then processing else lifecycle)
  | lifecycle, processing => lifecycle.or processing

/-! ### What a deadline says of the state -/

variable {state : ChallengeState} {config : LifecycleConfig} {d : Deadline}

lemma nextDeadline_cases (h : nextDeadline state config = some d) :
    lifecycleDeadline state config = some d ∨ processingDeadline state = some d := by
  unfold nextDeadline at h
  split at h
  · split_ifs at h <;> simp_all
  · rename_i hne
    cases hl : lifecycleDeadline state config with
    | none => right; simpa [hl] using h
    | some l => left; simpa [hl] using h

lemma nextDeadline_isSome :
    (nextDeadline state config).isSome ↔
      (lifecycleDeadline state config).isSome ∨ (processingDeadline state).isSome := by
  unfold nextDeadline
  split <;> simp_all

lemma lifecycleDeadline_cases (h : lifecycleDeadline state config = some d) :
    state.terminated = false ∧
      ((d.kind = .stageEnd ∧ ∃ since, state.stageState = .ending since) ∨
       (d.kind = .challengeEnd ∧ ∃ since, state.phase = .finishing since) ∨
       (d.kind = .cleanupDisconnect ∧ state.clients.isEmpty = true) ∨
       d.kind = .cleanupAllIdle) := by
  unfold lifecycleDeadline at h
  by_cases ht : state.terminated = true
  · simp [ht] at h
  rw [if_neg ht] at h
  refine ⟨by simpa using ht, ?_⟩
  split at h
  · rename_i since hs
    cases h
    exact Or.inl ⟨rfl, since, hs⟩
  · split at h
    · rename_i since hp
      cases h
      exact Or.inr (Or.inl ⟨rfl, since, hp⟩)
    · obtain ⟨since, -, h⟩ := Option.map_eq_some_iff.mp h
      split_ifs at h with hc <;> cases h
      · exact Or.inr (Or.inr (Or.inl ⟨rfl, hc⟩))
      · exact Or.inr (Or.inr (Or.inr rfl))

lemma processingDeadline_cases (h : processingDeadline state = some d) :
    ∃ run, state.processing.active = some run ∧
      ((d.kind = .processingDue ∧ run.state.isRunning = false) ∨
       (d.kind = .processingTimeout ∧ run.state.isRunning = true)) := by
  obtain ⟨run, hr, h⟩ := Option.map_eq_some_iff.mp h
  refine ⟨run, hr, ?_⟩
  split at h <;> rename_i hs <;> cases h
  · exact Or.inr ⟨rfl, by simp [hs, ProcessingState.isRunning]⟩
  · exact Or.inl ⟨rfl, by simp [hs, ProcessingState.isRunning]⟩

end Blert.Lifecycle

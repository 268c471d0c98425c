import Blert.Lifecycle.Journal

/-!
Every batch follows the grammar of the journal: command by command, the events a challenge
decides on are permitted one after the other.
-/

namespace Blert.Lifecycle

variable {config : LifecycleConfig} {t : Timestamp} {c : Cause} {a : Actor}

/-! ### Clients -/

lemma chain_create (cmd : Create) (ht : a.state.terminated = false) :
    Chain config t c a (create a.state cmd) := by
  unfold create
  split_ifs with h
  · exact chain_nil
  · refine chain_step ht ⟨not_not.mp h, rfl⟩ (chain_step ?_ trivial chain_nil)
    simpa [Actor.loadEntry, Actor.next, apply_terminated] using ht

lemma chain_join (cmd : Join) (ht : a.state.terminated = false) :
    Chain config t c a (join a.state cmd) := by
  unfold join
  split_ifs with h
  · exact chain_step ht h chain_nil
  · exact chain_step ht trivial chain_nil

lemma chain_clientStatus (cmd : ClientStatusChange) (ht : a.state.terminated = false) :
    Chain config t c a (clientStatus a.state cmd) := by
  unfold clientStatus
  split
  · exact chain_nil
  · rename_i client hget
    have hc : a.state.clients.contains cmd.clientId = true := OrdMap.contains_iff.mpr ⟨_, hget⟩
    split
    · exact chain_nil
    · cases cmd.status with
      | active =>
        dsimp only
        split_ifs
        · exact chain_nil
        · exact chain_step ht hc chain_nil
      | idle =>
        dsimp only
        split_ifs
        · exact chain_step ht hc chain_nil
        · exact chain_nil
      | disconnected => exact chain_step ht hc chain_nil

lemma chain_clientMovedOn (cmd : ClientMovedOn) (ht : a.state.terminated = false) :
    Chain config t c a (clientMovedOn a.state cmd) := by
  unfold clientMovedOn
  split_ifs with h
  · exact chain_step ht h chain_nil
  · exact chain_nil

lemma chain_finish (cmd : Finish) (ht : a.state.terminated = false) :
    Chain config t c a (finish a.state cmd) := by
  unfold finish
  split
  · exact chain_nil
  · rename_i client hget
    have hc : a.state.clients.contains cmd.clientId = true := OrdMap.contains_iff.mpr ⟨_, hget⟩
    dsimp only
    split_ifs with hsize hdef
    · refine chain_step ht ?_ (chain_step ?_ ?_ chain_nil)
      · simp [Permits, hdef.2, PhaseState.phase]
      · simp [Actor.loadEntry, Actor.next, apply_terminated]
      · simpa [Permits, Actor.loadEntry, Actor.next, apply_clients, clientsAfter] using hc
    · exact chain_step ht hc chain_nil
    · refine chain_quiet ht rfl hc fun a' hk hcl => ?_
      refine chain_terminate (hk.terminated.trans ht) hk ?_
      rw [hcl]
      exact OrdMap.isEmpty_erase (not_lt.mp hsize) hget

/-! ### Updates -/

lemma modeEvents_cases (s : ChallengeState) (u : Update) :
    modeEvents s u = [] ∨ ∃ mode, mode ≠ .noMode ∧ modeEvents s u = [.modeChanged mode] := by
  unfold modeEvents
  split
  · split_ifs with h
    · exact Or.inr ⟨_, h.1, rfl⟩
    · exact Or.inl rfl
  · exact Or.inl rfl

lemma partyEvents_cases (s : ChallengeState) (u : Update) :
    partyEvents s u = [] ∨
      ∃ party, s.partyChanged = false ∧ partyEvents s u = [.partyChanged party] := by
  unfold partyEvents
  split
  · split_ifs with h
    · exact Or.inr ⟨_, by simpa using h.2.1, rfl⟩
    · exact Or.inl rfl
  · exact Or.inl rfl

lemma chain_modeParty {u : Update} {es : List LifecycleEvent} (ht : a.state.terminated = false)
    (hes : ∀ a' : Actor, Keeps a.state a'.state → a'.state.clients = a.state.clients →
      Chain config t c a' es) :
    Chain config t c a (modeEvents a.state u ++ partyEvents a.state u ++ es) := by
  have hparty : ∀ a' : Actor, Keeps a.state a'.state → a'.state.clients = a.state.clients →
      a'.state.partyChanged = a.state.partyChanged →
      Chain config t c a' (partyEvents a.state u ++ es) := by
    intro a' hk hcl hpc
    obtain h | ⟨party, hp, h⟩ := partyEvents_cases a.state u
    · rw [h]
      exact hes a' hk hcl
    · rw [h]
      refine chain_quiet (hk.terminated.trans ht) rfl (hpc.trans hp) fun a'' hk' hcl' => ?_
      exact hes a'' (hk.trans hk') (hcl'.trans hcl)
  rw [List.append_assoc]
  obtain h | ⟨mode, hm, h⟩ := modeEvents_cases a.state u
  · rw [h]
    exact hparty a Keeps.rfl rfl rfl
  · rw [h]
    refine chain_step ht hm (hparty _ (keeps_apply rfl) ?_ ?_)
    · exact apply_clients _ _
    · exact apply_partyChanged _ _

section Report

variable {s : ChallengeState} {id : ClientId} {client : ClientState} {progress : StageProgress}

lemma chain_reportFinished (ht : a.state.terminated = false) (hk : Keeps s a.state)
    (hc : a.state.clients.contains id = true) :
    Chain config t c a (reportFinished s id client progress) := by
  unfold reportFinished
  refine chain_step ht hc ?_
  split_ifs with h
  · refine chain_step ?_ ?_ chain_nil
    · simpa [Actor.loadEntry, Actor.next, apply_terminated] using ht
    · simpa [Permits, Actor.loadEntry, Actor.next, apply_isComplete, hk.stageState] using h.2
  · exact chain_nil

lemma chain_opening {opening : LifecycleEvent} {attempt : Option ℕ}
    (ht : a.state.terminated = false) (hc : a.state.clients.contains id = true)
    (hp : Permits a.state opening)
    (hterm : ∀ e, e.event = opening → (apply a.state e).terminated = a.state.terminated)
    (hcl : clientsAfter a.state opening = a.state.clients) :
    Chain config t c a [opening, .clientStageReported id attempt progress] := by
  refine chain_step ht hp (chain_step ?_ ?_ chain_nil)
  · exact (hterm _ rfl).trans ht
  · simpa [Permits, Actor.loadEntry, Actor.next, apply_clients, hcl] using hc

lemma chain_reportStarted (ht : a.state.terminated = false) (hk : Keeps s a.state)
    (hc : a.state.clients.contains id = true) (hle : s.stage ≤ progress.stage) :
    Chain config t c a (reportStarted s id client progress) := by
  have hsealed : ∀ (stage : Stage) (attempt : Option ℕ) (es : List LifecycleEvent),
      s.stageState.isComplete = false →
      (∀ a' : Actor, a'.state.terminated = false → a'.state.stage = s.stage →
        a'.state.stageAttempt = s.stageAttempt → a'.state.stageState.isComplete = true →
        a'.state.clients.contains id = true → Chain config t c a' es) →
      Chain config t c a (.stageSealed stage attempt true :: es) := by
    intro stage attempt es hcompl hes
    refine chain_step ht (by simpa [Permits, hk.stageState] using hcompl) (hes _ ?_ ?_ ?_ ?_ ?_)
    · simpa [Actor.loadEntry, Actor.next, apply_terminated] using ht
    · simpa [Actor.loadEntry, Actor.next, apply_stage] using hk.stage
    · simpa [Actor.loadEntry, Actor.next, apply_stageAttempt] using hk.stageAttempt
    · simp [Actor.loadEntry, Actor.next, apply_isComplete]
    · simpa [Actor.loadEntry, Actor.next, apply_clients, clientsAfter] using hc
  unfold reportStarted
  by_cases h1 : progress.stage ≠ s.stage ∨ s.stageStatus = .entered
  · rw [if_pos h1]
    split_ifs with h2
    · -- The stage that was left open is sealed on the way to the next one.
      refine hsealed _ _ _ (by simpa using h2.2.2) fun a' ht' hst _ hcompl hc' => ?_
      refine chain_opening ht' hc' (Or.inl ⟨?_, Or.inl hcompl⟩) (fun e he => ?_) rfl
      · rw [hst]
        exact lt_of_le_of_ne hle (Ne.symm h2.1)
      · rw [apply_terminated, he]
    · refine chain_opening ht hc ?_ (fun e he => ?_) rfl
      · by_cases hst : progress.stage = s.stage
        · have he : s.stageStatus = .entered := by simpa [hst] using h1
          exact Or.inr ⟨hst.trans hk.stage.symm, hk.stageStatus.trans he⟩
        · have hlt : s.stage < progress.stage := lt_of_le_of_ne hle (Ne.symm hst)
          have hcl : StageClosed s := by
            by_contra hopen
            unfold StageClosed at hopen
            exact h2 ⟨hst, fun he => hopen (Or.inr he), fun hc => hopen (Or.inl hc)⟩
          exact Or.inl ⟨by rwa [hk.stage], hk.stageClosed.mpr hcl⟩
      · rw [apply_terminated, he]
  · rw [if_neg h1]
    split
    · rename_i attempt hatt
      by_cases h3 : client.stage = s.stage ∧ client.stageAttempt = some attempt
      · rw [if_pos h3]
        split_ifs with h4
        · refine chain_opening ht hc ?_ (fun e he => ?_) rfl
          · refine ⟨hk.stage.symm, ?_, attempt, hk.stageAttempt.trans hatt, rfl⟩
            rw [hk.stageState, h4]
          · rw [apply_terminated, he]
        · refine hsealed _ _ _ (by simpa using h4) fun a' ht' hst hat' hcompl hc' => ?_
          refine chain_opening ht' hc' ?_ (fun e he => ?_) rfl
          · exact ⟨hst.symm, hcompl, attempt, hat'.trans hatt, rfl⟩
          · rw [apply_terminated, he]
      · rw [if_neg h3]
        exact chain_step ht hc chain_nil
    · exact chain_step ht hc chain_nil

end Report

lemma chain_update (u : Update) (ht : a.state.terminated = false) :
    Chain config t c a (update a.state u) := by
  unfold update
  cases hu : u.stage with
  | none =>
    rw [← List.append_nil (modeEvents a.state u ++ partyEvents a.state u)]
    exact chain_modeParty ht fun a' _ _ => chain_nil
  | some progress =>
    dsimp only
    split
    · exact chain_nil
    · rename_i client hget
      split_ifs with hlt
      · exact chain_nil
      · have hle : a.state.stage ≤ progress.stage := not_lt.mp hlt
        refine chain_modeParty ht fun a' hk hcl => ?_
        have ht' := hk.terminated.trans ht
        have hc : a'.state.clients.contains u.clientId = true := by
          rw [hcl]
          exact OrdMap.contains_iff.mpr ⟨_, hget⟩
        cases progress.status with
        | completed => exact chain_reportFinished ht' hk hc
        | wiped => exact chain_reportFinished ht' hk hc
        | started => exact chain_reportStarted ht' hk hc hle
        | entered => exact chain_step ht' hc chain_nil

/-! ### Deadlines and processing -/

lemma chain_processing {e : LifecycleEvent} (he : e.isProcessing = true)
    (hp : Permits a.state e) : Chain config t c a [e] :=
  chain_cons.2 ⟨⟨rfl, fun _ => he, hp⟩, chain_nil⟩

lemma chain_deadlineFired (fired : Deadline) :
    Chain config t c a (deadlineFired a.state config fired) := by
  unfold deadlineFired
  split_ifs with h
  · exact chain_nil
  · rcases nextDeadline_cases (not_not.mp h) with hl | hp
    · obtain ⟨ht, ⟨hk, since, hs⟩ | ⟨hk, since, hs⟩ | ⟨hk, hcl⟩ | hk⟩ :=
        lifecycleDeadline_cases hl
      · rw [hk]
        refine chain_step ht ?_ chain_nil
        simp [Permits, hs, StageState.isComplete]
      · simp only [hk, hs]
        exact chain_terminate_all ht
      · rw [hk]
        exact chain_terminate ht Keeps.rfl hcl
      · rw [hk]
        exact chain_terminate_all ht
    · obtain ⟨run, hrun, ⟨hk, hr⟩ | ⟨hk, hr⟩⟩ := processingDeadline_cases hp
      · simp only [hk, hrun]
        exact chain_processing rfl ⟨run, hrun, rfl, hr⟩
      · simp only [hk, hrun]
        exact chain_processing rfl ⟨run, hrun, rfl, hr⟩

lemma chain_processed (report : Processed) :
    Chain config t c a (processed a.state report) := by
  unfold processed
  split
  · exact chain_nil
  · rename_i run hrun
    split_ifs with h
    · exact chain_nil
    · simp only [not_or, not_not] at h
      cases report.result with
      | ok payload => exact chain_processing rfl ⟨run, hrun, h.1, h.2.2⟩
      | error error => exact chain_processing rfl ⟨run, hrun, h.1, h.2.2⟩

/-- **Every batch follows the grammar of the journal.** -/
theorem batch_follows (config : LifecycleConfig) (a : Actor) (i : Input) :
    (machine config).Licensed Follows a ((machine config).decide a i) := by
  show Chain config i.time i.cause a (decide a.state config i.cmd)
  unfold decide
  split_ifs with ht
  · cases i.cmd with
    | processed report => exact chain_processed report
    | deadlineFired d => exact chain_deadlineFired d
    | _ => exact chain_nil
  · have ht : a.state.terminated = false := by simpa using ht
    cases i.cmd with
    | create cmd => exact chain_create cmd ht
    | join cmd => exact chain_join cmd ht
    | update u => exact chain_update u ht
    | finish cmd => exact chain_finish cmd ht
    | clientStatus cmd => exact chain_clientStatus cmd ht
    | clientMovedOn cmd => exact chain_clientMovedOn cmd ht
    | processed report => exact chain_processed report
    | deadlineFired d => exact chain_deadlineFired d

/-- What a run journals, it journals entry by entry in states that permit it. -/
theorem journal_follows (config : LifecycleConfig) (a : Actor) (is : List Input) :
    (machine config).Licensed Follows a ((machine config).journal a is) :=
  (machine config).licensed_journal (fun s i _ => batch_follows config s i)
    ((machine config).meets_of_forall (fun _ _ => trivial) a is)

end Blert.Lifecycle

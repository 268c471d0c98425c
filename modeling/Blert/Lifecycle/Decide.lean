import Blert.Lifecycle.Deadline

/-!
Challenge command handling: the decision half of command processing, which turns a command
into the journal events the challenge takes in response.
-/

namespace Blert.Lifecycle

def create (state : ChallengeState) (c : Create) : List LifecycleEvent :=
  if state.challengeType ≠ .unknownChallenge then []
  else
    [.challengeCreated state.uuid c.sessionUuid c.challengeType c.mode c.party c.stage,
     .clientJoined c.clientId c.userId c.sessionToken c.recordingType]

def join (state : ChallengeState) (j : Join) : List LifecycleEvent :=
  -- A replacement connection can join before its predecessor's death is detected.
  if state.clients.contains j.clientId then [.clientRejoined j.clientId j.sessionToken]
  else [.clientJoined j.clientId j.userId j.sessionToken j.recordingType]

/-! ### Updates -/

def membersChanged (new old : List String) : Bool :=
  new.length != old.length || new.any (fun member => !old.contains member)

def modeEvents (state : ChallengeState) (update : Update) : List LifecycleEvent :=
  match update.mode with
  | some mode => if mode ≠ .noMode ∧ mode ≠ state.mode then [.modeChanged mode] else []
  | none => []

def partyEvents (state : ChallengeState) (update : Update) : List LifecycleEvent :=
  match update.party with
  | some party =>
    if party ≠ [] ∧ ¬ state.partyChanged ∧ membersChanged party state.party then
      [.partyChanged party]
    else []
  | none => []

/-- The order on attempts, an untracked one coming before every number. -/
def attemptLe : Option ℕ → Option ℕ → Bool
  | none, _ => true
  | some _, none => false
  | some a, some b => a ≤ b

/-- Whether a client's progress puts it past the challenge's current stage attempt. -/
def finished (state : ChallengeState) (stage : Stage) (status : StageStatus)
    (attempt : Option ℕ) : Bool :=
  state.stage < stage || (status.isFinished && attemptLe state.stageAttempt attempt)

/-- Whether every client has finished the current stage, the reporting one by its report. -/
def allFinished (state : ChallengeState) (clientId : ClientId) (client : ClientState)
    (progress : StageProgress) : Bool :=
  state.clients.entries.all fun (id, c) =>
    if id = clientId then finished state progress.stage progress.status client.stageAttempt
    else finished state c.stage c.stageStatus c.stageAttempt

/-- A report that a stage was completed or wiped seals it once every client has finished. -/
def reportFinished (state : ChallengeState) (clientId : ClientId) (client : ClientState)
    (progress : StageProgress) : List LifecycleEvent :=
  .clientStageReported clientId client.stageAttempt progress ::
    if allFinished state clientId client progress ∧ ¬ state.stageState.isComplete then
      [.stageSealed progress.stage client.stageAttempt false]
    else []

/-- A report that a stage was started: the start of the next stage, of another attempt at the
current one, or a client catching up. -/
def reportStarted (state : ChallengeState) (clientId : ClientId) (client : ClientState)
    (progress : StageProgress) : List LifecycleEvent :=
  if progress.stage ≠ state.stage ∨ state.stageStatus = .entered then
    (if progress.stage ≠ state.stage ∧ state.stageStatus ≠ .entered ∧
        ¬ state.stageState.isComplete then
      [.stageSealed state.stage state.stageAttempt true]
    else []) ++
    [.stageStarted progress.stage,
     .clientStageReported clientId progress.stage.firstAttempt progress]
  else
    match state.stageAttempt with
    | some attempt =>
      -- The first client to restart the stage's current attempt begins a new one.
      if client.stage = state.stage ∧ client.stageAttempt = some attempt then
        (if ¬ state.stageState.isComplete then [.stageSealed state.stage (some attempt) true]
        else []) ++
        [.stageAttemptStarted state.stage (attempt + 1),
         .clientStageReported clientId (some (attempt + 1)) progress]
      else [.clientStageReported clientId state.stageAttempt progress]
    | none => [.clientStageReported clientId state.stageAttempt progress]

def update (state : ChallengeState) (update : Update) : List LifecycleEvent :=
  let events := modeEvents state update ++ partyEvents state update
  match update.stage with
  | none => events
  | some progress =>
    match state.clients.get update.clientId with
    | none => []
    | some client =>
      -- Reports arriving after the stage has already ended are ignored.
      if progress.stage < state.stage then []
      else
        events ++ match progress.status with
          | .completed | .wiped => reportFinished state update.clientId client progress
          | .started => reportStarted state update.clientId client progress
          | .entered => [.clientStageReported update.clientId client.stageAttempt progress]

/-! ### Clients -/

def clientStatus (state : ChallengeState) (change : ClientStatusChange) :
    List LifecycleEvent :=
  match state.clients.get change.clientId with
  | none => []
  | some client =>
    -- The connection may no longer own the client's state.
    if client.sessionToken ≠ change.sessionToken then []
    else
      match change.status with
      | .active => if client.active then [] else [.clientActivated change.clientId]
      | .idle => if client.active then [.clientIdled change.clientId] else []
      | .disconnected => [.clientRemoved change.clientId]

def clientMovedOn (state : ChallengeState) (moved : ClientMovedOn) : List LifecycleEvent :=
  if state.clients.contains moved.clientId then [.clientRemoved moved.clientId] else []

def sealOpenStage (state : ChallengeState) : Option LifecycleEvent :=
  if ¬ state.stageState.isComplete ∧ state.stageStatus ≠ .entered then
    some (.stageSealed state.stage state.stageAttempt true)
  else none

def finish (state : ChallengeState) (finish : Finish) : List LifecycleEvent :=
  match state.clients.get finish.clientId with
  | none => []
  | some client =>
    let definitive :=
      (!finish.soft && client.recordingType == .participant) || finish.times.isSome
    let finished := LifecycleEvent.clientFinished finish.clientId definitive finish.soft
      finish.times
    if state.clients.size > 1 then
      -- Wait for other clients to report their finishes.
      (if definitive ∧ state.phase = .active then [.challengeFinishing] else []) ++ [finished]
    else
      finished :: ((sealOpenStage state).toList ++ [.challengeTerminated])

/-! ### Deadlines and processing -/

/-- A branch that the source marks as unreachable. -/
def unreachable : List LifecycleEvent := []

/-- Cuts off the clients that are left and ends the challenge. -/
def terminate (state : ChallengeState) : List LifecycleEvent :=
  state.clients.keys.map .clientRemoved ++
    ((sealOpenStage state).toList ++ [.challengeTerminated])

def deadlineFired (state : ChallengeState) (config : LifecycleConfig) (fired : Deadline) :
    List LifecycleEvent :=
  -- The deadline may have been implicitly superseded or canceled.
  if nextDeadline state config ≠ some fired then []
  else
    match fired.kind with
    | .stageEnd => [.stageSealed state.stage state.stageAttempt true]
    | .challengeEnd =>
      match state.phase with
      | .finishing _ => terminate state
      | _ => unreachable
    | .cleanupDisconnect => (sealOpenStage state).toList ++ [.challengeTerminated]
    | .cleanupAllIdle => terminate state
    | .processingDue =>
      match state.processing.active with
      | some run => [.processingStarted run.trigger.seq]
      | none => unreachable
    | .processingTimeout =>
      match state.processing.active with
      | some run => [.processingTimedOut run.trigger.seq]
      | none => unreachable

def processed (state : ChallengeState) (report : Processed) : List LifecycleEvent :=
  match state.processing.active with
  | none => []
  | some run =>
    -- A report is only valid while its own attempt is still running.
    if run.trigger.seq ≠ report.trigger ∨ run.attempts ≠ report.attempt ∨
        ¬ run.state.isRunning then []
    else
      match report.result with
      | .ok payload => [.processingFinished report.trigger payload]
      | .error error => [.processingFailed report.trigger error]

def decide (state : ChallengeState) (config : LifecycleConfig) (cmd : Command) :
    List LifecycleEvent :=
  if state.terminated then
    -- Only processing continues after termination.
    match cmd with
    | .processed report => processed state report
    | .deadlineFired d => deadlineFired state config d
    | _ => []
  else
    match cmd with
    | .create c => create state c
    | .join j => join state j
    | .update u => update state u
    | .finish f => finish state f
    | .clientStatus c => clientStatus state c
    | .clientMovedOn m => clientMovedOn state m
    | .deadlineFired d => deadlineFired state config d
    | .processed p => processed state p

/-- A deadline that is due is answered with at least one event, so it never fires in vain;
in particular no branch marked as unreachable is taken. -/
lemma deadlineFired_ne_nil {state : ChallengeState} {config : LifecycleConfig} {d : Deadline}
    (h : nextDeadline state config = some d) : deadlineFired state config d ≠ [] := by
  unfold deadlineFired
  rw [if_neg (by simp [h])]
  rcases nextDeadline_cases h with hl | hp
  · obtain ⟨-, ⟨hk, -⟩ | ⟨hk, since, hp⟩ | ⟨hk, -⟩ | hk⟩ := lifecycleDeadline_cases hl
    · simp [hk]
    · simp [hk, hp, terminate]
    · simp [hk]
    · simp [hk, terminate]
  · obtain ⟨run, hr, ⟨hk, -⟩ | ⟨hk, -⟩⟩ := processingDeadline_cases hp
    · simp [hk, hr]
    · simp [hk, hr]

end Blert.Lifecycle

import Blert.Lifecycle.Decide

/-!
Journal event handling: the application half of command processing, which builds challenge
state from journal entries.
-/

namespace Blert.Lifecycle

/-- How many of a challenge's clients are there: some active one, only idle ones, or none. -/
inductive Dormancy
  | active | idle | empty
  deriving DecidableEq

def Dormancy.of (state : ChallengeState) : Dormancy :=
  if state.clients.isEmpty then .empty
  else if state.clients.values.all (fun client => !client.active) then .idle
  else .active

def stageReported (state : ChallengeState) (time : Timestamp) (clientId : ClientId)
    (attempt : Option ℕ) (update : StageProgress) : ChallengeState :=
  let finished := update.status.isFinished
  let clients := state.clients.modify clientId fun client =>
    { client with
      stage := update.stage
      stageStatus := update.status
      stageAttempt := attempt
      active := true
      lastCompleted := if finished then some { stage := update.stage, attempt }
        else client.lastCompleted }
  if finished ∧ attempt = state.stageAttempt ∧ state.stageState = .inProgress then
    { state with clients, stageStatus := update.status, stageState := .ending time }
  else { state with clients }

/-- Processes each client the first time it joins. -/
def recordClient (state : ChallengeState) (entry : JournalEntry) (clientId : ClientId)
    (userId : UserId) (recordingType : RecordingType) : ChallengeState :=
  if clientId ∈ state.recordedBy then state
  else
    { state with recordedBy := insert clientId state.recordedBy }.push
      (.recorder entry.seq userId recordingType) state.challengeInfo entry.time

/-- Whether the active run processes the challenge's current stage attempt. -/
def processesCurrent (state : ChallengeState) : Bool :=
  match state.processing.active.map ProcessingRun.trigger with
  | some (.stage _ stage attempt) => stage = state.stage ∧ attempt = state.stageAttempt
  | _ => false

/-- Feeds the result of processing a stage back into the challenge. The status is updated
unless the challenge has moved on. -/
def stageProcessed (state : ChallengeState) : ProcessingPayload → ChallengeState
  | .stage status ticks =>
    { state with
      challengeTicks := state.challengeTicks + ticks
      stageStatus := if processesCurrent state then status else state.stageStatus }
  | .none => state

/-- What an event does to the state, before the bookkeeping that follows every entry. -/
def applyEvent (state : ChallengeState) (entry : JournalEntry) : ChallengeState :=
  match entry.event with
  | .challengeCreated uuid sessionUuid challengeType mode party stage =>
    let state :=
      { state with
        uuid, sessionUuid, challengeType, mode, party, stage
        createdUnixMs := match entry.causedBy with
          | .command id => MsgId.unixMillis id
          | _ => state.createdUnixMs
        stageAttempt := none
        stageStatus := .entered
        stageState := .inProgress }
    state.push (.create entry.seq) state.challengeInfo entry.time
  | .clientJoined clientId userId sessionToken recordingType =>
    let state := recordClient state entry clientId userId recordingType
    { state with
      clients := state.clients.insert clientId
        { userId, sessionToken, recordingType, active := true, stage := state.stage,
          stageStatus := .entered, stageAttempt := state.stageAttempt, lastCompleted := none } }
  | .clientRejoined clientId sessionToken =>
    { state with
      clients := state.clients.modify clientId fun client =>
        { client with
          sessionToken
          active := true
          stage := state.stage
          stageStatus := .entered
          stageAttempt := state.stageAttempt } }
  | .clientStageReported clientId attempt update =>
    stageReported state entry.time clientId attempt update
  | .stageStarted stage =>
    -- Only actual stage changes are processed, not entered to started.
    let stageChanged := stage ≠ state.stage
    let state :=
      { state with
        stage, stageAttempt := stage.firstAttempt, stageStatus := .started
        stageState := .inProgress }
    if stageChanged then
      state.push (.stageStart entry.seq stage) state.challengeInfo entry.time
    else state
  | .stageAttemptStarted _ attempt =>
    { state with
      stageAttempt := some attempt, stageStatus := .started, stageState := .inProgress }
  | .stageSealed stage attempt _ =>
    let state := { state with stageState := .complete entry.time }
    let info := { state.challengeInfo with stage, stageAttempt := attempt }
    state.push (.stage entry.seq stage attempt) info entry.time
  | .challengeFinishing => { state with phase := .finishing entry.time }
  | .clientFinished clientId _ _ times =>
    { state with
      clients := state.clients.erase clientId
      reportedTimes := state.reportedTimes.or times
      -- Each finish extends the grace period for remaining clients.
      phase := match state.phase with
        | .finishing _ => .finishing entry.time
        | phase => phase }
  | .clientActivated clientId =>
    { state with
      clients := state.clients.modify clientId fun client => { client with active := true } }
  | .clientIdled clientId =>
    { state with
      clients := state.clients.modify clientId fun client => { client with active := false } }
  | .clientRemoved clientId => { state with clients := state.clients.erase clientId }
  | .challengeTerminated =>
    -- A real time is preferred, falling back to the time since challenge start.
    let finishedUnixMs := match entry.causedBy with
      | .command id => MsgId.unixMillis id
      | .deadline _ | .processing _ => saturatingAdd state.createdUnixMs entry.time
    { state with phase := .terminated finishedUnixMs entry.causedBy }
  | .modeChanged mode =>
    let state := { state with mode }
    state.push (.mode entry.seq mode) state.challengeInfo entry.time
  | .partyChanged _ => { state with partyChanged := true }
  | .processingStarted trigger =>
    { state with processing := state.processing.start trigger entry.time }
  | .processingFinished _ payload =>
    let state := stageProcessed state payload
    { state with
      processing := state.processing.finish state.challengeType entry.time (.ok payload) }
  | .processingFailed _ error =>
    { state with
      processing := state.processing.finish state.challengeType entry.time (.error error) }
  | .processingTimedOut _ =>
    let timedOut : ProcessingError := { message := "timed out", retriable := true }
    { state with
      processing := state.processing.finish state.challengeType entry.time (.error timedOut) }

/-- A terminated challenge's finish processes once the rest of its pipeline settles, so that
the finished state stores the final outcome. -/
def queueFinish (state : ChallengeState) (entry : JournalEntry) : ChallengeState :=
  if state.terminated ∧ state.processing.settled ∧ ¬ state.processing.finishQueued then
    state.push (.finish entry.seq) state.challengeInfo entry.time
  else state

/-- Checks whether the challenge's clients have gone inactive. -/
def trackDormancy (before : Dormancy) (state : ChallengeState) (entry : JournalEntry) :
    ChallengeState :=
  let after := Dormancy.of state
  if after = .active then { state with dormantSince := none }
  else if after ≠ before then { state with dormantSince := some entry.time }
  else state

/-- The cursor follows the commands that journal something. -/
def moveCursor (state : ChallengeState) (entry : JournalEntry) : ChallengeState :=
  { state with
    cursor := match entry.causedBy with
      | .command id => id
      | _ => state.cursor }

def apply (state : ChallengeState) (entry : JournalEntry) : ChallengeState :=
  let state := moveCursor state entry
  trackDormancy (Dormancy.of state) (queueFinish (applyEvent state entry) entry) entry

/-! ### What an entry does to each part of the state -/

section Fields

variable (s : ChallengeState) (e : JournalEntry)

lemma apply_eq : ∃ p d, apply s e =
    { applyEvent (moveCursor s e) e with processing := p, dormantSince := d } := by
  unfold apply trackDormancy queueFinish ChallengeState.push
  dsimp only
  split_ifs <;> exact ⟨_, _, rfl⟩

lemma apply_cursor : (apply s e).cursor = (moveCursor s e).cursor := by
  obtain ⟨p, d, h⟩ := apply_eq s e
  rw [h]
  generalize moveCursor s e = s'
  unfold applyEvent
  cases e.event with
  | processingFinished t p => cases p <;> rfl
  | _ => simp [ChallengeState.push, recordClient, stageReported, apply_ite ChallengeState.cursor]

lemma apply_challengeType : (apply s e).challengeType =
    match e.event with
    | .challengeCreated _ _ challengeType _ _ _ => challengeType
    | _ => s.challengeType := by
  obtain ⟨p, d, h⟩ := apply_eq s e
  rw [h]
  unfold applyEvent moveCursor
  cases e.event with
  | processingFinished t p => cases p <;> rfl
  | _ => simp [ChallengeState.push, recordClient, stageReported,
      apply_ite ChallengeState.challengeType]

lemma apply_mode : (apply s e).mode =
    match e.event with
    | .challengeCreated _ _ _ mode _ _ | .modeChanged mode => mode
    | _ => s.mode := by
  obtain ⟨p, d, h⟩ := apply_eq s e
  rw [h]
  unfold applyEvent moveCursor
  cases e.event with
  | processingFinished t p => cases p <;> rfl
  | _ => simp [ChallengeState.push, recordClient, stageReported, apply_ite ChallengeState.mode]

lemma apply_party : (apply s e).party =
    match e.event with
    | .challengeCreated _ _ _ _ party _ => party
    | _ => s.party := by
  obtain ⟨p, d, h⟩ := apply_eq s e
  rw [h]
  unfold applyEvent moveCursor
  cases e.event with
  | processingFinished t p => cases p <;> rfl
  | _ => simp [ChallengeState.push, recordClient, stageReported, apply_ite ChallengeState.party]

lemma apply_partyChanged : (apply s e).partyChanged =
    match e.event with
    | .partyChanged _ => true
    | _ => s.partyChanged := by
  obtain ⟨p, d, h⟩ := apply_eq s e
  rw [h]
  unfold applyEvent moveCursor
  cases e.event with
  | processingFinished t p => cases p <;> rfl
  | _ => simp [ChallengeState.push, recordClient, stageReported,
      apply_ite ChallengeState.partyChanged]

lemma apply_phase : (apply s e).phase.phase =
    match e.event with
    | .challengeFinishing => .finishing
    | .challengeTerminated => .terminated
    | _ => s.phase.phase := by
  obtain ⟨p, d, h⟩ := apply_eq s e
  rw [h]
  unfold applyEvent moveCursor
  cases e.event with
  | processingFinished t p => cases p <;> rfl
  | clientFinished _ _ _ _ => cases h : s.phase <;> simp [PhaseState.phase]
  | _ => simp [ChallengeState.push, recordClient, stageReported, apply_ite ChallengeState.phase,
      PhaseState.phase]

lemma apply_stage : (apply s e).stage =
    match e.event with
    | .challengeCreated _ _ _ _ _ stage | .stageStarted stage => stage
    | _ => s.stage := by
  obtain ⟨p, d, h⟩ := apply_eq s e
  rw [h]
  unfold applyEvent moveCursor
  cases e.event with
  | processingFinished t p => cases p <;> rfl
  | _ => simp [ChallengeState.push, recordClient, stageReported, apply_ite ChallengeState.stage]

lemma apply_stageAttempt : (apply s e).stageAttempt =
    match e.event with
    | .challengeCreated _ _ _ _ _ _ => none
    | .stageStarted stage => stage.firstAttempt
    | .stageAttemptStarted _ attempt => some attempt
    | _ => s.stageAttempt := by
  obtain ⟨p, d, h⟩ := apply_eq s e
  rw [h]
  unfold applyEvent moveCursor
  cases e.event with
  | processingFinished t p => cases p <;> rfl
  | _ => simp [ChallengeState.push, recordClient, stageReported,
      apply_ite ChallengeState.stageAttempt]

def endsStage (s : ChallengeState) (attempt : Option ℕ) (update : StageProgress) : Bool :=
  update.status.isFinished ∧ attempt = s.stageAttempt ∧ s.stageState = .inProgress

lemma apply_stageState : (apply s e).stageState =
    match e.event with
    | .challengeCreated _ _ _ _ _ _ | .stageStarted _ | .stageAttemptStarted _ _ => .inProgress
    | .stageSealed _ _ _ => .complete e.time
    | .clientStageReported _ attempt update =>
      if endsStage s attempt update then .ending e.time else s.stageState
    | _ => s.stageState := by
  obtain ⟨p, d, h⟩ := apply_eq s e
  rw [h]
  unfold applyEvent moveCursor
  cases e.event with
  | processingFinished t p => cases p <;> rfl
  | _ => simp [ChallengeState.push, recordClient, stageReported, endsStage,
      apply_ite ChallengeState.stageState]

lemma apply_stageStatus : (apply s e).stageStatus =
    match e.event with
    | .challengeCreated _ _ _ _ _ _ => .entered
    | .stageStarted _ | .stageAttemptStarted _ _ => .started
    | .clientStageReported _ attempt update =>
      if endsStage s attempt update then update.status else s.stageStatus
    | .processingFinished _ (.stage status _) =>
      if processesCurrent s then status else s.stageStatus
    | _ => s.stageStatus := by
  obtain ⟨p, d, h⟩ := apply_eq s e
  rw [h]
  unfold applyEvent moveCursor
  cases e.event with
  | processingFinished t p => cases p <;> simp [stageProcessed, processesCurrent]
  | _ => simp [ChallengeState.push, recordClient, stageReported, endsStage,
      apply_ite ChallengeState.stageStatus]

lemma apply_recordedBy : (apply s e).recordedBy =
    match e.event with
    | .clientJoined clientId _ _ _ => insert clientId s.recordedBy
    | _ => s.recordedBy := by
  obtain ⟨p, d, h⟩ := apply_eq s e
  rw [h]
  unfold applyEvent moveCursor
  cases e.event with
  | processingFinished t p => cases p <;> rfl
  | clientJoined clientId _ _ _ =>
    by_cases hm : clientId ∈ s.recordedBy <;> simp [recordClient, ChallengeState.push, hm]
  | _ => simp [ChallengeState.push, stageReported, apply_ite ChallengeState.recordedBy]

def clientsAfter (s : ChallengeState) (e : LifecycleEvent) : OrdMap ClientId ClientState :=
  match e with
  | .clientJoined clientId userId sessionToken recordingType =>
    s.clients.insert clientId
      { userId, sessionToken, recordingType, active := true, stage := s.stage,
        stageStatus := .entered, stageAttempt := s.stageAttempt, lastCompleted := none }
  | .clientRejoined clientId sessionToken =>
    s.clients.modify clientId fun client =>
      { client with
        sessionToken, active := true, stage := s.stage, stageStatus := .entered
        stageAttempt := s.stageAttempt }
  | .clientStageReported clientId attempt update =>
    s.clients.modify clientId fun client =>
      { client with
        stage := update.stage, stageStatus := update.status, stageAttempt := attempt
        active := true
        lastCompleted := if update.status.isFinished then some { stage := update.stage, attempt }
          else client.lastCompleted }
  | .clientActivated clientId =>
    s.clients.modify clientId fun client => { client with active := true }
  | .clientIdled clientId =>
    s.clients.modify clientId fun client => { client with active := false }
  | .clientFinished clientId _ _ _ | .clientRemoved clientId => s.clients.erase clientId
  | _ => s.clients

lemma apply_clients : (apply s e).clients = clientsAfter s e.event := by
  obtain ⟨p, d, h⟩ := apply_eq s e
  rw [h]
  unfold applyEvent moveCursor clientsAfter
  cases e.event with
  | processingFinished t p => cases p <;> rfl
  | clientJoined clientId _ _ _ =>
    by_cases hm : clientId ∈ s.recordedBy <;> simp [recordClient, ChallengeState.push, hm]
  | _ => simp [ChallengeState.push, stageReported, apply_ite ChallengeState.clients]

end Fields

end Blert.Lifecycle

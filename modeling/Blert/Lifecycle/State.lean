import Mathlib.Data.Finset.Insert
import Blert.OrdMap
import Blert.Lifecycle.Command

/-!
Derived state of an active challenge.

Everything here is a function of the journal: the challenge's position, its clients, and the
pipeline that processes its data, a queue of triggers of which one is active at a time.
-/

namespace Blert.Lifecycle

/-- Progress of the challenge's current stage attempt. -/
inductive StageState
  | inProgress
  | ending (since : Timestamp)
  | complete (since : Timestamp)
  deriving DecidableEq

/-- The stage's event streams are finalized. -/
def StageState.isComplete : StageState → Bool
  | .complete _ => true
  | _ => false

inductive PhaseState
  | active
  | finishing (since : Timestamp)
  | terminated (finishedUnixMs : ℕ) (cause : Cause)
  deriving DecidableEq

/-- A challenge's lifecycle phase as published for external readers. -/
inductive ChallengePhase
  | active | finishing | terminated
  deriving DecidableEq

def PhaseState.phase : PhaseState → ChallengePhase
  | .active => .active
  | .finishing _ => .finishing
  | .terminated _ _ => .terminated

/-! ### The processing pipeline -/

/-- Options for a challenge's data processing pipeline. Zero attempts disable it. -/
structure ProcessingConfig where
  maxAttempts : ℕ
  runTimeout : Duration
  retryBackoff : Duration
  finishMaxAttempts : ℕ
  finishRetryBackoff : Duration

/-- A journal entry which starts a processing run. -/
inductive Trigger
  | create (seq : JournalSeq)
  | recorder (seq : JournalSeq) (userId : UserId) (recordingType : RecordingType)
  | stageStart (seq : JournalSeq) (stage : Stage)
  | mode (seq : JournalSeq) (mode : ChallengeMode)
  | stage (seq : JournalSeq) (stage : Stage) (attempt : Option ℕ)
  | finish (seq : JournalSeq)

/-- Journal position of the triggering entry. -/
def Trigger.seq : Trigger → JournalSeq
  | .create s | .recorder s _ _ | .stageStart s _ | .mode s _ | .stage s _ _ | .finish s => s

def Trigger.isFinish : Trigger → Bool
  | .finish _ => true
  | _ => false

def ProcessingConfig.attemptsFor (config : ProcessingConfig) : Trigger → ℕ
  | .finish _ => config.finishMaxAttempts
  | _ => config.maxAttempts

/-- Failure retry delay for a trigger's runs. -/
def ProcessingConfig.backoffFor (config : ProcessingConfig) : Trigger → Duration
  | .finish _ => config.finishRetryBackoff
  | _ => config.retryBackoff

inductive ProcessingState
  | idle (since : Timestamp)
  | running (since : Timestamp)

def ProcessingState.isRunning : ProcessingState → Bool
  | .running _ => true
  | .idle _ => false

@[simp] lemma ProcessingState.isRunning_running (t : Timestamp) :
    (ProcessingState.running t).isRunning = true := rfl
@[simp] lemma ProcessingState.isRunning_idle (t : Timestamp) :
    (ProcessingState.idle t).isRunning = false := rfl

structure QueuedTrigger where
  trigger : Trigger
  info : ChallengeInfo

structure ProcessingRun where
  trigger : Trigger
  info : ChallengeInfo
  attempts : ℕ
  retriable : Bool
  state : ProcessingState

def ProcessingRun.new (queued : QueuedTrigger) (time : Timestamp) : ProcessingRun :=
  { trigger := queued.trigger, info := queued.info, attempts := 0, retriable := true,
    state := .idle time }

def ProcessingRun.exhausted (run : ProcessingRun) (config : ProcessingConfig) : Bool :=
  !run.retriable || run.attempts ≥ config.attemptsFor run.trigger

/-- State of a challenge's data processing pipeline. -/
structure Processing where
  config : ProcessingConfig
  active : Option ProcessingRun
  pending : List QueuedTrigger
  completed : List Trigger
  finishQueued : Bool
  status : Option ChallengeStatus

def statusIfFinishedNow (challengeType : ChallengeType) (stage : Stage)
    (stageStatus : StageStatus) : ChallengeStatus :=
  let lastStage := challengeType.lastStage
  -- If we didn't see the actual conclusion of the challenge, abandon it.
  if stageStatus = .started then .abandoned
  else if lastStage.any (fun last => stage > last) then .completed
  else match stageStatus with
    | .started => .abandoned
    | .entered => .reset
    | .wiped => .wiped
    | .completed => if lastStage.any (fun last => stage = last) then .completed else .reset

namespace Processing

def new (config : ProcessingConfig) : Processing :=
  { config, active := none, pending := [], completed := [], finishQueued := false, status := none }

/-- Records a new trigger, starting its run if free. -/
def push (p : Processing) (trigger : Trigger) (info : ChallengeInfo) (time : Timestamp) :
    Processing :=
  if p.config.maxAttempts = 0 then p
  else
    let finishQueued := if trigger.isFinish then true else p.finishQueued
    let queued : QueuedTrigger := { trigger, info }
    match p.active with
    | none => { p with finishQueued, active := some (.new queued time) }
    | some _ => { p with finishQueued, pending := p.pending ++ [queued] }

def start (p : Processing) (seq : JournalSeq) (time : Timestamp) : Processing :=
  match p.active with
  | some run =>
    if run.trigger.seq = seq then
      { p with active := some { run with attempts := run.attempts + 1, state := .running time } }
    else p
  | none => p

/-- Completes the active run, starting the next pending one. -/
def advance (p : Processing) (run : ProcessingRun) (time : Timestamp) : Processing :=
  { p with
    completed := p.completed ++ [run.trigger]
    active := p.pending.head?.map (.new · time)
    pending := p.pending.tail }

/-- Consumes the result of an attempt of the active run. A successful outcome or an
exhausted run completes it; a failed run with attempts remaining is marked for retry. -/
def finish (p : Processing) (challengeType : ChallengeType) (time : Timestamp)
    (result : Except ProcessingError ProcessingPayload) : Processing :=
  match p.active with
  | none => p
  | some run =>
    match result with
    | .ok (.stage status _) =>
      let p := match run.trigger with
        | .stage _ stage _ =>
          { p with status := some (statusIfFinishedNow challengeType stage status) }
        | _ => p
      p.advance run time
    | .ok .none =>
      -- Stage processing always invalidates a previous status.
      let p := match run.trigger with
        | .stage _ _ _ => { p with status := none }
        | _ => p
      p.advance run time
    | .error error =>
      let run := { run with retriable := run.retriable && error.retriable }
      if run.exhausted p.config then p.advance run time
      else { p with active := some { run with state := .idle time } }

/-- Whether the pipeline has no further work. -/
def settled (p : Processing) : Bool := p.active.isNone && p.pending.isEmpty

/-- Triggers whose runs are in progress or queued. -/
def outstanding (p : Processing) : List Trigger :=
  p.active.toList.map (·.trigger) ++ p.pending.map (·.trigger)

end Processing

/-! ### The challenge -/

/-- A client's latest completed stage and attempt. -/
structure LastCompleted where
  stage : Stage
  attempt : Option ℕ

structure ClientState where
  userId : UserId
  sessionToken : SessionToken
  recordingType : RecordingType
  active : Bool
  stage : Stage
  stageStatus : StageStatus
  stageAttempt : Option ℕ
  lastCompleted : Option LastCompleted

structure ChallengeState where
  uuid : Uuid
  sessionUuid : Uuid
  createdUnixMs : ℕ
  challengeType : ChallengeType
  mode : ChallengeMode
  party : List String
  partyChanged : Bool
  phase : PhaseState
  reportedTimes : Option ReportedTimes
  stage : Stage
  stageAttempt : Option ℕ
  stageStatus : StageStatus
  stageState : StageState
  clients : OrdMap ClientId ClientState
  challengeTicks : ℕ
  recordedBy : Finset ClientId
  dormantSince : Option Timestamp
  processing : Processing
  cursor : MsgId

namespace ChallengeState

def initial (uuid : Uuid) (config : ProcessingConfig) : ChallengeState :=
  { uuid, sessionUuid := 0, createdUnixMs := 0, challengeType := .unknownChallenge,
    mode := .noMode, party := [], partyChanged := false, phase := .active,
    reportedTimes := none, stage := Stage.unknownStage, stageAttempt := none,
    stageStatus := .entered, stageState := .inProgress, clients := ∅, challengeTicks := 0,
    recordedBy := ∅, dormantSince := none, processing := .new config, cursor := MsgId.zero }

def terminated (s : ChallengeState) : Bool :=
  match s.phase with
  | .terminated _ _ => true
  | _ => false

lemma terminated_iff {s : ChallengeState} :
    s.terminated = true ↔ s.phase.phase = .terminated := by
  unfold terminated
  cases s.phase <;> simp [PhaseState.phase]

def status (s : ChallengeState) : ChallengeStatus :=
  match s.phase with
  | .active | .finishing _ => .inProgress
  | .terminated _ _ =>
    s.processing.status.getD (statusIfFinishedNow s.challengeType s.stage s.stageStatus)

def challengeInfo (s : ChallengeState) : ChallengeInfo :=
  { uuid := s.uuid, sessionUuid := s.sessionUuid, challengeType := s.challengeType,
    mode := s.mode, party := s.party, partyChanged := s.partyChanged, stage := s.stage,
    stageAttempt := s.stageAttempt, status := s.status, createdUnixMs := s.createdUnixMs,
    finishedUnixMs := match s.phase with
      | .terminated finishedUnixMs _ => some finishedUnixMs
      | _ => none,
    reportedTimes := s.reportedTimes }

/-- Queues a trigger on the challenge's pipeline. -/
def push (s : ChallengeState) (trigger : Trigger) (info : ChallengeInfo) (time : Timestamp) :
    ChallengeState :=
  { s with processing := s.processing.push trigger info time }

end ChallengeState

/-! ### Publication -/

/-- A client's state as published for external readers. -/
structure PublishedClient where
  userId : UserId
  clientId : ClientId
  recordingType : RecordingType
  active : Bool
  stage : Stage
  stageAttempt : Option ℕ
  stageStatus : StageStatus
  lastCompleted : LastCompleted

def PublishedClient.of (clientId : ClientId) (client : ClientState) : PublishedClient :=
  { userId := client.userId, clientId, recordingType := client.recordingType,
    active := client.active, stage := client.stage, stageAttempt := client.stageAttempt,
    stageStatus := client.stageStatus,
    lastCompleted := client.lastCompleted.getD { stage := Stage.unknownStage, attempt := none } }

/-- State published by a challenge for outside readers. -/
structure Snapshot where
  uuid : Uuid
  challengeType : ChallengeType
  mode : ChallengeMode
  stage : Stage
  stageAttempt : Option ℕ
  party : List String
  phase : ChallengePhase
  status : ChallengeStatus
  cursor : MsgId
  deriving DecidableEq

def Snapshot.of (s : ChallengeState) (cursor : MsgId) : Snapshot :=
  { uuid := s.uuid, challengeType := s.challengeType, mode := s.mode, stage := s.stage,
    stageAttempt := s.stageAttempt, party := s.party, phase := s.phase.phase,
    status := s.status, cursor }

end Blert.Lifecycle

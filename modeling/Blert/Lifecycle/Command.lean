import Blert.Lifecycle.Types

/-!
The commands a challenge handles and the journal events it answers them with.
-/

namespace Blert.Lifecycle

structure StageProgress where
  stage : Stage
  status : StageStatus
  deriving DecidableEq

inductive ClientStatus
  | active | idle | disconnected

/-- Command to start a new challenge, with the request it carries. -/
structure Create where
  sessionUuid : Uuid
  userId : UserId
  clientId : ClientId
  sessionToken : SessionToken
  challengeType : ChallengeType
  mode : ChallengeMode
  party : List String
  stage : Stage
  recordingType : RecordingType

/-- The request of a party of one, which the sample runs start with. -/
def soloRequest : Create :=
  { sessionUuid := 1, userId := 1, clientId := 1, sessionToken := "t", challengeType := .tob,
    mode := .tobRegular, party := ["a"], stage := Stage.tobMaiden, recordingType := .participant }

structure Join where
  userId : UserId
  clientId : ClientId
  sessionToken : SessionToken
  recordingType : RecordingType

/-- The join a start request turns into when its party has a challenge running. -/
def Join.ofCreate (c : Create) : Join :=
  { userId := c.userId, clientId := c.clientId, sessionToken := c.sessionToken,
    recordingType := c.recordingType }

/-- Request to update the state of an active challenge. -/
structure Update where
  userId : UserId
  clientId : ClientId
  sessionToken : SessionToken
  mode : Option ChallengeMode
  stage : Option StageProgress
  party : Option (List String)

structure Finish where
  userId : UserId
  clientId : ClientId
  sessionToken : SessionToken
  times : Option ReportedTimes
  soft : Bool

structure ClientStatusChange where
  userId : UserId
  clientId : ClientId
  sessionToken : SessionToken
  status : ClientStatus

/-- A client started another challenge, leaving this one. -/
structure ClientMovedOn where
  clientId : ClientId

/-- Terminal report from a processing run: the journal position of the entry that triggered
it, the attempt that produced the result, and the result. -/
structure Processed where
  trigger : JournalSeq
  attempt : ℕ
  result : Except ProcessingError ProcessingPayload

inductive Command
  | create (c : Create)
  | join (j : Join)
  | update (u : Update)
  | finish (f : Finish)
  | clientStatus (c : ClientStatusChange)
  | clientMovedOn (m : ClientMovedOn)
  | processed (p : Processed)
  | deadlineFired (d : Deadline)

structure Envelope where
  id : MsgId
  cmd : Command

/-! ### Journal -/

inductive Cause
  | command (id : MsgId)
  | deadline (kind : DeadlineKind)
  | processing (seq : JournalSeq)
  deriving DecidableEq

inductive LifecycleEvent
  | challengeCreated (uuid sessionUuid : Uuid) (challengeType : ChallengeType)
      (mode : ChallengeMode) (party : List String) (stage : Stage)
  | clientJoined (clientId : ClientId) (userId : UserId) (sessionToken : SessionToken)
      (recordingType : RecordingType)
  | clientRejoined (clientId : ClientId) (sessionToken : SessionToken)
  | modeChanged (mode : ChallengeMode)
  | partyChanged (party : List String)
  | clientStageReported (clientId : ClientId) (attempt : Option ℕ) (update : StageProgress)
  | stageStarted (stage : Stage)
  | stageAttemptStarted (stage : Stage) (attempt : ℕ)
  | stageSealed (stage : Stage) (attempt : Option ℕ) (forced : Bool)
  | processingStarted (trigger : JournalSeq)
  | processingFinished (trigger : JournalSeq) (payload : ProcessingPayload)
  | processingFailed (trigger : JournalSeq) (error : ProcessingError)
  | processingTimedOut (trigger : JournalSeq)
  | challengeFinishing
  | clientFinished (clientId : ClientId) (definitive soft : Bool) (times : Option ReportedTimes)
  | clientActivated (clientId : ClientId)
  | clientIdled (clientId : ClientId)
  | clientRemoved (clientId : ClientId)
  | challengeTerminated
  deriving DecidableEq

/-- A journaled event, with its position, its time on the challenge's clock and its cause. -/
structure JournalEntry where
  seq : JournalSeq
  time : Timestamp
  causedBy : Cause
  event : LifecycleEvent
  deriving DecidableEq

end Blert.Lifecycle

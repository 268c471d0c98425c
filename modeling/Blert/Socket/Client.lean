import Blert.Lifecycle.Types
import Blert.OrdMap

/-!
The socket server's connected clients and the messages they exchange.

A client is one connection. A stage is a wire number, since a client may send any, and a challenge
type that is not known is the unknown one. A message's payload may be missing, as its wire format
allows.
-/

namespace Blert.Socket

open Lifecycle (ChallengeMode ChallengeType RecordingType StageStatus)

/-- A connection's place in the server's memory. Two connections of one user are two of them. -/
abbrev ClientRef := ℕ

structure StreamKey where
  uuid : String
  stage : ℕ
  attempt : Option ℕ
  deriving DecidableEq

structure ActiveChallengeInfo where
  uuid : String
  /-- Mapping of stage to attempt number. -/
  stages : OrdMap ℕ (Option ℕ)
  /-- Set of stage streams to which the client has written its metadata. -/
  metadataWritten : List StreamKey

structure Session where
  id : ℕ
  token : String

structure Client where
  userId : ℤ
  /-- The API key, a stable identifier across connections. -/
  keyId : ℤ
  pluginVersion : String
  runeLiteVersion : String
  session : Option Session
  activeChallenge : Option ActiveChallengeInfo
  isOpen : Bool
  loggedInRsn : Option String
  validated : Bool

namespace Client

def getSessionToken (c : Client) : String := (c.session.map Session.token).getD ""

def getActiveChallengeId (c : Client) : Option String :=
  c.activeChallenge.map ActiveChallengeInfo.uuid

def setActiveChallenge (c : Client) (challengeId : String) : Client :=
  { c with
    activeChallenge := some { uuid := challengeId, stages := ∅, metadataWritten := [] } }

def clearActiveChallenge (c : Client) : Client := { c with activeChallenge := none }

def getStageAttempt (c : Client) (stage : ℕ) : Option ℕ :=
  (c.activeChallenge.bind fun a => a.stages.get stage).getD none

/-- Notes the attempt of a stage, unless it is the one that is noted. -/
def setStageAttempt (c : Client) (stage : ℕ) (attempt : Option ℕ) : Client :=
  match c.activeChallenge with
  | none => c
  | some a =>
    if c.getStageAttempt stage = attempt then c
    else { c with activeChallenge := some { a with stages := a.stages.insert stage attempt } }

def hasWrittenMetadata (c : Client) (key : StreamKey) : Bool :=
  (c.activeChallenge.map fun a => decide (key ∈ a.metadataWritten)).getD false

def recordMetadataWritten (c : Client) (key : StreamKey) : Client :=
  match c.activeChallenge with
  | none => c
  | some a =>
    { c with activeChallenge := some { a with metadataWritten := key :: a.metadataWritten } }

@[simp] lemma getActiveChallengeId_setActiveChallenge (c : Client) (challengeId : String) :
    (c.setActiveChallenge challengeId).getActiveChallengeId = some challengeId := rfl
@[simp] lemma getActiveChallengeId_clearActiveChallenge (c : Client) :
    c.clearActiveChallenge.getActiveChallengeId = none := rfl

@[simp] lemma getActiveChallengeId_setStageAttempt (c : Client) (stage : ℕ)
    (attempt : Option ℕ) :
    (c.setStageAttempt stage attempt).getActiveChallengeId = c.getActiveChallengeId := by
  unfold setStageAttempt getActiveChallengeId
  split
  · rfl
  · split_ifs <;> simp_all

@[simp] lemma getActiveChallengeId_recordMetadataWritten (c : Client) (key : StreamKey) :
    (c.recordMetadataWritten key).getActiveChallengeId = c.getActiveChallengeId := by
  unfold recordMetadataWritten getActiveChallengeId
  split <;> simp_all

end Client

/-! ### Messages -/

/-- Times that are not reported are not positive. -/
structure RecordedTimes where
  challenge : ℤ
  overall : ℤ

structure StageUpdate where
  stage : ℕ
  status : StageStatus
  accurate : Bool
  recordedTicks : ℕ
  /-- The count of server ticks, and whether it is precise. -/
  serverTicks : Option (ℕ × Bool)
  deriving DecidableEq

structure ChallengeUpdate where
  mode : ChallengeMode
  stage : Option StageUpdate
  party : List String
  deriving DecidableEq

/-- An event of a stage, of which only what it is filed under is read here. -/
structure Event where
  stage : ℕ
  tick : ℤ
  payload : String
  deriving DecidableEq

inductive GameStateKind
  | loggedIn | loggedOut | unknown
  deriving DecidableEq

/-- A report of whether the player is logged in, with the name if there is player info. -/
structure GameState where
  state : GameStateKind
  username : Option String
  deriving DecidableEq

structure ChallengeStateConfirmation where
  isValid : Bool
  username : String
  spectator : Bool
  deriving DecidableEq

structure ChallengeStartRequest where
  challenge : ChallengeType
  mode : ChallengeMode
  partyList : List String
  stage : ℕ
  spectator : Bool
  deriving DecidableEq

structure ChallengeEndRequest where
  challengeTimeTicks : ℤ
  overallTimeTicks : ℤ
  soft : Bool
  deriving DecidableEq

/-- A message of a client. An active challenge that is not named is the empty string. -/
inductive ServerMessage
  | historyRequest
  | gameState (payload : Option GameState)
  | challengeStateConfirmation (activeChallengeId : String)
      (payload : Option ChallengeStateConfirmation)
  | challengeStartRequest (requestId : ℕ) (payload : Option ChallengeStartRequest)
  | challengeEndRequest (requestId : ℕ) (activeChallengeId : String)
      (payload : Option ChallengeEndRequest)
  | challengeUpdate (activeChallengeId : String) (payload : Option ChallengeUpdate)
  | eventStream (activeChallengeId : String) (events : List Event)
  | unknown
  deriving DecidableEq

/-- What a client is asked to confirm of a challenge. -/
structure ChallengeInfo where
  type : ChallengeType
  mode : ChallengeMode
  stage : ℕ
  party : List String
  deriving DecidableEq

inductive Reply
  | historyResponse
  | challengeStartResponse (requestId : ℕ) (activeChallengeId : Option String)
  | challengeEndResponse (requestId : ℕ)
  | challengeRecordingEnded (activeChallengeId : String)
  | challengeStateConfirmation (activeChallengeId : String) (username : String)
      (challenge : ChallengeInfo)
  | unauthenticated
  | usernameMismatch (username : String)
  deriving DecidableEq

inductive ClientStatus
  | active | idle | disconnected
  deriving DecidableEq

end Blert.Socket

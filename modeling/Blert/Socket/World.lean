import Mathlib.Logic.Function.Basic
import Blert.Socket.Client

/-!
The state of a socket server.

Handlers of messages stop whenever they wait for something, and what they hold then is kept beside
their client. Between two waits nothing else runs, so that such a stretch is one step. The log has
what the server did for which client, with what it knew of the client at that moment.
-/

namespace Blert.Socket

open Lifecycle (ChallengeMode ChallengeType RecordingType)

/-! ### Effects -/

/-- Who makes a request, as the challenge server is told. -/
structure Requester where
  userId : ℤ
  clientId : ℤ
  sessionToken : String
  deriving DecidableEq

structure StartBody where
  requester : Requester
  pluginVersion : String
  runeLiteVersion : String
  challengeType : ChallengeType
  mode : ChallengeMode
  party : List String
  stage : ℕ
  recordingType : RecordingType
  deriving DecidableEq

structure JoinBody where
  requester : Requester
  pluginVersion : String
  runeLiteVersion : String
  recordingType : RecordingType
  deriving DecidableEq

/-- Times that were reported: of the challenge, and overall if that was reported too. -/
structure FinishBody where
  requester : Requester
  times : Option (ℤ × Option ℤ)
  soft : Bool
  deriving DecidableEq

structure UpdateBody where
  requester : Requester
  update : ChallengeUpdate
  deriving DecidableEq

inductive Request
  | start (body : StartBody)
  | join (challengeId : String) (body : JoinBody)
  | update (challengeId : String) (body : UpdateBody)
  | finish (challengeId : String) (body : FinishBody)
  deriving DecidableEq

inductive StreamRecord
  | clientMetadata (clientId userId : ℤ) (pluginVersion runeLiteVersion : String)
  | stageEvents (clientId : ℤ) (events : List Event)
  | stageEnd (clientId : ℤ) (update : StageUpdate)
  deriving DecidableEq

inductive Effect
  | request (request : Request)
  | write (key : StreamKey) (record : StreamRecord)
  | status (status : ClientStatus) (requester : Requester)
  | reply (reply : Reply)
  deriving DecidableEq

/-- What was done for a client, and whether it was validated and in which challenge. -/
structure Deed where
  client : ClientRef
  effect : Effect
  validated : Bool
  activeChallengeId : Option String
  deriving DecidableEq

inductive LogEntry
  | did (deed : Deed)
  /-- The challenge server lets a client start or join a challenge. -/
  | accepted (client : ClientRef) (challengeId : String)
  deriving DecidableEq

/-! ### Suspended handlers -/

/-- Where a challenge is, which has a name that is not empty. -/
structure ChallengeStatusResponse where
  uuid : String
  named : uuid ≠ ""
  mode : ChallengeMode
  stage : ℕ
  stageAttempt : Option ℕ
  deriving DecidableEq

/-- What the handler that leaves a challenge goes on with. -/
inductive AfterCompletion
  | confirmation
  | endRequest (requestId : ℕ)
  deriving DecidableEq

/-- Events of a stage and the attempt they are filed under. -/
structure StageEntry where
  stage : ℕ
  stageEvents : List Event
  attempt : Option ℕ
  deriving DecidableEq

/-- Where a handler waits, with what it needs to go on. -/
inductive Suspended
  | loadingHistory
  -- A request to start a challenge.
  | lookingUpStarter (requestId : ℕ) (request : ChallengeStartRequest)
  | starting (requestId : ℕ) (body : StartBody) (accepted : Option ChallengeStatusResponse)
  -- A confirmation of the challenge state, and a request to end a challenge.
  | joining (challengeId : String) (body : JoinBody) (accepted : Option ChallengeStatusResponse)
  | completing (challengeId : String) (body : FinishBody) (after : AfterCompletion)
  -- An update of a challenge.
  | checkingStageEnd (challengeId : String) (update : ChallengeUpdate) (stage : StageUpdate)
      (attempt : Option ℕ)
  | writingStageEnd (challengeId : String) (update : ChallengeUpdate)
  | updating (challengeId : String) (body : UpdateBody)
  -- A batch of events.
  | checkingChallenge (challengeId : String) (events : List Event)
  | checkingProcessed (challengeId : String) (entries : List StageEntry)
  | writingEvents
  -- A report of the game state.
  | lookingUpPlayer (username : String)
  | validatingIdentity (username storedUsername : String)
  | confirmingChallengeState (rsn : String)
  | updatingStatus (state : GameStateKind)
  deriving DecidableEq

/-! ### The server -/

structure World where
  client : ClientRef → Client
  handler : ClientRef → Option Suspended
  clientsByChallenge : String → Option (List ClientRef)
  allowStartingChallenges : Bool
  log : List LogEntry

namespace World

def updateClient (w : World) (c : ClientRef) (f : Client → Client) : World :=
  { w with client := Function.update w.client c (f (w.client c)) }

@[simp] lemma client_updateClient_self (w : World) (c : ClientRef) (f : Client → Client) :
    (w.updateClient c f).client c = f (w.client c) := Function.update_self _ _ _
lemma client_updateClient_of_ne (w : World) {c d : ClientRef} (h : d ≠ c) (f : Client → Client) :
    (w.updateClient c f).client d = w.client d := Function.update_of_ne h _ _

/-- The handler of a client waits, or is done. -/
def suspend (w : World) (c : ClientRef) (s : Option Suspended) : World :=
  { w with handler := Function.update w.handler c s }

lemma handler_suspend_of_ne (w : World) {c d : ClientRef} (h : d ≠ c) (s : Option Suspended) :
    (w.suspend c s).handler d = w.handler d := Function.update_of_ne h _ _

def emit (w : World) (c : ClientRef) (effect : Effect) : World :=
  { w with
    log := w.log ++ [.did ⟨c, effect, (w.client c).validated, (w.client c).getActiveChallengeId⟩] }

/-- Nothing is sent through a socket that is not open. -/
def sendMessage (w : World) (c : ClientRef) (reply : Reply) : World :=
  if (w.client c).isOpen then w.emit c (.reply reply) else w

def requester (w : World) (c : ClientRef) : Requester :=
  { userId := (w.client c).userId
    clientId := (w.client c).keyId
    sessionToken := (w.client c).getSessionToken }

/-! ### Challenges and their clients -/

def listed (w : World) (challengeId : String) : List ClientRef :=
  (w.clientsByChallenge challengeId).getD []

def addClientToChallenge (w : World) (c : ClientRef) (challengeId : String) : World :=
  { w with
    clientsByChallenge :=
      Function.update w.clientsByChallenge challengeId (some (w.listed challengeId ++ [c])) }

def removeClientFromChallenge (w : World) (c : ClientRef) : World :=
  match (w.client c).getActiveChallengeId with
  | none => w
  | some challengeId =>
    -- An empty id counts as none.
    if challengeId = "" then w
    else
      match w.clientsByChallenge challengeId with
      | none => w
      | some clients =>
        let remaining := if clients.length = 1 then none else some (clients.filter (· ≠ c))
        { w with
          clientsByChallenge := Function.update w.clientsByChallenge challengeId remaining
        }.updateClient c Client.clearActiveChallenge

def endRecording (challengeId : String) (w : World) (c : ClientRef) : World :=
  (w.sendMessage c (.challengeRecordingEnded challengeId)).updateClient c
    Client.clearActiveChallenge

def handleChallengeFinish (w : World) (challengeId : String) : World :=
  match w.clientsByChallenge challengeId with
  | none => w
  | some clients =>
    -- Only remove clients that are still tracking this challenge.
    let activeClients :=
      clients.filter fun c => (w.client c).getActiveChallengeId = some challengeId
    let w := activeClients.foldl (endRecording challengeId) w
    { w with clientsByChallenge := Function.update w.clientsByChallenge challengeId none }

/-- Reports a client's status. One that disconnects is taken off the list of its challenge. -/
def updateClientStatus (w : World) (c : ClientRef) (status : ClientStatus) : World :=
  let requester := w.requester c
  let w := if status = .disconnected then w.removeClientFromChallenge c else w
  w.emit c (.status status requester)

/-- What is done when a socket closes or fails. -/
def closeClient (w : World) (c : ClientRef) : World :=
  if (w.client c).validated || (w.client c).getActiveChallengeId.isSome then
    (w.updateClientStatus c .disconnected).updateClient c fun c => { c with validated := false }
  else w

def cleanup (w : World) (c : ClientRef) : World :=
  let w := w.updateClient c fun c => { c with isOpen := false }
  (w.closeClient c).updateClient c fun c => { c with session := none, activeChallenge := none }

end World

end Blert.Socket

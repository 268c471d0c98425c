import Mathlib.Data.List.Sort
import Blert.Socket.World

/-!
The handlers of a socket server's messages.

`handleMessage` is what runs when a message is taken from its client's queue, up to the first wait,
and `resume` what runs once a wait is over, up to the next. A handler that throws is done, as its
client's message loop only logs that.
-/

namespace Blert.Socket

open Lifecycle (ChallengeMode ChallengeType)

inductive Answer
  | failed
  /-- An operation that yields nothing. -/
  | done
  /-- A response of the challenge server, with the status it carries or without one. -/
  | accepted (status : ChallengeStatusResponse)
  | rejected
  | username (name : Option String)
  | identity (isValid : Bool)
  | currentChallenge (challenge : Option (String × ChallengeInfo))
  /-- Whether a challenge exists, and whether its stage has been processed. -/
  | stageEnd (result : Option (Bool × Bool))
  | challengeExists (challengeExists : Bool)
  | processed (flags : Option (List Bool))
  deriving DecidableEq

namespace World

def finish (w : World) (c : ClientRef) : World := w.suspend c none

/-! ### Requests to the challenge server -/

/-- Sends a request and waits for its response. -/
def request (w : World) (c : ClientRef) (request : Request) (s : Suspended) : World :=
  (w.emit c (.request request)).suspend c (some s)

def startBody (w : World) (c : ClientRef) (r : ChallengeStartRequest) : StartBody :=
  { requester := w.requester c
    pluginVersion := (w.client c).pluginVersion
    runeLiteVersion := (w.client c).runeLiteVersion
    challengeType := r.challenge
    mode := r.mode
    party := r.partyList
    stage := r.stage
    recordingType := if r.spectator then .spectator else .participant }

def startOrJoin (w : World) (c : ClientRef) (requestId : ℕ) (r : ChallengeStartRequest) : World :=
  let body := w.startBody c r
  w.request c (.start body) (.starting requestId body none)

def joinBody (w : World) (c : ClientRef) (spectator : Bool) : JoinBody :=
  { requester := w.requester c
    pluginVersion := (w.client c).pluginVersion
    runeLiteVersion := (w.client c).runeLiteVersion
    recordingType := if spectator then .spectator else .participant }

def addClient (w : World) (c : ClientRef) (challengeId : String) (spectator : Bool) : World :=
  let body := w.joinBody c spectator
  w.request c (.join challengeId body) (.joining challengeId body none)

/-- A client's completion times, of which those that are not positive were not reported. -/
def reportedTimes : Option RecordedTimes → Option (ℤ × Option ℤ)
  | some times =>
    if 0 < times.challenge then
      some (times.challenge, if 0 < times.overall then some times.overall else none)
    else none
  | none => none

def completeChallenge (w : World) (c : ClientRef) (challengeId : String)
    (inGameTimes : Option RecordedTimes) (soft : Bool) (after : AfterCompletion) : World :=
  let body := { requester := w.requester c, times := reportedTimes inGameTimes, soft }
  w.request c (.finish challengeId body) (.completing challengeId body after)

/-- The request of an update, once the end of its stage has been written. -/
def sendUpdate (w : World) (c : ClientRef) (challengeId : String) (update : ChallengeUpdate) :
    World :=
  let body := { requester := w.requester c, update }
  w.request c (.update challengeId body) (.updating challengeId body)

def updateChallenge (w : World) (c : ClientRef) (challengeId : String) (update : ChallengeUpdate) :
    World :=
  match update.stage with
  | some stage =>
    if stage.status.isFinished then
      let attempt := (w.client c).getStageAttempt stage.stage
      w.suspend c (some (.checkingStageEnd challengeId update stage attempt))
    else w.sendUpdate c challengeId update
  | none => w.sendUpdate c challengeId update

/-! ### Messages -/

/-- A request to start a challenge, as far as it goes without looking up the player. -/
def handleChallengeStart (w : World) (c : ClientRef) (requestId : ℕ)
    (request : ChallengeStartRequest) : World :=
  if !w.allowStartingChallenges then
    (w.sendMessage c (.challengeStartResponse requestId none)).finish c
  else w.suspend c (some (.lookingUpStarter requestId request))

def handleChallengeEnd (w : World) (c : ClientRef) (requestId : ℕ) (activeChallengeId : String)
    (request : ChallengeEndRequest) : World :=
  if activeChallengeId = "" then w.finish c
  else
    w.completeChallenge c activeChallengeId
      (some { challenge := request.challengeTimeTicks, overall := request.overallTimeTicks })
      request.soft (.endRequest requestId)

def handleChallengeUpdate (w : World) (c : ClientRef) (challengeId : String)
    (update : ChallengeUpdate) : World :=
  if some challengeId ≠ (w.client c).getActiveChallengeId then w.finish c
  else w.updateChallenge c challengeId update

def handleGameStateUpdate (w : World) (c : ClientRef) (gameState : GameState) : World :=
  match gameState.state with
  | .loggedIn =>
    match gameState.username with
    | some username => w.suspend c (some (.lookingUpPlayer username))
    | none => w.finish c
  | .loggedOut =>
    let w := w.updateClient c fun c => { c with loggedInRsn := none }
    if (w.client c).validated then
      (w.updateClientStatus c .idle).suspend c (some (.updatingStatus .loggedOut))
    else w.finish c
  | .unknown => (w.updateClient c fun c => { c with loggedInRsn := none }).finish c

def handleConfirmation (w : World) (c : ClientRef) (activeChallengeId : String)
    (confirmation : ChallengeStateConfirmation) : World :=
  if confirmation.isValid then
    if (w.client c).getActiveChallengeId ≠ some activeChallengeId then
      w.addClient c activeChallengeId confirmation.spectator
    else w.finish c
  else w.completeChallenge c activeChallengeId none true .confirmation

/-- What runs when a message is taken from the queue, up to the first wait. -/
def handleMessage (w : World) (c : ClientRef) : ServerMessage → World
  | .historyRequest => w.suspend c (some .loadingHistory)
  | .gameState (some gameState) => w.handleGameStateUpdate c gameState
  | .challengeStateConfirmation activeChallengeId (some confirmation) =>
    w.handleConfirmation c activeChallengeId confirmation
  | .challengeStartRequest requestId (some request) =>
    if (w.client c).validated then w.handleChallengeStart c requestId request else w.finish c
  | .challengeEndRequest requestId activeChallengeId (some request) =>
    if (w.client c).validated then w.handleChallengeEnd c requestId activeChallengeId request
    else w.finish c
  | .challengeUpdate activeChallengeId (some update) =>
    if (w.client c).validated then
      if activeChallengeId ≠ "" then w.handleChallengeUpdate c activeChallengeId update
      else w.finish c
    else w.finish c
  | .eventStream activeChallengeId events =>
    if (w.client c).validated then
      if activeChallengeId = "" then w.finish c
      else
        let events := events.insertionSort fun a b => a.tick ≤ b.tick
        w.suspend c (some (.checkingChallenge activeChallengeId events))
    else w.finish c
  -- A payload that is missing makes the handler throw.
  | _ => w.finish c

/-! ### What follows a wait -/

/-- The challenge types that can be started, with the party sizes they take. -/
def maxPartySize (mode : ChallengeMode) : ChallengeType → Option ℕ
  | .tob => if mode = .tobEntry then none else some 5
  | .colosseum | .inferno | .mokhaiotl => some 1
  | .cox | .toa | .unknownChallenge => none

/-- Whether a challenge can be started, by a party of its size. -/
def startable (request : ChallengeStartRequest) : Bool :=
  (maxPartySize request.mode request.challenge).any fun maxSize =>
    1 ≤ request.partyList.length && request.partyList.length ≤ maxSize

/-- A request to start a challenge, once its player is known. -/
def resumeStart (w : World) (c : ClientRef) (requestId : ℕ) (request : ChallengeStartRequest) :
    World :=
  if startable request then w.startOrJoin c requestId request
  else (w.sendMessage c (.challengeStartResponse requestId none)).finish c

/-- Moves a client into the challenge it started or joined. -/
def enterChallenge (w : World) (c : ClientRef) (status : ChallengeStatusResponse) : World :=
  w.updateClient c fun c =>
    (c.setActiveChallenge status.uuid).setStageAttempt status.stage status.stageAttempt

/-- What runs once a client has been let into the challenge it asked to start. -/
def started (w : World) (c : ClientRef) (requestId : ℕ) (status : ChallengeStatusResponse) :
    World :=
  -- Move the client from any previous challenge into the new one.
  let w := (w.removeClientFromChallenge c).addClientToChallenge c status.uuid
  let w := w.enterChallenge c status
  (w.sendMessage c (.challengeStartResponse requestId (some status.uuid))).finish c

/-- What runs once a challenge has been left, whether or not the request succeeded. -/
def completed (w : World) (c : ClientRef) (challengeId : String) (after : AfterCompletion) :
    World :=
  let w := w.removeClientFromChallenge c
  match after with
  | .confirmation => (w.sendMessage c (.challengeRecordingEnded challengeId)).finish c
  | .endRequest requestId => (w.sendMessage c (.challengeEndResponse requestId)).finish c

/-- Writes the end of a stage unless its challenge is gone or the stage has been processed. -/
def resumeStageEnd (w : World) (c : ClientRef) (challengeId : String) (update : ChallengeUpdate)
    (stage : StageUpdate) (attempt : Option ℕ) (result : Option (Bool × Bool)) : World :=
  if result = some (true, false) then
    (w.emit c (.write ⟨challengeId, stage.stage, attempt⟩
      (.stageEnd (w.client c).keyId stage))).suspend c (some (.writingStageEnd challengeId update))
  else w.sendUpdate c challengeId update

/-- The events of each stage, in the order in which the stages first occur. -/
def stageEntries (client : Client) (events : List Event) : List StageEntry :=
  (events.map Event.stage).eraseDups.map fun stage =>
    { stage, stageEvents := events.filter (·.stage = stage)
      attempt := client.getStageAttempt stage }

/-- Writes a stage's events, after the client's metadata if that is not yet there. -/
def writeEntry (w : World) (c : ClientRef) (challengeId : String) (entry : StageEntry) : World :=
  let client := w.client c
  let key := ⟨challengeId, entry.stage, entry.attempt⟩
  let w :=
    if client.hasWrittenMetadata key then w
    else (w.emit c (.write key (.clientMetadata client.keyId client.userId client.pluginVersion
      client.runeLiteVersion))).updateClient c (·.recordMetadataWritten key)
  w.emit c (.write key (.stageEvents client.keyId entry.stageEvents))

def resumeEvents (w : World) (c : ClientRef) (challengeId : String) (entries : List StageEntry)
    (processed : List Bool) : World :=
  let entries := ((entries.zip processed).filter fun e => !e.2).map Prod.fst
  if entries = [] then w.finish c
  else
    (entries.foldl (fun w entry => w.writeEntry c challengeId entry) w).suspend c
      (some .writingEvents)

/-- What runs once the player's identity has been checked. -/
def identified (w : World) (c : ClientRef) (username storedUsername : String) (isValid : Bool) :
    World :=
  let w := w.updateClient c fun c => { c with validated := isValid }
  if isValid then w.suspend c (some (.confirmingChallengeState username.toLower))
  else (w.sendMessage c (.usernameMismatch storedUsername)).finish c

def requestChallengeStateConfirmation (w : World) (c : ClientRef) (rsn : String) :
    Option (String × ChallengeInfo) → World
  | some (challengeId, info) =>
    w.sendMessage c (.challengeStateConfirmation challengeId rsn info)
  | none => w

/-- What runs once the player's challenge has been looked up. -/
def resumeLogin (w : World) (c : ClientRef) (rsn : String)
    (challenge : Option (String × ChallengeInfo)) : World :=
  let w := w.requestChallengeStateConfirmation c rsn challenge
  if (w.client c).validated then
    (w.updateClientStatus c .active).suspend c (some (.updatingStatus .loggedIn))
  else w.finish c

/-- What runs when a wait is over, up to the next one. -/
def resume (w : World) (c : ClientRef) : Suspended → Answer → World
  | .loadingHistory, .done => (w.sendMessage c .historyResponse).finish c
  | .lookingUpStarter _ _, .username none => (w.sendMessage c .unauthenticated).finish c
  | .lookingUpStarter requestId request, .username (some _) => w.resumeStart c requestId request
  | .starting requestId _ _, .accepted status => w.started c requestId status
  | .starting requestId _ _, _ =>
    (w.sendMessage c (.challengeStartResponse requestId none)).finish c
  | .joining _ _ _, .accepted status => (w.enterChallenge c status).finish c
  | .completing challengeId _ after, _ => w.completed c challengeId after
  | .checkingStageEnd challengeId update stage attempt, .stageEnd result =>
    w.resumeStageEnd c challengeId update stage attempt result
  | .writingStageEnd challengeId update, .done => w.sendUpdate c challengeId update
  | .updating _ _, .accepted status =>
    (w.updateClient c (·.setStageAttempt status.stage status.stageAttempt)).finish c
  | .checkingChallenge challengeId events, .challengeExists true =>
    w.suspend c (some (.checkingProcessed challengeId (stageEntries (w.client c) events)))
  | .checkingProcessed challengeId entries, .processed (some flags) =>
    w.resumeEvents c challengeId entries flags
  | .lookingUpPlayer _, .username none => (w.sendMessage c .unauthenticated).finish c
  | .lookingUpPlayer username, .username (some storedUsername) =>
    (w.updateClient c fun c => { c with loggedInRsn := some username.toLower }).suspend c
      (some (.validatingIdentity username storedUsername))
  | .validatingIdentity username storedUsername, .identity isValid =>
    w.identified c username storedUsername isValid
  | .confirmingChallengeState rsn, .currentChallenge challenge => w.resumeLogin c rsn challenge
  | .updatingStatus .loggedOut, _ =>
    (w.updateClient c fun c => { c with validated := false }).finish c
  | _, _ => w.finish c

end World

end Blert.Socket

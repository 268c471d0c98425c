import Blert.Live.Messages

/-!
The reader of a live challenge.

It polls the stage stream, buffers the events of one recording client by tick, and sends them to
its subscribers some ticks later. What it puts into its subscribers' channels is kept by
subscriber, and what it asks of the backfill manager in order.
-/

namespace Blert.Live

open Lifecycle (StageStatus)

/-- Broadcast cursor trails poll cursor by this many ticks. -/
def jitterDepth : ℕ := 2

/-- If the buffer exceeds jitter depth by this many ticks, trigger lag recovery. -/
def lagThreshold : ℕ := 3

/-- Number of broadcast ticks without new events before considering a client silent. -/
def silenceThreshold : ℕ := 5

inductive ReaderState
  | backfilling (primary : Option ℕ)
  | active
  | stalled (reason : StalledReason) (since : ℕ)
  | completed
  deriving DecidableEq

inductive StageState
  | inactive | active | ending
  deriving DecidableEq

def StageState.isOpen (s : StageState) : Bool := s ≠ .inactive

structure TickEntry where
  tick : ℕ
  data : Bytes
  deriving DecidableEq

/-- Per-client tracking state maintained by a reader. -/
structure ClientState where
  active : Bool
  eventCount : ℕ
  lastActiveTick : ℕ

def ClientState.unknown : ClientState := ⟨false, 0, 0⟩

def ClientState.begin (tick : ℕ) (s : ClientState) : ClientState :=
  { s with eventCount := 0, lastActiveTick := if s.active then tick else s.lastActiveTick }

structure ReplayChunk where
  startTick : ℕ
  tickCount : ℕ
  data : Bytes
  deriving DecidableEq

namespace ReplayChunk

def maxSizeBytes : ℕ := 96 * 1024

def endTick (c : ReplayChunk) : ℕ := c.startTick + c.tickCount - 1

end ReplayChunk

/-- What a reader logs about its stages and backfills. -/
inductive Trace
  | stageStarted
  | requestingBackfill (id : ℕ)
  | backfillApplied

/-- Manages the state for a single live challenge being watched. -/
structure ChallengeReader where
  uuid : String
  challengeType : ℤ
  challengeMode : ℤ
  stage : ℤ
  stageAttempt : Option ℕ
  stageState : StageState
  pollCursor : StreamId
  tickBuffer : List TickEntry
  broadcastCursor : ℕ
  highWaterTick : ℕ
  primaryClientId : Option ℕ
  clientStates : OrdMap ℕ ClientState
  generation : ℕ
  state : ReaderState
  subscribers : OrdMap SubscriberId Subscriber
  party : List String
  backfillTx : List BackfillRequest
  backfillId : ℕ
  replayChunks : List ReplayChunk
  channel : SubscriberId → List SseMessage
  trace : List Trace

/-- The element with the greatest key, and the last of them. -/
def maxByKey {α : Type} (key : α → ℕ) : List α → Option α
  | [] => none
  | x :: xs => some (xs.foldl (fun best y => if key best ≤ key y then y else best) x)

/-- Changes what is known of a client, also if it is not known yet. -/
def updateClient (clientStates : OrdMap ℕ ClientState) (id : ℕ) (f : ClientState → ClientState) :
    OrdMap ℕ ClientState :=
  clientStates.insert id (f ((clientStates.get id).getD .unknown))

namespace ChallengeReader

variable {ε : Type}

/-! ### Subscribers -/

/-- Puts messages into the channels of some of the subscribers. -/
def sendWhere (p : Subscriber → Bool) (msgs : List SseMessage) (r : ChallengeReader) :
    ChallengeReader :=
  { r with
    channel := fun id =>
      match r.subscribers.get id with
      | some subscriber => if p subscriber then r.channel id ++ msgs else r.channel id
      | none => r.channel id }

def sendToAll (msg : SseMessage) (r : ChallengeReader) : ChallengeReader :=
  r.sendWhere (fun _ => true) [msg]

def dataBetween (tickBuffer : List TickEntry) (first last : ℕ) : Bytes :=
  ((tickBuffer.drop first).take (last - first)).flatMap (·.data)

/-- The cached chunks that end before the live cursor, and the tick after them. -/
def cursorSafeChunks (cursor : ℕ) : List ReplayChunk → ℕ → List ReplayChunk × ℕ
  | [], tailStart => ([], tailStart)
  | chunk :: chunks, tailStart =>
    if chunk.endTick + 1 > cursor then ([], tailStart)
    else
      let (safe, tail) := cursorSafeChunks cursor chunks (chunk.endTick + 1)
      (chunk :: safe, tail)

def buildReplayMessages (reason : ResetReason) (r : ChallengeReader) : List SseMessage :=
  let (safe, tailStart) := cursorSafeChunks r.broadcastCursor r.replayChunks 0
  let tail :=
    if tailStart < r.broadcastCursor then
      [.replayChunk r.generation tailStart (r.broadcastCursor - tailStart)
        (dataBetween r.tickBuffer tailStart r.broadcastCursor)]
    else []
  .reset reason r.stage r.stageAttempt r.stageState.isOpen r.generation ::
    safe.map (fun chunk =>
      .replayChunk r.generation chunk.startTick chunk.tickCount chunk.data) ++ tail ++
    [.replayEnd r.generation
      (if r.broadcastCursor = 0 then none
        else (r.tickBuffer[r.broadcastCursor - 1]?).map (·.tick))]

/-- Adds a subscriber to this reader and sends it initial metadata. -/
def addSubscriber (subscriber : Subscriber) (r : ChallengeReader) : ChallengeReader :=
  let metadata := SseMessage.metadata r.challengeType r.challengeMode r.stage r.stageAttempt
    r.stageState.isOpen r.party
  let replay :=
    if subscriber.requestedStage = some r.stage ∧ r.tickBuffer ≠ [] then
      r.buildReplayMessages .reconnect
    else []
  let send (msgs : List SseMessage) : SubscriberId → List SseMessage :=
    Function.update r.channel subscriber.id (r.channel subscriber.id ++ msgs)
  match r.state with
  | .active =>
    { r with
      channel := send (metadata :: replay)
      subscribers := r.subscribers.insert subscriber.id { subscriber with state := .live } }
  | .stalled reason _ =>
    { r with
      channel := send (metadata :: replay ++ [.stalled reason])
      subscribers := r.subscribers.insert subscriber.id { subscriber with state := .live } }
  | .backfilling _ =>
    { r with
      channel := send [metadata]
      subscribers := r.subscribers.insert subscriber.id subscriber }
  | .completed => { r with channel := send [metadata, .complete] }

def removeSubscriber (id : SubscriberId) (r : ChallengeReader) : ChallengeReader :=
  { r with subscribers := r.subscribers.erase id }

def clearSubscribers (r : ChallengeReader) : ChallengeReader := { r with subscribers := ∅ }

/-- Notifies all subscribers that the server is shutting down, then drops them. -/
def notifyShutdown (retryWindowSecs : ℕ) (r : ChallengeReader) : ChallengeReader :=
  (r.sendToAll (.shutdown retryWindowSecs)).clearSubscribers

/-! ### Stages -/

def finishStage (r : ChallengeReader) : ChallengeReader :=
  ({ r with stageState := .inactive }).sendToAll (.stageEnd r.stage r.stageAttempt)

def finishOpenStage (r : ChallengeReader) : ChallengeReader :=
  if r.stageState.isOpen then r.finishStage else r

def finishChallenge (r : ChallengeReader) : ChallengeReader :=
  if r.state = .completed then r
  else
    (({ r.finishOpenStage with state := .completed }).sendToAll .complete).clearSubscribers

def beginStage (tick : ℕ) (stage : ℤ) (attempt : Option ℕ) (r : ChallengeReader) :
    ChallengeReader :=
  let r := r.finishOpenStage
  ({ r with
    stage := stage
    stageAttempt := attempt
    stageState := .active
    tickBuffer := []
    broadcastCursor := 0
    highWaterTick := 0
    pollCursor := streamStartCursor
    state := .active
    replayChunks := []
    clientStates := r.clientStates.mapValues fun _ s => s.begin tick
    trace := r.trace ++ [Trace.stageStarted] }).sendToAll (.stageChange stage attempt)

def stall (reason : StalledReason) (since : ℕ) (r : ChallengeReader) : ChallengeReader :=
  match r.state with
  | .stalled _ _ => r
  | _ => ({ r with primaryClientId := none, state := .stalled reason since }).sendToAll
      (.stalled reason)

def clientCompletedStage (client : ChallengeClient) (r : ChallengeReader) : Bool :=
  let lc := client.lastCompleted
  if r.stage < lc.stage then true
  else if lc.stage < r.stage then false
  else
    match r.stageAttempt with
    | none => true
    | some n => lc.attempt.any (n ≤ ·)

/-! ### Replay chunks -/

/-- Chunks built so far, the first tick that is in none, and the size of the data from there. -/
structure Chunking where
  chunks : List ReplayChunk
  startTick : ℕ
  sizeBytes : ℕ

/-- Ends a chunk before a tick whose data would make it too large. -/
def Chunking.add (tickBuffer : List TickEntry) (s : Chunking) (entry : TickEntry) : Chunking :=
  if 0 < s.sizeBytes ∧ ReplayChunk.maxSizeBytes < s.sizeBytes + entry.data.length then
    ⟨s.chunks ++ [⟨s.startTick, entry.tick - s.startTick,
      dataBetween tickBuffer s.startTick entry.tick⟩], entry.tick, entry.data.length⟩
  else { s with sizeBytes := s.sizeBytes + entry.data.length }

/-- The tick from which chunks have to be built if one has changed. -/
def rebuildFrom (replayChunks : List ReplayChunk) (fromTick : ℕ) : ℕ :=
  match replayChunks.find? (fun c => c.startTick ≤ fromTick ∧ fromTick ≤ c.endTick) with
  | some chunk => chunk.startTick
  | none => (replayChunks.getLast?.map (·.endTick + 1)).getD 0

def buildReplayChunks (fromTick : ℕ) (r : ChallengeReader) : ChallengeReader :=
  if r.tickBuffer = [] then { r with replayChunks := [] }
  else
    let startTick := rebuildFrom r.replayChunks fromTick
    let kept := r.replayChunks.filter (·.endTick < startTick)
    { r with
      replayChunks := ((r.tickBuffer.drop startTick).foldl (Chunking.add r.tickBuffer)
        ⟨kept, startTick, 0⟩).chunks }

/-! ### Stream entries -/

def addEvent (fmt : EventFormat ε) (byTick : OrdMap ℕ (List ε)) (event : ε) :
    OrdMap ℕ (List ε) :=
  byTick.insert (fmt.tick event) ((byTick.get (fmt.tick event)).getD [] ++ [event])

/-- A client's events by tick. What cannot be decoded is left out. -/
def eventsByTick (fmt : EventFormat ε) (entries : List StageStreamEntry) (clientId : ℕ) :
    OrdMap ℕ (List ε) :=
  (entries.filter (·.clientId = clientId)).foldl (fun byTick entry =>
    match fmt.decode entry.events with
    | some events => events.foldl (addEvent fmt) byTick
    | none => byTick) ∅

/-- The buffer while events are added to it. -/
structure Ingestion where
  tickBuffer : List TickEntry
  highWaterTick : ℕ
  dirtyFrom : Option ℕ

def ingestTick (fmt : EventFormat ε) (s : Ingestion) (tick : ℕ) (events : List ε) : Ingestion :=
  match s.tickBuffer[tick]? with
  | some existing =>
    -- If the tick is already in the buffer, merge into it.
    let merged := (fmt.decode existing.data).getD [] ++ events
    { s with
      tickBuffer := s.tickBuffer.set tick { existing with data := fmt.encode merged }
      dirtyFrom := some ((s.dirtyFrom.map (min · tick)).getD tick) }
  | none =>
    -- Insert empty entries for any missing ticks to maintain contiguity.
    let expectedNext := s.tickBuffer.length
    let gap := (List.range' expectedNext (tick - expectedNext)).map fun gapTick =>
      (⟨gapTick, []⟩ : TickEntry)
    { tickBuffer := s.tickBuffer ++ gap ++ [⟨tick, fmt.encode events⟩]
      highWaterTick := tick
      dirtyFrom := s.dirtyFrom.or (some tick) }

/-- Decodes a specific client's events from stream entries and appends them to the tick buffer,
grouped by game tick, and gives the first tick that has changed. -/
def ingestEntries (fmt : EventFormat ε) (entries : List StageStreamEntry) (clientId : ℕ)
    (r : ChallengeReader) : ChallengeReader × Option ℕ :=
  let s := (eventsByTick fmt entries clientId).entries.foldl
    (fun s e => ingestTick fmt s e.1 e.2) ⟨r.tickBuffer, r.highWaterTick, none⟩
  ({ r with tickBuffer := s.tickBuffer, highWaterTick := s.highWaterTick }, s.dirtyFrom)

def ingestAndRebuild (fmt : EventFormat ε) (entries : List StageStreamEntry) (clientId : ℕ)
    (r : ChallengeReader) : ChallengeReader :=
  match r.ingestEntries fmt entries clientId with
  | (r, some rebuildFrom) => r.buildReplayChunks rebuildFrom
  | (r, none) => r

def processStreamEntries (fmt : EventFormat ε) (entries : List StageStreamEntry) (tick : ℕ)
    (r : ChallengeReader) : ChallengeReader :=
  match entries.getLast? with
  | none => r
  | some last =>
    let r := { r with
      pollCursor := last.id
      clientStates := entries.foldl (fun states (entry : StageStreamEntry) =>
        updateClient states entry.clientId fun s =>
          { s with eventCount := s.eventCount + 1, lastActiveTick := tick })
        r.clientStates }
    match r.primaryClientId with
    | some primary => r.ingestAndRebuild fmt entries primary
    | none => r

/-! ### The primary client -/

variable (walk : Walk ℕ ClientState)

/-- Selects a new primary client that has sent events since a tick, other than the excluded
one. -/
def selectPrimaryClient (activeSince : ℕ) (exclude : Option ℕ) (r : ChallengeReader) :
    Option ℕ :=
  (maxByKey (·.2.eventCount) ((walk.walk r.clientStates).filter fun (id, s) =>
    exclude ≠ some id ∧ s.active ∧ activeSince ≤ s.lastActiveTick)).map (·.1)

/-- Sends a backfill request for the current stage. -/
def requestBackfill (primary : Option ℕ) (r : ChallengeReader) : ChallengeReader :=
  { r with
    state := .backfilling primary
    backfillId := r.backfillId + 1
    backfillTx := r.backfillTx ++ [⟨r.uuid, r.backfillId + 1, r.stage, r.stageAttempt⟩]
    trace := r.trace ++ [Trace.requestingBackfill (r.backfillId + 1)] }

def switchToPrimary (newPrimary : ℕ) (r : ChallengeReader) : ChallengeReader :=
  ({ r with
    primaryClientId := some newPrimary
    generation := r.generation + 1
    tickBuffer := []
    broadcastCursor := 0
    highWaterTick := 0
    replayChunks := [] }).requestBackfill (some newPrimary)

/-- Whether the primary is known, active and not silent. -/
def isHealthy (primaryId tick : ℕ) (r : ChallengeReader) : Bool :=
  (r.clientStates.get primaryId).any fun ps =>
    ps.active && decide (tick - ps.lastActiveTick < silenceThreshold)

def candidateActiveSince (primaryId tick : ℕ) (r : ChallengeReader) : ℕ :=
  if (r.clientStates.get primaryId).any (·.active) then tick - silenceThreshold + 1 else 0

/-- Whether a client other than the primary is active and not silent. -/
def hasOtherClients (primaryId tick : ℕ) (r : ChallengeReader) : Bool :=
  r.clientStates.entries.any fun (id, s) =>
    decide (id ≠ primaryId) && s.active && decide (tick - s.lastActiveTick < silenceThreshold)

/-- Checks if the primary client should be switched and initiates a backfill from the new primary
if so. -/
def checkPrimarySwitch (primaryId tick : ℕ) (r : ChallengeReader) : ChallengeReader :=
  if r.isHealthy primaryId tick then r
  else if !r.hasOtherClients primaryId tick then
    -- Primary is gone and there is no one to switch to.
    r.stall .allSilent tick
  else
    match r.selectPrimaryClient walk (r.candidateActiveSince primaryId tick) (some primaryId) with
    | none => r.stall .allInactive tick
    | some newPrimary => r.switchToPrimary newPrimary

/-- Evaluates the primary client after stream entries have been processed. -/
def updatePrimary (tick : ℕ) (r : ChallengeReader) : ChallengeReader :=
  match r.state with
  | .stalled reason _ =>
    let activeSince := if reason = .allSilent then tick - silenceThreshold + 1 else 0
    match r.selectPrimaryClient walk activeSince none with
    | some primaryId => ({ r with state := .active }).switchToPrimary primaryId
    | none => r
  | _ =>
    match r.primaryClientId with
    | some primaryId => r.checkPrimarySwitch walk primaryId tick
    | none => { r with primaryClientId := r.selectPrimaryClient walk 0 none }

/-! ### Polls -/

/-- Syncs active status into the client states from the latest poll data. -/
def syncClients (clients : OrdMap ℕ ChallengeClient) (r : ChallengeReader) : ChallengeReader :=
  let known := clients.entries.foldl (fun states (id, client) =>
    updateClient states id fun s => { s with active := client.active }) r.clientStates
  { r with
    clientStates := known.mapValues fun id s =>
      if clients.contains id then s else { s with active := false } }

/-- What clients that are connected say about the stage once it is open. -/
def assessClients (clients : OrdMap ℕ ChallengeClient) (tick : ℕ) (r : ChallengeReader) :
    ChallengeReader :=
  if clients.isEmpty then r.stall .noClients tick
  else if clients.values.all (r.clientCompletedStage ·) then { r with stageState := .ending }
  else if !clients.values.any (·.active) then r.stall .allInactive tick
  else r

def processClients (clients : OrdMap ℕ ChallengeClient) (tick : ℕ) (r : ChallengeReader) :
    ChallengeReader :=
  let r := r.syncClients clients
  if r.stageState.isOpen then r.assessClients clients tick
  else if clients.values.any (fun c => c.stage = r.stage ∧ c.stageStatus = .started) then
    (r.beginStage tick r.stage r.stageAttempt).assessClients clients tick
  else r

/-- Returns the Redis queries needed to poll for new data. -/
def pollQueries (r : ChallengeReader) : List RedisQuery :=
  match r.state with
  | .backfilling _ | .completed => []
  | _ =>
    [.challengeState r.uuid, .challengeClients r.uuid] ++
      if r.stageState.isOpen then
        [.stageStream r.uuid r.stage r.stageAttempt r.pollCursor]
      else []

/-- Applies a response. The entries of the stream are kept for later. -/
def applyResponse (tick : ℕ) (s : ChallengeReader × Option (List StageStreamEntry)) :
    RedisResponse → ChallengeReader × Option (List StageStreamEntry)
  | .challengeState (some state) =>
    if state.stage ≠ s.1.stage ∨ state.stageAttempt ≠ s.1.stageAttempt then
      (s.1.beginStage tick state.stage state.stageAttempt, s.2)
    else s
  | .challengeState none => (s.1.finishChallenge, s.2)
  | .challengeClients clients => (s.1.processClients clients tick, s.2)
  | .stageStream entries => (s.1, some entries)

/-- Whether stream entries that were polled are still of use. -/
def receives (r : ChallengeReader) : Bool :=
  match r.state with
  | .active | .stalled .allSilent _ => true
  | _ => false

/-- What the responses leave in the reader, before its primary is evaluated. -/
def processResponses (fmt : EventFormat ε) (responses : List RedisResponse) (tick : ℕ)
    (r : ChallengeReader) : ChallengeReader :=
  let (s, streamEntries) := responses.foldl (applyResponse tick) (r, none)
  match streamEntries with
  | some entries =>
    if s.receives ∧ s.stage = r.stage ∧ s.stageAttempt = r.stageAttempt then
      s.processStreamEntries fmt entries tick
    else s
  | none => s

/-- Processes the Redis responses corresponding to this reader's queries. -/
def applyPollResponses (fmt : EventFormat ε) (responses : List RedisResponse) (tick : ℕ)
    (r : ChallengeReader) : ChallengeReader :=
  if r.state = .completed then r
  else (r.processResponses fmt responses tick).updatePrimary walk tick

/-- Handles a challenge update from the pubsub channel. -/
def applyChallengeUpdate (update : ChallengeServerUpdate) (r : ChallengeReader) :
    ChallengeReader :=
  match update with
  | .stageEnd stage attempt =>
    if r.stageState = .active ∧ stage = r.stage ∧ attempt = r.stageAttempt then
      { r with stageState := .ending }
    else r
  | .finish => r.finishChallenge

/-! ### Broadcasts -/

/-- How many of the available ticks are sent at once. -/
def ticksToSend (available : ℕ) (r : ChallengeReader) : ℕ :=
  if r.stageState ≠ .ending ∧ jitterDepth + lagThreshold < available then available - jitterDepth
  else 1

/-- How many ticks have to be available for one to be sent. Ticks are held back unless the stage
is ending. -/
def minBuffer (r : ChallengeReader) : ℕ := if r.stageState = .ending then 1 else jitterDepth + 1

/-- Sends ticks to the live subscribers of the stage. -/
def sendTicks (first : TickEntry) (count : ℕ) (r : ChallengeReader) : ChallengeReader :=
  ({ r with broadcastCursor := r.broadcastCursor + count }).sendWhere
    (fun subscriber => subscriber.state = SubscriberState.live ∧
      subscriber.requestedStage = some r.stage)
    [.tick r.generation first.tick count
      (dataBetween r.tickBuffer r.broadcastCursor (r.broadcastCursor + count))]

/-- Finalizes an ending stage once the buffer is fully drained. -/
def finishDrained (r : ChallengeReader) : ChallengeReader :=
  if r.stageState = .ending ∧ r.tickBuffer.length ≤ r.broadcastCursor then r.finishStage else r

def broadcast (r : ChallengeReader) : ChallengeReader :=
  let available := r.tickBuffer.length - r.broadcastCursor
  if available < r.minBuffer then
    -- If ending with an empty buffer, finalize immediately.
    if r.stageState = .ending ∧ available = 0 then r.finishStage else r
  else
    match r.tickBuffer[r.broadcastCursor]? with
    | none => r
    | some first => (r.sendTicks first (r.ticksToSend available)).finishDrained

/-! ### Backfills -/

def countEntries (entries : List StageStreamEntry) (r : ChallengeReader) : ChallengeReader :=
  { r with
    clientStates := entries.foldl (fun states entry => updateClient states entry.clientId
      fun s => { s with eventCount := s.eventCount + 1 }) r.clientStates }

/-- Starts the silence tracking of the primary. -/
def trackPrimary (mostRecentTick : ℕ) (r : ChallengeReader) : ChallengeReader :=
  { r with
    clientStates := match r.primaryClientId with
      | some id => r.clientStates.modify id fun s => { s with lastActiveTick := mostRecentTick }
      | none => r.clientStates }

def logApplied (r : ChallengeReader) : ChallengeReader :=
  { r with trace := r.trace ++ [Trace.backfillApplied] }

/-- Replays to all subscribers viewing this stage, and makes every subscriber live. -/
def replayToSubscribers (reason : ResetReason) (r : ChallengeReader) : ChallengeReader :=
  let replay := r.buildReplayMessages reason
  let r := r.sendWhere (fun subscriber => subscriber.requestedStage = some r.stage) replay
  { r with
    subscribers := r.subscribers.mapValues fun _ s => { s with state := SubscriberState.live } }

def choosePrimary (preSelected : Option ℕ) (r : ChallengeReader) : ChallengeReader :=
  { r with primaryClientId := preSelected.or (r.selectPrimaryClient walk 0 none) }

/-- The client whose data is used. Without a primary, pick whatever is best out of the available
streams without committing to any new primary. -/
def backfillSource (r : ChallengeReader) : Option ℕ :=
  r.primaryClientId.or ((maxByKey (·.2.eventCount) (walk.walk r.clientStates)).map (·.1))

/-- Ingests a client's entries, if there is a client. -/
def ingestSource (fmt : EventFormat ε) (entries : List StageStreamEntry) (source : Option ℕ)
    (r : ChallengeReader) : ChallengeReader :=
  match source with
  | some source => r.ingestAndRebuild fmt entries source
  | none => r

/-- What the backfill's result leaves in the reader, before it is replayed. -/
def adoptBackfill (fmt : EventFormat ε) (preSelected : Option ℕ) (result : BackfillResult)
    (r : ChallengeReader) : ChallengeReader :=
  let r := (r.countEntries result.entries).choosePrimary walk preSelected
  let r := r.ingestSource fmt result.entries (r.backfillSource walk)
  { r with
    broadcastCursor := r.tickBuffer.length - jitterDepth
    pollCursor := result.lastStreamId
    state := .active }

def applyBackfill (fmt : EventFormat ε) (result : BackfillResult) (mostRecentTick : ℕ)
    (r : ChallengeReader) : ChallengeReader :=
  match r.state with
  | .backfilling preSelected =>
    if result.backfillId = r.backfillId then
      ((r.adoptBackfill walk fmt preSelected result).trackPrimary mostRecentTick).logApplied
        |>.replayToSubscribers (if preSelected.isSome then .primaryChange else .reconnect)
    else r
  | _ => r

/-! ### New readers -/

/-- The challenge type, if it is one of the declared ones. -/
def knownChallengeType (challengeType : ℤ) : ℤ :=
  if 0 ≤ challengeType ∧ challengeType ≤ 6 then challengeType else 0

def new (uuid : String) (state : ChallengeState) (clients : OrdMap ℕ ChallengeClient) :
    ChallengeReader :=
  let stageActive := clients.values.any fun c =>
    c.stage = state.stage ∧ c.stageStatus = .started
  let reader : ChallengeReader :=
    { uuid := uuid
      challengeType := knownChallengeType state.challengeType
      challengeMode := state.mode
      stage := state.stage
      stageAttempt := state.stageAttempt
      stageState := if stageActive then .active else .inactive
      pollCursor := streamStartCursor
      tickBuffer := []
      broadcastCursor := 0
      highWaterTick := 0
      primaryClientId := none
      clientStates := clients.entries.foldl (fun states (id, c) =>
        states.insert id ⟨c.active, 0, 0⟩) ∅
      generation := 0
      state := .backfilling none
      subscribers := ∅
      party := state.party
      backfillTx := []
      backfillId := 0
      replayChunks := []
      channel := fun _ => []
      trace := [] }
  reader.requestBackfill none

end ChallengeReader

end Blert.Live

import Blert.Redis.Scripts

/-!
What the socket servers write to the event streams of stages.

A client's events are appended to the stream of the stage attempt they belong to, and so is the
report that ends a stage. A server first asks the store whether the challenge exists and whether
the stage attempt has been processed, and writes by another transaction.
-/

namespace Blert.Streams

open Blert.Lifecycle Blert.Redis

abbrev StreamKey := Uuid × StageAttempt

/-- An event of a client, as the bytes of its message. -/
structure Event where
  stage : Stage
  bytes : String

structure ServerTicks where
  count : ℕ
  precise : Bool

structure StageUpdate where
  stage : Stage
  status : StageStatus
  accurate : Bool
  recordedTicks : ℕ
  serverTicks : Option ServerTicks

inductive ClientStageStream
  | clientMetadata (clientId : ClientId) (userId : UserId) (pluginVersion runeLiteVersion : String)
  | stageEvents (clientId : ClientId) (events : List Event)
  | stageEnd (clientId : ClientId) (update : StageUpdate)

/-! ### Clients -/

structure ActiveChallenge where
  stages : OrdMap Stage (Option ℕ)
  metadataWritten : Finset StreamKey

/-- What a socket server knows of a connected client. -/
structure Client where
  clientId : ClientId
  userId : UserId
  pluginVersion : String
  runeLiteVersion : String
  activeChallenge : Option ActiveChallenge

namespace Client

def getStageAttempt (c : Client) (stage : Stage) : Option ℕ :=
  (c.activeChallenge.bind fun a => a.stages.get stage).getD none

def hasWrittenMetadata (c : Client) (key : StreamKey) : Bool :=
  (c.activeChallenge.map fun a => decide (key ∈ a.metadataWritten)).getD false

def recordMetadataWritten (c : Client) (key : StreamKey) : Client :=
  { c with
    activeChallenge := c.activeChallenge.map fun a =>
      { a with metadataWritten := insert key a.metadataWritten } }

end Client

/-! ### Batches of events -/

def addEvent (groups : List (Stage × List Event)) (event : Event) : List (Stage × List Event) :=
  if groups.any (·.1 = event.stage) then
    groups.map fun (stage, events) =>
      if stage = event.stage then (stage, events ++ [event]) else (stage, events)
  else groups ++ [(event.stage, [event])]

/-- Events by their stages, in the order in which the stages first occur. -/
def eventsByStage (events : List Event) : List (Stage × List Event) := events.foldl addEvent []

def stageEntries (c : Client) (events : List Event) : List (StageAttempt × List Event) :=
  (eventsByStage events).map fun (stage, events) => ((stage, c.getStageAttempt stage), events)

structure Write where
  attempt : StageAttempt
  records : List ClientStageStream

/-- What a client adds to the streams of stage attempts: before its first events in each, what
is known of it. -/
def eventWrites (uuid : Uuid) (c : Client) :
    List (StageAttempt × List Event) → List Write × Client
  | [] => ([], c)
  | (attempt, events) :: entries =>
    let metadata :=
      if c.hasWrittenMetadata (uuid, attempt) then []
      else [.clientMetadata c.clientId c.userId c.pluginVersion c.runeLiteVersion]
    let write : Write := { attempt, records := metadata ++ [.stageEvents c.clientId events] }
    let (writes, c) := eventWrites uuid
      (if c.hasWrittenMetadata (uuid, attempt) then c
      else c.recordMetadataWritten (uuid, attempt)) entries
    (write :: writes, c)

/-- Appends records to a stream and lists it among those of the challenge. -/
def addToStream (stageStreamToRecord : ClientStageStream → String) (uuid : Uuid) (s : Store)
    (write : Write) : Store :=
  { s with
    events := Function.update s.events uuid
      (Function.update (s.events uuid) write.attempt
        (s.events uuid write.attempt ++ write.records.map stageStreamToRecord))
    streams := Function.update s.streams uuid (insert write.attempt (s.streams uuid)) }

/-! ### Handlers -/

/-- What the handler of a client's message waits for. -/
inductive Handler
  /-- Whether the challenge exists that a batch of events is for. -/
  | checkingChallenge (client : ℕ) (uuid : Uuid) (events : List Event)
  /-- Which stage attempts of a batch have been processed. -/
  | checkingProcessed (client : ℕ) (uuid : Uuid) (entries : List (StageAttempt × List Event))
  /-- Whether the end of a stage is to be written. -/
  | checkingStageEnd (uuid : Uuid) (write : Write)
  /-- That the writes are executed. -/
  | writing (uuid : Uuid) (writes : List Write)

/-- The start of `updateChallenge`: the end of a stage is also written to its stream. -/
def updateChallenge (c : Client) (uuid : Uuid) (update : StageUpdate) : Option Handler :=
  match update.status with
  | .completed | .wiped =>
    let attempt := (update.stage, c.getStageAttempt update.stage)
    some (.checkingStageEnd uuid { attempt, records := [.stageEnd c.clientId update] })
  | .entered | .started => none

def shouldWriteStageEnd (s : Store) (uuid : Uuid) (attempt : StageAttempt) : Bool :=
  (s.challenge uuid).isSome && decide (attempt ∉ s.processed uuid)

end Blert.Streams

import Blert.Timeline.State

/-!
The events of a client, read from its stream.

What a client sent is put in the order of its ticks, cut off at the last tick that the client says
it recorded, and prepared: players get their index in the party, players of no party and reports of
maze pivots are taken out. What is left makes the client's timeline.
-/

namespace Blert.Timeline

open Merging (EventType Coords DataSource ClientId)
open Lifecycle (Stage StageStatus UserId)

/-! ### Streams -/

structure ServerTicks where
  count : ℕ
  precise : Bool

structure StageUpdate where
  status : StageStatus
  accurate : Bool
  recordedTicks : ℕ
  serverTicks : Option ServerTicks

/-- A record of a client in a stage's stream. Events that do not decode are none. -/
inductive ClientStageStream
  | metadata (userId : UserId) (pluginVersion runeliteVersion : String)
  | events (events : Option (List Event))
  | stageEnd (update : StageUpdate)

structure SotePivots where
  maze : ℕ
  overworld : List Coords
  underworld : List Coords

/-- Stage-scoped data extracted from a client's raw events. -/
inductive StageData
  | none
  | sotetseg (pivots : List SotePivots)

def StageData.new (stage : Stage) : StageData :=
  if stage = .tobSotetseg then .sotetseg [] else .none

inductive Anomaly
  | missingStageMetadata | eventsBeyondReportedTicks | unknownPlayer | badData

structure Metadata where
  userId : UserId
  pluginVersion : String
  runeliteVersion : String

structure ClientEvents where
  clientId : ClientId
  metadata : Option Metadata
  primaryPlayer : Option String
  status : StageStatus
  accurate : Bool
  recordedTicks : ℕ
  serverTicks : Option ServerTicks
  timeline : Timeline
  stageData : StageData
  anomalies : List Anomaly

def ClientEvents.noteIf (client : ClientEvents) (seen : Bool) (anomaly : Anomaly) : ClientEvents :=
  if seen then { client with anomalies := client.anomalies ++ [anomaly] } else client

@[simp] lemma recordedTicks_noteIf (client : ClientEvents) (seen : Bool) (anomaly : Anomaly) :
    (client.noteIf seen anomaly).recordedTicks = client.recordedTicks := by
  unfold ClientEvents.noteIf
  split_ifs <;> rfl

/-! ### Records -/

/-- What has been read of a client's records. -/
structure Collected where
  client : ClientEvents
  rawEvents : List TaggedEvent
  sawStageEnd : Bool

def Collected.initial (stage : Stage) (clientId : ClientId) : Collected where
  client :=
    { clientId
      metadata := .none
      primaryPlayer := .none
      status := .started
      accurate := false
      recordedTicks := 0
      serverTicks := .none
      timeline := ⟨[]⟩
      stageData := .new stage
      anomalies := [] }
  rawEvents := []
  sawStageEnd := false

def Collected.read (c : Collected) : ClientStageStream → Collected
  | .metadata userId pluginVersion runeliteVersion =>
    { c with client :=
        { c.client with metadata := some ⟨userId, pluginVersion, runeliteVersion⟩ } }
  | .events (some events) =>
    { c with rawEvents := c.rawEvents ++ events.map fun event => ⟨c.client.clientId, event⟩ }
  | .events .none => c
  | .stageEnd update =>
    { c with
      client :=
        { c.client with
          status := update.status
          accurate := update.accurate
          recordedTicks := update.recordedTicks
          serverTicks := update.serverTicks }
      sawStageEnd := true }

/-! ### Preparing events -/

/-- What has been prepared of a client's events. -/
structure Prepared where
  stageData : StageData
  primaryPlayers : List String
  unknownPlayers : OrdMap String ℕ
  events : List TaggedEvent

/-- A maze path without tiles, which is a pivot report. -/
def isPivotReport (event : Event) : Bool :=
  event.type = .tobSoteMazePath && event.soteMaze.any (·.overworldTiles.isEmpty)

def StageData.report (data : StageData) (event : Event) : StageData :=
  match data, event.soteMaze with
  | .sotetseg pivots, some maze =>
    if maze.overworldPivots.isEmpty && maze.underworldPivots.isEmpty then data
    else .sotetseg (pivots ++ [⟨maze.maze, maze.overworldPivots, maze.underworldPivots⟩])
  | _, _ => data

/-- Keeps an event that is not a pivot report. -/
def Prepared.keep (p : Prepared) (event : TaggedEvent) : Prepared :=
  if isPivotReport event.event then { p with stageData := p.stageData.report event.event }
  else { p with events := p.events ++ [event] }

def withIndex (event : TaggedEvent) (player : Player) (index : ℕ) : TaggedEvent :=
  { event with event := { event.event with player := some { player with partyIndex := index } } }

/-- Records the player of an update that its client sees as its own. -/
def Prepared.recordPrimary (p : Prepared) (kind : EventType) (player : Player) : Prepared :=
  if kind = .playerUpdate ∧ player.dataSource = .primary ∧ player.name ∉ p.primaryPlayers then
    { p with primaryPlayers := p.primaryPlayers ++ [player.name] }
  else p

/-- Prepares an event. Nothing is returned where a party index does not fit, which panics. -/
def Prepared.step (party : List String) (p : Prepared) (event : TaggedEvent) : Option Prepared :=
  match event.event.player with
  | .none => some (p.keep event)
  | some player =>
    match party.idxOf? player.name with
    | .none => some { p with unknownPlayers :=
        p.unknownPlayers.insert player.name ((p.unknownPlayers.get player.name).getD 0 + 1) }
    | some index =>
      if index < 2 ^ 32 then
        some ((p.recordPrimary event.event.type player).keep (withIndex event player index))
      else .none

/-- Records the client's primary player and extracts its stage data. -/
def preprocessEvents (party : List String) (client : ClientEvents) (events : List TaggedEvent) :
    Option (ClientEvents × List TaggedEvent) := do
  let p ← events.foldlM (Prepared.step party) ⟨client.stageData, [], ∅, []⟩
  let client := { client with stageData := p.stageData }
  let client := client.noteIf (!p.unknownPlayers.isEmpty) .unknownPlayer
  if 1 < p.primaryPlayers.length then return (client.noteIf true .badData, p.events)
  else return ({ client with primaryPlayer := p.primaryPlayers.head? }, p.events)

/-! ### Clients -/

/-- A client's reported accuracy is demoted unless its ticks are the server's. -/
def ClientEvents.validate (client : ClientEvents) : ClientEvents :=
  let derivedAccurate := client.serverTicks.any fun st =>
    st.precise && client.recordedTicks = st.count
  { client with accurate := client.accurate && derivedAccurate }

/-- Ticks that are not reported are those up to the last event. -/
def ClientEvents.backfill (client : ClientEvents) (rawEvents : List TaggedEvent) : ClientEvents :=
  match rawEvents.getLast? with
  | some last =>
    if client.recordedTicks = 0 then { client with recordedTicks := last.event.tick } else client
  | .none => client

/-- The client and its events once the records are read, the events being in order and within the
reported ticks. Events of one tick are in the order in which they are sorted. -/
def collect (sort : List TaggedEvent → List TaggedEvent) (stage : Stage) (clientId : ClientId)
    (records : List ClientStageStream) : ClientEvents × List TaggedEvent :=
  let c := records.foldl Collected.read (.initial stage clientId)
  let rawEvents := sort c.rawEvents
  let client := (c.client.noteIf (!c.sawStageEnd) .missingStageMetadata).backfill rawEvents
  let kept := rawEvents.takeWhile (·.event.tick ≤ client.recordedTicks)
  (client.noteIf (kept.length < rawEvents.length) .eventsBeyondReportedTicks, kept)

/-- The client with the timeline of its events, unless building it panics. -/
def ClientEvents.withTimeline (party : List String) (client : ClientEvents)
    (events : List TaggedEvent) : Option ClientEvents :=
  match build party client.recordedTicks events with
  | .ok timeline => some { client with timeline }.validate
  | .error (.malformed _) => some (client.noteIf true .badData).validate
  | .error .panic => .none

/-- Initializes events for a client from its raw stage stream, if nothing panics. -/
def fromClientStream (sort : List TaggedEvent → List TaggedEvent) (party : List String)
    (stage : Stage) (clientId : ClientId) (records : List ClientStageStream) :
    Option ClientEvents :=
  let (client, events) := collect sort stage clientId records
  (preprocessEvents party client events).bind fun (client, events) =>
    client.withTimeline party events

end Blert.Timeline

import Blert.StageState.NpcState
import Blert.Transitions

/-!
A stage as it is watched live.

The viewer of a live stage appends each batch of events to the maps it has and extends the states
of players and NPCs to the ticks it now knows of. A recorded stage is built in one pass from all
of its events. Both are given the names of items and NPCs.
-/

namespace Blert.StageState

/-- A challenge's players, none of whom is in its party twice. -/
structure Party where
  members : List String
  nodup : members.Nodup

structure Viewer where
  events : EventMaps := {}
  npcMap : NpcMap := ∅
  players : PlayerStateBuilder := {}
  npcs : NpcStateBuilder := {}
  /-- What has been written to the events' objects. -/
  writes : Writes := {}

/-- The same maps and states, where the states are looked up by player and by NPC. -/
structure Viewer.Same (v v' : Viewer) : Prop where
  events : v.events = v'.events
  npcMap : v.npcMap = v'.npcMap
  player : ∀ name, v.players.map.get name = v'.players.map.get name
  npc : ∀ roomId, v.npcs.map.get roomId = v'.npcs.map.get roomId
  writes : v.writes = v'.writes

/-- New events, and the number of ticks known of with them. -/
structure Batch where
  events : List Event
  totalTicks : ℕ

section

variable (getItemName : ℕ → String) (fullName : ℕ → Option String) (party : Party)

/-- What the live viewer makes of a batch, or `none` where building the states throws. Without new
events it leaves everything as it is. -/
def Viewer.deliver (v : Viewer) (b : Batch) : Option Viewer :=
  if b.events = [] then some v
  else do
    let (events, w) := EventMaps.append (v.events, v.writes) b.events
    let npcMap := v.npcMap.append b.events
    let (players, w) ← v.players.extend getItemName party.members b.totalTicks events w
    let (npcs, w) := v.npcs.extend fullName npcMap b.totalTicks events w
    some ⟨events, npcMap, players, npcs, w⟩

/-- The same built in one pass over all events of a stage. -/
def onePass (es : List Event) (totalTicks : ℕ) : Option Viewer := do
  let (events, w) := buildEventMaps es
  let npcMap := buildNpcMapFromEvents es
  let (players, w) ← computePlayerState getItemName party.members totalTicks events w
  let (npcs, w) := computeNpcState fullName npcMap totalTicks events w
  some ⟨events, npcMap, players, npcs, w⟩

/-! ### Deliveries -/

/-- A stage that is being watched: what the viewer has built, unless building it has thrown, and
the events and ticks delivered so far. -/
structure Watching where
  viewer : Option Viewer := some {}
  events : List Event := []
  ticks : ℕ := 0
  /-- The ticks delivered with the last batch that carried events. -/
  eventTicks : ℕ := 0

/-- A batch carries the events of the ticks that are new with it. -/
def Whole (s : Watching) (b : Batch) : Prop :=
  s.ticks ≤ b.totalTicks ∧ ∀ e ∈ b.events, s.ticks ≤ e.tick ∧ e.tick < b.totalTicks

instance (s : Watching) (b : Batch) : Decidable (Whole s b) := by
  unfold Whole
  infer_instance

def watch : TransitionSystem Watching Batch where
  Enabled := Whole
  next s b :=
    { viewer := s.viewer.bind (·.deliver getItemName fullName party b)
      events := s.events ++ b.events
      ticks := b.totalTicks
      eventTicks := if b.events = [] then s.eventTicks else b.totalTicks }

end

/-! ### When nothing of a batch is lost -/

/-- An event that is used up when it is appended. -/
def Event.consumed (e : Event) : Bool :=
  e.type = .tobVerzikAttackStyle || e.type = .mokhaiotlAttackStyle

/-- A player is in the states of a tick: an event of theirs is on it, or they have died before it
and it has an event at all. -/
def HasState (es : List Event) (player : String) (tick : ℕ) : Bool :=
  es.any (fun e => e.tick = tick && e.belongsToPlayer player) ||
    es.any (fun e => e.tick < tick && e.payload = .playerDeath player) &&
      es.any (fun e => e.tick = tick && !e.consumed)

/-- A Dawnbringer attack of a party member that an event reports is on a tick that the batch
reaches, and that has not been processed yet or has no state of the player. -/
def DawnInTime (party : Party) (s : Watching) (b : Batch) (e : Event) : Bool :=
  match e.payload with
  | .tobVerzikDawn attackTick _ player =>
    player ∉ party.members || attackTick < b.totalTicks &&
      (attackTick < 0 || (s.ticks : ℤ) ≤ attackTick || !HasState s.events player attackTick.toNat)
  | _ => true

/-- The subtypes that events report of an NPC, added to its description. -/
def RoomNpc.withSubtypes (npc : RoomNpc) (es : List Event) : RoomNpc :=
  (es.filterMap fun e => e.payload.npc?.filter (·.roomId = npc.roomId)).foldl .withSubtype npc

/-- An NPC that has spawned before does not spawn again in the batch, and the subtypes its events
report leave what it is as it was. -/
def NpcUnchanged (b : Batch) (npc : RoomNpc) : Bool :=
  b.events.all (fun e =>
    match e.payload with
    | .npcSpawn n => n.roomId ≠ npc.roomId
    | _ => true) &&
  npc.withSubtypes b.events = npc

/-- No event of the batch changes what was processed before it. -/
def Meets (party : Party) (s : Watching) (b : Batch) : Prop :=
  (∀ e ∈ b.events, DawnInTime party s b e) ∧
    ∀ npc ∈ (buildNpcMapFromEvents s.events).values, NpcUnchanged b npc

instance (party : Party) (s : Watching) (b : Batch) : Decidable (Meets party s b) := by
  unfold Meets
  infer_instance

end Blert.StageState

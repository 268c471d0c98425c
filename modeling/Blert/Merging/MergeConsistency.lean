import Blert.Merging.Context

/-!
The consistency of a merged timeline.

Invariants of the game that hold of the events of a single client are checked of a merged
timeline: actors die and appear once, phases come once and in order, attacks respect cooldowns and
their targets are there, and some events exclude each other.
-/

namespace Blert.Merging

structure NpcOccurrence where
  tick : ℤ
  npcId : ℕ

structure PlayerAttackOccurrence where
  tick : ℤ
  type : ℕ

structure PhaseOccurrence where
  eventType : EventType
  identityKey : String
  tick : ℤ

/-- A violation of a game invariant that holds of every single client. -/
inductive MergeConsistencyIssue
  | duplicatePlayerDeath (player : String) (ticks : List ℤ)
  | duplicateNpcSpawn (roomId : ℤ) (occurrences : List NpcOccurrence)
  | duplicateNpcDeath (roomId : ℤ) (occurrences : List NpcOccurrence)
  | duplicateStreamEvent (eventType : EventType) (identityKey : String) (ticks : List ℤ)
  | weaponCooldownViolation (player : String) (previous current : PlayerAttackOccurrence)
      (cooldown : ℤ)
  | deathBeforeSpawn (roomId deathTick : ℤ) (spawnTick : Option ℤ)
  | phaseOutOfOrder (previous current : PhaseOccurrence)
  | playerAttackTargetMissing (tick : ℤ) (player : String) (roomId : ℤ)
  | npcAttackTargetMissing (tick : ℤ) (roomId : ℤ) (player : String)
  | exclusiveEventViolation (a b : EventType) (tick : ℤ)

namespace MergeConsistencyChecker

def states (ticks : TickStateArray) : List TickState := ticks.filterMap id

def eventsByType (ticks : TickStateArray) (type : EventType) : List (ℤ × Event) :=
  (states ticks).flatMap fun state =>
    (state.getTaggedEventsByType type).map fun t => (state.tick, t.event)

/-! ### Life cycles of actors -/

def playerDeathTicks (ticks : TickStateArray) :
    Except MergeError (InsertionMap String (List ℤ)) := do
  let deaths ← (eventsByType ticks .playerDeath).mapM fun (tick, event) => do
    return ((← require event.player).name, tick)
  return (∅ : InsertionMap String (List ℤ)).pushAll deaths

/-- Where NPCs spawned or died, by their room ID. -/
def npcOccurrences (type : EventType) (ticks : TickStateArray) :
    Except MergeError (InsertionMap ℤ (List NpcOccurrence)) := do
  let events ← (eventsByType ticks type).mapM fun (tick, event) => do
    let npc ← require event.npc
    return (npc.roomId, { tick, npcId := npc.id : NpcOccurrence })
  return (∅ : InsertionMap ℤ (List NpcOccurrence)).pushAll events

def duplicates {κ α : Type} (groups : InsertionMap κ (List α)) : List (κ × List α) :=
  groups.entries.filter fun x => x.2.length > 1

/-- Every NPC death must have a preceding spawn. -/
def deathBeforeSpawn (spawns : InsertionMap ℤ (List NpcOccurrence)) :
    ℤ × List NpcOccurrence → List MergeConsistencyIssue
  | (_, []) => []
  | (roomId, death :: _) =>
    match ((spawns.get roomId).bind List.head?).map NpcOccurrence.tick with
    | none => [.deathBeforeSpawn roomId death.tick none]
    | some spawn =>
      if spawn ≥ death.tick then [.deathBeforeSpawn roomId death.tick (some spawn)] else []

def checkActorLifecycles (ticks : TickStateArray) :
    Except MergeError (List MergeConsistencyIssue) := do
  let playerDeaths ← playerDeathTicks ticks
  let spawns ← npcOccurrences .npcSpawn ticks
  let deaths ← npcOccurrences .npcDeath ticks
  return (duplicates playerDeaths).map (fun (player, ticks) => .duplicatePlayerDeath player ticks) ++
    (duplicates spawns).map (fun (roomId, os) => .duplicateNpcSpawn roomId os) ++
    (duplicates deaths).map (fun (roomId, os) => .duplicateNpcDeath roomId os) ++
    deaths.entries.flatMap (deathBeforeSpawn spawns)

/-! ### Stream events -/

/-- An ordering invariant over a set of stream event types. -/
structure OrderingRule where
  eventTypes : List EventType
  extractOrdinal : Event → Except MergeError ℤ

def orderingRule (stage : Lifecycle.Stage) : Option OrderingRule :=
  if stage = .tobXarpus then some ⟨[.tobXarpusPhase], fun e => return e.xarpusPhase⟩
  else if stage = .tobVerzik then some ⟨[.tobVerzikPhase], fun e => return e.verzikPhase⟩
  else if stage = .tobNylocas then
    some ⟨[.tobNyloWaveSpawn], fun e => return (← require e.nyloWave).wave⟩
  else if stage = .tobSotetseg then
    some ⟨[.tobSoteMazeProc, .tobSoteMazeEnd], fun e => return (← require e.soteMaze).maze * 2 +
      if e.type = .tobSoteMazeEnd then 1 else 0⟩
  else none

/-- The identity key of an event that should appear at most once. Actors are checked
separately. -/
def uniqueKey (event : Event) : Option (Except MergeError String) :=
  match defaultStreamEventConfig event.type with
  | some config =>
    if event.type ∈ [EventType.playerDeath, .npcSpawn, .npcDeath] ∨ config.temporalWindow.isSome
    then none
    else some (config.identityKey event)
  | none => none

/-- What has been seen of the events that should be unique. -/
structure StreamCheck where
  occurrences : InsertionMap EventType (InsertionMap String (List ℤ)) := ∅
  previous : Option (ℤ × PhaseOccurrence) := none
  issues : List MergeConsistencyIssue := []

/-- Compares an event with the one before it that the ordering rule is about. -/
def StreamCheck.checkOrder (w : StreamCheck) (rule : OrderingRule) (event : Event)
    (current : PhaseOccurrence) : Except MergeError StreamCheck := do
  if event.type ∉ rule.eventTypes then return w
  let ordinal ← rule.extractOrdinal event
  let outOfOrder := match w.previous with
    | some (before, previous) =>
      if ordinal < before then [.phaseOutOfOrder previous current] else []
    | none => []
  return { w with previous := some (ordinal, current), issues := w.issues ++ outOfOrder }

def StreamCheck.add (rule : Option OrderingRule) (w : StreamCheck) (x : ℤ × Event) :
    Except MergeError StreamCheck :=
  match uniqueKey x.2 with
  | none => return w
  | some key => do
    let identityKey ← key
    let byKey := (w.occurrences.get x.2.type).getD ∅
    let w := { w with occurrences := w.occurrences.set x.2.type (byKey.push identityKey x.1) }
    match rule with
    | none => return w
    | some rule => w.checkOrder rule x.2 { eventType := x.2.type, identityKey, tick := x.1 }

def checkStreamEvents (stage : Lifecycle.Stage) (ticks : TickStateArray) :
    Except MergeError (List MergeConsistencyIssue) := do
  let events := (states ticks).flatMap fun state => state.getEvents.map (state.tick, ·)
  let w ← events.foldlM (StreamCheck.add (orderingRule stage)) {}
  return w.issues ++ w.occurrences.entries.flatMap fun (eventType, byKey) =>
    (duplicates byKey).map fun (key, ticks) => .duplicateStreamEvent eventType key ticks

/-! ### Attacks -/

structure CooldownCheck where
  lastAttack : InsertionMap String PlayerAttackOccurrence := ∅
  issues : List MergeConsistencyIssue := []

def CooldownCheck.add (defs : Definitions) (tick : ℤ) (w : CooldownCheck)
    (entry : String × Option PlayerState) : CooldownCheck :=
  match entry.2.bind PlayerState.attack with
  | none => w
  | some attack =>
    let current : PlayerAttackOccurrence := { tick, type := attack.type }
    let violations := match w.lastAttack.get entry.1 with
      | none => []
      | some previous =>
        match defs.attackCooldown previous.type with
        | some cooldown =>
          if tick - previous.tick < cooldown then
            [.weaponCooldownViolation entry.1 previous current cooldown]
          else []
        | none => []
    { lastAttack := w.lastAttack.set entry.1 current, issues := w.issues ++ violations }

def CooldownCheck.addTick (defs : Definitions) (w : CooldownCheck) (state : TickState) :
    CooldownCheck :=
  state.playerStates.entries.foldl (CooldownCheck.add defs state.tick) w

def checkWeaponCooldowns (defs : Definitions) (ticks : TickStateArray) :
    List MergeConsistencyIssue :=
  ((states ticks).foldl (CooldownCheck.addTick defs) {}).issues

def missingTargets (deadPlayers : List String) (state : TickState) : List MergeConsistencyIssue :=
  state.playerStates.entries.flatMap (fun (name, player) =>
    match (player.bind PlayerState.attack).bind PlayerAttacked.target with
    | some target =>
      if state.npcs.has target.roomId then []
      else [.playerAttackTargetMissing state.tick name target.roomId]
    | none => []) ++
  state.npcs.entries.flatMap fun (roomId, npc) =>
    match npc.attack.bind NpcAttacked.target with
    | some target =>
      if target ∈ deadPlayers ∨ (state.getPlayerState target).isSome then []
      else [.npcAttackTargetMissing state.tick roomId target]
    | none => []

def checkAttackTargetPresence (ticks : TickStateArray) :
    Except MergeError (List MergeConsistencyIssue) := do
  let w ← (states ticks).foldlM (fun (w : List String × List MergeConsistencyIssue) state => do
    let died ← (state.getTaggedEventsByType .playerDeath).mapM fun t => do
      return (← require t.event.player).name
    return (w.1 ++ died, w.2 ++ missingTargets w.1 state)) ([], [])
  return w.2

/-! ### Mutually exclusive events -/

/-- Events that are mutually exclusive on a single tick. -/
def exclusiveEventPairs (stage : Lifecycle.Stage) : List (EventType × EventType) :=
  if stage = .tobBloat then [(.tobBloatDown, .tobBloatUp)] else []

def checkExclusiveEventTypes (stage : Lifecycle.Stage) (ticks : TickStateArray) :
    List MergeConsistencyIssue :=
  (states ticks).flatMap fun state => (exclusiveEventPairs stage).flatMap fun (a, b) =>
    if state.getTaggedEventsByType a ≠ [] ∧ state.getTaggedEventsByType b ≠ [] then
      [.exclusiveEventViolation a b state.tick]
    else []

/-- Runs all checks and returns any issues found. -/
def check (defs : Definitions) (stage : Lifecycle.Stage) (ticks : TickStateArray) :
    Except MergeError (List MergeConsistencyIssue) := do
  let actors ← checkActorLifecycles ticks
  let stream ← checkStreamEvents stage ticks
  let targets ← checkAttackTargetPresence ticks
  return actors ++ stream ++ checkWeaponCooldowns defs ticks ++ targets ++
    checkExclusiveEventTypes stage ticks

end MergeConsistencyChecker

end Blert.Merging

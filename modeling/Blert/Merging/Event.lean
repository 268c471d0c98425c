import Blert.Lifecycle.Types
import Blert.Merging.TickMapping

/-!
Recorded events.

An event has a type, a tick and the payload its type calls for, which may be missing. Types are
classified by how a merge treats them: tick state is merged tick by tick, stream events are
matched across clients by an identity key within a window of ticks, and attack-mapped events
follow the attack they refer to.
-/

namespace Blert.Merging

/-- What a merge step throws: a missing payload was read, or an error of its own. -/
inductive MergeError
  | typeError
  | error (message : String)
  deriving DecidableEq

def require {α : Type} : Option α → Except MergeError α
  | some a => .ok a
  | none => .error .typeError

/-! ### Types of events -/

inductive EventType
  -- The state of players, NPCs and graphics on a tick.
  | playerUpdate | playerAttack | playerSpell
  | npcUpdate | npcAttack
  | tobMaidenBloodSplats | tobVerzikYellows | tobSoteMazePath
  -- Stream events.
  | playerDeath | npcSpawn | npcDeath
  | tobMaidenCrabLeak | tobBloatDown | tobBloatUp | tobBloatHandsDrop | tobBloatHandsSplat
  | tobNyloWaveSpawn | tobSoteMazeProc | tobSoteMazeEnd
  | tobXarpusPhase | tobXarpusExhumed | tobXarpusSplat
  | tobVerzikPhase | tobVerzikDawnDrop | tobVerzikHeal
  -- Events that augment a previous attack.
  | tobVerzikAttackStyle | tobVerzikBounce | tobVerzikDawn
  -- Events derived from a merged timeline.
  | tobNyloWaveStall | tobNyloCleanupEnd | tobNyloBossSpawn | tobVerzikRedsSpawn
  -- Events of challenges with a single player.
  | colosseumHandicapChoice | colosseumDoomApplied | colosseumTotemHeal
  | colosseumReentryPools | colosseumSolDust | colosseumSolGrapple | colosseumSolPools
  | colosseumSolLasers
  | mokhaiotlAttackStyle | mokhaiotlOrb | mokhaiotlObjects | mokhaiotlLarvaLeak
  | mokhaiotlShockwave | infernoWaveStart
  -- Events that no longer exist.
  | deprecatedChallengeStart | deprecatedChallengeEnd | deprecatedChallengeUpdate
  | deprecatedStageUpdate
  deriving DecidableEq

namespace EventType

/-- Types representing per-tick game state, merged on a tick-by-tick basis. -/
def isTickState : EventType → Bool
  | playerUpdate | playerAttack | playerSpell => true
  | npcUpdate | npcAttack => true
  | tobMaidenBloodSplats | tobVerzikYellows | tobSoteMazePath => true
  | _ => false

/-- Types deferred from the tick-by-tick merge for stream reconciliation. -/
def streamTypes : List EventType :=
  [playerDeath, npcDeath, npcSpawn, tobMaidenCrabLeak, tobBloatDown, tobBloatUp,
    tobBloatHandsDrop, tobBloatHandsSplat, tobNyloWaveSpawn, tobSoteMazeProc, tobSoteMazeEnd,
    tobXarpusPhase, tobXarpusExhumed, tobXarpusSplat, tobVerzikPhase, tobVerzikDawnDrop,
    tobVerzikHeal]

/-- Types that augment a previous attack with additional context. -/
def attackMappedTypes : List EventType := [tobVerzikAttackStyle, tobVerzikBounce, tobVerzikDawn]

/-- Types extracted from ticks and buffered for reconciliation. -/
def bufferedTypes : List EventType := streamTypes ++ attackMappedTypes

end EventType

/-! ### Events -/

structure Coords where
  x : ℤ
  y : ℤ
  deriving DecidableEq

structure EventPlayer where
  name : String
  deriving DecidableEq

structure EventNpc where
  id : ℕ
  roomId : ℤ
  deriving DecidableEq

structure NyloWave where
  wave : ℤ
  deriving DecidableEq

structure SoteMaze where
  maze : ℤ
  deriving DecidableEq

structure XarpusExhumed where
  spawnTick : ℤ
  healTicks : List ℤ
  deriving DecidableEq

structure AttackStyle where
  style : ℤ
  npcAttackTick : ℤ
  deriving DecidableEq

structure VerzikBounce where
  npcAttackTick : ℤ
  bouncedPlayer : String
  deriving DecidableEq

structure VerzikDawn where
  attackTick : ℤ
  player : String
  damage : ℤ
  deriving DecidableEq

structure VerzikDawnDrop where
  dropped : Bool
  deriving DecidableEq

structure VerzikHeal where
  player : String
  deriving DecidableEq

structure Event where
  type : EventType
  tick : ℤ
  xCoord : ℤ := 0
  yCoord : ℤ := 0
  player : Option EventPlayer := none
  npc : Option EventNpc := none
  bloatHands : List Coords := []
  nyloWave : Option NyloWave := none
  soteMaze : Option SoteMaze := none
  xarpusPhase : ℤ := 0
  xarpusExhumed : Option XarpusExhumed := none
  verzikPhase : ℤ := 0
  verzikAttackStyle : Option AttackStyle := none
  verzikBounce : Option VerzikBounce := none
  verzikDawn : Option VerzikDawn := none
  verzikDawnDrop : Option VerzikDawnDrop := none
  verzikHeal : Option VerzikHeal := none
  mokhaiotlAttackStyle : Option AttackStyle := none
  deriving DecidableEq

/-- An event paired with the client it originates from. -/
structure TaggedEvent where
  event : Event
  source : ClientId
  deriving DecidableEq

/-! ### Identity of stream events -/

abbrev IdentityKeyFn := Event → Except MergeError String

/-- The name of the player, or the room ID of the NPC, an event is about. -/
def actorIdKey : IdentityKeyFn := fun event =>
  match event.player, event.npc with
  | some player, _ => .ok player.name
  | none, some npc => .ok (toString npc.roomId)
  | none, none => .ok ""

def singletonKey : IdentityKeyFn := fun _ => .ok ""

def bloatHandsKey : IdentityKeyFn := fun event =>
  .ok ("|".intercalate ((event.bloatHands.map fun c =>
    toString c.x ++ "," ++ toString c.y).insertionSort (· ≤ ·)))

def coordsKey : IdentityKeyFn := fun event =>
  .ok (toString event.xCoord ++ "," ++ toString event.yCoord)

def nyloWaveKey : IdentityKeyFn := fun event => do
  return toString (← require event.nyloWave).wave

def soteMazeKey : IdentityKeyFn := fun event => do
  return toString (← require event.soteMaze).maze

def xarpusPhaseKey : IdentityKeyFn := fun event => .ok (toString event.xarpusPhase)

def verzikPhaseKey : IdentityKeyFn := fun event => .ok (toString event.verzikPhase)

def dawnDropKey : IdentityKeyFn := fun event => do
  return toString (← require event.verzikDawnDrop).dropped

def verzikHealKey : IdentityKeyFn := fun event => do return (← require event.verzikHeal).player

/-- How events of a stream type are deduplicated: by which key, within how many ticks (without
a window, an event is unique within the stage), and from which gap on a pair is flagged. -/
structure StreamEventConfig where
  identityKey : IdentityKeyFn
  temporalWindow : Option ℕ
  largeGapThreshold : Option ℕ

def defaultStreamEventConfig : EventType → Option StreamEventConfig
  | .playerDeath => some ⟨actorIdKey, none, some 20⟩
  | .npcDeath => some ⟨actorIdKey, some 8, some 5⟩
  | .npcSpawn => some ⟨actorIdKey, none, none⟩
  | .tobMaidenCrabLeak => some ⟨actorIdKey, none, some 10⟩
  | .tobBloatDown => some ⟨singletonKey, some 32, some 16⟩
  | .tobBloatUp => some ⟨singletonKey, some 32, some 16⟩
  | .tobBloatHandsDrop => some ⟨bloatHandsKey, some 5, none⟩
  | .tobBloatHandsSplat => some ⟨bloatHandsKey, some 5, none⟩
  | .tobNyloWaveSpawn => some ⟨nyloWaveKey, none, some 10⟩
  | .tobSoteMazeProc => some ⟨soteMazeKey, none, some 20⟩
  | .tobSoteMazeEnd => some ⟨soteMazeKey, none, some 10⟩
  | .tobXarpusPhase => some ⟨xarpusPhaseKey, none, some 10⟩
  | .tobXarpusExhumed => some ⟨coordsKey, some 16, some 10⟩
  | .tobXarpusSplat => some ⟨coordsKey, none, none⟩
  | .tobVerzikPhase => some ⟨verzikPhaseKey, none, none⟩
  | .tobVerzikDawnDrop => some ⟨dawnDropKey, some 3, none⟩
  | .tobVerzikHeal => some ⟨verzikHealKey, some 30, some 10⟩
  | _ => none

/-- Whether players who die in a stage come back. -/
def stageHasRespawns (stage : Lifecycle.Stage) : Bool :=
  20 ≤ stage.value ∧ stage.value ≤ Lifecycle.Stage.coxOlm.value

def playerDeathRespawnWindow : ℕ := 15

def streamEventConfigForStage (stage : Lifecycle.Stage) (type : EventType) :
    Option StreamEventConfig :=
  if stageHasRespawns stage ∧ type = .playerDeath then
    some ⟨actorIdKey, some playerDeathRespawnWindow, some 20⟩
  else defaultStreamEventConfig type

/-! ### Remapping ticks -/

def remapEventTick {m : Type → Type} [Monad m] [MonadExceptOf MergeError m]
    (tagged : TaggedEvent) (remap : ℤ → m ℤ) : m TaggedEvent := do
  let e := tagged.event
  if e.type.isTickState then
    throw (.error "remapEventTick called with a tick-state event")
  let tick ← remap e.tick
  let e := { e with tick }
  let e ← match e.type with
    | .tobXarpusExhumed => do
      let exhumed ← liftExcept (require e.xarpusExhumed)
      let spawnTick ← remap exhumed.spawnTick
      let healTicks ← exhumed.healTicks.mapM remap
      pure { e with xarpusExhumed := some { spawnTick, healTicks } }
    | .tobVerzikAttackStyle => do
      let style ← liftExcept (require e.verzikAttackStyle)
      let npcAttackTick ← remap style.npcAttackTick
      pure { e with verzikAttackStyle := some { style with npcAttackTick } }
    | .tobVerzikBounce => do
      let bounce ← liftExcept (require e.verzikBounce)
      let npcAttackTick ← remap (if bounce.npcAttackTick = -1 then e.tick else bounce.npcAttackTick)
      pure { e with verzikBounce := some { bounce with npcAttackTick } }
    | .tobVerzikDawn => do
      let dawn ← liftExcept (require e.verzikDawn)
      let attackTick ← remap dawn.attackTick
      pure { e with verzikDawn := some { dawn with attackTick } }
    | .mokhaiotlAttackStyle => do
      let style ← liftExcept (require e.mokhaiotlAttackStyle)
      let npcAttackTick ← remap style.npcAttackTick
      pure { e with mokhaiotlAttackStyle := some { style with npcAttackTick } }
    | _ => pure e
  return { tagged with event := e }

end Blert.Merging

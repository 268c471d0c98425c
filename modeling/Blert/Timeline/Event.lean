import Blert.Merging.TickState

/-!
Recorded events and their payloads.

An event has a type, a tick and a place, and carries the payloads that its type calls for, any of
which a client may leave out. Its class says what a merge does with it.
-/

namespace Blert.Timeline

open Merging (EventType Coords DataSource)

/-! ### Classes -/

/-- The category of an event within the merger, determining its handling. -/
inductive Class
  | deprecated | solo | derived | tickState | stream | attackMapped
  deriving DecidableEq

def classify : EventType → Class
  | .deprecatedChallengeStart | .deprecatedChallengeEnd | .deprecatedChallengeUpdate
  | .deprecatedStageUpdate => .deprecated
  | .colosseumHandicapChoice | .colosseumDoomApplied | .colosseumTotemHeal
  | .colosseumReentryPools | .colosseumSolDust | .colosseumSolGrapple | .colosseumSolPools
  | .colosseumSolLasers | .mokhaiotlAttackStyle | .mokhaiotlOrb | .mokhaiotlObjects
  | .mokhaiotlLarvaLeak | .mokhaiotlShockwave | .infernoWaveStart => .solo
  | .tobNyloWaveStall | .tobNyloCleanupEnd | .tobNyloBossSpawn | .tobVerzikRedsSpawn => .derived
  | .playerUpdate | .playerAttack | .playerSpell | .npcUpdate | .npcAttack
  | .tobMaidenBloodSplats | .tobVerzikYellows | .tobSoteMazePath => .tickState
  | .playerDeath | .npcSpawn | .npcDeath | .tobMaidenCrabLeak | .tobBloatDown | .tobBloatUp
  | .tobBloatHandsDrop | .tobBloatHandsSplat | .tobNyloWaveSpawn | .tobSoteMazeProc
  | .tobSoteMazeEnd | .tobXarpusPhase | .tobXarpusExhumed | .tobXarpusSplat | .tobVerzikPhase
  | .tobVerzikDawnDrop | .tobVerzikHeal => .stream
  | .tobVerzikAttackStyle | .tobVerzikBounce | .tobVerzikDawn => .attackMapped

/-! ### Payloads -/

/-- What a player event says of its player. -/
structure Player where
  name : String
  partyIndex : ℕ
  dataSource : DataSource
  equipmentDeltas : List ℕ
  activePrayers : Option ℕ
  /-- Whether the deltas are those of everything that is worn. -/
  snapshot : Bool
  hitpoints : Option ℕ
  prayer : Option ℕ
  attack : Option ℕ
  strength : Option ℕ
  defence : Option ℕ
  ranged : Option ℕ
  magic : Option ℕ
  deriving DecidableEq

/-- A kind of NPC, those of some rooms with properties of their own. -/
inductive NpcType
  | basic
  | maidenCrab (crab : ℕ)
  | nylo (nylo : ℕ)
  | verzikCrab (crab : ℕ)
  deriving DecidableEq

structure Npc where
  id : ℕ
  roomId : ℕ
  hitpoints : ℕ
  activePrayers : ℕ
  type : Option NpcType
  deriving DecidableEq

structure NpcAttackEvent where
  attack : ℕ
  target : Option String
  deriving DecidableEq

structure AttackEvent where
  type : ℕ
  /-- The ID and the quantity of the weapon. -/
  weapon : Option (ℕ × ℕ)
  /-- The ID and the room ID of the target. -/
  target : Option (ℕ × ℕ)
  distanceToTarget : ℤ
  deriving DecidableEq

inductive SpellTarget
  | targetPlayer (name : String)
  | targetNpc (id roomId : ℕ)
  | noTarget
  deriving DecidableEq

structure SpellEvent where
  type : ℕ
  target : Option SpellTarget
  deriving DecidableEq

structure SoteMaze where
  maze : ℕ
  overworldTiles : List Coords
  overworldPivots : List Coords
  underworldPivots : List Coords
  deriving DecidableEq

structure NyloWave where
  wave : ℕ
  nylosAlive : ℕ
  roomCap : ℕ
  deriving DecidableEq

structure Event where
  type : EventType
  tick : ℕ
  xCoord : ℤ := 0
  yCoord : ℤ := 0
  player : Option Player := none
  npc : Option Npc := none
  npcAttack : Option NpcAttackEvent := none
  playerAttack : Option AttackEvent := none
  playerSpell : Option SpellEvent := none
  maidenBloodSplats : List Coords := []
  verzikYellows : List Coords := []
  soteMaze : Option SoteMaze := none
  nyloWave : Option NyloWave := none
  deriving DecidableEq

structure TaggedEvent where
  source : Merging.ClientId
  event : Event
  deriving DecidableEq

namespace TaggedEvent

/-- Tags an event originating from the merger. -/
def synthetic (event : Event) : TaggedEvent := ⟨0, event⟩

end TaggedEvent

inductive MalformedEvent
  | missingPayload (kind : EventType) (tick : ℕ) (field : String)
  | outOfDomain (kind : EventType) (tick : ℕ) (field : String) (value : String)

end Blert.Timeline

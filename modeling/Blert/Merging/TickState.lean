import Blert.InsertionMap
import Blert.Merging.Event

/-!
The state of a tick.

A tick holds the events recorded on it, other than those that represent its state, and the state
of the players, NPCs and graphics seen on it. What was seen carries the client it was seen by.
Events are kept in one list in the order in which they were added, and read type by type.
-/

namespace Blert.Merging

/-! ### Actors -/

inductive DataSource
  | primary | secondary
  deriving DecidableEq

structure NpcAttacked where
  type : ℕ
  target : Option String
  sourceClientId : ClientId

structure AttackTarget where
  id : ℕ
  roomId : ℤ
  sourceClientId : ClientId

structure PlayerAttacked where
  type : ℕ
  weaponId : ℤ
  distanceToTarget : ℤ
  target : Option AttackTarget
  sourceClientId : ClientId

inductive SpellTarget
  | player (name : String)
  | npc (id : ℕ) (roomId : ℤ)

structure SpellCast where
  type : ℕ
  target : Option SpellTarget
  sourceClientId : ClientId

structure SkillLevel where
  base : ℤ
  current : ℤ

structure NpcState where
  id : ℕ
  position : Coords
  hitpoints : SkillLevel
  attack : Option NpcAttacked
  sourceClientId : ClientId

inductive EquipmentSlot
  | head | cape | amulet | ammo | weapon | torso | shield | legs | gloves | boots | ring | quiver

/-- The prayers of a player that are active above their head. -/
abbrev OverheadPrayers := List ℕ

structure PlayerState where
  source : DataSource
  username : String
  position : Coords
  /-- The IDs of the items that are worn. -/
  equipment : EquipmentSlot → Option ℤ
  overheads : OverheadPrayers
  attack : Option PlayerAttacked
  spell : Option SpellCast
  sourceClientId : ClientId

inductive GraphicsType
  | tobMaidenBloodSplats | tobVerzikYellows | tobSoteOverworldTiles
  deriving DecidableEq

/-- The tiles visible for each active type, with the client that first observed each. -/
abbrev GraphicsState := InsertionMap GraphicsType (InsertionMap Coords ClientId)

/-! ### Ticks -/

structure TickState where
  tick : ℤ
  events : List TaggedEvent
  playerStates : InsertionMap String (Option PlayerState)
  npcs : InsertionMap ℤ NpcState
  graphics : GraphicsState

/-- The ticks of a timeline, those without data being null. -/
abbrev TickStateArray := List (Option TickState)

namespace TickState

/-- Raw state-level events are not stored, only the state rebuilt from them. -/
def new (tick : ℤ) (events : List TaggedEvent)
    (playerStates : InsertionMap String (Option PlayerState)) (npcs : InsertionMap ℤ NpcState)
    (graphics : GraphicsState) : TickState :=
  { tick, events := events.filter fun t => !t.event.type.isTickState, playerStates, npcs, graphics }

def clone (state : TickState) : TickState :=
  new state.tick state.events state.playerStates state.npcs state.graphics

def getTaggedEventsByType (state : TickState) (type : EventType) : List TaggedEvent :=
  state.events.filter (·.event.type = type)

def getEvents (state : TickState) : List Event :=
  ((∅ : InsertionMap EventType (List Event)).pushAll
    (state.events.map fun t => (t.event.type, t.event))).values.flatten

def getPlayerState (state : TickState) (player : String) : Option PlayerState :=
  (state.playerStates.get player).join

def getNpcState (state : TickState) (roomId : ℤ) : Option NpcState := state.npcs.get roomId

def extractEvents (state : TickState) (types : List EventType) : List TaggedEvent × TickState :=
  (types.flatMap state.getTaggedEventsByType,
    { state with events := state.events.filter (·.event.type ∉ types) })

def addTaggedEvents (state : TickState) (events : List TaggedEvent) : TickState :=
  { state with events := state.events ++ events }

/-! ### Merging states -/

/-- A player's own data overwrites what others saw of them, but for what they did. -/
def mergePlayerState (current other : PlayerState) : PlayerState :=
  if current.source = .secondary ∧ other.source = .primary then
    { other with attack := current.attack, spell := current.spell }
  else current

def mergePlayers (players other : InsertionMap String (Option PlayerState)) :
    InsertionMap String (Option PlayerState) :=
  other.entries.foldl (fun players (player, otherState) =>
    match otherState with
    | none => players
    | some otherState =>
      match (players.get player).join with
      | none => players.set player (some otherState)
      | some current => players.set player (some (mergePlayerState current otherState))) players

/-- NPCs that appear in both keep the base view. -/
def mergeNpcs (npcs other : InsertionMap ℤ NpcState) : InsertionMap ℤ NpcState :=
  other.entries.foldl (fun npcs (roomId, otherState) =>
    if npcs.has roomId then npcs else npcs.set roomId otherState) npcs

/-- Tiles that were seen keep their first observer. -/
def mergeCoords (coords other : InsertionMap Coords ClientId) : InsertionMap Coords ClientId :=
  other.entries.foldl (fun coords (key, source) =>
    if coords.has key then coords else coords.set key source) coords

def mergeGraphics (graphics other : GraphicsState) : GraphicsState :=
  other.entries.foldl (fun graphics (type, otherCoords) =>
    graphics.set type (mergeCoords ((graphics.get type).getD ∅) otherCoords)) graphics

def merge (state other : TickState) : TickState :=
  { state with
    playerStates := mergePlayers state.playerStates other.playerStates
    npcs := mergeNpcs state.npcs other.npcs
    graphics := mergeGraphics state.graphics other.graphics }

def setPlayerAttack (state : TickState) (player : String) (attack : Option PlayerAttacked) :
    TickState :=
  { state with
    playerStates := state.playerStates.modify player (Option.map ({ · with attack })) }

def setPlayerSpell (state : TickState) (player : String) (spell : Option SpellCast) : TickState :=
  { state with
    playerStates := state.playerStates.modify player (Option.map ({ · with spell })) }

def setNpcAttack (state : TickState) (roomId : ℤ) (attack : Option NpcAttacked) : TickState :=
  { state with npcs := state.npcs.modify roomId ({ · with attack }) }

end TickState

end Blert.Merging

import Blert.Processing.Database
import Blert.Timeline.State

/-!
Events of the Theatre of Blood.

What the processor reads of the merged events of a stage, and what it knows of NPCs and items.
-/

namespace Blert.Theatre

open Lifecycle (Stage)
open Merging (EventType Coords)
open Timeline (SkillLevel ItemDelta EquipmentSlot)
open Processing (PrimaryMeleeGear)

/-! ### Payloads -/

/-- An attack of a player, the kinds that the processor does not tell apart being one. -/
inductive PlayerAttack
  | godswordSmack | hammerBop | challySwipe | elderMaul | tonalzticsAuto
  | chinBlack | chinGrey | chinRed
  | clawSpec | bgsSpec | dinhsSpec | challySpec | hammerSpec | voidwakerSpec | elderMaulSpec
  | tonalzticsSpec | volatileNmSpec
  | scytheUncharged
  | sangBarrage | shadowBarrage | toxicTridentBarrage | tridentBarrage | unknownBarrage
  | other
  deriving DecidableEq

inductive NpcAttack
  | tobVerzikP2Bounce | tobVerzikP3Auto | tobVerzikP3Melee | tobVerzikP3Range | tobVerzikP3Mage
  | other
  deriving DecidableEq

inductive MaidenCrabSpawn
  | seventies | fifties | thirties
  deriving DecidableEq

inductive NyloStyle
  | melee | range | mage
  deriving DecidableEq

/-- What is special of an NPC. Of a Nylo, it is told whether it spawned in a split. -/
inductive NpcType
  | basic
  | maidenCrab (spawn : MaidenCrabSpawn) (scuffed : Bool)
  | nylo (style : NyloStyle) (split : Bool)
  | verzikCrab
  deriving DecidableEq

inductive Maze
  | maze66 | maze33
  deriving DecidableEq

inductive XarpusPhase
  | p1 | p2 | p3
  deriving DecidableEq

inductive VerzikPhase
  | idle | p1 | p2 | p3
  deriving DecidableEq

inductive AttackStyle
  | melee | range | mage
  deriving DecidableEq

structure Player where
  partyIndex : ℕ
  equipmentDeltas : List ℕ := []
  deriving DecidableEq

structure Attack where
  type : PlayerAttack
  /-- The ID of the weapon. -/
  weapon : Option ℕ := none
  /-- The ID of the target. -/
  target : Option ℕ := none
  distanceToTarget : ℤ := -1
  deriving DecidableEq

structure Npc where
  id : ℕ
  hitpoints : ℕ := 0
  type : Option NpcType := none
  deriving DecidableEq

structure NpcAttackEvent where
  attack : NpcAttack
  target : Option String
  deriving DecidableEq

structure BloatDown where
  downNumber : ℕ
  upTicks : ℕ
  deriving DecidableEq

structure SoteMaze where
  maze : Maze
  overworldTiles : List Coords := []
  overworldPivots : List Coords := []
  underworldPivots : List Coords := []
  chosenPlayer : Option String := none
  deriving DecidableEq

structure VerzikBounce where
  npcAttackTick : ℤ
  bouncedPlayer : Option String
  deriving DecidableEq

structure VerzikAttackStyle where
  style : AttackStyle
  npcAttackTick : ℕ
  deriving DecidableEq

structure Event where
  type : EventType
  stage : Stage
  tick : ℕ
  player : Option Player := none
  playerAttack : Option Attack := none
  npc : Option Npc := none
  npcAttack : Option NpcAttackEvent := none
  bloatDown : Option BloatDown := none
  bloatHands : List Coords := []
  /-- The number of the wave. -/
  nyloWave : Option ℕ := none
  soteMaze : Option SoteMaze := none
  /-- The ticks on which an exhumed healed. -/
  xarpusExhumed : Option (List ℕ) := none
  xarpusPhase : XarpusPhase := .p1
  verzikPhase : VerzikPhase := .idle
  verzikBounce : Option VerzikBounce := none
  verzikAttackStyle : Option VerzikAttackStyle := none
  deriving DecidableEq

/-! ### NPCs -/

def isMaidenMatomenos (npcId : ℕ) : Bool := npcId ∈ [10820, 8366, 10828]

def isBloat (npcId : ℕ) : Bool := npcId ∈ [10812, 8359, 10813]

def isNylocas (npcId : ℕ) : Bool :=
  npcId ∈ [10774, 8342, 10791, 10780, 8348, 10797, 10777, 8345, 10794, 10783, 8351, 10800,
    10775, 8343, 10792, 10781, 8349, 10798, 10778, 8346, 10795, 10784, 8352, 10801,
    10776, 8344, 10793, 10782, 8350, 10799, 10779, 8347, 10796, 10785, 8353, 10802]

def nylocasVasiliasStyle (npcId : ℕ) : Option NyloStyle :=
  if npcId ∈ [10787, 8354, 10807, 10788, 8355, 10808] then some .melee
  else if npcId ∈ [10790, 8357, 10810] then some .range
  else if npcId ∈ [10789, 8356, 10809] then some .mage
  else none

def isVerzikP1 (npcId : ℕ) : Bool := npcId ∈ [10831, 10832, 8370, 8371, 10848, 10849]

def isVerzikMatomenos (npcId : ℕ) : Bool := npcId ∈ [10845, 8385, 10862]

/-! ### Gear -/

/-- Slots of equipment, by their wire values. -/
structure Slots where
  head : EquipmentSlot
  torso : EquipmentSlot

def addedInSlot (player : Player) (slot : EquipmentSlot) : Option ℤ :=
  player.equipmentDeltas.findSome? fun raw =>
    match ItemDelta.parse raw with
    | .ok d => if d.isAdded ∧ d.slot = slot then some d.id else none
    | .error _ => none

def tryDetermineGear (slots : Slots) (player : Player) : Option PrimaryMeleeGear :=
  let gear := (addedInSlot player slots.torso).bind fun id =>
    if id = 30779 then some PrimaryMeleeGear.radiantOathplate
    else if id = 30753 then some .oathplate
    else if id = 28256 then some .blorva
    else if id = 26384 then some .torva
    else if id = 11832 then some .bandos
    else none
  if (addedInSlot player slots.head).any fun id => id = 11665 ∨ id = 26477 then some .eliteVoid
  else gear

end Blert.Theatre

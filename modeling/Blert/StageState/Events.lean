import Mathlib.Tactic

/-!
The events of a stage as the web client receives them.

An event happens on a tick and carries the payload of its type. Once delivered it is an object:
later events and the state builders write some of its fields, and the maps and states that refer
to it see what has been written. An object is therefore its place among the events delivered and
the event as it was delivered, and what has been written since stands in columns of its own.
-/

namespace Blert.StageState

/-! ### Payloads -/

structure Coords where
  x : ℤ
  y : ℤ
  deriving DecidableEq, Inhabited

inductive AttackStyle
  | melee | range | mage
  deriving DecidableEq

/-- Attacks of NPCs, as far as the client tells them apart. -/
inductive NpcAttack
  | tobVerzikP2Bounce
  | tobVerzikP3Auto | tobVerzikP3Melee | tobVerzikP3Range | tobVerzikP3Mage
  | infernoMagerResurrect
  | mokhaiotlAuto | mokhaiotlMeleeAuto | mokhaiotlRangedAuto | mokhaiotlMageAuto
  | mokhaiotlBall | mokhaiotlRangedBall | mokhaiotlMageBall
  | other (type : ℕ)
  deriving DecidableEq

inductive XarpusPhase
  | p1 | p2 | p3
  deriving DecidableEq

inductive VerzikPhase
  | idle | p1 | p2 | p3
  deriving DecidableEq

inductive DataSource
  | primary | secondary
  deriving DecidableEq

/-- A player as an update reports them. Skill levels, prayers and item deltas are raw numbers. -/
structure Player where
  name : String
  source : DataSource
  offCooldownTick : ℤ
  hitpoints : Option ℤ := none
  prayer : Option ℤ := none
  attack : Option ℤ := none
  strength : Option ℤ := none
  defence : Option ℤ := none
  ranged : Option ℤ := none
  magic : Option ℤ := none
  prayerSet : ℕ
  equipmentDeltas : Option (List ℕ) := none
  snapshot : Option Bool := none
  deriving DecidableEq

structure BasicEventNpc where
  id : ℕ
  roomId : ℕ
  deriving DecidableEq

/-- What a crab or a nylo is, as a number that stands for its properties. -/
structure EventNpc extends BasicEventNpc where
  hitpoints : ℤ
  prayers : ℕ
  maidenCrab : Option ℕ := none
  nylo : Option ℕ := none
  verzikCrab : Option ℕ := none
  deriving DecidableEq

structure Item where
  id : ℕ
  name : String
  quantity : ℕ
  deriving DecidableEq

structure Attack where
  type : ℕ
  weapon : Option Item
  target : Option BasicEventNpc
  distanceToTarget : ℤ
  deriving DecidableEq

inductive SpellTarget
  | none
  | player (name : String)
  | npc (npc : BasicEventNpc)
  deriving DecidableEq

structure Spell where
  type : ℕ
  target : SpellTarget
  deriving DecidableEq

structure NpcAttackAction where
  attack : NpcAttack
  target : Option String := none
  deriving DecidableEq

/-! ### Events -/

inductive EventType
  | playerUpdate | playerAttack | playerSpell | playerDeath
  | npcSpawn | npcUpdate | npcDeath | npcAttack
  | tobBloatDown | tobBloatUp | tobNyloWaveSpawn | tobXarpusPhase | tobVerzikPhase
  | tobVerzikAttackStyle | tobVerzikBounce | tobVerzikDawn | tobVerzikHeal
  | mokhaiotlAttackStyle
  | other (type : ℕ)
  deriving DecidableEq

inductive Payload
  | playerUpdate (player : Player)
  | playerAttack (player : String) (attack : Attack)
  | playerSpell (player : String) (spell : Spell)
  | playerDeath (player : String)
  | npcSpawn (npc : EventNpc)
  | npcUpdate (npc : EventNpc)
  | npcDeath (npc : EventNpc)
  | npcAttack (npc : BasicEventNpc) (npcAttack : NpcAttackAction)
  | tobBloatDown
  | tobBloatUp
  | tobNyloWaveSpawn (wave : ℕ)
  | tobXarpusPhase (phase : XarpusPhase)
  | tobVerzikPhase (phase : VerzikPhase)
  | tobVerzikAttackStyle (style : AttackStyle) (npcAttackTick : ℤ)
  | tobVerzikBounce (npcAttackTick : ℤ) (bouncedPlayer : Option String)
  | tobVerzikDawn (attackTick : ℤ) (damage : ℤ) (player : String)
  | tobVerzikHeal (player : String) (healAmount : ℤ)
  | mokhaiotlAttackStyle (style : AttackStyle) (npcAttackTick : ℤ)
  | other (type : ℕ)
  deriving DecidableEq

namespace Payload

def type : Payload → EventType
  | playerUpdate _ => .playerUpdate
  | playerAttack _ _ => .playerAttack
  | playerSpell _ _ => .playerSpell
  | playerDeath _ => .playerDeath
  | npcSpawn _ => .npcSpawn
  | npcUpdate _ => .npcUpdate
  | npcDeath _ => .npcDeath
  | npcAttack _ _ => .npcAttack
  | tobBloatDown => .tobBloatDown
  | tobBloatUp => .tobBloatUp
  | tobNyloWaveSpawn _ => .tobNyloWaveSpawn
  | tobXarpusPhase _ => .tobXarpusPhase
  | tobVerzikPhase _ => .tobVerzikPhase
  | tobVerzikAttackStyle _ _ => .tobVerzikAttackStyle
  | tobVerzikBounce _ _ => .tobVerzikBounce
  | tobVerzikDawn _ _ _ => .tobVerzikDawn
  | tobVerzikHeal _ _ => .tobVerzikHeal
  | mokhaiotlAttackStyle _ _ => .mokhaiotlAttackStyle
  | other n => .other n

def player? : Payload → Option String
  | playerUpdate p => some p.name
  | playerAttack p _ => some p
  | playerSpell p _ => some p
  | playerDeath p => some p
  | _ => none

def npc? : Payload → Option EventNpc
  | npcSpawn n => some n
  | npcUpdate n => some n
  | npcDeath n => some n
  | _ => none

end Payload

structure Event where
  stage : ℕ
  tick : ℕ
  xCoord : ℤ := 0
  yCoord : ℤ := 0
  acc : Option Bool := none
  payload : Payload
  deriving DecidableEq

namespace Event

def type (e : Event) : EventType := e.payload.type

def belongsToPlayer (e : Event) (playerName : String) : Bool :=
  e.payload.player? = some playerName

def belongsToNpc (e : Event) (roomId : ℕ) : Bool :=
  e.payload.npc?.any (·.roomId = roomId)

end Event

/-! ### Event objects and what is written to them -/

/-- An event object: its place among the events delivered, and the event as delivered. -/
structure Obj where
  id : ℕ
  event : Event
  deriving DecidableEq

/-- The fields of event objects that have been written since their delivery. -/
structure Writes where
  /-- The style of an NPC's attack. -/
  attack : Obj → Option NpcAttack := fun _ => none
  /-- The target of an NPC's attack. -/
  target : Obj → Option (Option String) := fun _ => none
  /-- The name of the weapon a player attacks with. -/
  weaponName : Obj → Option String := fun _ => none
  /-- The damage of a player's attack. -/
  damage : Obj → Option ℤ := fun _ => none

namespace Writes

@[ext]
lemma ext {w w' : Writes} (ha : w.attack = w'.attack) (ht : w.target = w'.target)
    (hn : w.weaponName = w'.weaponName) (hd : w.damage = w'.damage) : w = w' := by
  cases w
  cases w'
  simp_all

def setAttack (w : Writes) (o : Obj) (a : NpcAttack) : Writes :=
  { w with attack := Function.update w.attack o (some a) }

def setTarget (w : Writes) (o : Obj) (t : Option String) : Writes :=
  { w with target := Function.update w.target o (some t) }

def setWeaponName (w : Writes) (o : Obj) (name : String) : Writes :=
  { w with weaponName := Function.update w.weaponName o (some name) }

def setDamage (w : Writes) (o : Obj) (d : ℤ) : Writes :=
  { w with damage := Function.update w.damage o (some d) }

def attackOf (w : Writes) (o : Obj) : Option NpcAttack :=
  match o.event.payload with
  | .npcAttack _ a => some ((w.attack o).getD a.attack)
  | _ => none

end Writes

end Blert.StageState

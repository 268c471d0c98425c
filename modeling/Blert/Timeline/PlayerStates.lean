import Blert.Timeline.State

/-!
The states of a player, as they are rebuilt from a client's events outside a timeline.

Each player of the party is followed through the ticks. A tick that has events of the player has a
state, in which the equipment is carried on from the last one and changed by each update in turn.
A raw delta is read as a number first.
-/

namespace Blert.Timeline.PlayerStates

open Merging (EventType Coords DataSource ClientId)

structure Stats where
  hitpoints : Option SkillLevel
  prayer : Option SkillLevel
  attack : Option SkillLevel
  strength : Option SkillLevel
  defence : Option SkillLevel
  ranged : Option SkillLevel
  magic : Option SkillLevel
  deriving DecidableEq

/-- A skill level from its raw form, which is read as a signed number. -/
def skillFromRaw (raw : ℕ) : SkillLevel :=
  ⟨(max (wrap32 raw / 2 ^ 16) 0).toNat, raw &&& 0xffff⟩

def readPlayerStats (player : Player) : Option Stats :=
  let stats : Stats :=
    { hitpoints := player.hitpoints.map skillFromRaw
      prayer := player.prayer.map skillFromRaw
      attack := player.attack.map skillFromRaw
      strength := player.strength.map skillFromRaw
      defence := player.defence.map skillFromRaw
      ranged := player.ranged.map skillFromRaw
      magic := player.magic.map skillFromRaw }
  if stats = ⟨none, none, none, none, none, none, none⟩ then none else some stats

structure State where
  source : DataSource
  username : String
  position : Coords
  isDead : Bool
  equipment : Container
  attack : Option Merging.PlayerAttacked
  spell : Option Merging.SpellCast
  stats : Option Stats
  offCooldownTick : Option ℕ
  prayers : PrayerSet
  sourceClientId : ClientId

def emptyEquipment : Container := fun _ => none

def isPlayerEvent (player : String) (event : Event) : Bool :=
  (event.type = .playerUpdate || event.type = .playerAttack || event.type = .playerSpell ||
    event.type = .playerDeath) && event.player.any (·.name = player)

def State.initial (clientId : ClientId) (player : String) (isDead : Bool) (last : Option State) :
    State where
  source := .secondary
  username := player
  position := ⟨(last.map (·.position.x)).getD 0, (last.map (·.position.y)).getD 0⟩
  isDead
  equipment := (last.map (·.equipment)).getD emptyEquipment
  attack := none
  spell := none
  stats := none
  offCooldownTick := none
  prayers := .empty
  sourceClientId := clientId

def readAttack (clientId : ClientId) (attack : AttackEvent) :
    Merging.PlayerAttacked where
  type := attack.type
  weaponId := (attack.weapon.map fun weapon => (weapon.1 : ℤ)).getD 0
  distanceToTarget := attack.distanceToTarget
  target := (attack.target.filter fun (id, roomId) => 0 < id ∧ 0 < roomId).map
    fun (id, roomId) => ⟨id, roomId, clientId⟩
  sourceClientId := clientId

def readSpellTarget : Option SpellTarget → Option Merging.SpellTarget
  | some (.targetPlayer name) => some (.player name)
  | some (.targetNpc id roomId) => some (.npc id roomId)
  | _ => none

def State.read (clientId : ClientId) (number : ℕ → ℕ) (state : State) (event : Event) :
    Option State :=
  match event.type with
  | .playerUpdate => event.player.map fun player =>
    { state with
      source := player.dataSource
      position := ⟨event.xCoord, event.yCoord⟩
      prayers := .fromRaw (player.activePrayers.getD 0)
      stats := readPlayerStats player
      equipment := Container.applyItemDeltas (player.equipmentDeltas.map number)
        (if player.snapshot then none else some state.equipment) }
  | .playerDeath => some { state with isDead := true }
  | .playerAttack => event.playerAttack.map fun attack =>
    { state with attack := some (readAttack clientId attack) }
  | .playerSpell => event.playerSpell.map fun spell =>
    { state with spell := some ⟨spell.type, readSpellTarget spell.target, clientId⟩ }
  | _ => some state

/-- A walk over the ticks, with the states so far and the last of them. -/
structure Walk where
  states : List (Option State)
  lastState : Option State
  isDead : Bool

def Walk.step (clientId : ClientId) (number : ℕ → ℕ) (player : String) (w : Walk)
    (tickEvents : List Event) : Option Walk :=
  let playerEvents := tickEvents.filter (isPlayerEvent player)
  if playerEvents = [] then some { w with states := w.states ++ [none] }
  else do
    let state ← playerEvents.foldlM (State.read clientId number)
      (.initial clientId player w.isDead w.lastState)
    return ⟨w.states ++ [some state], some state, state.isDead⟩

def statesOf (clientId : ClientId) (number : ℕ → ℕ) (eventsByTick : List (List Event))
    (player : String) : Option (List (Option State)) :=
  (eventsByTick.foldlM (Walk.step clientId number player) ⟨[], none, false⟩).map (·.states)

def buildPlayerStates (clientId : ClientId) (number : ℕ → ℕ) (eventsByTick : List (List Event))
    (party : List String) : Option (List (String × List (Option State))) :=
  party.mapM fun player => (statesOf clientId number eventsByTick player).map (player, ·)

end Blert.Timeline.PlayerStates

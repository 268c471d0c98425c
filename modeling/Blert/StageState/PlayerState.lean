import Blert.StageState.EventMaps
import Blert.InsertionMap

/-!
The states of a stage's players, tick by tick.

A player's state on a tick is built from their events on it, with the equipment carried over from
the last tick they were active on. Heals of Verzik and Dawnbringer attacks are then added to the
ticks they happened on. The builder extends the states it has to more ticks, and processes only
the ticks from where it stopped.
-/

namespace Blert.StageState

/-! ### Skills and items -/

structure SkillLevel where
  current : ℕ
  base : ℕ
  deriving DecidableEq

/-- The upper half of a 32-bit number is the current level, the lower half the base. -/
def SkillLevel.fromRaw (raw : ℤ) : SkillLevel where
  current := (raw.bmod (2 ^ 32) / 2 ^ 16).toNat
  base := (raw % 2 ^ 16).toNat

structure ItemDelta where
  itemId : ℕ
  quantity : ℕ
  slot : ℕ
  added : Bool

def ItemDelta.fromRaw (raw : ℕ) : ItemDelta where
  itemId := raw / 2 ^ 32 % 2 ^ 16
  quantity := raw % 2 ^ 31
  slot := raw / 2 ^ 48 % 2 ^ 5
  added := raw.testBit 31

abbrev PlayerEquipment := ℕ → Option Item

def emptyEquipment : PlayerEquipment := fun _ => none

def applyItemDelta (createItem : ℕ → ℕ → Item) (container : PlayerEquipment) (raw : ℕ) :
    PlayerEquipment :=
  let delta := ItemDelta.fromRaw raw
  let current := container delta.slot
  if delta.added then
    match current with
    | some item =>
      if item.id ≠ delta.itemId then
        Function.update container delta.slot (some (createItem delta.itemId delta.quantity))
      else
        Function.update container delta.slot
          (some (createItem delta.itemId (item.quantity + delta.quantity)))
    | none => Function.update container delta.slot (some (createItem delta.itemId delta.quantity))
  else
    match current with
    | some item =>
      if item.id = delta.itemId ∧ delta.quantity < item.quantity then
        Function.update container delta.slot
          (some (createItem delta.itemId (item.quantity - delta.quantity)))
      else Function.update container delta.slot none
    | none => Function.update container delta.slot none

def applyItemDeltas (deltas : List ℕ) (previous : Option PlayerEquipment)
    (createItem : ℕ → ℕ → Item) : PlayerEquipment :=
  deltas.foldl (applyItemDelta createItem) (previous.getD emptyEquipment)

/-! ### States -/

structure CustomPlayerState where
  label : String
  fullText : Option String := none
  icon : Option String := none

structure Skills where
  attack : Option SkillLevel := none
  defence : Option SkillLevel := none
  strength : Option SkillLevel := none
  hitpoints : Option SkillLevel := none
  prayer : Option SkillLevel := none
  ranged : Option SkillLevel := none
  magic : Option SkillLevel := none

/-- The attack of a state is the object of the event it came with. -/
structure PlayerState where
  acc : Option Bool
  xCoord : ℤ
  yCoord : ℤ
  tick : ℕ
  player : Player
  attack : Option Obj := none
  spell : Option Spell := none
  diedThisTick : Bool
  isDead : Bool
  equipment : PlayerEquipment
  skills : Skills
  customState : List CustomPlayerState

structure PlayerCursor where
  isDead : Bool := false
  lastActiveTick : Option ℕ := none

/-- A player's states on the ticks up to a length, and where processing them has got to. -/
structure PlayerEntry where
  length : ℕ
  stateByTick : ℕ → Option PlayerState := fun _ => none
  cursor : PlayerCursor := {}

/-! ### One tick of a player -/

/-- A state on a tick before any event of it is read. -/
def PlayerState.start (partyMember : String) (tick : ℕ) (isDead : Bool)
    (equipment : PlayerEquipment) : PlayerState where
  acc := some true
  xCoord := 0
  yCoord := 0
  tick := tick
  player := { name := partyMember, source := .secondary, offCooldownTick := 0, prayerSet := 0 }
  diedThisTick := false
  isDead := isDead
  equipment := equipment
  skills := {}
  customState := []

/-- The skills after an update, which may leave some out. -/
def Skills.update (s : Skills) (p : Player) : Skills where
  attack := (p.attack.map SkillLevel.fromRaw).or s.attack
  defence := (p.defence.map SkillLevel.fromRaw).or s.defence
  strength := (p.strength.map SkillLevel.fromRaw).or s.strength
  hitpoints := (p.hitpoints.map SkillLevel.fromRaw).or s.hitpoints
  prayer := (p.prayer.map SkillLevel.fromRaw).or s.prayer
  ranged := (p.ranged.map SkillLevel.fromRaw).or s.ranged
  magic := (p.magic.map SkillLevel.fromRaw).or s.magic

section

variable (getItemName : ℕ → String)

/-- The equipment after an update. A snapshot carries the player's full equipment. -/
def updateEquipment (equipment : PlayerEquipment) (p : Player) : PlayerEquipment :=
  if p.snapshot = some true ∨ p.equipmentDeltas.isSome then
    applyItemDeltas (p.equipmentDeltas.getD [])
      (if p.snapshot = some true then none else some equipment)
      (fun id quantity => ⟨id, getItemName id, quantity⟩)
  else equipment

/-- What an event of a player makes of their state. -/
def PlayerState.read (s : PlayerState) (o : Obj) : PlayerState :=
  match o.event.payload with
  | .playerDeath _ => { s with diedThisTick := true, isDead := true }
  | .playerUpdate p =>
    { s with
      acc := o.event.acc.or s.acc
      xCoord := o.event.xCoord
      yCoord := o.event.yCoord
      tick := o.event.tick
      player := p
      equipment := updateEquipment getItemName s.equipment p
      skills := s.skills.update p }
  | .playerAttack _ _ => { s with attack := some o }
  | .playerSpell _ spell => { s with spell := some spell }
  | _ => s

def nameWeapon (w : Writes) (o : Obj) : Writes :=
  match o.event.payload with
  | .playerAttack _ attack =>
    match attack.weapon with
    | some weapon => w.setWeaponName o (getItemName weapon.id)
    | none => w
  | _ => w

def Obj.isDeath (o : Obj) : Bool :=
  o.event.type = .playerDeath

/-- The equipment a player had on the tick they were last active on. -/
def PlayerEntry.lastEquipment (entry : PlayerEntry) : PlayerEquipment :=
  match entry.cursor.lastActiveTick.bind entry.stateByTick with
  | some s => s.equipment
  | none => emptyEquipment

def playerStateThisTick (partyMember : String) (tick : ℕ) (entry : PlayerEntry)
    (eventsForThisPlayer : List Obj) : Option PlayerState :=
  if eventsForThisPlayer ≠ [] then
    some (eventsForThisPlayer.foldl (PlayerState.read getItemName)
      (.start partyMember tick entry.cursor.isDead entry.lastEquipment))
  else if entry.cursor.isDead then some (.start partyMember tick true emptyEquipment)
  else none

def processPlayerTick (partyMember : String) (tick : ℕ) (entry : PlayerEntry) (w : Writes)
    (eventsForThisTick : List Obj) : PlayerEntry × Writes :=
  if eventsForThisTick = [] then (entry, w)
  else
    let mine := eventsForThisTick.filter (·.event.belongsToPlayer partyMember)
    ({ entry with
        stateByTick := Function.update entry.stateByTick tick
          (playerStateThisTick getItemName partyMember tick entry mine)
        cursor :=
          if mine ≠ [] then ⟨entry.cursor.isDead || mine.any Obj.isDeath, some tick⟩
          else entry.cursor },
      mine.foldl (nameWeapon getItemName) w)

/-! ### Heals and Dawnbringer attacks -/

def healState (healAmount : ℤ) : CustomPlayerState where
  icon := some "/images/npcs/8386.webp"
  label := toString healAmount
  fullText := some
    (if healAmount > 0 then "Healed Verzik for " ++ toString healAmount else "Healed Verzik")

def dawnState (damage : ℤ) : CustomPlayerState where
  label := toString damage
  fullText := some ("Dawnbringer special attack hit for " ++ toString damage)

def PlayerEntry.pushCustom (entry : PlayerEntry) (tick : ℕ) (s : PlayerState)
    (c : CustomPlayerState) : PlayerEntry :=
  { entry with
    stateByTick := Function.update entry.stateByTick tick
      (some { s with customState := s.customState ++ [c] }) }

/-- Adds a heal of Verzik to the tick it happened on. Beyond the states there is no tick, and
reading it throws. -/
def addHeal (partyMember : String) (fromTick : ℕ) (entry : PlayerEntry) (o : Obj) :
    Option PlayerEntry :=
  match o.event.payload with
  | .tobVerzikHeal player healAmount =>
    if o.event.tick < fromTick then some entry
    else if player ≠ partyMember then some entry
    else if entry.length ≤ o.event.tick then none
    else
      match entry.stateByTick o.event.tick with
      | some s => some (entry.pushCustom o.event.tick s (healState healAmount))
      | none => some entry
  | _ => some entry

/-- Adds the damage of a Dawnbringer attack to the tick of the attack, in the same way. -/
def addDawn (partyMember : String) (fromTick : ℕ) (entry : PlayerEntry × Writes) (o : Obj) :
    Option (PlayerEntry × Writes) :=
  match o.event.payload with
  | .tobVerzikDawn attackTick damage player =>
    if attackTick < fromTick then some entry
    else if player ≠ partyMember then some entry
    else if entry.1.length ≤ attackTick then none
    else
      match entry.1.stateByTick attackTick.toNat with
      | some s =>
        some (entry.1.pushCustom attackTick.toNat s (dawnState damage),
          match s.attack with
          | some attack => entry.2.setDamage attack damage
          | none => entry.2)
      | none => some entry
  | _ => some entry

def postprocessPlayerState (partyMember : String) (m : EventMaps) (fromTick : ℕ)
    (entry : PlayerEntry) (w : Writes) : Option (PlayerEntry × Writes) := do
  let entry ← (m.byType .tobVerzikHeal).foldlM (addHeal partyMember fromTick) entry
  (m.byType .tobVerzikDawn).foldlM (addDawn partyMember fromTick) (entry, w)

/-! ### The builder -/

structure PlayerStateBuilder where
  map : InsertionMap String PlayerEntry := ∅
  processedTicks : ℕ := 0

/-- The entry of a party member, who may be new, with room for more ticks. -/
def enterPlayer (totalTicks : ℕ) : Option PlayerEntry → PlayerEntry
  | some entry => { entry with length := max entry.length totalTicks }
  | none => { length := totalTicks }

def extendPlayer (m : EventMaps) (fromTick totalTicks : ℕ)
    (s : InsertionMap String PlayerEntry × Writes) (partyMember : String) :
    Option (InsertionMap String PlayerEntry × Writes) := do
  let entry := enterPlayer totalTicks (s.1.get partyMember)
  let (entry, w) := (List.range' fromTick (totalTicks - fromTick)).foldl
    (fun (acc : PlayerEntry × Writes) tick =>
      processPlayerTick getItemName partyMember tick acc.1 acc.2 (m.byTick tick))
    (entry, s.2)
  let (entry, w) ← postprocessPlayerState partyMember m fromTick entry w
  some (s.1.set partyMember entry, w)

def PlayerStateBuilder.extend (b : PlayerStateBuilder) (party : List String) (totalTicks : ℕ)
    (m : EventMaps) (w : Writes) : Option (PlayerStateBuilder × Writes) := do
  let (map, w) ← party.foldlM (extendPlayer getItemName m b.processedTicks totalTicks) (b.map, w)
  some (⟨map, totalTicks⟩, w)

/-- The states of a stage's players, in one pass. -/
def computePlayerState (party : List String) (totalTicks : ℕ) (m : EventMaps) (w : Writes) :
    Option (PlayerStateBuilder × Writes) :=
  PlayerStateBuilder.extend getItemName {} party totalTicks m w

end

end Blert.StageState

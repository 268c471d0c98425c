import Mathlib.Tactic

/-!
Gear setups.

A player of a setup has items in the slots of three containers. A slot goes by its index, which
is a number or, in the equipment, what is worn there. Which slots a container has and what fits
into them is laid down here, and what makes a player's gear valid.
-/

namespace Blert.Gear

inductive EquipmentSlot
  | head | cape | amulet | ammo | weapon | torso | shield | legs | gloves | boots | ring | quiver
  deriving DecidableEq

inductive SlotIndex
  | number (n : ℕ)
  | equipment (slot : EquipmentSlot)
  deriving DecidableEq

def NUM_INVENTORY_SLOTS : ℕ := 28
def NUM_POUCH_SLOTS : ℕ := 4

def QUIVER_SLOT_INDEX : SlotIndex := .number 99
def WEAPON : SlotIndex := .equipment .weapon
def SHIELD : SlotIndex := .equipment .shield

inductive Container
  | inventory | equipment | pouch
  deriving DecidableEq

structure SlotItem where
  id : ℕ
  quantity : ℕ
  deriving DecidableEq

/-- A slot that has been filled or commented on. -/
structure ItemSlot where
  index : SlotIndex
  item : Option SlotItem
  comment : Option String
  deriving DecidableEq

structure GearSetupPlayer where
  inventory : List ItemSlot
  equipment : List ItemSlot
  pouch : List ItemSlot
  deriving DecidableEq

namespace GearSetupPlayer

def slots (p : GearSetupPlayer) : Container → List ItemSlot
  | .inventory => p.inventory
  | .equipment => p.equipment
  | .pouch => p.pouch

def setSlots (p : GearSetupPlayer) (c : Container) (slots : List ItemSlot) : GearSetupPlayer :=
  match c with
  | .inventory => { p with inventory := slots }
  | .equipment => { p with equipment := slots }
  | .pouch => { p with pouch := slots }

end GearSetupPlayer

structure ItemData where
  id : ℕ
  slot : Option EquipmentSlot := none
  stackable : Bool := false
  twoHanded : Bool := false

def QUIVER_IDS : List ℕ := [28955, 28902, 28951]

def ItemSlot.isQuiver (s : ItemSlot) : Bool :=
  s.item.any fun item => QUIVER_IDS.contains item.id

/-- Whether the player has a Dizana's quiver equipped or in their inventory. -/
def hasQuiver (p : GearSetupPlayer) : Bool :=
  p.equipment.any ItemSlot.isQuiver || p.inventory.any ItemSlot.isQuiver

/-! ### The slots of a container -/

def RUNE_ITEMS : List ℕ :=
  [554, 555, 556, 557, 558, 562, 560, 565, 21880, 559, 564, 561, 563, 566, 9075, 4694, 4695, 4696,
    4697, 4698, 4699, 28929, 30843]

structure SlotMetadata where
  index : SlotIndex
  typeFilter : ItemData → Bool
  condition : Option (GearSetupPlayer → Bool) := none

def acceptAll (_ : ItemData) : Bool := true

def equipmentTypeFilter (slot : EquipmentSlot) (item : ItemData) : Bool := item.slot = some slot

def runeFilter (item : ItemData) : Bool := RUNE_ITEMS.contains item.id

def getSlotMetadata (c : Container) (index : SlotIndex) : Option SlotMetadata :=
  match c, index with
  | .inventory, .number n =>
    if n < NUM_INVENTORY_SLOTS then some { index := index, typeFilter := acceptAll } else none
  | .inventory, .equipment _ => none
  | .equipment, .equipment .quiver => none
  | .equipment, .equipment slot =>
    some { index := index, typeFilter := equipmentTypeFilter slot }
  | .equipment, .number n =>
    if n = 99 then
      some
        { index := index, typeFilter := equipmentTypeFilter .ammo, condition := some hasQuiver }
    else none
  | .pouch, .number n =>
    if n < NUM_POUCH_SLOTS then some { index := index, typeFilter := runeFilter } else none
  | .pouch, .equipment _ => none

/-! ### Coordinates -/

def getContainerDimensions : Container → ℤ × ℤ
  | .inventory => (4, 7)
  | .equipment => (3, 5)
  | .pouch => (4, 1)

def EQUIPMENT_GRID : List (List (Option SlotIndex)) :=
  [[none, some (.equipment .head), some QUIVER_SLOT_INDEX],
    [some (.equipment .cape), some (.equipment .amulet), some (.equipment .ammo)],
    [some WEAPON, some (.equipment .torso), some SHIELD],
    [none, some (.equipment .legs), none],
    [some (.equipment .gloves), some (.equipment .boots), some (.equipment .ring)]]

def coordsToIndex (x y : ℤ) (c : Container) : Option SlotIndex :=
  match c with
  | .inventory =>
    if x < 0 ∨ x ≥ 4 ∨ y < 0 ∨ y ≥ 7 then none else some (.number (y * 4 + x).toNat)
  | .equipment =>
    if y < 0 ∨ x < 0 then none
    else (EQUIPMENT_GRID[y.toNat]?.bind fun row => row[x.toNat]?).join
  | .pouch => if x < 0 ∨ x ≥ 4 ∨ y ≠ 0 then none else some (.number x.toNat)

/-! ### Valid gear -/

section

variable (getItem : ℕ → Option ItemData)

def isStackable (id : ℕ) : Bool := (getItem id).any ItemData.stackable

def is2hWeapon (item : Option SlotItem) : Bool :=
  (item.bind fun item => getItem item.id).any ItemData.twoHanded

def isShield (item : Option SlotItem) : Bool :=
  (item.bind fun item => getItem item.id).any fun data => data.slot = some .shield

end

end Blert.Gear

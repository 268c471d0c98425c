import Blert.Gear.Setup
import Blert.InsertionMap

/-!
Placing a selection of slots somewhere else in a setup.

A placement is validated slot by slot against the containers as they are, and against how many of
each item they would hold. Then the selected slots are written, and taken from where they were if
they are moved. At last a two-handed weapon and a shield that ended up together are separated. What
is known of items is given.
-/

namespace Blert.Gear

inductive PlacementMode
  | replace | merge | swap
  deriving DecidableEq

structure PlacementTarget where
  container : Container
  playerIndex : ℕ
  gridCoords : ℤ × ℤ

/-- A selected slot, its place in the selection and its index in the container. -/
structure SlotData where
  slot : Option ItemSlot
  localX : ℤ
  localY : ℤ
  index : SlotIndex
  deriving DecidableEq

inductive RegionType
  | dense | sparse
  deriving DecidableEq

structure Bounds where
  minX : ℤ
  minY : ℤ
  width : ℕ
  height : ℕ
  container : Container
  playerIndex : ℕ
  deriving DecidableEq

abbrev SlotKey := ℤ × ℤ

/-- A region of selected slots of one container. -/
structure SelectionRegion where
  type : RegionType
  bounds : Bounds
  slots : InsertionMap SlotKey SlotData
  deriving DecidableEq

inductive PlacementError
  | outOfBounds | nullSlot | typeMismatch | conditionNotMet | quiverNotVisible
  | twoHandedConflict | stackableDuplicate | occupiedSlot

structure SlotValidationResult where
  data : SlotData
  valid : Bool
  reason : Option PlacementError
  targetCoords : ℤ × ℤ
  targetIndex : Option SlotIndex

structure PlacementValidationResult where
  canPlace : Bool
  validSlots : ℕ
  totalSlots : ℕ
  slotResults : List (SlotKey × SlotValidationResult)

/-! ### Maps of slots -/

def slotAt (slots : List ItemSlot) (index : SlotIndex) : Option ItemSlot :=
  slots.find? (·.index = index)

def getItemAtSlot (p : GearSetupPlayer) (c : Container) (index : SlotIndex) : Option SlotItem :=
  (slotAt (p.slots c) index).bind ItemSlot.item

def slotMap (slots : List ItemSlot) : InsertionMap SlotIndex ItemSlot :=
  (∅ : InsertionMap SlotIndex ItemSlot).setAll (slots.map fun s => (s.index, s))

/-! ### Counting items -/

/-- The items that an operation puts into slots, or `none` in a slot it empties. -/
abbrev Changes := InsertionMap SlotIndex (Option SlotItem)

/-- How many slots of a container would hold an item after an operation. -/
def simulateContainerAfterOperation (p : GearSetupPlayer) (c : Container) (changes : Changes)
    (id : ℕ) : ℕ :=
  (p.slots c).countP (fun s => s.item.any (·.id = id) && !changes.has s.index) +
    changes.values.countP fun item => item.any (·.id = id)

section

variable (region : SelectionRegion) (target : PlacementTarget)
  (targetPlayer sourcePlayer : GearSetupPlayer) (mode : PlacementMode) (isMovingItems : Bool)

def targetIndexOf (anchor : ℤ × ℤ) (data : SlotData) : Option SlotIndex :=
  coordsToIndex (anchor.1 + data.localX) (anchor.2 + data.localY) target.container

/-- What is put into the slots of the target container. -/
def targetChanges (anchor : ℤ × ℤ) : Changes :=
  region.slots.values.foldl
    (fun changes data =>
      match targetIndexOf target anchor data with
      | some targetIndex => changes.set targetIndex (data.slot.bind ItemSlot.item)
      | none => changes) ∅

/-- What is put into the slots of the source container. -/
def sourceChanges (anchor : ℤ × ℤ) : Changes :=
  region.slots.values.foldl
    (fun changes data =>
      match targetIndexOf target anchor data with
      | some targetIndex =>
        if isMovingItems then
          changes.set data.index
            (if mode = .swap then getItemAtSlot targetPlayer target.container targetIndex
            else none)
        else changes
      | none => changes) ∅

def isSameContainer : Bool :=
  region.bounds.container = target.container ∧ region.bounds.playerIndex = target.playerIndex

/-- The items that the target and, when items are moved, the source container would hold. -/
def countItemsAfterOperation (anchor : ℤ × ℤ) : (ℕ → ℕ) × Option (ℕ → ℕ) :=
  let targetChanges := targetChanges region target anchor
  let sourceChanges := sourceChanges region target targetPlayer mode isMovingItems anchor
  if isSameContainer region target && isMovingItems then
    let combinedChanges := (sourceChanges.setAll targetChanges.entries)
    let targetAfter :=
      simulateContainerAfterOperation targetPlayer target.container combinedChanges
    (targetAfter, some targetAfter)
  else
    (simulateContainerAfterOperation targetPlayer target.container targetChanges,
      if isMovingItems then
        some (simulateContainerAfterOperation sourcePlayer region.bounds.container sourceChanges)
      else none)

end

section

variable (getItem : ℕ → Option ItemData)

/-- Why an item cannot be put into a slot of a player, if it cannot. -/
def canFitItemInSlot (slot : SlotMetadata) (player : GearSetupPlayer) (item : SlotItem)
    (itemCounts : Option (ℕ → ℕ)) : Option PlacementError :=
  let conditionError :=
    if slot.condition.any (fun condition => !condition player) then
      if slot.index = QUIVER_SLOT_INDEX then
        -- A quiver that the operation adds will do.
        if QUIVER_IDS.any fun id => itemCounts.any fun counts => 0 < counts id then none
        else some .quiverNotVisible
      else some .conditionNotMet
    else none
  match conditionError with
  | some error => some error
  | none =>
    if (getItem item.id).any (fun data => !slot.typeFilter data) then some .typeMismatch
    else if isStackable getItem item.id && itemCounts.any (fun counts => 1 < counts item.id) then
      some .stackableDuplicate
    else none

/-! ### Validating a placement -/

section

variable (region : SelectionRegion) (target : PlacementTarget)
  (targetPlayer sourcePlayer : GearSetupPlayer) (mode : PlacementMode)

def getAnchorCoords (offset : Option (ℤ × ℤ)) : ℤ × ℤ :=
  (target.gridCoords.1 - (offset.map Prod.fst).getD (region.bounds.width / 2 : ℕ),
    target.gridCoords.2 - (offset.map Prod.snd).getD (region.bounds.height / 2 : ℕ))

/-- Where a selected slot would go, or why there is no slot there. -/
def findTarget (targetCoords : ℤ × ℤ) : SlotIndex ⊕ PlacementError :=
  let (cols, rows) := getContainerDimensions target.container
  if targetCoords.1 < 0 ∨ targetCoords.1 ≥ cols ∨ targetCoords.2 < 0 ∨ targetCoords.2 ≥ rows then
    .inr .outOfBounds
  else
    match coordsToIndex targetCoords.1 targetCoords.2 target.container with
    | some targetIndex => .inl targetIndex
    | none => .inr .nullSlot

/-- Whether a selected slot can be written to a slot of the target. -/
def validateTarget (targetAfter : ℕ → ℕ) (data : SlotData) (targetIndex : SlotIndex) :
    Bool × Option PlacementError :=
  match getSlotMetadata target.container targetIndex with
  | none => (false, some .nullSlot)
  | some metadata =>
    let occupied := mode = .merge ∧
      (getItemAtSlot targetPlayer target.container targetIndex).isSome
    match data.slot.bind ItemSlot.item with
    | some item =>
      let reason := canFitItemInSlot getItem metadata targetPlayer item (some targetAfter)
      (!decide occupied && reason.isNone, reason)
    | none => (!decide occupied, if occupied then some .occupiedSlot else none)

/-- Whether what is in a slot of the target can be swapped into the slot that was selected. -/
def validateSource (sourceAfter : Option (ℕ → ℕ)) (data : SlotData) (targetIndex : SlotIndex) :
    Option PlacementError :=
  match getItemAtSlot targetPlayer target.container targetIndex with
  | some destItem =>
    match getSlotMetadata region.bounds.container data.index with
    | some metadata => canFitItemInSlot getItem metadata sourcePlayer destItem sourceAfter
    | none => none
  | none => none

def validateSlot (anchor : ℤ × ℤ) (after : (ℕ → ℕ) × Option (ℕ → ℕ)) (data : SlotData) :
    SlotValidationResult :=
  let targetCoords := (anchor.1 + data.localX, anchor.2 + data.localY)
  match findTarget target targetCoords with
  | .inr reason => ⟨data, false, some reason, targetCoords, none⟩
  | .inl targetIndex =>
    let (valid, reason) := validateTarget getItem target targetPlayer mode after.1 data targetIndex
    if valid ∧ mode = .swap then
      let reason := validateSource getItem region target targetPlayer sourcePlayer after.2 data
        targetIndex
      ⟨data, reason.isNone, reason, targetCoords, some targetIndex⟩
    else ⟨data, valid, reason, targetCoords, some targetIndex⟩

def lastKey (slotResults : List (SlotKey × SlotValidationResult))
    (p : SlotValidationResult → Bool) : Option (SlotKey × SlotValidationResult) :=
  (slotResults.filter fun r => r.2.valid && p r.2).getLast?

def invalidate (slotResults : List (SlotKey × SlotValidationResult)) (key : SlotKey) :
    List (SlotKey × SlotValidationResult) :=
  slotResults.map fun r =>
    if r.1 = key then (r.1, { r.2 with valid := false, reason := some .twoHandedConflict }) else r

/-- The item that is swapped into the source by a result. -/
def incomingItem (r : SlotValidationResult) : Option SlotItem :=
  r.targetIndex.bind (getItemAtSlot targetPlayer target.container)

/-- Invalidates slots that would bring a two-handed weapon and a shield into the equipment of the
target together, or else of the source in a swap. -/
def checkInternal2HandedConflict (slotResults : List (SlotKey × SlotValidationResult)) :
    List (SlotKey × SlotValidationResult) × ℕ :=
  let targetConflict :=
    if target.container = .equipment then
      match lastKey slotResults (·.targetIndex = some WEAPON),
          lastKey slotResults (·.targetIndex = some SHIELD) with
      | some weapon, some shield =>
        if is2hWeapon getItem (weapon.2.data.slot.bind ItemSlot.item) &&
            isShield getItem (shield.2.data.slot.bind ItemSlot.item) then
          some (weapon.1, shield.1)
        else none
      | _, _ => none
    else none
  let sourceConflict :=
    if mode = .swap ∧ region.bounds.container = .equipment then
      match lastKey slotResults fun r =>
            r.data.index = WEAPON && (incomingItem target targetPlayer r).isSome,
          lastKey slotResults fun r =>
            r.data.index = SHIELD && (incomingItem target targetPlayer r).isSome with
      | some weapon, some shield =>
        if is2hWeapon getItem (incomingItem target targetPlayer weapon.2) &&
            isShield getItem (incomingItem target targetPlayer shield.2) then
          some (weapon.1, shield.1)
        else none
      | _, _ => none
    else none
  match targetConflict.or sourceConflict with
  | some (weaponKey, shieldKey) => (invalidate (invalidate slotResults weaponKey) shieldKey, 2)
  | none => (slotResults, 0)

/-- A merge needs one valid slot, all else needs all of them. -/
def PlacementMode.accepts (validSlots totalSlots : ℕ) : PlacementMode → Bool
  | .replace => validSlots = totalSlots
  | .swap => validSlots = totalSlots
  | .merge => 0 < validSlots

def canPlaceRegion (isMovingItems : Bool) (offset : Option (ℤ × ℤ)) : PlacementValidationResult :=
  let anchor := getAnchorCoords region target offset
  let after :=
    countItemsAfterOperation region target targetPlayer sourcePlayer mode isMovingItems anchor
  let slotResults := region.slots.entries.map fun slot =>
    (slot.1, validateSlot getItem region target targetPlayer sourcePlayer mode anchor after slot.2)
  let (checked, invalidatedSlots) :=
    checkInternal2HandedConflict getItem region target targetPlayer mode slotResults
  let validSlots := slotResults.countP (·.2.valid) - invalidatedSlots
  let totalSlots := slotResults.length
  { canPlace := mode.accepts validSlots totalSlots
    validSlots := validSlots
    totalSlots := totalSlots
    slotResults := checked }

end

/-! ### Placing -/

/-- Which of a weapon and a shield an operation has put into the equipment. -/
structure Placed where
  weapon : Bool
  shield : Bool

def SlotIndex.length : SlotIndex → ℕ
  | number n => n + 1
  | equipment _ => 0

/-- The inventory as an array, which is long enough for its slots. -/
def inventoryLength (inventory : List ItemSlot) : ℕ :=
  inventory.foldl (fun length s => max length s.index.length) NUM_INVENTORY_SLOTS

/-- Puts an item that is taken off into the first free slot of the inventory, if there is one. -/
def putInInventory (playerInventory : List ItemSlot) (removed : ItemSlot) : List ItemSlot :=
  let updatedInventory := slotMap playerInventory
  match (List.range NUM_INVENTORY_SLOTS).find? fun n => !updatedInventory.has (.number n) with
  | some firstAvailable =>
    let updatedInventory :=
      updatedInventory.set (.number firstAvailable) { removed with index := .number firstAvailable }
    (List.range (inventoryLength playerInventory)).filterMap fun n =>
      updatedInventory.get (.number n)
  | none => playerInventory

/-- Takes off the weapon or the shield when a two-handed weapon is worn with a shield, and puts it
into the inventory. -/
def removeConflicting2hItem (placed : Placed) (playerEquipment : InsertionMap SlotIndex ItemSlot)
    (playerInventory : List ItemSlot) : InsertionMap SlotIndex ItemSlot × List ItemSlot :=
  if !placed.weapon && !placed.shield then (playerEquipment, playerInventory)
  else
    match playerEquipment.get WEAPON, playerEquipment.get SHIELD with
    | some playerWeapon, some playerShield =>
      if is2hWeapon getItem playerWeapon.item then
        if placed.shield then
          (playerEquipment.erase WEAPON, putInInventory playerInventory playerWeapon)
        else (playerEquipment.erase SHIELD, putInInventory playerInventory playerShield)
      else (playerEquipment, playerInventory)
    | _, _ => (playerEquipment, playerInventory)

/-- Separates a two-handed weapon from a shield in a player's gear. -/
def resolve2hConflict (placed : Placed) (p : GearSetupPlayer) : GearSetupPlayer :=
  let (equipment, inventory) := removeConflicting2hItem getItem placed (slotMap p.equipment)
    p.inventory
  { p with equipment := equipment.values, inventory := inventory }

variable (region : SelectionRegion) (target : PlacementTarget)
  (targetPlayer sourcePlayer : GearSetupPlayer) (mode : PlacementMode)

/-- A slot of one container as a slot of another. -/
def ItemSlot.at (s : ItemSlot) (index : SlotIndex) : ItemSlot := { s with index := index }

/-- Takes the slots that are moved out of the source container, and swaps in those of the
target. -/
def moveFromSource (results : List SlotValidationResult) : List ItemSlot :=
  ((slotMap (sourcePlayer.slots region.bounds.container)).assignAll
    (fun r => some r.data.index)
    (fun r index =>
      if mode = .swap then
        (r.targetIndex.bind (slotAt (targetPlayer.slots target.container))).map (·.at index)
      else none)
    results).values

/-- What is swapped into the equipment of the source. -/
def placedInSource (results : List SlotValidationResult) : Placed :=
  let swapped (index : SlotIndex) : Bool :=
    region.bounds.container = .equipment && results.any fun r => r.data.index = index &&
      (r.targetIndex.bind (slotAt (targetPlayer.slots target.container))).isSome
  ⟨swapped WEAPON, swapped SHIELD⟩

/-- Writes the selected slots into a container. -/
def writeToTarget (slots : List ItemSlot) (results : List SlotValidationResult) :
    List ItemSlot :=
  ((slotMap slots).assignAll SlotValidationResult.targetIndex
    (fun r index => r.data.slot.map (·.at index)) results).values

def placedInTarget (results : List SlotValidationResult) : Placed :=
  let written (index : SlotIndex) : Bool :=
    target.container = .equipment && results.any fun r =>
      r.targetIndex = some index && r.data.slot.isSome
  ⟨written WEAPON, written SHIELD⟩

def placedRegion (anchor : ℤ × ℤ) (results : List (SlotKey × SlotValidationResult)) :
    SelectionRegion where
  type := region.type
  bounds :=
    { region.bounds with
      minX := anchor.1
      minY := anchor.2
      container := target.container
      playerIndex := target.playerIndex }
  slots := results.foldl
    (fun (slots : InsertionMap SlotKey SlotData) r =>
      match r.2.targetIndex with
      | some targetIndex => slots.set r.1 { r.2.data with index := targetIndex }
      | none => slots) ∅

/-- Places a selection region into a container: the updated target and source players, and the
region's new location. Nothing is placed when the placement is not valid. -/
def placeRegion (isMovingItems : Bool) (offset : Option (ℤ × ℤ)) :
    Option (GearSetupPlayer × GearSetupPlayer × SelectionRegion) :=
  let valid := canPlaceRegion getItem region target targetPlayer sourcePlayer mode isMovingItems
    offset
  if !valid.canPlace then none
  else
    let validResults := valid.slotResults.filter (·.2.valid)
    let results := validResults.map Prod.snd
    let isSamePlayer := target.playerIndex = region.bounds.playerIndex
    let movedSlots := moveFromSource region target targetPlayer sourcePlayer mode results
    let placedSource :=
      if isMovingItems && mode = .swap then placedInSource region target targetPlayer results
      else ⟨false, false⟩
    let newRegion := placedRegion region target (getAnchorCoords region target offset) validResults
    let write (p : GearSetupPlayer) : GearSetupPlayer :=
      p.setSlots target.container (writeToTarget (p.slots target.container) results)
    let resolveSource (p : GearSetupPlayer) : GearSetupPlayer :=
      if mode = .swap then resolve2hConflict getItem placedSource p else p
    let resolveTarget := resolve2hConflict getItem (placedInTarget target results)
    let moved (p : GearSetupPlayer) : GearSetupPlayer :=
      if isMovingItems then p.setSlots region.bounds.container movedSlots else p
    if isSamePlayer then
      -- The source and the target are one object.
      let updated := resolveTarget (resolveSource (write (moved targetPlayer)))
      some (updated, updated, newRegion)
    else
      some (resolveTarget (write targetPlayer), resolveSource (moved sourcePlayer), newRegion)

def storePlayers (players : List GearSetupPlayer) (updatedTarget updatedSource : GearSetupPlayer) :
    List GearSetupPlayer :=
  (players.set target.playerIndex updatedTarget).set region.bounds.playerIndex updatedSource

end

end Blert.Gear

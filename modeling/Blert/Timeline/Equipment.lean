import Mathlib.Data.Nat.Bitwise
import Mathlib.Tactic

/-!
The equipment of a player and the deltas it changes by.

A delta packs a quantity, whether it is added, an item and a slot into a number. Two programs read
and write deltas: one has equipment as an array with 32-bit quantities, the other as a container of
whatever slots are named.
-/

namespace Blert.Timeline

/-! ### Deltas -/

def NUM_EQUIPMENT_SLOTS : ℕ := 12

abbrev EquipmentSlot := Fin NUM_EQUIPMENT_SLOTS

def EquipmentSlot.tryFrom (raw : ℕ) : Option EquipmentSlot :=
  if h : raw < NUM_EQUIPMENT_SLOTS then some ⟨raw, h⟩ else none

/-- A change in the quantity of an item that is worn. -/
inductive ItemDelta
  | add (slot : EquipmentSlot) (id quantity : ℤ)
  | remove (slot : EquipmentSlot) (id quantity : ℤ)
  deriving DecidableEq

def asU64 (n : ℤ) : ℕ := (n % 2 ^ 64).toNat

namespace ItemDelta

def QUANTITY_MASK : ℕ := 0x7fffffff
def ADDED_BIT : ℕ := 1 <<< 31
def ID_SHIFT : ℕ := 32
def ID_MASK : ℕ := 0xffff
def SLOT_SHIFT : ℕ := 48
def SLOT_MASK : ℕ := 0x1f

/-- Parses an item delta from its packed numeric representation. -/
def parse (rawDelta : ℕ) : Except String ItemDelta :=
  match EquipmentSlot.tryFrom (rawDelta >>> SLOT_SHIFT &&& SLOT_MASK) with
  | none => .error "invalid slot"
  | some slot =>
    let id := rawDelta >>> ID_SHIFT &&& ID_MASK
    let quantity := rawDelta &&& QUANTITY_MASK
    if rawDelta &&& ADDED_BIT ≠ 0 then .ok (.add slot id quantity)
    else .ok (.remove slot id quantity)

def isAdded : ItemDelta → Bool
  | add .. => true
  | remove .. => false

def slot : ItemDelta → EquipmentSlot
  | add slot _ _ | remove slot _ _ => slot

def id : ItemDelta → ℤ
  | add _ id _ | remove _ id _ => id

def quantity : ItemDelta → ℤ
  | add _ _ quantity | remove _ _ quantity => quantity

/-- Packs the delta into its numeric representation. -/
def toRaw (d : ItemDelta) : ℕ :=
  let raw := asU64 d.quantity &&& QUANTITY_MASK
  let raw := if d.isAdded then raw ||| ADDED_BIT else raw
  let raw := raw ||| (asU64 d.id &&& ID_MASK) <<< ID_SHIFT
  raw ||| (d.slot.val &&& SLOT_MASK) <<< SLOT_SHIFT

/-- The fields of a delta fit into their bits. -/
def InRange (d : ItemDelta) : Prop :=
  (0 ≤ d.id ∧ d.id < 2 ^ 16) ∧ 0 ≤ d.quantity ∧ d.quantity < 2 ^ 31

lemma toRaw_eq {d : ItemDelta} (h : d.InRange) :
    d.toRaw = 2 ^ 48 * d.slot.val + (2 ^ 32 * d.id.toNat +
      (2 ^ 31 * d.isAdded.toNat + d.quantity.toNat)) := by
  obtain ⟨⟨hid, hid'⟩, hquantity, hquantity'⟩ := h
  have hslot : d.slot.val < 2 ^ 5 := d.slot.isLt.trans (by decide)
  have hq : asU64 d.quantity &&& QUANTITY_MASK = d.quantity.toNat := by
    unfold asU64 QUANTITY_MASK
    rw [show 0x7fffffff = 2 ^ 31 - 1 from rfl, Nat.and_two_pow_sub_one_eq_mod]
    omega
  have hi : asU64 d.id &&& ID_MASK = d.id.toNat := by
    unfold asU64 ID_MASK
    rw [show 0xffff = 2 ^ 16 - 1 from rfl, Nat.and_two_pow_sub_one_eq_mod]
    omega
  have hs : d.slot.val &&& SLOT_MASK = d.slot.val := by
    unfold SLOT_MASK
    rw [show 0x1f = 2 ^ 5 - 1 from rfl, Nat.and_two_pow_sub_one_eq_mod, Nat.mod_eq_of_lt hslot]
  have hadded : (if d.isAdded then d.quantity.toNat ||| ADDED_BIT else d.quantity.toNat) =
      2 ^ 31 * d.isAdded.toNat + d.quantity.toNat := by
    cases d.isAdded with
    | false => simp
    | true =>
      have hor := Nat.or_two_pow_eq_add_of_lt (show d.quantity.toNat < 2 ^ 31 by omega)
      simp only [if_true, Bool.toNat_true]
      rw [ADDED_BIT, Nat.one_shiftLeft, hor]
      omega
  have hbit : d.isAdded.toNat ≤ 1 := Bool.toNat_le _
  have hlow : 2 ^ 31 * d.isAdded.toNat + d.quantity.toNat < 2 ^ 32 := by omega
  have hlow' : 2 ^ 32 * d.id.toNat + (2 ^ 31 * d.isAdded.toNat + d.quantity.toNat) < 2 ^ 48 := by
    omega
  unfold toRaw ID_SHIFT SLOT_SHIFT
  simp only [hq, hi, hs, hadded]
  rw [Nat.or_comm _ (d.id.toNat <<< 32), ← Nat.shiftLeft_add_eq_or_of_lt hlow,
    Nat.shiftLeft_eq, Nat.mul_comm d.id.toNat, Nat.or_comm,
    ← Nat.shiftLeft_add_eq_or_of_lt hlow', Nat.shiftLeft_eq, Nat.mul_comm d.slot.val]

lemma parse_toRaw {d : ItemDelta} (h : d.InRange) : parse d.toRaw = .ok d := by
  have hraw := toRaw_eq h
  obtain ⟨⟨hid, hid'⟩, hquantity, hquantity'⟩ := h
  have hslot : d.slot.val < 2 ^ 5 := d.slot.isLt.trans (by decide)
  have hbit : d.isAdded.toNat ≤ 1 := Bool.toNat_le _
  have hs : d.toRaw >>> SLOT_SHIFT &&& SLOT_MASK = d.slot.val := by
    unfold SLOT_SHIFT SLOT_MASK
    rw [show 0x1f = 2 ^ 5 - 1 from rfl, Nat.and_two_pow_sub_one_eq_mod,
      Nat.shiftRight_eq_div_pow, hraw]
    omega
  have hi : d.toRaw >>> ID_SHIFT &&& ID_MASK = d.id.toNat := by
    unfold ID_SHIFT ID_MASK
    rw [show 0xffff = 2 ^ 16 - 1 from rfl, Nat.and_two_pow_sub_one_eq_mod,
      Nat.shiftRight_eq_div_pow, hraw]
    omega
  have hq : d.toRaw &&& QUANTITY_MASK = d.quantity.toNat := by
    unfold QUANTITY_MASK
    rw [show 0x7fffffff = 2 ^ 31 - 1 from rfl, Nat.and_two_pow_sub_one_eq_mod, hraw]
    omega
  have hadded : d.toRaw &&& ADDED_BIT ≠ 0 ↔ d.isAdded = true := by
    unfold ADDED_BIT
    rw [Nat.one_shiftLeft, Nat.and_two_pow, Nat.testBit_eq_decide_div_mod_eq, hraw]
    have hdiv : (2 ^ 48 * d.slot.val + (2 ^ 32 * d.id.toNat + (2 ^ 31 * d.isAdded.toNat +
        d.quantity.toNat))) / 2 ^ 31 % 2 = d.isAdded.toNat := by omega
    rw [hdiv]
    cases d.isAdded <;> simp
  unfold parse EquipmentSlot.tryFrom
  rw [hs, dif_pos d.slot.isLt]
  dsimp only
  rw [hi, hq]
  cases d with
  | add slot id quantity =>
    rw [if_pos (hadded.mpr rfl)]
    have hid : (id.toNat : ℤ) = id := Int.toNat_of_nonneg hid
    have hquantity : (quantity.toNat : ℤ) = quantity := Int.toNat_of_nonneg hquantity
    show Except.ok (add slot (id.toNat : ℤ) (quantity.toNat : ℤ)) = _
    rw [hid, hquantity]
  | remove slot id quantity =>
    rw [if_neg fun h => absurd (hadded.mp h) nofun]
    have hid : (id.toNat : ℤ) = id := Int.toNat_of_nonneg hid
    have hquantity : (quantity.toNat : ℤ) = quantity := Int.toNat_of_nonneg hquantity
    show Except.ok (remove slot (id.toNat : ℤ) (quantity.toNat : ℤ)) = _
    rw [hid, hquantity]

end ItemDelta

/-! ### Items in slots -/

structure EquippedItem where
  id : ℤ
  quantity : ℤ
  deriving DecidableEq

/-- The signed 32-bit number that a sum or difference wraps to. -/
def wrap32 (n : ℤ) : ℤ := Int.bmod n (2 ^ 32)

lemma wrap32_eq {n : ℤ} (h : -2 ^ 31 ≤ n ∧ n < 2 ^ 31) : wrap32 n = n := by
  unfold wrap32
  rw [Int.bmod_def]
  split_ifs <;> omega

/-- What an addition or a removal makes of the item in a slot, where `num` is how numbers are
represented. -/
def change (num : ℤ → ℤ) (added : Bool) (id quantity : ℤ) (item : Option EquippedItem) :
    Option EquippedItem :=
  if added then
    match item with
    | some item =>
      if item.id = id then some { id, quantity := num (item.quantity + quantity) }
      else some { id, quantity }
    | none => some { id, quantity }
  else
    match item with
    | some item =>
      if item.id = id ∧ quantity < item.quantity then
        some { id, quantity := num (item.quantity - quantity) }
      else none
    | none => none

/-- The delta that leads from one item in a slot to another, if they differ. -/
def deltaAt (slot : EquipmentSlot) : Option EquippedItem → Option EquippedItem → Option ItemDelta
  | some curr, some prev =>
    if curr.id = prev.id then
      let delta := wrap32 (curr.quantity - prev.quantity)
      if delta ≠ 0 then
        if delta > 0 then some (.add slot curr.id delta)
        else some (.remove slot curr.id (wrap32 (-delta)))
      else none
    else some (.add slot curr.id curr.quantity)
  | some curr, none => some (.add slot curr.id curr.quantity)
  | none, some prev => some (.remove slot prev.id prev.quantity)
  | none, none => none

/-- An item has an ID of 16 bits and is there in a positive quantity. -/
def EquippedItem.InRange (item : EquippedItem) : Prop :=
  (0 ≤ item.id ∧ item.id < 2 ^ 16) ∧ 0 < item.quantity ∧ item.quantity < 2 ^ 31

section Slots

variable {slot : EquipmentSlot} {curr prev : Option EquippedItem} {d : ItemDelta}

lemma slot_of_deltaAt (h : deltaAt slot curr prev = some d) : d.slot = slot := by
  rcases curr with _ | curr <;> rcases prev with _ | prev <;> unfold deltaAt at h
  · cases h
  · cases h
    rfl
  · cases h
    rfl
  · dsimp only at h
    split_ifs at h <;> cases h <;> rfl

lemma wrap32_sub {a b : EquippedItem} (ha : a.InRange) (hb : b.InRange) :
    wrap32 (a.quantity - b.quantity) = a.quantity - b.quantity ∧
      wrap32 (-(a.quantity - b.quantity)) = b.quantity - a.quantity := by
  obtain ⟨-, ha, ha'⟩ := ha
  obtain ⟨-, hb, hb'⟩ := hb
  rw [neg_sub]
  exact ⟨wrap32_eq (by omega), wrap32_eq (by omega)⟩

lemma inRange_of_deltaAt (hcurr : ∀ item ∈ curr, item.InRange) (hprev : ∀ item ∈ prev, item.InRange)
    (h : deltaAt slot curr prev = some d) : d.InRange := by
  rcases curr with _ | curr <;> rcases prev with _ | prev <;> unfold deltaAt at h
  · cases h
  · obtain ⟨hid, hpos, hlt⟩ := hprev _ rfl
    cases h
    exact ⟨hid, hpos.le, hlt⟩
  · obtain ⟨hid, hpos, hlt⟩ := hcurr _ rfl
    cases h
    exact ⟨hid, hpos.le, hlt⟩
  · obtain ⟨hwrap, hneg⟩ := wrap32_sub (hcurr _ rfl) (hprev _ rfl)
    obtain ⟨hid, hpos, hlt⟩ := hcurr _ rfl
    obtain ⟨-, hpos', hlt'⟩ := hprev _ rfl
    simp only [hwrap, hneg] at h
    split_ifs at h with heq hne hgt <;> cases h
    · exact ⟨hid, hgt.le, show curr.quantity - prev.quantity < 2 ^ 31 by omega⟩
    · exact ⟨hid, show 0 ≤ prev.quantity - curr.quantity by omega,
        show prev.quantity - curr.quantity < 2 ^ 31 by omega⟩
    · exact ⟨hid, hpos.le, hlt⟩

lemma change_deltaAt {num : ℤ → ℤ} (hnum : ∀ n, 0 < n ∧ n < 2 ^ 31 → num n = n)
    (hcurr : ∀ item ∈ curr, item.InRange) (hprev : ∀ item ∈ prev, item.InRange) :
    ((deltaAt slot curr prev).elim prev fun d => change num d.isAdded d.id d.quantity prev) =
      curr := by
  rcases curr with _ | ⟨id, quantity⟩ <;> rcases prev with _ | ⟨id', quantity'⟩
  · rfl
  · simp [deltaAt, change, ItemDelta.isAdded, ItemDelta.id, ItemDelta.quantity]
  · rfl
  · obtain ⟨hwrap, hneg⟩ := wrap32_sub (hcurr _ rfl) (hprev _ rfl)
    obtain ⟨-, hpos, hlt⟩ := hcurr _ rfl
    obtain ⟨-, hpos', hlt'⟩ := hprev _ rfl
    have hself := hnum quantity ⟨hpos, hlt⟩
    simp only at hwrap hneg hpos hlt hpos' hlt'
    unfold deltaAt
    by_cases hid : id = id'
    · subst hid
      simp only [if_true, hwrap, hneg]
      split_ifs with hne hgt
      · simp [change, ItemDelta.isAdded, ItemDelta.id, ItemDelta.quantity, hself]
      · simp [change, ItemDelta.isAdded, ItemDelta.id, ItemDelta.quantity, hself, hpos]
      · have heq : quantity' = quantity := by omega
        simp [heq]
    · simp [hid, change, ItemDelta.isAdded, ItemDelta.id, ItemDelta.quantity, Ne.symm hid]

end Slots

lemma foldl_update {κ α δ : Type*} [DecidableEq κ] (key : δ → κ) (f : δ → α → α) (ds : List δ)
    (m : κ → α) (k : κ) :
    ds.foldl (fun m d => Function.update m (key d) (f d (m (key d)))) m k =
      (ds.filter (key · = k)).foldl (fun a d => f d a) (m k) := by
  induction ds generalizing m with
  | nil => rfl
  | cons d ds ih =>
    rw [List.foldl_cons, ih, List.filter_cons]
    by_cases h : key d = k
    · subst h
      simp
    · simp [h, Function.update_of_ne (Ne.symm h)]

/-! ### Equipment -/

abbrev Equipment := EquipmentSlot → Option EquippedItem

namespace Equipment

def empty : Equipment := fun _ => none

def apply (equipment : Equipment) (d : ItemDelta) : Equipment :=
  Function.update equipment d.slot (change wrap32 d.isAdded d.id d.quantity (equipment d.slot))

/-- Applies a player's equipment deltas onto what they wore, or rebuilds from scratch on a
snapshot. A delta that does not parse is returned. -/
def parse (snapshot : Bool) (deltas : List ℕ) (last : Option Equipment) : Except ℕ Equipment :=
  deltas.foldlM (fun equipment raw =>
    match ItemDelta.parse raw with
    | .ok d => .ok (equipment.apply d)
    | .error _ => .error raw)
    (if snapshot then empty else last.getD empty)

/-- A player's equipment deltas relative to their previous state. -/
def deltas (equipment : Equipment) (previous : Option Equipment) : List ItemDelta :=
  (List.finRange NUM_EQUIPMENT_SLOTS).filterMap fun slot =>
    deltaAt slot (equipment slot) (previous.bind (· slot))

/-- Rebuilds a player's equipment deltas relative to their previous state. -/
def createDeltas (equipment : Equipment) (previous : Option Equipment) : List ℕ :=
  (equipment.deltas previous).map ItemDelta.toRaw

def InRange (equipment : Equipment) : Prop := ∀ slot, ∀ item ∈ equipment slot, item.InRange

variable {equipment : Equipment} {previous : Option Equipment}

lemma filter_deltas (equipment : Equipment) (previous : Option Equipment) (slot : EquipmentSlot) :
    (equipment.deltas previous).filter (·.slot = slot) =
      (deltaAt slot (equipment slot) (previous.bind (· slot))).toList := by
  unfold deltas
  have hnodup := List.nodup_finRange NUM_EQUIPMENT_SLOTS
  have hmem := List.mem_finRange slot
  generalize List.finRange NUM_EQUIPMENT_SLOTS = slots at hnodup hmem
  -- No slot but one has deltas in the slot.
  have hnone : ∀ slots : List EquipmentSlot, slot ∉ slots →
      (slots.filterMap fun s => deltaAt s (equipment s) (previous.bind (· s))).filter
        (·.slot = slot) = [] := by
    intro slots hnot
    refine List.filter_eq_nil_iff.mpr fun d hd heq => ?_
    obtain ⟨s, hs, hdelta⟩ := List.mem_filterMap.mp hd
    exact hnot (of_decide_eq_true heq ▸ slot_of_deltaAt hdelta ▸ hs)
  induction slots with
  | nil => cases hmem
  | cons s slots ih =>
    rw [List.nodup_cons] at hnodup
    rw [List.filterMap_cons]
    rcases List.mem_cons.mp hmem with rfl | hmem
    · cases hdelta : deltaAt slot (equipment slot) (previous.bind (· slot)) with
      | none => exact hnone slots hnodup.1
      | some d => simp [slot_of_deltaAt hdelta, hnone slots hnodup.1]
    · have hne : s ≠ slot := fun heq => hnodup.1 (heq ▸ hmem)
      cases hdelta : deltaAt s (equipment s) (previous.bind (· s)) with
      | none => exact ih hnodup.2 hmem
      | some d =>
        have hd : d.slot ≠ slot := slot_of_deltaAt hdelta ▸ hne
        simpa [hd] using ih hnodup.2 hmem

lemma inRange_previous (hprev : ∀ e ∈ previous, e.InRange) (slot : EquipmentSlot) :
    ∀ item ∈ previous.bind (· slot), item.InRange := by
  intro item hitem
  obtain ⟨e, he, hitem⟩ := Option.bind_eq_some_iff.mp hitem
  exact hprev e he slot item hitem

lemma inRange_deltas (hcurr : equipment.InRange) (hprev : ∀ e ∈ previous, e.InRange) :
    ∀ d ∈ equipment.deltas previous, d.InRange := by
  intro d hd
  obtain ⟨slot, -, hdelta⟩ := List.mem_filterMap.mp hd
  exact inRange_of_deltaAt (hcurr slot) (inRange_previous hprev slot) hdelta

lemma foldl_deltas {num : ℤ → ℤ} (hnum : ∀ n, 0 < n ∧ n < 2 ^ 31 → num n = n)
    (hcurr : equipment.InRange) (hprev : ∀ e ∈ previous, e.InRange) (slot : EquipmentSlot) :
    ((equipment.deltas previous).filter (·.slot = slot)).foldl
        (fun item d => change num d.isAdded d.id d.quantity item) (previous.bind (· slot)) =
      equipment slot := by
  have h := @change_deltaAt slot _ _ _ hnum (hcurr slot) (inRange_previous hprev slot)
  rw [filter_deltas]
  refine Eq.trans ?_ h
  cases deltaAt slot (equipment slot) (previous.bind (· slot)) <;> rfl

lemma parse_map_toRaw {ds : List ItemDelta} (h : ∀ d ∈ ds, d.InRange) (last : Option Equipment) :
    parse false (ds.map ItemDelta.toRaw) last = .ok (ds.foldl apply (last.getD empty)) := by
  unfold parse
  rw [if_neg Bool.false_ne_true]
  generalize last.getD empty = equipment
  induction ds generalizing equipment with
  | nil => rfl
  | cons d ds ih =>
    rw [List.map_cons, List.foldlM_cons, ItemDelta.parse_toRaw (h d List.mem_cons_self)]
    exact ih (fun d' hd' => h d' (List.mem_cons_of_mem _ hd')) (equipment.apply d)

lemma exists_parse_iff {snapshot : Bool} {raws : List ℕ} {last : Option Equipment} :
    (∃ e, parse snapshot raws last = .ok e) ↔ ∀ raw ∈ raws, ∃ d, ItemDelta.parse raw = .ok d := by
  unfold parse
  generalize (if snapshot then empty else last.getD empty) = equipment
  induction raws generalizing equipment with
  | nil => exact ⟨fun _ _ hraw => absurd hraw List.not_mem_nil, fun _ => ⟨equipment, rfl⟩⟩
  | cons raw raws ih =>
    rw [List.foldlM_cons, List.forall_mem_cons]
    cases hraw : ItemDelta.parse raw with
    | error message =>
      constructor
      · rintro ⟨e, he⟩
        cases he
      · rintro ⟨⟨d, hd⟩, -⟩
        cases hd
    | ok d =>
      constructor
      · exact fun h => ⟨⟨d, rfl⟩, (ih (equipment.apply d)).mp h⟩
      · exact fun h => (ih (equipment.apply d)).mpr h.2

lemma parse_createDeltas (hcurr : equipment.InRange) (hprev : ∀ e ∈ previous, e.InRange) :
    parse false (equipment.createDeltas previous) previous = .ok equipment := by
  unfold createDeltas
  rw [parse_map_toRaw (inRange_deltas hcurr hprev)]
  refine congrArg Except.ok (funext fun slot => ?_)
  have hget : previous.getD empty slot = previous.bind (· slot) := by
    cases previous <;> rfl
  refine (foldl_update ItemDelta.slot (fun d => change wrap32 d.isAdded d.id d.quantity) _ _ _).trans
    ?_
  rw [hget]
  exact foldl_deltas (fun n hn => wrap32_eq (by omega)) hcurr hprev slot

end Equipment

/-! ### Containers -/

abbrev Container := ℕ → Option EquippedItem

namespace Container

structure Delta where
  itemId : ℤ
  quantity : ℤ
  slot : ℕ
  added : Bool

def Delta.fromRaw (raw : ℕ) : Delta where
  itemId := (raw >>> ItemDelta.ID_SHIFT &&& ItemDelta.ID_MASK : ℕ)
  quantity := (raw &&& ItemDelta.QUANTITY_MASK : ℕ)
  slot := raw >>> ItemDelta.SLOT_SHIFT &&& ItemDelta.SLOT_MASK
  added := raw &&& ItemDelta.ADDED_BIT ≠ 0

def Delta.toRaw (d : Delta) : ℕ :=
  let raw := asU64 d.quantity &&& ItemDelta.QUANTITY_MASK
  let raw := if d.added then raw ||| ItemDelta.ADDED_BIT else raw
  let raw := raw ||| (asU64 d.itemId &&& ItemDelta.ID_MASK) <<< ItemDelta.ID_SHIFT
  raw ||| (d.slot &&& ItemDelta.SLOT_MASK) <<< ItemDelta.SLOT_SHIFT

def apply (container : Container) (d : Delta) : Container :=
  Function.update container d.slot (change id d.added d.itemId d.quantity (container d.slot))

def applyItemDeltas (deltas : List ℕ) (previous : Option Container) : Container :=
  deltas.foldl (fun container raw => container.apply (.fromRaw raw))
    (previous.getD fun _ => none)

def deltaAt (slot : ℕ) : Option EquippedItem → Option EquippedItem → Option Delta
  | some curr, some prev =>
    if prev.id ≠ curr.id then some ⟨curr.id, curr.quantity, slot, true⟩
    else
      let delta := curr.quantity - prev.quantity
      if delta ≠ 0 then some ⟨curr.id, |delta|, slot, delta > 0⟩ else none
  | some curr, none => some ⟨curr.id, curr.quantity, slot, true⟩
  | none, some prev => some ⟨prev.id, prev.quantity, slot, false⟩
  | none, none => none

def createEquipmentDeltas (state : Container) (previous : Option Container) : List ℕ :=
  (List.range NUM_EQUIPMENT_SLOTS).filterMap fun slot =>
    (deltaAt slot (state slot) (previous.bind (· slot))).map Delta.toRaw

def Delta.of (d : ItemDelta) : Delta := ⟨d.id, d.quantity, d.slot.val, d.isAdded⟩

/-- The container of the items that are worn. -/
def of (equipment : Equipment) : Container := fun slot =>
  (EquipmentSlot.tryFrom slot).bind equipment

lemma of_val (equipment : Equipment) (slot : EquipmentSlot) :
    of equipment slot.val = equipment slot := by
  unfold of EquipmentSlot.tryFrom
  rw [dif_pos slot.isLt]
  rfl

lemma fromRaw_of_parse {raw : ℕ} {d : ItemDelta} (h : ItemDelta.parse raw = .ok d) :
    Delta.fromRaw raw = .of d := by
  unfold ItemDelta.parse EquipmentSlot.tryFrom at h
  unfold Delta.fromRaw Delta.of
  by_cases hslot : raw >>> ItemDelta.SLOT_SHIFT &&& ItemDelta.SLOT_MASK < NUM_EQUIPMENT_SLOTS
  · rw [dif_pos hslot] at h
    by_cases hadded : raw &&& ItemDelta.ADDED_BIT ≠ 0
    · simp only [if_pos hadded, Except.ok.injEq] at h
      subst h
      simp [ItemDelta.id, ItemDelta.quantity, ItemDelta.slot, ItemDelta.isAdded, hadded]
    · simp only [if_neg hadded, Except.ok.injEq] at h
      subst h
      simp [ItemDelta.id, ItemDelta.quantity, ItemDelta.slot, ItemDelta.isAdded, not_not.mp hadded]
  · rw [dif_neg hslot] at h
    cases h

lemma deltaAt_val (slot : EquipmentSlot) {curr prev : Option EquippedItem}
    (hcurr : ∀ item ∈ curr, item.InRange) (hprev : ∀ item ∈ prev, item.InRange) :
    deltaAt slot.val curr prev = (Timeline.deltaAt slot curr prev).map .of := by
  rcases curr with _ | curr <;> rcases prev with _ | prev
  · rfl
  · rfl
  · rfl
  · obtain ⟨hwrap, hneg⟩ := wrap32_sub (hcurr _ rfl) (hprev _ rfl)
    unfold deltaAt Timeline.deltaAt
    by_cases hid : curr.id = prev.id
    · simp only [hid, hwrap, hneg]
      by_cases hne : curr.quantity - prev.quantity = 0
      · simp [hne]
      · by_cases hgt : prev.quantity < curr.quantity
        · have habs := abs_of_pos (sub_pos.mpr hgt)
          simp [hne, hgt, habs, Delta.of, ItemDelta.id, ItemDelta.quantity,
            ItemDelta.slot, ItemDelta.isAdded]
        · have habs := abs_of_nonpos (sub_nonpos.mpr (not_lt.mp hgt))
          simp [hne, hgt, habs, Delta.of, ItemDelta.id, ItemDelta.quantity,
            ItemDelta.slot, ItemDelta.isAdded]
    · simp [hid, Ne.symm hid, Delta.of, ItemDelta.id, ItemDelta.quantity, ItemDelta.slot,
        ItemDelta.isAdded]

lemma applyItemDeltas_map_toRaw {ds : List ItemDelta} (h : ∀ d ∈ ds, d.InRange)
    (previous : Option Container) :
    applyItemDeltas (ds.map ItemDelta.toRaw) previous =
      (ds.map .of).foldl apply (previous.getD fun _ => none) := by
  unfold applyItemDeltas
  generalize previous.getD (fun _ => none) = container
  induction ds generalizing container with
  | nil => rfl
  | cons d ds ih =>
    have hparse := ItemDelta.parse_toRaw (h d List.mem_cons_self)
    rw [List.map_cons, List.foldl_cons, fromRaw_of_parse hparse]
    exact ih (fun d' hd' => h d' (List.mem_cons_of_mem _ hd')) (container.apply (.of d))

lemma tryFrom_eq_none {slot : ℕ} (h : ¬slot < NUM_EQUIPMENT_SLOTS) :
    EquipmentSlot.tryFrom slot = none := dif_neg h

variable {curr : Equipment} {prev : Option Equipment}

lemma bind_map_of (prev : Option Equipment) (slot : EquipmentSlot) :
    ((prev.map of).bind (· slot.val)) = prev.bind (· slot) := by
  cases prev with
  | none => rfl
  | some prev => exact of_val prev slot

lemma createEquipmentDeltas_of (hcurr : curr.InRange) (hprev : ∀ e ∈ prev, e.InRange) :
    createEquipmentDeltas (of curr) (prev.map of) = curr.createDeltas prev := by
  unfold createEquipmentDeltas Equipment.createDeltas Equipment.deltas
  rw [← List.map_coe_finRange_eq_range, List.filterMap_map, List.map_filterMap]
  refine List.filterMap_congr fun slot _ => ?_
  dsimp only [Function.comp_apply]
  rw [of_val, bind_map_of, deltaAt_val slot (hcurr slot)
    (Equipment.inRange_previous hprev slot), Option.map_map]
  rfl

lemma applyItemDeltas_createDeltas (hcurr : curr.InRange) (hprev : ∀ e ∈ prev, e.InRange) :
    applyItemDeltas (curr.createDeltas prev) (prev.map of) = of curr := by
  unfold Equipment.createDeltas
  rw [applyItemDeltas_map_toRaw (Equipment.inRange_deltas hcurr hprev)]
  refine funext fun slot => (foldl_update Delta.slot
    (fun d => change id d.added d.itemId d.quantity) _ _ slot).trans ?_
  rw [List.filter_map, List.foldl_map]
  by_cases hslot : slot < NUM_EQUIPMENT_SLOTS
  · obtain ⟨slot, rfl⟩ : ∃ s : EquipmentSlot, s.val = slot := ⟨⟨slot, hslot⟩, rfl⟩
    have hget : (prev.map of).getD (fun _ => none) slot.val = prev.bind (· slot) := by
      rw [← bind_map_of]
      cases prev <;> rfl
    have hfilter : (curr.deltas prev).filter ((decide <| Delta.slot · = slot.val) ∘ Delta.of) =
        (curr.deltas prev).filter (·.slot = slot) := by
      refine List.filter_congr fun d _ => ?_
      exact decide_eq_decide.mpr Fin.ext_iff.symm
    rw [of_val, hget, hfilter]
    exact Equipment.foldl_deltas (fun n _ => rfl) hcurr hprev slot
  · have hnone : (curr.deltas prev).filter ((decide <| Delta.slot · = slot) ∘ Delta.of) = [] := by
      refine List.filter_eq_nil_iff.mpr fun d _ hd => hslot ?_
      exact of_decide_eq_true hd ▸ d.slot.isLt
    have hof : ∀ e : Equipment, of e slot = none := by
      intro e
      unfold of
      rw [tryFrom_eq_none hslot]
      rfl
    rw [hnone, hof]
    cases prev with
    | none => rfl
    | some prev => exact hof prev

end Container

/-- **The deltas of a pair of equipments lead from the one to the other**, in both programs, and
each is parsed back from its packed form. -/
theorem Equipment.createDeltas_roundTrip (prev : Option Equipment) (curr : Equipment)
    (hprev : ∀ e ∈ prev, e.InRange) (hcurr : curr.InRange) :
    parse false (curr.createDeltas prev) prev = .ok curr ∧
      (∀ d ∈ curr.deltas prev, ItemDelta.parse d.toRaw = .ok d) ∧
      Container.createEquipmentDeltas (.of curr) (prev.map .of) = curr.createDeltas prev ∧
      Container.applyItemDeltas (curr.createDeltas prev) (prev.map .of) = .of curr :=
  ⟨parse_createDeltas hcurr hprev,
    fun d hd => ItemDelta.parse_toRaw (inRange_deltas hcurr hprev d hd),
    Container.createEquipmentDeltas_of hcurr hprev,
    Container.applyItemDeltas_createDeltas hcurr hprev⟩

/-- A player swaps what is in the first slot and uses up arrows. -/
theorem Equipment.createDeltas_roundTrip_swap :
    let prev : Equipment := fun slot =>
      if slot.val = 0 then some ⟨11665, 1⟩ else if slot.val = 11 then some ⟨21326, 75⟩ else none
    let curr : Equipment := fun slot =>
      if slot.val = 0 then some ⟨26384, 1⟩ else if slot.val = 11 then some ⟨21326, 74⟩ else none
    curr.createDeltas prev = [0x0000_6710_8000_0001, 0x000b_534e_0000_0001] ∧
      parse false (curr.createDeltas prev) prev = .ok curr ∧
      Container.applyItemDeltas (curr.createDeltas prev) (some (.of prev)) = .of curr := by
  intro prev curr
  have hprev : ∀ e ∈ some prev, e.InRange := by
    intro e he slot
    cases Option.mem_some.mp he
    revert slot
    unfold prev EquippedItem.InRange
    decide
  have hcurr : curr.InRange := by
    unfold InRange curr EquippedItem.InRange
    decide
  have h := createDeltas_roundTrip (some prev) curr hprev hcurr
  exact ⟨by decide, h.1, h.2.2.2⟩

end Blert.Timeline

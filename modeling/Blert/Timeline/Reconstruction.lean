import Blert.Timeline.Worn

/-!
Two reconstructions of what players wear.

Equipment that is rebuilt with 32-bit quantities, on a tick of several events from nothing, falls
out of step with what is worn and is in step again once a delta replaces the item. A walk over the
ticks that carries equipment on from event to event is always in step.
-/

namespace Blert.Timeline

open Fallible
open Merging (EventType Coords DataSource ClientId)

/-! ### Being in step -/

/-- The delta puts another item in the slot, or takes all of the one that is there. -/
def Replaces (item : EquippedItem) (d : ItemDelta) : Prop :=
  d.id ≠ item.id ∨ if d.isAdded then item.quantity = 0 else item.quantity ≤ d.quantity

/-- The delta adds to an item more than 32 bits hold. -/
def Overflows (item : EquippedItem) (d : ItemDelta) : Prop :=
  d.isAdded ∧ 2 ^ 31 ≤ item.quantity + d.quantity

/-- What is rebuilt of a slot, if in step with the item worn there or not, is in step with it at the
end of deltas of the slot. -/
def EndsInStep : Prop → Option EquippedItem → List ItemDelta → Prop
  | inStep, _, [] => inStep
  | inStep, item, d :: ds =>
    EndsInStep (∀ i ∈ item, Replaces i d ∨ inStep ∧ ¬Overflows i d)
      (change id d.isAdded d.id d.quantity item) ds

structure Follows (inStep : Prop) (rebuilt worn : Option EquippedItem) : Prop where
  same : inStep → rebuilt = worn ∧ ∀ i ∈ worn, 0 ≤ i.quantity ∧ i.quantity < 2 ^ 31
  lacks : ¬inStep → ∃ i, worn = some i ∧ 0 ≤ i.quantity ∧
    ∀ j ∈ rebuilt, j.id = i.id ∧ -2 ^ 31 ≤ j.quantity ∧ j.quantity < i.quantity ∧ 0 < i.quantity

section Steps

variable {inStep : Prop} {rebuilt worn : Option EquippedItem} {d : ItemDelta} {ds : List ItemDelta}

lemma wrap32_bounds (n : ℤ) : -2 ^ 31 ≤ wrap32 n ∧ wrap32 n < 2 ^ 31 := by
  unfold wrap32
  rw [Int.bmod_def]
  split_ifs <;> omega

lemma wrap32_le {n : ℤ} (h : -2 ^ 31 ≤ n) : wrap32 n ≤ n := by
  unfold wrap32
  rw [Int.bmod_def]
  split_ifs <;> omega

lemma Follows.eq_iff (h : Follows inStep rebuilt worn) : rebuilt = worn ↔ inStep := by
  refine ⟨fun heq => ?_, fun hin => (h.same hin).1⟩
  by_contra hnot
  obtain ⟨i, rfl, -, hlacks⟩ := h.lacks hnot
  obtain ⟨-, -, hlt, -⟩ := hlacks i heq
  exact lt_irrefl _ hlt

/-- What a delta makes of a slot that does not have its item. -/
def ItemDelta.fresh (d : ItemDelta) : Option EquippedItem :=
  if d.isAdded then some ⟨d.id, d.quantity⟩ else none

lemma change_other {num : ℤ → ℤ} {item : Option EquippedItem} (h : ∀ i ∈ item, d.id ≠ i.id) :
    change num d.isAdded d.id d.quantity item = d.fresh := by
  unfold change ItemDelta.fresh
  cases item with
  | none => rfl
  | some i => simp [Ne.symm (h i rfl)]

lemma change_same {num : ℤ → ℤ} {i : EquippedItem} (h : d.id = i.id) :
    change num d.isAdded d.id d.quantity (some i) =
      if d.isAdded then some ⟨d.id, num (i.quantity + d.quantity)⟩
      else if d.quantity < i.quantity then some ⟨d.id, num (i.quantity - d.quantity)⟩
      else none := by
  unfold change
  simp [h]

lemma Follows.id_eq {i j : EquippedItem} (h : Follows inStep rebuilt (some i)) (hj : j ∈ rebuilt) :
    j.id = i.id := by
  by_cases hin : inStep
  · rw [(h.same hin).1] at hj
    rw [Option.mem_some.mp hj]
  · obtain ⟨_, heq, -, hlacks⟩ := h.lacks hin
    cases heq
    exact (hlacks j hj).1

lemma Follows.nonneg {i : EquippedItem} (h : Follows inStep rebuilt (some i)) :
    0 ≤ i.quantity := by
  by_cases hin : inStep
  · exact ((h.same hin).2 i rfl).1
  · obtain ⟨_, heq, hnonneg, -⟩ := h.lacks hin
    cases heq
    exact hnonneg

lemma Follows.of_fresh (hd : 0 ≤ d.quantity ∧ d.quantity < 2 ^ 31) (hin : inStep) :
    Follows inStep d.fresh d.fresh := by
  refine ⟨fun _ => ⟨rfl, fun i hi => ?_⟩, fun hnot => absurd hin hnot⟩
  unfold ItemDelta.fresh at hi
  split_ifs at hi
  · cases hi
    exact hd
  · cases hi

lemma Follows.replaced {i : EquippedItem} (h : Follows inStep rebuilt (some i))
    (hreplaces : Replaces i d) (hd : 0 ≤ d.quantity ∧ d.quantity < 2 ^ 31) :
    change wrap32 d.isAdded d.id d.quantity rebuilt = d.fresh ∧
      change id d.isAdded d.id d.quantity (some i) = d.fresh := by
  by_cases hid : d.id = i.id
  · have hreplaces := hreplaces.resolve_left (not_not.mpr hid)
    have hworn : ∀ (num : ℤ → ℤ), num d.quantity = d.quantity →
        change num d.isAdded d.id d.quantity (some i) = d.fresh := by
      intro num hnum
      rw [change_same hid, ItemDelta.fresh]
      by_cases hadded : d.isAdded
      · rw [if_pos hadded] at hreplaces
        rw [if_pos hadded, if_pos hadded, hreplaces, zero_add, hnum]
      · rw [if_neg hadded] at hreplaces
        rw [if_neg hadded, if_neg hadded, if_neg (not_lt.mpr hreplaces)]
    refine ⟨?_, hworn id rfl⟩
    by_cases hin : inStep
    · rw [(h.same hin).1]
      exact hworn wrap32 (wrap32_eq (by omega))
    · obtain ⟨_, heq, -, hlacks⟩ := h.lacks hin
      cases heq
      cases rebuilt with
      | none => exact change_other (by simp)
      | some j =>
        obtain ⟨hj, -, hlt, hpos⟩ := hlacks j rfl
        by_cases hadded : d.isAdded
        · rw [if_pos hadded] at hreplaces
          exact absurd hreplaces hpos.ne'
        · rw [if_neg hadded] at hreplaces
          rw [change_same (hid.trans hj.symm), ItemDelta.fresh, if_neg hadded, if_neg hadded,
            if_neg (by omega)]
  · refine ⟨change_other fun j hj => ?_, change_other fun _ hi => ?_⟩
    · rwa [h.id_eq hj]
    · cases hi
      exact hid

lemma Follows.added {i : EquippedItem} (h : Follows inStep rebuilt (some i))
    (hd : 0 ≤ d.quantity ∧ d.quantity < 2 ^ 31) (hid : d.id = i.id) (hadded : d.isAdded)
    (hne : i.quantity ≠ 0) :
    Follows (inStep ∧ ¬Overflows i d) (change wrap32 d.isAdded d.id d.quantity rebuilt)
      (some ⟨d.id, i.quantity + d.quantity⟩) := by
  have hnonneg := h.nonneg
  refine ⟨fun ⟨hin, hbelow⟩ => ?_, fun hnot => ⟨_, rfl, add_nonneg hnonneg hd.1, fun j hj => ?_⟩⟩
  · have hsum : i.quantity + d.quantity < 2 ^ 31 := by
      by_contra hge
      exact hbelow ⟨hadded, not_lt.mp hge⟩
    rw [(h.same hin).1, change_same hid, if_pos hadded, wrap32_eq (by omega)]
    refine ⟨rfl, fun j hj => ?_⟩
    cases hj
    exact ⟨add_nonneg hnonneg hd.1, hsum⟩
  · dsimp only
    by_cases hin : inStep
    · -- The sum wraps to less than it is.
      have hover : Overflows i d := by
        by_contra hbelow
        exact hnot ⟨hin, hbelow⟩
      have hsum := hover.2
      have hbounds := wrap32_bounds (i.quantity + d.quantity)
      rw [(h.same hin).1, change_same hid, if_pos hadded] at hj
      cases hj
      exact ⟨rfl, hbounds.1, by dsimp only; omega, by omega⟩
    · obtain ⟨_, heq, -, hlacks⟩ := h.lacks hin
      cases heq
      cases rebuilt with
      | none =>
        rw [change_other (by simp), ItemDelta.fresh, if_pos hadded] at hj
        cases hj
        exact ⟨rfl, by dsimp only; omega, by dsimp only; omega, by omega⟩
      | some k =>
        obtain ⟨hk, hlow, hlt, hpos⟩ := hlacks k rfl
        have hle := @wrap32_le (k.quantity + d.quantity) (by omega)
        have hbounds := wrap32_bounds (k.quantity + d.quantity)
        rw [change_same (hid.trans hk.symm), if_pos hadded] at hj
        cases hj
        exact ⟨rfl, hbounds.1, by dsimp only; omega, by omega⟩

lemma Follows.removed {i : EquippedItem} (h : Follows inStep rebuilt (some i))
    (hd : 0 ≤ d.quantity ∧ d.quantity < 2 ^ 31) (hid : d.id = i.id) (hremoved : ¬d.isAdded)
    (hlt : d.quantity < i.quantity) :
    Follows inStep (change wrap32 d.isAdded d.id d.quantity rebuilt)
      (some ⟨d.id, i.quantity - d.quantity⟩) := by
  refine ⟨fun hin => ?_, fun hnot => ⟨_, rfl, sub_nonneg.mpr hlt.le, fun j hj => ?_⟩⟩
  · obtain ⟨heq, hrange⟩ := h.same hin
    have hrange := hrange i rfl
    rw [heq, change_same hid, if_neg hremoved, if_pos hlt, wrap32_eq (by omega)]
    refine ⟨rfl, fun j hj => ?_⟩
    cases hj
    exact ⟨sub_nonneg.mpr hlt.le, by dsimp only; omega⟩
  · obtain ⟨_, heq, -, hlacks⟩ := h.lacks hnot
    cases heq
    dsimp only
    cases rebuilt with
    | none =>
      rw [change_other (by simp), ItemDelta.fresh, if_neg hremoved] at hj
      cases hj
    | some k =>
      obtain ⟨hk, -, hlt', -⟩ := hlacks k rfl
      rw [change_same (hid.trans hk.symm), if_neg hremoved] at hj
      split_ifs at hj
      · cases hj
        have hle := @wrap32_le (k.quantity - d.quantity) (by omega)
        have hbounds := wrap32_bounds (k.quantity - d.quantity)
        exact ⟨rfl, hbounds.1, by dsimp only; omega, by omega⟩
      · cases hj

lemma Follows.step (h : Follows inStep rebuilt worn) (hd : 0 ≤ d.quantity ∧ d.quantity < 2 ^ 31) :
    Follows (∀ i ∈ worn, Replaces i d ∨ inStep ∧ ¬Overflows i d)
      (change wrap32 d.isAdded d.id d.quantity rebuilt)
      (change id d.isAdded d.id d.quantity worn) := by
  cases worn with
  | none =>
    have hnone : rebuilt = none := by
      by_contra hsome
      have hin : inStep := by
        by_contra hnot
        obtain ⟨_, heq, -⟩ := h.lacks hnot
        cases heq
      exact hsome (h.same hin).1
    rw [hnone, change_other (by simp), change_other (by simp)]
    exact .of_fresh hd (by simp)
  | some i =>
    by_cases hreplaces : Replaces i d
    · obtain ⟨hrebuilt, hworn⟩ := h.replaced hreplaces hd
      rw [hrebuilt, hworn]
      exact .of_fresh hd fun _ hi => Option.mem_some.mp hi ▸ .inl hreplaces
    · obtain ⟨hid, hkeeps⟩ := not_or.mp hreplaces
      have hid := not_not.mp hid
      have hnext : (∀ j ∈ some i, Replaces j d ∨ inStep ∧ ¬Overflows j d) ↔
          inStep ∧ ¬Overflows i d := by simp [hreplaces]
      rw [hnext, change_same hid]
      by_cases hadded : d.isAdded
      · rw [if_pos hadded] at hkeeps ⊢
        exact h.added hd hid hadded hkeeps
      · have hbelow : ¬Overflows i d := fun hover => hadded hover.1
        rw [if_neg hadded] at hkeeps ⊢
        rw [if_pos (not_le.mp hkeeps), and_iff_left hbelow]
        exact h.removed hd hid hadded (not_le.mp hkeeps)

lemma Follows.foldl (h : Follows inStep rebuilt worn)
    (hds : ∀ d ∈ ds, 0 ≤ d.quantity ∧ d.quantity < 2 ^ 31) :
    ds.foldl (fun item d => change wrap32 d.isAdded d.id d.quantity item) rebuilt =
        ds.foldl (fun item d => change id d.isAdded d.id d.quantity item) worn ↔
      EndsInStep inStep worn ds := by
  induction ds generalizing inStep rebuilt worn with
  | nil => exact h.eq_iff
  | cons d ds ih =>
    obtain ⟨hhead, htail⟩ := List.forall_mem_cons.mp hds
    exact ih (h.step hhead) htail

end Steps

/-! ### What a timeline has -/

/-- What is rebuilt on a tick is in step with what is worn, if it was before: the last update of the
player on the tick starts from what was worn before the tick if it is the first event of the player
there, and from nothing otherwise. -/
def InStep (name : String) (events : List TaggedEvent) (t : ℕ) : Prop :=
  ∀ earlier e later player, seenAt name events t = earlier ++ e :: later →
    updateOf name e = some player → (∀ x ∈ later, updateOf name x = none) →
    let before := if player.snapshot then .empty else worn name (wornBefore name events t) earlier
    ∀ slot, EndsInStep (earlier = [] ∨ before slot = none) (before slot)
      ((parsed player.equipmentDeltas).filter (·.slot = slot))

section Equipment

variable {name : String} {events earlier later : List TaggedEvent} {e : TaggedEvent}
  {previous equipment : Equipment} {current : Option Equipment} {player : Player} {t n : ℕ}
  {slot : EquipmentSlot} {ds : List ItemDelta} {d : ItemDelta}

lemma quantity_of_mem_parsed {raws : List ℕ} (h : d ∈ parsed raws) :
    0 ≤ d.quantity ∧ d.quantity < 2 ^ 31 := by
  obtain ⟨raw, -, hraw⟩ := List.mem_filterMap.mp h
  have hmask : raw &&& ItemDelta.QUANTITY_MASK < 2 ^ 31 :=
    lt_of_le_of_lt Nat.and_le_right (by decide)
  unfold ItemDelta.parse at hraw
  split at hraw
  · cases hraw
  · split_ifs at hraw <;> cases hraw <;>
      exact ⟨Int.natCast_nonneg _, by dsimp only [ItemDelta.quantity]; omega⟩

def Equipment.Holds (p : ℤ → Prop) (equipment : Equipment) : Prop :=
  ∀ slot, ∀ i ∈ equipment slot, p i.quantity

lemma holds_empty {p : ℤ → Prop} : Equipment.empty.Holds p := fun _ _ hi => nomatch hi

lemma holds_change {p : ℤ → Prop} {num : ℤ → ℤ} (h : equipment.Holds p) (hd : p d.quantity)
    (hadd : ∀ q, p q → p (num (q + d.quantity)))
    (hremove : ∀ q, p q → d.quantity < q → p (num (q - d.quantity))) :
    Equipment.Holds p (Function.update equipment d.slot
      (change num d.isAdded d.id d.quantity (equipment d.slot))) := by
  intro slot i hi
  by_cases hslot : slot = d.slot
  · subst hslot
    rw [Function.update_self] at hi
    by_cases hsame : ∃ j ∈ equipment d.slot, d.id = j.id
    · obtain ⟨j, hj, hid⟩ := hsame
      have hold := h d.slot j hj
      rw [hj, change_same hid] at hi
      split_ifs at hi with hadded hlt
      · cases hi
        exact hadd _ hold
      · cases hi
        exact hremove _ hold hlt
      · cases hi
    · push Not at hsame
      rw [change_other hsame, ItemDelta.fresh] at hi
      split_ifs at hi
      · cases hi
        exact hd
      · cases hi
  · rw [Function.update_of_ne hslot] at hi
    exact h slot i hi

lemma nonneg_worn (h : equipment.Holds (0 ≤ ·)) : (worn name equipment events).Holds (0 ≤ ·) := by
  refine List.foldlRecOn (motive := Equipment.Holds (0 ≤ ·)) _ _ h fun equipment h player _ => ?_
  refine List.foldlRecOn (motive := Equipment.Holds (0 ≤ ·)) _ _ ?_ fun equipment h d hd => ?_
  · split_ifs
    · exact holds_empty
    · exact h
  · have hd := quantity_of_mem_parsed hd
    exact holds_change h hd.1 (fun q hq => add_nonneg hq hd.1) fun q _ hlt => sub_nonneg.mpr hlt.le

lemma nonneg_wornBefore : (wornBefore name events n).Holds (0 ≤ ·) := nonneg_worn holds_empty

lemma lt_foldl_apply {raws : List ℕ} (h : equipment.Holds (· < 2 ^ 31)) :
    ((parsed raws).foldl Equipment.apply equipment).Holds (· < 2 ^ 31) := by
  refine List.foldlRecOn (motive := Equipment.Holds (· < 2 ^ 31)) _ _ h fun equipment h d hd => ?_
  exact holds_change h (quantity_of_mem_parsed hd).2 (fun _ _ => (wrap32_bounds _).2)
    fun _ _ _ => (wrap32_bounds _).2

lemma lt_rebuild (h : previous.Holds (· < 2 ^ 31))
    (hcurrent : (current.getD previous).Holds (· < 2 ^ 31)) :
    ((rebuild previous current e).getD previous).Holds (· < 2 ^ 31) := by
  unfold rebuild
  split
  · refine lt_foldl_apply ?_
    split_ifs
    · exact holds_empty
    · exact h
  · exact hcurrent

lemma lt_rebuiltBefore : (rebuiltBefore name events n).Holds (· < 2 ^ 31) := by
  induction n with
  | zero => exact holds_empty
  | succ n ih =>
    unfold rebuiltBefore
    refine List.foldlRecOn (motive := fun current : Option Equipment =>
      (current.getD (rebuiltBefore name events n)).Holds (· < 2 ^ 31)) _ _ ih fun _ h e _ => ?_
    exact lt_rebuild ih h

/-- Deltas lead equipment that is rebuilt to what is worn exactly if they end in step in each
slot. -/
lemma foldl_apply_eq_iff {start before : Equipment} {inStep : EquipmentSlot → Prop}
    (h : ∀ slot, Follows (inStep slot) (start slot) (before slot))
    (hds : ∀ d ∈ ds, 0 ≤ d.quantity ∧ d.quantity < 2 ^ 31) :
    ds.foldl Equipment.apply start = ds.foldl Equipment.wear before ↔
      ∀ slot, EndsInStep (inStep slot) (before slot) (ds.filter (·.slot = slot)) := by
  rw [funext_iff]
  refine forall_congr' fun slot => ?_
  have happly := foldl_update ItemDelta.slot
    (fun d => change wrap32 d.isAdded d.id d.quantity) ds start slot
  have hwear := foldl_update ItemDelta.slot
    (fun d => change id d.isAdded d.id d.quantity) ds before slot
  rw [← (h slot).foldl fun d hd => hds d (List.mem_of_mem_filter hd)]
  exact Eq.congr happly hwear

lemma rebuilt_update_iff (hsorted : events.Pairwise (·.event.tick ≤ ·.event.tick))
    (h : rebuiltBefore name events t = wornBefore name events t)
    (hseen : seenAt name events t = earlier ++ e :: later)
    (hupdate : updateOf name e = some player) (hlater : ∀ x ∈ later, updateOf name x = none) :
    let before := if player.snapshot then .empty else worn name (wornBefore name events t) earlier
    rebuiltBefore name events (t + 1) = wornBefore name events (t + 1) ↔
      ∀ slot, EndsInStep (earlier = [] ∨ before slot = none) (before slot)
        ((parsed player.equipmentDeltas).filter (·.slot = slot)) := by
  intro before
  have hother : ∀ x ∈ later, x.event.type ≠ .playerUpdate := by
    intro x hx
    have hmem : x ∈ seenAt name events t := hseen ▸ by simp [hx]
    exact type_ne_of_updateOf (hlater x hx) (List.mem_filter.mp hmem).2
  have hworn : wornBefore name events (t + 1) =
      (parsed player.equipmentDeltas).foldl Equipment.wear before := by
    have hnone : later.filterMap (updateOf name) = [] :=
      List.filterMap_eq_nil_iff.mpr hlater
    rw [wornBefore_succ hsorted, hseen, worn_append]
    unfold worn
    rw [List.filterMap_cons_some hupdate, hnone]
    rfl
  have hrebuilt : rebuiltBefore name events (t + 1) = (parsed player.equipmentDeltas).foldl
      Equipment.apply (if earlier = [] ∧ ¬player.snapshot then wornBefore name events t
        else .empty) := by
    rw [rebuiltBefore, hseen, getD_foldl_rebuild hupdate hother, h]
  rw [hworn, hrebuilt]
  refine foldl_apply_eq_iff (fun slot => ?_) fun d hd => quantity_of_mem_parsed hd
  by_cases hfirst : earlier = [] ∧ ¬player.snapshot
  · obtain ⟨rfl, hsnapshot⟩ := hfirst
    have hbefore : before = wornBefore name events t := if_neg hsnapshot
    rw [if_pos ⟨rfl, hsnapshot⟩, hbefore]
    refine ⟨fun _ => ⟨rfl, fun i hi => ⟨nonneg_wornBefore slot i hi, ?_⟩⟩, fun hnot => ?_⟩
    · rw [← h] at hi
      exact lt_rebuiltBefore slot i hi
    · exact absurd (.inl rfl) hnot
  · have hempty : earlier = [] → before slot = none := by
      intro hnil
      have hsnapshot : player.snapshot := by
        by_contra hnot
        exact hfirst ⟨hnil, hnot⟩
      exact congrFun (if_pos hsnapshot) slot
    rw [if_neg hfirst]
    refine ⟨fun hin => ?_, fun hnot => ?_⟩
    · have hnone := hin.elim hempty fun hnone => hnone
      rw [hnone]
      exact ⟨rfl, by simp⟩
    · obtain ⟨i, hi⟩ := Option.ne_none_iff_exists'.mp (not_or.mp hnot).2
      refine ⟨i, hi, ?_, fun j hj => by cases hj⟩
      have hholds : before.Holds (0 ≤ ·) := by
        unfold before
        split_ifs
        · exact holds_empty
        · exact nonneg_worn nonneg_wornBefore
      exact hholds slot i hi

lemma rebuiltBefore_succ_iff (hsorted : events.Pairwise (·.event.tick ≤ ·.event.tick))
    (h : rebuiltBefore name events t = wornBefore name events t) :
    rebuiltBefore name events (t + 1) = wornBefore name events (t + 1) ↔
      InStep name events t := by
  constructor
  · intro heq earlier e later player hseen hupdate hlater
    exact (rebuilt_update_iff hsorted h hseen hupdate hlater).mp heq
  · intro hin
    -- The last update of the player on the tick is the one that decides.
    rcases forall_or_first (updateOf name · = none) (seenAt name events t).reverse with
      hnone | ⟨later, e, earlier, hreverse, hlater, hupdate⟩
    · have hnone : ∀ x ∈ seenAt name events t, updateOf name x = none := fun x hx =>
        hnone x (List.mem_reverse.mpr hx)
      have hworn : wornBefore name events (t + 1) = wornBefore name events t := by
        rw [wornBefore_succ hsorted]
        unfold worn
        rw [List.filterMap_eq_nil_iff.mpr hnone]
        rfl
      have hrebuilt : rebuiltBefore name events (t + 1) = rebuiltBefore name events t :=
        getD_foldl_rebuild_of_none fun x hx =>
          type_ne_of_updateOf (hnone x hx) (List.mem_filter.mp hx).2
      rw [hworn, hrebuilt, h]
    · have hseen : seenAt name events t = earlier.reverse ++ e :: later.reverse := by
        rw [← List.reverse_reverse (seenAt name events t), hreverse]
        simp
      have hlater : ∀ x ∈ later.reverse, updateOf name x = none := fun x hx =>
        hlater x (List.mem_reverse.mp hx)
      obtain ⟨player, hplayer⟩ := Option.ne_none_iff_exists'.mp hupdate
      exact (rebuilt_update_iff hsorted h hseen hplayer hlater).mpr
        (hin _ e _ player hseen hplayer hlater)

lemma rebuiltBefore_eq_iff (hsorted : events.Pairwise (·.event.tick ≤ ·.event.tick)) :
    (∀ t, rebuiltBefore name events t = wornBefore name events t) ↔
      ∀ t, InStep name events t := by
  constructor
  · exact fun h t => (rebuiltBefore_succ_iff hsorted (h t)).mp (h (t + 1))
  · intro h t
    induction t with
    | zero => exact wornBefore_zero.symm
    | succ t ih => exact (rebuiltBefore_succ_iff hsorted ih).mpr (h t)

end Equipment

/-! ### A walk over the ticks -/

namespace Container

variable {equipment : Equipment} {d : ItemDelta} {raws : List ℕ}

lemma of_empty : of .empty = fun _ => none := by
  funext s
  unfold of
  cases EquipmentSlot.tryFrom s <;> rfl

lemma of_update {slot : EquipmentSlot} {item : Option EquippedItem} :
    of (Function.update equipment slot item) = Function.update (of equipment) slot.val item := by
  funext s
  by_cases heq : s = slot.val
  · subst heq
    rw [of_val, Function.update_self, Function.update_self]
  · rw [Function.update_of_ne heq]
    unfold of EquipmentSlot.tryFrom
    by_cases hs : s < NUM_EQUIPMENT_SLOTS
    · rw [dif_pos hs, Option.bind_some, Option.bind_some]
      exact Function.update_of_ne (fun h => heq (congrArg Fin.val h)) _ _
    · rw [dif_neg hs]
      rfl

lemma apply_of : (of equipment).apply (.of d) = of (equipment.wear d) := by
  unfold Container.apply Equipment.wear
  rw [of_update]
  show Function.update (of equipment) d.slot.val
    (change id d.isAdded d.id d.quantity (of equipment d.slot.val)) = _
  rw [of_val]

lemma foldl_apply_of (h : ∀ raw ∈ raws, ∃ d, ItemDelta.parse raw = .ok d) :
    raws.foldl (fun container raw => container.apply (.fromRaw raw)) (of equipment) =
      of ((parsed raws).foldl Equipment.wear equipment) := by
  induction raws generalizing equipment with
  | nil => rfl
  | cons raw raws ih =>
    obtain ⟨⟨d, hd⟩, htail⟩ := List.forall_mem_cons.mp h
    have hparsed : parsed (raw :: raws) = d :: parsed raws := by
      simp [parsed, hd, Except.toOption]
    rw [hparsed, List.foldl_cons, List.foldl_cons, fromRaw_of_parse hd, apply_of]
    exact ih htail

lemma applyItemDeltas_of {player : Player}
    (h : ∀ raw ∈ player.equipmentDeltas, ∃ d, ItemDelta.parse raw = .ok d) :
    applyItemDeltas player.equipmentDeltas (if player.snapshot then none else some (of equipment)) =
      of (wornAfter equipment player) := by
  unfold applyItemDeltas wornAfter
  split_ifs
  · rw [Option.getD_none, ← of_empty]
    exact foldl_apply_of h
  · exact foldl_apply_of h

end Container

namespace PlayerStates

variable {clientId : ClientId} {number : ℕ → ℕ} {name : String} {e : TaggedEvent} {n t : ℕ}
  {events tickEvents : List TaggedEvent} {equipment : Equipment} {state state' : State}
  {w w' : Walk}

/-- Deltas that parse are read as the numbers they are. -/
def Legible (number : ℕ → ℕ) (e : Event) : Prop :=
  ¬Malformed e ∧ ∀ player ∈ e.player, ∀ raw ∈ player.equipmentDeltas, number raw = raw

lemma isPlayerEvent_of_sees (h : sees name e = true) : isPlayerEvent name e.event = true := by
  unfold sees at h
  unfold isPlayerEvent
  obtain ⟨htype, hplayer⟩ := Bool.and_eq_true_iff.mp h
  rw [hplayer, Bool.and_true]
  rcases Bool.or_eq_true_iff.mp htype with htype | htype <;> simp [htype]

lemma equipment_read (hlegible : Legible number e.event)
    (hevent : isPlayerEvent name e.event = true) (hequipment : state.equipment = .of equipment)
    (h : state.read clientId number e.event = some state') :
    state'.equipment = .of (worn name equipment [e]) := by
  have hsame : e.event.type ≠ .playerUpdate → worn name equipment [e] = equipment := by
    intro htype
    have hnone : updateOf name e = none := if_neg htype
    unfold worn
    rw [List.filterMap_cons_none hnone]
    rfl
  unfold State.read at h
  split at h
  case h_1 htype =>
    obtain ⟨player, hplayer, rfl⟩ := Option.map_eq_some_iff.mp h
    have hname : player.name = name := by
      unfold isPlayerEvent at hevent
      simpa [hplayer] using (Bool.and_eq_true_iff.mp hevent).2
    have hupdate : updateOf name e = some player := updateOf_eq_some.2 ⟨htype, hplayer, hname⟩
    have hraws : player.equipmentDeltas.map number = player.equipmentDeltas :=
      (List.map_congr_left (hlegible.2 player hplayer)).trans (List.map_id _)
    have hparse : ∀ raw ∈ player.equipmentDeltas, ∃ d, ItemDelta.parse raw = .ok d := by
      intro raw hraw
      by_contra hnone
      refine hlegible.1 ?_
      unfold Malformed
      rw [htype]
      exact .inr ⟨player, hplayer, raw, hraw, not_exists.mp hnone⟩
    unfold worn
    rw [List.filterMap_cons_some hupdate]
    dsimp only
    rw [hraws, hequipment]
    exact Container.applyItemDeltas_of hparse
  case h_2 htype =>
    cases h
    rw [hsame (by simp [htype])]
    exact hequipment
  case h_3 htype | h_4 htype =>
    obtain ⟨_, -, rfl⟩ := Option.map_eq_some_iff.mp h
    rw [hsame (by simp [htype])]
    exact hequipment
  case h_5 htype _ _ _ =>
    cases h
    rw [hsame htype]
    exact hequipment

lemma equipment_foldlM (hlegible : ∀ e ∈ events, Legible number e.event)
    (hequipment : state.equipment = .of equipment)
    (h : ((events.map (·.event)).filter (isPlayerEvent name)).foldlM (State.read clientId number)
      state = some state') : state'.equipment = .of (worn name equipment events) := by
  induction events generalizing state equipment with
  | nil =>
    cases h
    exact hequipment
  | cons e events ih =>
    obtain ⟨hhead, htail⟩ := List.forall_mem_cons.mp hlegible
    rw [show e :: events = [e] ++ events from rfl, worn_append]
    rw [List.map_cons] at h
    by_cases hevent : isPlayerEvent name e.event = true
    · rw [List.filter_cons_of_pos hevent, List.foldlM_cons] at h
      obtain ⟨state₁, hstate₁, h⟩ := Option.bind_eq_some_iff.mp h
      exact ih htail (equipment_read hhead hevent hequipment hstate₁) h
    · rw [List.filter_cons_of_neg hevent] at h
      have hnone : updateOf name e = none := by
        by_contra hsome
        obtain ⟨player, hplayer⟩ := Option.ne_none_iff_exists'.mp hsome
        exact hevent (isPlayerEvent_of_sees (sees_of_updateOf hplayer))
      have hsame : worn name equipment [e] = equipment := by
        unfold worn
        rw [List.filterMap_cons_none hnone]
        rfl
      rw [hsame]
      exact ih htail hequipment h

/-- What a walk has of a player once the ticks before one are walked. -/
structure Walked (name : String) (events : List TaggedEvent) (n : ℕ) (w : Walk) : Prop where
  length : w.states.length = n
  wears : ∀ (t : ℕ) (state : State), w.states[t]? = some (some state) →
    state.equipment = .of (wornBefore name events (t + 1))
  seen : ∀ t < n, seenAt name events t ≠ [] → ∃ state, w.states[t]? = some (some state)
  last : (w.lastState.map (·.equipment)).getD emptyEquipment = .of (wornBefore name events n)

lemma Walked.step (h : Walked name events n w)
    (hsorted : events.Pairwise (·.event.tick ≤ ·.event.tick))
    (hlegible : ∀ e ∈ events, Legible number e.event)
    (hstep : w.step clientId number name ((eventsAt events n).map (·.event)) = some w') :
    Walked name events (n + 1) w' := by
  have hnext : ∀ state : Option State, ∀ t, t ≠ n →
      (w.states ++ [state])[t]? = w.states[t]? := by
    intro state t hne
    rcases hne.lt_or_gt with hlt | hgt
    · exact List.getElem?_append_left (h.length ▸ hlt)
    · rw [List.getElem?_eq_none (by simp [h.length]; omega),
        List.getElem?_eq_none (by rw [h.length]; exact hgt.le)]
  have hself : ∀ state : Option State, (w.states ++ [state])[n]? = some state := by
    intro state
    rw [← h.length]
    exact List.getElem?_concat_length
  have hlength : ∀ state : Option State, (w.states ++ [state]).length = n + 1 := by
    intro state
    rw [List.length_append, h.length]
    rfl
  unfold Walk.step at hstep
  dsimp only at hstep
  by_cases hnil : ((eventsAt events n).map (·.event)).filter (isPlayerEvent name) = []
  · rw [if_pos hnil] at hstep
    cases hstep
    have hseen : seenAt name events n = [] := by
      refine List.filter_eq_nil_iff.mpr fun e he hsees => ?_
      exact List.filter_eq_nil_iff.mp hnil e.event (List.mem_map_of_mem he)
        (isPlayerEvent_of_sees hsees)
    refine ⟨hlength none, fun t state hstate => ?_, fun t ht hne => ?_, ?_⟩
    · by_cases heq : t = n
      · subst heq
        rw [hself none] at hstate
        cases hstate
      · rw [hnext none t heq] at hstate
        exact h.wears t state hstate
    · have hlt : t < n := lt_of_le_of_ne (Nat.le_of_lt_succ ht) fun heq => hne (heq ▸ hseen)
      obtain ⟨state, hstate⟩ := h.seen t hlt hne
      exact ⟨state, (hnext none t hlt.ne).trans hstate⟩
    · rw [wornBefore_succ_of_nil hsorted hseen]
      exact h.last
  · rw [if_neg hnil] at hstep
    obtain ⟨state, hread, hstep⟩ := Option.bind_eq_some_iff.mp hstep
    cases hstep
    have hlegibleAt : ∀ e ∈ eventsAt events n, Legible number e.event := fun e he =>
      hlegible e (mem_eventsAt.1 he).1
    have hwears : state.equipment = .of (wornBefore name events (n + 1)) := by
      have hequipment := equipment_foldlM hlegibleAt h.last hread
      rw [hequipment, wornBefore_succ hsorted]
      exact congrArg _ worn_filter_sees.symm
    refine ⟨hlength (some state), fun t state' hstate => ?_, fun t ht hne => ?_, hwears⟩
    · by_cases heq : t = n
      · subst heq
        rw [hself (some state)] at hstate
        cases hstate
        exact hwears
      · rw [hnext (some state) t heq] at hstate
        exact h.wears t state' hstate
    · by_cases heq : t = n
      · subst heq
        exact ⟨state, hself (some state)⟩
      · obtain ⟨state', hstate⟩ := h.seen t (lt_of_le_of_ne (Nat.le_of_lt_succ ht) heq) hne
        exact ⟨state', (hnext (some state) t heq).trans hstate⟩

def eventsByTick (recordedTicks : ℕ) (events : List TaggedEvent) : List (List Event) :=
  (List.range (recordedTicks + 1)).map fun t => (eventsAt events t).map (·.event)

lemma walked_foldlM (hsorted : events.Pairwise (·.event.tick ≤ ·.event.tick))
    (hlegible : ∀ e ∈ events, Legible number e.event)
    (h : ((List.range n).map fun t => (eventsAt events t).map (·.event)).foldlM
      (Walk.step clientId number name) ⟨[], none, false⟩ = some w) : Walked name events n w := by
  induction n generalizing w with
  | zero =>
    cases h
    refine ⟨rfl, by simp, by simp, ?_⟩
    rw [wornBefore_zero, Container.of_empty]
    rfl
  | succ n ih =>
    rw [List.range_succ, List.map_append, List.foldlM_append] at h
    obtain ⟨w₀, hw₀, h⟩ := Option.bind_eq_some_iff.mp h
    obtain ⟨w₁, hw₁, h⟩ := Option.bind_eq_some_iff.mp h
    cases h
    exact (ih hw₀).step hsorted hlegible hw₁

lemma statesOf_of_mem {ticks : List (List Event)} {party : List String}
    {states : List (String × List (Option State))} {l : List (Option State)}
    (h : buildPlayerStates clientId number ticks party = some states) (hmem : (name, l) ∈ states) :
    statesOf clientId number ticks name = some l := by
  unfold buildPlayerStates at h
  induction party generalizing states with
  | nil =>
    cases h
    cases hmem
  | cons player party ih =>
    rw [List.mapM_cons] at h
    obtain ⟨first, hfirst, h⟩ := Option.bind_eq_some_iff.mp h
    obtain ⟨rest, hrest, h⟩ := Option.bind_eq_some_iff.mp h
    cases h
    rcases List.mem_cons.mp hmem with rfl | hmem
    · obtain ⟨l', hl', heq⟩ := Option.map_eq_some_iff.mp hfirst
      cases heq
      exact hl'
    · exact ih hrest hmem

lemma wears_of_buildPlayerStates {recordedTicks : ℕ} {party : List String}
    {states : List (String × List (Option State))} {l : List (Option State)}
    (hsorted : events.Pairwise (·.event.tick ≤ ·.event.tick))
    (hlegible : ∀ e ∈ events, Legible number e.event)
    (h : buildPlayerStates clientId number (eventsByTick recordedTicks events) party = some states)
    (hmem : (name, l) ∈ states) (ht : t < recordedTicks + 1) (hseen : seenAt name events t ≠ []) :
    ∃ state, l[t]? = some (some state) ∧
      state.equipment = .of (wornBefore name events (t + 1)) := by
  obtain ⟨w, hw, rfl⟩ := Option.map_eq_some_iff.mp (statesOf_of_mem h hmem)
  have hwalked := walked_foldlM hsorted hlegible hw
  obtain ⟨state, hstate⟩ := hwalked.seen t ht hseen
  exact ⟨state, hstate, hwalked.wears t state hstate⟩

end PlayerStates

section Built

variable {party : List String} {recordedTicks t : ℕ} {events : List TaggedEvent} {name : String}
  {timeline : Timeline} {state : PlayerState}

/-- A player is seen on the ticks on which a timeline has a state of them, which has the equipment
that is rebuilt. -/
lemma stateOn_build (hsorted : events.Pairwise (·.event.tick ≤ ·.event.tick))
    (hbound : ∀ e ∈ events, e.event.tick ≤ recordedTicks)
    (hindex : ∀ e ∈ events, ∀ p ∈ e.event.player, party.idxOf? p.name = some p.partyIndex)
    (hbuild : build party recordedTicks events = .ok timeline) (hname : name ∈ party) :
    (stateOn timeline.ticks t name).map (·.equipment) =
      if seenAt name events t = [] then none else some (rebuiltBefore name events (t + 1)) := by
  obtain ⟨i, hi⟩ : ∃ i, party.idxOf? name = some i := by
    refine Option.ne_none_iff_exists'.mp fun hnone => ?_
    exact List.idxOf?_eq_none_iff.mp hnone hname
  rw [build_eq hsorted hbound] at hbuild
  obtain ⟨b, hb, rfl⟩ := map_eq_ok.1 hbuild
  have hcarries := carries_readTicks hi hindex le_rfl hb
  by_cases ht : t < recordedTicks + 1
  · rw [show (⟨b.ticks⟩ : Timeline).ticks = b.ticks from rfl, hcarries.states t ht, rebuiltBefore]
    split_ifs with hseen
    · rw [hseen]
      rfl
    · obtain ⟨equipment, hsome⟩ := Option.ne_none_iff_exists'.mp (mt rebuild_eq_none_iff.1 hseen)
      rw [hsome]
      rfl
  · have hnil : eventsAt events t = [] := eventsAt_eq_nil.2 fun e he heq => by
      have hle := hbound e he
      omega
    have hseen : seenAt name events t = [] := by
      unfold seenAt
      rw [hnil]
      rfl
    rw [if_pos hseen]
    exact congrArg _ (hcarries.later t (not_lt.mp ht))

lemma equipment_build_iff (hsorted : events.Pairwise (·.event.tick ≤ ·.event.tick))
    (hbound : ∀ e ∈ events, e.event.tick ≤ recordedTicks)
    (hindex : ∀ e ∈ events, ∀ p ∈ e.event.player, party.idxOf? p.name = some p.partyIndex)
    (hbuild : build party recordedTicks events = .ok timeline) (hname : name ∈ party) :
    (∀ t state, stateOn timeline.ticks t name = some state →
        state.equipment = wornBefore name events (t + 1)) ↔
      ∀ t, InStep name events t := by
  rw [← rebuiltBefore_eq_iff hsorted]
  have hstate : ∀ t, (stateOn timeline.ticks t name).map (·.equipment) =
      if seenAt name events t = [] then none else some (rebuiltBefore name events (t + 1)) :=
    fun t => stateOn_build hsorted hbound hindex hbuild hname
  constructor
  · intro h t
    induction t with
    | zero => exact wornBefore_zero.symm
    | succ t ih =>
      have hbuilt := hstate t
      by_cases hseen : seenAt name events t = []
      · rw [rebuiltBefore_succ_of_nil hseen, wornBefore_succ_of_nil hsorted hseen, ih]
      · rw [if_neg hseen] at hbuilt
        obtain ⟨state, hsome, heq⟩ := Option.map_eq_some_iff.mp hbuilt
        rw [← heq]
        exact h t state hsome
  · intro h t state hsome
    have hbuilt := hstate t
    rw [hsome] at hbuilt
    split_ifs at hbuilt with hseen
    · cases hbuilt
    · rw [← h (t + 1)]
      exact Option.some.inj hbuilt

lemma not_malformed_of_build (hsorted : events.Pairwise (·.event.tick ≤ ·.event.tick))
    (hbound : ∀ e ∈ events, e.event.tick ≤ recordedTicks)
    (hindex : ∀ e ∈ events, ∀ p ∈ e.event.player, party.idxOf? p.name = some p.partyIndex)
    (hbuild : build party recordedTicks events = .ok timeline) :
    ∀ e ∈ events, ¬Malformed e.event := by
  intro e he
  rw [build_eq hsorted hbound] at hbuild
  obtain ⟨b, hb, -⟩ := map_eq_ok.1 hbuild
  have hreads := (reads_of_readTicks (indexesIn_of_idxOf? hindex) le_rfl hb).1 e.event.tick
    (Nat.lt_succ_of_le (hbound e he))
  exact (hreads.1 e (mem_eventsAt.2 ⟨he, rfl⟩)).1

end Built

/-- **A timeline has each player wear what all updates up to a tick come to, as a walk over the
ticks has it, exactly if each tick is in step.** -/
theorem equipment_wornBefore_iff {number : ℕ → ℕ} (hnumber : ∀ raw < 2 ^ 53, number raw = raw)
    (party : List String) (recordedTicks : ℕ) (events : List TaggedEvent)
    (hsorted : events.Pairwise (·.event.tick ≤ ·.event.tick))
    (hbound : ∀ e ∈ events, e.event.tick ≤ recordedTicks)
    (hindex : ∀ e ∈ events, ∀ p ∈ e.event.player, party.idxOf? p.name = some p.partyIndex)
    (hraw : ∀ e ∈ events, ∀ p ∈ e.event.player, ∀ raw ∈ p.equipmentDeltas, raw < 2 ^ 53)
    (timeline : Timeline) (hbuild : build party recordedTicks events = .ok timeline) :
    (∀ name ∈ party, ∀ t state, stateOn timeline.ticks t name = some state →
        state.equipment = wornBefore name events (t + 1) ∧
        ∀ clientId states l, PlayerStates.buildPlayerStates clientId number
            (PlayerStates.eventsByTick recordedTicks events) party = some states →
          (name, l) ∈ states → ∃ state', l[t]? = some (some state') ∧
            state'.equipment = .of state.equipment) ↔
      ∀ name ∈ party, ∀ t, InStep name events t := by
  have hlegible : ∀ e ∈ events, PlayerStates.Legible number e.event := fun e he =>
    ⟨not_malformed_of_build hsorted hbound hindex hbuild e he,
      fun p hp raw hmem => hnumber raw (hraw e he p hp raw hmem)⟩
  refine forall₂_congr fun name hname => ?_
  rw [← equipment_build_iff hsorted hbound hindex hbuild hname]
  refine forall₂_congr fun t state => forall_congr' fun hstate => ⟨And.left, fun hworn => ?_⟩
  refine ⟨hworn, fun clientId states l hstates hmem => ?_⟩
  have hbuilt := @stateOn_build party recordedTicks t events name timeline hsorted hbound hindex
    hbuild hname
  rw [hstate] at hbuilt
  have hseen : seenAt name events t ≠ [] := by
    intro hnil
    rw [if_pos hnil] at hbuilt
    cases hbuilt
  have ht : t < recordedTicks + 1 := by
    obtain ⟨e, he⟩ := List.exists_mem_of_ne_nil _ hseen
    obtain ⟨hmemAt, htick⟩ := mem_eventsAt.1 (List.mem_of_mem_filter he)
    have hle := hbound e hmemAt
    omega
  rw [hworn]
  exact PlayerStates.wears_of_buildPlayerStates hsorted hlegible hstates hmem ht hseen

/-- An update of the only player of a party. -/
def updateAt (tick : ℕ) (deltas : List ℕ) : TaggedEvent :=
  ⟨1, { type := .playerUpdate, tick, player := some ⟨"1Ogp", 0, .primary, deltas, none, false, none,
    none, none, none, none, none, none⟩ }⟩

/-- A player puts on a helmet. -/
theorem equipment_wornBefore_iff_update :
    let events := [updateAt 0 [0x0000_2d91_8000_0001]]
    ∃ timeline, build ["1Ogp"] 1 events = .ok timeline ∧
      ∀ t state, stateOn timeline.ticks t "1Ogp" = some state →
        state.equipment = wornBefore "1Ogp" events (t + 1) := by
  intro events
  obtain ⟨timeline, htimeline⟩ : ∃ timeline, build ["1Ogp"] 1 events = .ok timeline := by
    have hok : (build ["1Ogp"] 1 events).isOk = true := by decide
    cases h : build ["1Ogp"] 1 events with
    | ok timeline => exact ⟨timeline, rfl⟩
    | error e => rw [h] at hok; cases hok
  have h := @equipment_wornBefore_iff id (fun _ _ => rfl) ["1Ogp"] 1 events
    (by decide) (by decide) (by decide) (by decide) timeline htimeline
  refine ⟨timeline, htimeline, fun t state hstate => ?_⟩
  refine ((h.mpr fun name hname t => ?_) "1Ogp" (by simp) t state hstate).1
  intro earlier e later player hseen hupdate hlater before slot
  obtain rfl := List.mem_singleton.mp hname
  cases t with
  | zero =>
    have hone : seenAt "1Ogp" events 0 = [updateAt 0 [0x0000_2d91_8000_0001]] := by decide
    obtain ⟨rfl, hcons⟩ := (List.append_eq_singleton_iff.mp (hseen.symm.trans hone)).resolve_right
      fun hright => List.cons_ne_nil _ _ hright.2
    obtain ⟨rfl, rfl⟩ := List.cons.inj hcons
    cases hupdate
    have hparsed : parsed [0x0000_2d91_8000_0001] = [.add ⟨0, by decide⟩ 11665 1] := by decide
    have hbefore : before slot = none := rfl
    rw [hbefore]
    change EndsInStep _ _ ((parsed [0x0000_2d91_8000_0001]).filter (·.slot = slot))
    rw [hparsed]
    by_cases hslot : slot = ⟨0, by decide⟩
    · subst hslot
      exact fun _ hi => nomatch hi
    · rw [List.filter_cons_of_neg fun heq => hslot (of_decide_eq_true heq).symm]
      exact .inl rfl
  | succ t =>
    have hnone : seenAt "1Ogp" events (t + 1) = [] := rfl
    rw [hnone] at hseen
    simp at hseen

/-- A player who dies on the tick of an update that changes nothing wears nothing in a timeline. -/
theorem not_equipment_wornBefore_death :
    ¬∀ party recordedTicks (events : List TaggedEvent),
      events.Pairwise (·.event.tick ≤ ·.event.tick) →
      (∀ e ∈ events, e.event.tick ≤ recordedTicks) →
      (∀ e ∈ events, ∀ p ∈ e.event.player, party.idxOf? p.name = some p.partyIndex) →
      ∀ timeline, build party recordedTicks events = .ok timeline →
        ∀ name ∈ party, ∀ t state, stateOn timeline.ticks t name = some state →
          state.equipment = wornBefore name events (t + 1) := by
  intro h
  let death : TaggedEvent := ⟨1, { (updateAt 1 []).event with type := .playerDeath }⟩
  let events := [updateAt 0 [0x0000_2d91_8000_0001], death, updateAt 1 []]
  have hslot : (((build ["1Ogp"] 1 events).toOption.bind
      fun timeline => stateOn timeline.ticks 1 "1Ogp").map (·.equipment ⟨0, by decide⟩)) =
        some none := by
    decide
  obtain ⟨state, hstate, hnone⟩ := Option.map_eq_some_iff.mp hslot
  obtain ⟨timeline, htimeline, hstate⟩ := Option.bind_eq_some_iff.mp hstate
  have hbuild : build ["1Ogp"] 1 events = .ok timeline := by
    cases hbuild : build ["1Ogp"] 1 events with
    | ok timeline' =>
      rw [hbuild] at htimeline
      cases htimeline
      rfl
    | error e =>
      rw [hbuild] at htimeline
      cases htimeline
  have hworn := h ["1Ogp"] 1 events (by decide) (by decide) (by decide) timeline hbuild "1Ogp"
    (by simp) 1 state hstate
  rw [hworn] at hnone
  exact absurd hnone (by decide)

end Blert.Timeline

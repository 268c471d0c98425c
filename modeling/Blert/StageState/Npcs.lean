import Blert.StageState.NpcState
import Blert.StageState.Players

/-!
What an NPC's states are, in closed form.

As for players: an NPC's states depend on its own events and attacks, and the labels of Bloat's
downs are added to them. A resurrection's target is written into the attack it is.
-/

namespace Blert.StageState

/-! ### Processing ticks -/

/-- An NPC's states after the first ticks have been processed, with nothing added to them. -/
def trackNpc (roomId : ℕ) (byTick : ℕ → List Obj) : ℕ → EnhancedRoomNpc
  | 0 => { npc := default, length := 0 }
  | T + 1 => processNpcTick roomId T (trackNpc roomId byTick T) (byTick T)

/-- An entry with the given description, length and labels. -/
def EnhancedRoomNpc.fill (npc : RoomNpc) (length : ℕ) (label : ℕ → Option String)
    (labelled : Bool) (e : EnhancedRoomNpc) : EnhancedRoomNpc where
  npc := npc
  length := length
  stateByTick t := (e.stateByTick t).map fun s => { s with label := label t }
  relevant := e.relevant || labelled
  lastActiveTick := e.lastActiveTick

lemma npcStateOn_label {roomId : ℕ} {os : List Obj} {s : NpcState}
    (h : npcStateOn roomId os = some s) : s.label = none ∧ s.attack = none := by
  unfold npcStateOn at h
  obtain ⟨o, -, ho⟩ := Option.bind_eq_some_iff.mp h
  obtain ⟨n, -, rfl⟩ := Option.map_eq_some_iff.mp ho
  exact ⟨rfl, rfl⟩

lemma attackState_fill (e : EnhancedRoomNpc) (d : RoomNpc) (n : ℕ) (label : ℕ → Option String)
    (b : Bool) (npc : BasicEventNpc) :
    (e.fill d n label b).attackState npc = e.attackState npc := by
  simp only [EnhancedRoomNpc.attackState, EnhancedRoomNpc.fill]
  cases e.lastActiveTick with
  | none => rfl
  | some last => cases h : e.stateByTick last <;> simp [h]

lemma update_fill (e : EnhancedRoomNpc) {t : ℕ} {label : ℕ → Option String}
    (hlabel : label t = none) {s : NpcState} (hs : s.label = none) (n : ℕ) (d : RoomNpc)
    (b : Bool) :
    Function.update (e.fill d n label b).stateByTick t (some s) =
      fun t' => (Function.update e.stateByTick t (some s) t').map fun s =>
        { s with label := label t' } := by
  funext t'
  by_cases ht : t' = t
  · subst ht
    simp only [Function.update_self, Option.map_some, Option.some.injEq]
    rw [hlabel, ← hs]
  · simp [ht, EnhancedRoomNpc.fill]

lemma processNpcTick_fill (roomId : ℕ) {t n : ℕ} {label : ℕ → Option String}
    (hlabel : label t = none) {e : EnhancedRoomNpc} (he : e.stateByTick t = none) (d : RoomNpc)
    (b : Bool) (os : List Obj) :
    processNpcTick roomId t (e.fill d n label b) os =
      (processNpcTick roomId t e os).fill d n label b := by
  have hfill : (e.fill d n label b).stateByTick t = none := by simp [EnhancedRoomNpc.fill, he]
  unfold processNpcTick
  cases hstate : npcStateOn roomId os with
  | none =>
    cases hattack : npcAttackOn roomId os with
    | none => rfl
    | some x =>
      simp only [hfill, he, Option.getD_none, attackState_fill]
      simp only [EnhancedRoomNpc.fill, Bool.true_or, EnhancedRoomNpc.mk.injEq, true_and, and_true]
      exact update_fill e hlabel rfl n d b
  | some s =>
    have hs := (npcStateOn_label hstate).1
    cases hattack : npcAttackOn roomId os with
    | none =>
      simp only [EnhancedRoomNpc.fill, EnhancedRoomNpc.mk.injEq, true_and, and_true]
      exact update_fill e hlabel hs n d b
    | some x =>
      simp only [Function.update_self, Option.getD_some]
      simp only [EnhancedRoomNpc.fill, Bool.true_or, EnhancedRoomNpc.mk.injEq, true_and, and_true,
        Function.update_idem]
      have hx : { s with attack := some x.1 }.label = none := hs
      exact update_fill e hlabel hx n d b

section Track

variable {r : ℕ} {byTick byTick' : ℕ → List Obj}

lemma processNpcTick_stateByTick {t t' : ℕ} (h : t' ≠ t) (e : EnhancedRoomNpc) (os : List Obj) :
    (processNpcTick r t e os).stateByTick t' = e.stateByTick t' := by
  unfold processNpcTick
  cases npcStateOn r os <;> cases npcAttackOn r os <;> simp [h]

lemma trackNpc_of_le {T t : ℕ} (h : T ≤ t) : (trackNpc r byTick T).stateByTick t = none := by
  induction T with
  | zero => rfl
  | succ T ih =>
    simp only [trackNpc]
    rw [processNpcTick_stateByTick (by omega)]
    exact ih (by omega)

lemma trackNpc_of_lt {T t : ℕ} (h : t < T) :
    (trackNpc r byTick T).stateByTick t = (trackNpc r byTick (t + 1)).stateByTick t := by
  induction T with
  | zero => omega
  | succ T ih =>
    by_cases ht : t = T
    · rw [ht]
    · rw [← ih (by omega)]
      exact processNpcTick_stateByTick ht _ _

lemma trackNpc_congr {T : ℕ} (h : ∀ t < T, byTick t = byTick' t) :
    trackNpc r byTick T = trackNpc r byTick' T := by
  induction T with
  | zero => rfl
  | succ T ih =>
    simp only [trackNpc]
    rw [ih fun t ht => h t (by omega), h T (by omega)]

/-- An attack of the NPC with this room ID. -/
def Obj.IsAttackOf (o : Obj) (r : ℕ) : Prop :=
  ∃ n a, o.event.payload = .npcAttack n a ∧ n.roomId = r

lemma npcAttackOn_mem {os : List Obj} {o : Obj} {n : BasicEventNpc}
    (h : npcAttackOn r os = some (o, n)) : o ∈ os ∧ o.IsAttackOf r := by
  obtain ⟨x, hx, hxo⟩ := List.exists_of_findSome?_eq_some h
  split at hxo
  · rename_i n' a heq
    split_ifs at hxo with hr
    obtain ⟨rfl, rfl⟩ := by simpa using hxo
    exact ⟨hx, n', a, heq, hr⟩
  · cases hxo

lemma trackNpc_attack {T t : ℕ} {s : NpcState} {o : Obj}
    (hs : (trackNpc r byTick T).stateByTick t = some s) (ho : s.attack = some o) :
    o ∈ byTick t ∧ o.IsAttackOf r := by
  have ht : t < T := by
    by_contra h
    rw [trackNpc_of_le (by omega)] at hs
    cases hs
  rw [trackNpc_of_lt ht] at hs
  simp only [trackNpc] at hs
  unfold processNpcTick at hs
  have hnone : (trackNpc r byTick t).stateByTick t = none := trackNpc_of_le le_rfl
  cases hattack : npcAttackOn r (byTick t) with
  | none =>
    cases hstate : npcStateOn r (byTick t) with
    | none =>
      simp only [hattack, hstate, hnone] at hs
      cases hs
    | some s' =>
      obtain rfl := by simpa [hattack, hstate] using hs
      rw [(npcStateOn_label hstate).2] at ho
      cases ho
  | some x =>
    obtain ⟨o', n⟩ := x
    have hoo : s.attack = some o' := by
      simp only [hattack, Function.update_self] at hs
      obtain rfl := Option.some.inj hs
      rfl
    obtain rfl := Option.some.inj (ho.symm.trans hoo)
    exact npcAttackOn_mem hattack

lemma foldl_processNpcTick (byTick : ℕ → List Obj) {T n : ℕ} {label : ℕ → Option String}
    (hlabel : ∀ t, T ≤ t → label t = none) (d : RoomNpc) (b : Bool) (k : ℕ) :
    (List.range' T k).foldl (fun npc tick => processNpcTick r tick npc (byTick tick))
        ((trackNpc r byTick T).fill d n label b) =
      (trackNpc r byTick (T + k)).fill d n label b := by
  induction k with
  | zero => rfl
  | succ k ih =>
    rw [List.range'_concat, List.foldl_append, ih]
    simp only [List.foldl_cons, List.foldl_nil, one_mul]
    exact processNpcTick_fill r (hlabel _ (by omega)) (trackNpc_of_le le_rfl) d b _

end Track

/-! ### Labels of Bloat's downs -/

/-- New labels for the ticks that have a state. An NPC that is labelled is relevant. -/
def EnhancedRoomNpc.relabel (f : ℕ → Option String) (e : EnhancedRoomNpc) : EnhancedRoomNpc where
  npc := e.npc
  length := e.length
  stateByTick t := (e.stateByTick t).map fun s => { s with label := (f t).or s.label }
  relevant :=
    e.relevant || (List.range e.length).any fun t => (e.stateByTick t).isSome && (f t).isSome
  lastActiveTick := e.lastActiveTick

lemma any_or {α : Type*} (l : List α) (p q : α → Bool) :
    (l.any fun a => p a || q a) = (l.any p || l.any q) := by
  induction l with
  | nil => rfl
  | cons a l ih => simp only [List.any_cons, ih, Bool.or_assoc, Bool.or_left_comm]

lemma relabel_relabel (e : EnhancedRoomNpc) (f g : ℕ → Option String) :
    (e.relabel f).relabel g = e.relabel fun t => (g t).or (f t) := by
  simp only [EnhancedRoomNpc.relabel, EnhancedRoomNpc.mk.injEq, true_and, and_true, Option.map_map,
    Function.comp_def, Option.isSome_map, Option.isSome_or, Bool.and_or_distrib_left, any_or,
    Option.or_assoc]
  rw [Bool.or_assoc, Bool.or_comm ((List.range e.length).any _)]

lemma relabel_none (e : EnhancedRoomNpc) : (e.relabel fun _ => none) = e := by
  have hany : ((List.range e.length).any fun _ => false) = false :=
    List.any_eq_false.mpr fun _ _ => Bool.false_ne_true
  simp [EnhancedRoomNpc.relabel, hany]

def downLabel (downTick tick : ℕ) : String := toString (BLOAT_DOWN_TICKS - (tick - downTick))

lemma labelDown_eq {e : EnhancedRoomNpc} {t : ℕ} (ht : t < e.length) (downTick : ℕ) :
    labelDown downTick e t =
      e.relabel fun t' => if t' = t then some (downLabel downTick t') else none := by
  unfold labelDown
  cases hs : e.stateByTick t with
  | none =>
    obtain ⟨npc, length, stateByTick, relevant, last⟩ := e
    simp only at hs
    simp only [EnhancedRoomNpc.relabel, EnhancedRoomNpc.mk.injEq, true_and, and_true]
    constructor
    · funext t'
      by_cases ht' : t' = t
      · subst ht'
        simp [hs]
      · simp [ht']
    · have hany : ((List.range length).any fun t' => (stateByTick t').isSome &&
          (if t' = t then some (downLabel downTick t') else none).isSome) = false := by
        rw [List.any_eq_false]
        intro t' _
        by_cases ht' : t' = t
        · simp [ht', hs]
        · simp [ht']
      rw [hany, Bool.or_false]
  | some s =>
    simp only [EnhancedRoomNpc.relabel, EnhancedRoomNpc.mk.injEq, true_and, and_true]
    constructor
    · funext t'
      by_cases ht' : t' = t
      · subst ht'
        simp [hs, downLabel]
      · simp [ht']
    · have hany : ((List.range e.length).any fun t' => (e.stateByTick t').isSome &&
          (if t' = t then some (downLabel downTick t') else none).isSome) = true :=
        List.any_eq_true.mpr ⟨t, List.mem_range.mpr ht, by simp [hs]⟩
      rw [hany, Bool.or_true]

lemma foldl_labelDown (downTick start k : ℕ) {e : EnhancedRoomNpc} (h : start + k ≤ e.length) :
    (List.range' start k).foldl (labelDown downTick) e =
      e.relabel fun t =>
        if start ≤ t ∧ t < start + k then some (downLabel downTick t) else none := by
  induction k with
  | zero =>
    have hnone : (fun t => if start ≤ t ∧ t < start + 0 then some (downLabel downTick t)
        else none) = fun _ => none := by
      funext t
      rw [if_neg (by omega)]
    rw [hnone, relabel_none]
    rfl
  | succ k ih =>
    rw [List.range'_concat, List.foldl_append, ih (by omega)]
    simp only [List.foldl_cons, List.foldl_nil, one_mul]
    rw [labelDown_eq (by simp only [EnhancedRoomNpc.relabel]; omega), relabel_relabel]
    congr 1
    funext t
    by_cases ht : t = start + k
    · simp [ht]
    · have hiff : (start ≤ t ∧ t < start + k) ↔ (start ≤ t ∧ t < start + (k + 1)) := by omega
      simp [ht, hiff]

def downOn (t : ℕ) (o : Obj) : Option String :=
  if o.event.tick ≤ t ∧ t ≤ o.event.tick + BLOAT_DOWN_TICKS then
    some (downLabel o.event.tick t)
  else none

/-- The label of a tick: that of the last down that covers it. -/
def lastDown (t : ℕ) (os : List Obj) : Option String :=
  (os.filterMap (downOn t)).getLast?

lemma lastDown_cons (t : ℕ) (o : Obj) (os : List Obj) :
    lastDown t (o :: os) = (lastDown t os).or (downOn t o) := by
  unfold lastDown
  cases h : downOn t o with
  | none => simp [h]
  | some d =>
    simp only [List.filterMap_cons, h]
    rw [List.getLast?_cons]
    cases (os.filterMap (downOn t)).getLast? <;> rfl

lemma labelDowns_eq (fromTick : ℕ) (e : EnhancedRoomNpc) (o : Obj) :
    labelDowns fromTick e o =
      e.relabel fun t => if fromTick ≤ t ∧ t < e.length then downOn t o else none := by
  unfold labelDowns
  split_ifs with hbefore
  · have hnone : (fun t => if fromTick ≤ t ∧ t < e.length then downOn t o else none) =
        fun _ => none := by
      funext t
      unfold downOn
      split_ifs
      · omega
      · rfl
      · rfl
    rw [hnone, relabel_none]
  · by_cases hempty : min (o.event.tick + BLOAT_DOWN_TICKS + 1) e.length ≤
        max o.event.tick fromTick
    · have hnone : (fun t => if fromTick ≤ t ∧ t < e.length then downOn t o else none) =
          fun _ => none := by
        funext t
        unfold downOn
        split_ifs
        · omega
        · rfl
        · rfl
      dsimp only
      rw [hnone, relabel_none, Nat.sub_eq_zero_of_le hempty]
      rfl
    · dsimp only
      rw [foldl_labelDown _ _ _ (by omega)]
      congr 1
      funext t
      unfold downOn
      by_cases hin : fromTick ≤ t ∧ t < e.length ∧ o.event.tick ≤ t ∧
          t ≤ o.event.tick + BLOAT_DOWN_TICKS
      · rw [if_pos (by omega), if_pos ⟨hin.1, hin.2.1⟩, if_pos hin.2.2]
      · rw [if_neg (by omega)]
        split_ifs
        · omega
        · rfl
        · rfl

lemma foldl_labelDowns (fromTick : ℕ) (os : List Obj) (e : EnhancedRoomNpc) :
    os.foldl (labelDowns fromTick) e =
      e.relabel fun t => if fromTick ≤ t ∧ t < e.length then lastDown t os else none := by
  induction os generalizing e with
  | nil =>
    have hnone : (fun t => if fromTick ≤ t ∧ t < e.length then lastDown t [] else none) =
        fun _ => none := by
      funext t
      exact ite_self _
    rw [hnone, relabel_none]
    rfl
  | cons o os ih =>
    rw [List.foldl_cons, ih, labelDowns_eq, relabel_relabel]
    congr 1
    funext t
    simp only [EnhancedRoomNpc.relabel, lastDown_cons]
    by_cases hin : fromTick ≤ t ∧ t < e.length
    · simp [hin]
    · simp [hin]

/-! ### Targets of resurrections -/

section Extend

variable {fullName : ℕ → Option String} {m m' : EventMaps} {r T T' : ℕ}

/-- The target of a resurrection, if there is one. -/
def targetOf (fullName : ℕ → Option String) (m : EventMaps) (o : Obj) : Option (Option String) :=
  (resurrected m o.event.tick).map fun target => fullName target.id

/-- The targets that an NPC's resurrections on a range of ticks are given. -/
def EnhancedRoomNpc.writeTargets (fullName : ℕ → Option String) (m : EventMaps)
    (e : EnhancedRoomNpc) (T k : ℕ) (w : Writes) : Writes where
  attack := w.attack
  target o :=
    if T ≤ o.event.tick ∧ o.event.tick < T + k ∧
        (e.stateByTick o.event.tick).bind NpcState.attack = some o ∧
        w.attackOf o = some .infernoMagerResurrect then
      (targetOf fullName m o).or (w.target o)
    else w.target o
  weaponName := w.weaponName
  damage := w.damage

/-- Each attack of an entry is on the tick it is the state of. -/
def EnhancedRoomNpc.AttacksOnTime (e : EnhancedRoomNpc) : Prop :=
  ∀ t s o, e.stateByTick t = some s → s.attack = some o → o.event.tick = t

lemma targetResurrection_target {e : EnhancedRoomNpc} (he : e.AttacksOnTime) (w : Writes)
    (t : ℕ) :
    targetResurrection fullName m e w t =
      { w with
        target := fun o =>
          if o.event.tick = t ∧ (e.stateByTick t).bind NpcState.attack = some o ∧
              w.attackOf o = some .infernoMagerResurrect then
            (targetOf fullName m o).or (w.target o)
          else w.target o } := by
  unfold targetResurrection
  cases hattack : (e.stateByTick t).bind NpcState.attack with
  | none => simp
  | some a =>
    obtain ⟨s, hs, hsa⟩ := Option.bind_eq_some_iff.mp hattack
    have ha : a.event.tick = t := he t s a hs hsa
    by_cases hkind : w.attackOf a = some .infernoMagerResurrect
    · simp only [hkind, if_true]
      cases hres : resurrected m t with
      | none =>
        refine Writes.ext rfl (funext fun o => ?_) rfl rfl
        by_cases ho : o = a
        · subst ho
          simp [targetOf, ha, hres]
        · simp [Ne.symm ho]
      | some n =>
        refine Writes.ext rfl (funext fun o => ?_) rfl rfl
        by_cases ho : o = a
        · subst ho
          simp [targetOf, ha, hres, hkind, Writes.setTarget]
        · simp [ho, Ne.symm ho, Writes.setTarget]
    · simp only [hkind, if_false]
      refine Writes.ext rfl (funext fun o => ?_) rfl rfl
      by_cases ho : o = a
      · subst ho
        simp [hkind]
      · simp [Ne.symm ho]

lemma foldl_targetResurrection {e : EnhancedRoomNpc} (he : e.AttacksOnTime) (w : Writes)
    (T k : ℕ) :
    (List.range' T k).foldl (targetResurrection fullName m e) w =
      e.writeTargets fullName m T k w := by
  induction k with
  | zero =>
    refine Writes.ext rfl (funext fun o => ?_) rfl rfl
    simp only [EnhancedRoomNpc.writeTargets]
    rw [if_neg (by omega)]
    rfl
  | succ k ih =>
    rw [List.range'_concat, List.foldl_append, ih]
    simp only [List.foldl_cons, List.foldl_nil, one_mul]
    rw [targetResurrection_target he]
    refine Writes.ext rfl (funext fun o => ?_) rfl rfl
    have hattackOf : (e.writeTargets fullName m T k w).attackOf o = w.attackOf o := rfl
    simp only [hattackOf]
    simp only [EnhancedRoomNpc.writeTargets]
    by_cases ht : o.event.tick = T + k
    · simp [ht]
    · have hiff : (T ≤ o.event.tick ∧ o.event.tick < T + k) ↔
          (T ≤ o.event.tick ∧ o.event.tick < T + (k + 1)) := by omega
      simp only [ht, false_and, if_false, ← and_assoc, hiff]

/-! ### Extending an NPC's states -/

def labelOn (m : EventMaps) (npc : RoomNpc) (t : ℕ) : Option String :=
  if Npc.isBloat npc.spawnNpcId then lastDown t (m.byType .tobBloatDown) else none

/-- Some tick up to a number has a state with a label. -/
def labelled (m : EventMaps) (npc : RoomNpc) (r T : ℕ) : Bool :=
  (List.range T).any fun t =>
    ((trackNpc r m.byTick T).stateByTick t).isSome && (labelOn m npc t).isSome

def npcEntry (m : EventMaps) (npc : RoomNpc) (r T : ℕ) : EnhancedRoomNpc :=
  (trackNpc r m.byTick T).fill npc T (labelOn m npc) (labelled m npc r T)

/-- The attack of an NPC's state on a tick. -/
def npcAttackAt (m : EventMaps) (r T t : ℕ) : Option Obj :=
  ((trackNpc r m.byTick T).stateByTick t).bind NpcState.attack

/-- What an attack of an NPC has as its target up to a tick, given the targets that other events
have written. -/
def targetWritten (fullName : ℕ → Option String) (m : EventMaps) (npc : RoomNpc) (r T : ℕ)
    (w : Writes) (base : Obj → Option (Option String)) (o : Obj) : Option (Option String) :=
  if Npc.isJalZek npc.spawnNpcId = true ∧ npcAttackAt m r T o.event.tick = some o ∧
      w.attackOf o = some .infernoMagerResurrect then
    (targetOf fullName m o).or (base o)
  else base o

structure NpcFrame (r : ℕ) (w w' : Writes) : Prop where
  attack : w'.attack = w.attack
  weaponName : w'.weaponName = w.weaponName
  damage : w'.damage = w.damage
  target : ∀ o : Obj, ¬o.IsAttackOf r → w'.target o = w.target o

lemma npcFill_congr {e : EnhancedRoomNpc} {d : RoomNpc} {n : ℕ} {f g : ℕ → Option String}
    {b : Bool} (h : ∀ t, e.stateByTick t ≠ none → f t = g t) : e.fill d n f b = e.fill d n g b := by
  simp only [EnhancedRoomNpc.fill, EnhancedRoomNpc.mk.injEq, true_and, and_true]
  funext t
  cases hs : e.stateByTick t with
  | none => rfl
  | some s => rw [h t (by simp [hs])]

lemma EventMaps.Grows.trackNpc_of_lt (h : m.Grows m' T T') {t : ℕ} (ht : t < T) :
    (trackNpc r m'.byTick T').stateByTick t = (trackNpc r m.byTick T).stateByTick t := by
  rw [StageState.trackNpc_of_lt (ht.trans_le h.le), StageState.trackNpc_of_lt ht,
    trackNpc_congr fun t' ht' => h.byTick t' (by omega)]

lemma EventMaps.Grows.npcAttackAt_of_lt (h : m.Grows m' T T') {t : ℕ} (ht : t < T) :
    npcAttackAt m' r T' t = npcAttackAt m r T t := by
  rw [npcAttackAt, h.trackNpc_of_lt ht]
  rfl

lemma npcAttackAt_of_le {t : ℕ} (h : T ≤ t) : npcAttackAt m r T t = none := by
  rw [npcAttackAt, trackNpc_of_le h]
  rfl

lemma npcAttackAt_mem {t : ℕ} {o : Obj} (h : npcAttackAt m r T t = some o) :
    o ∈ m.byTick t ∧ o.IsAttackOf r := by
  obtain ⟨s, hs, hso⟩ := Option.bind_eq_some_iff.mp h
  exact trackNpc_attack hs hso

lemma EventMaps.Grows.lastDown_of_lt (h : m.Grows m' T T') {t : ℕ} (ht : t < T) :
    lastDown t (m'.byType .tobBloatDown) = lastDown t (m.byType .tobBloatDown) := by
  obtain ⟨new, hnew, htick⟩ := h.byType .tobBloatDown
  have hnone : new.filterMap (downOn t) = [] := by
    rw [List.filterMap_eq_nil_iff]
    intro o ho
    have := htick o ho
    exact if_neg (by omega)
  unfold lastDown
  rw [hnew, List.filterMap_append, hnone, List.append_nil]

lemma EventMaps.Grows.resurrected_of_lt (h : m.Grows m' T T') {t : ℕ} (ht : t < T) :
    resurrected m' t = resurrected m t := by
  obtain ⟨new, hnew, htick⟩ := h.byType .npcSpawn
  unfold resurrected
  rw [hnew, List.find?_append]
  have hnone : new.find? (fun o =>
      (o.event.payload.npc?.any fun n => !Npc.isBloblet n.id) && o.event.tick = t) = none := by
    rw [List.find?_eq_none]
    intro o ho
    have := htick o ho
    have hne : o.event.tick ≠ t := by omega
    simp [hne]
  rw [hnone, Option.or_none]

lemma npcFill_attacksOnTime (h : m.Within T) (d : RoomNpc) (n k : ℕ) (f : ℕ → Option String)
    (b : Bool) : ((trackNpc r m.byTick k).fill d n f b).AttacksOnTime := by
  intro t s o hs ho
  simp only [EnhancedRoomNpc.fill, Option.map_eq_some_iff] at hs
  obtain ⟨s', hs', rfl⟩ := hs
  exact (h.tick t o (trackNpc_attack hs' ho).1).1

lemma npcFill_attack (m : EventMaps) (r T n : ℕ) (d : RoomNpc) (f : ℕ → Option String) (b : Bool)
    (t : ℕ) :
    (((trackNpc r m.byTick T).fill d n f b).stateByTick t).bind NpcState.attack =
      npcAttackAt m r T t := by
  simp only [EnhancedRoomNpc.fill, npcAttackAt]
  cases (trackNpc r m.byTick T).stateByTick t <;> rfl

/-- The states of an NPC that is extended, before anything is added to the new ticks. -/
def extendedNpc (m m' : EventMaps) (d : RoomNpc) (r T T' : ℕ) : EnhancedRoomNpc :=
  (trackNpc r m'.byTick T').fill d T' (fun t => if t < T then labelOn m d t else none)
    (labelled m d r T)

lemma EventMaps.Grows.foldl_tick (h : m.Grows m' T T') (d : RoomNpc) :
    (List.range' T (T' - T)).foldl (fun npc tick => processNpcTick r tick npc (m'.byTick tick))
        ((trackNpc r m.byTick T).fill d T' (labelOn m d) (labelled m d r T)) =
      extendedNpc m m' d r T T' := by
  have hcut : (trackNpc r m.byTick T).fill d T' (labelOn m d) (labelled m d r T) =
      (trackNpc r m'.byTick T).fill d T' (fun t => if t < T then labelOn m d t else none)
        (labelled m d r T) := by
    rw [trackNpc_congr h.byTick]
    refine npcFill_congr fun t ht => ?_
    rw [if_pos]
    by_contra hc
    exact ht (trackNpc_of_le (by omega))
  have hnew : ∀ t, T ≤ t → (fun t => if t < T then labelOn m d t else none) t = none :=
    fun t ht => if_neg (by omega)
  have hTT : T + (T' - T) = T' := by have := h.le; omega
  rw [hcut, foldl_processNpcTick m'.byTick hnew, hTT]
  rfl

lemma EventMaps.Grows.relabel (h : m.Grows m' T T') {d : RoomNpc}
    (hd : Npc.isBloat d.spawnNpcId = true) :
    (m'.byType .tobBloatDown).foldl (labelDowns T) (extendedNpc m m' d r T T') =
      npcEntry m' d r T' := by
  rw [foldl_labelDowns]
  simp only [EnhancedRoomNpc.relabel, extendedNpc, npcEntry, EnhancedRoomNpc.fill,
    EnhancedRoomNpc.mk.injEq, true_and, and_true]
  constructor
  · funext t
    cases hs : (trackNpc r m'.byTick T').stateByTick t with
    | none => rfl
    | some s =>
      have htT : t < T' := by
        by_contra hc
        rw [trackNpc_of_le (by omega)] at hs
        cases hs
      by_cases ht : t < T
      · simp [ht, ht.not_ge, labelOn, hd, h.lastDown_of_lt ht]
      · simp [ht, Nat.not_lt.mp ht, htT, labelOn, hd]
  · rw [Bool.or_assoc]
    congr 1
    rw [Bool.eq_iff_iff]
    simp only [labelled, Bool.or_eq_true, List.any_eq_true, List.mem_range, Bool.and_eq_true,
      labelOn, hd, if_true, Option.isSome_map]
    constructor
    · rintro (⟨t, ht, hs, hl⟩ | ⟨t, ht, hs, hl⟩)
      · refine ⟨t, ht.trans_le h.le, ?_, ?_⟩
        · rwa [h.trackNpc_of_lt ht]
        · rwa [h.lastDown_of_lt ht]
      · by_cases hle : T ≤ t
        · exact ⟨t, ht, hs, by simpa [hle, ht] using hl⟩
        · simp [hle] at hl
    · rintro ⟨t, ht, hs, hl⟩
      by_cases hlt : t < T
      · refine Or.inl ⟨t, hlt, ?_, ?_⟩
        · rwa [h.trackNpc_of_lt hlt] at hs
        · rwa [h.lastDown_of_lt hlt] at hl
      · exact Or.inr ⟨t, ht, hs, by simpa [Nat.not_lt.mp hlt, ht] using hl⟩

lemma extendedNpc_of_not_bloat {d : RoomNpc} (hd : Npc.isBloat d.spawnNpcId ≠ true) :
    extendedNpc m m' d r T T' = npcEntry m' d r T' := by
  have hlabelled (m : EventMaps) (T : ℕ) : labelled m d r T = false := by
    rw [labelled, List.any_eq_false]
    simp [labelOn, hd]
  have hlabel (m : EventMaps) (t : ℕ) : labelOn m d t = none := if_neg hd
  simp only [extendedNpc, npcEntry, hlabelled]
  exact npcFill_congr fun t _ => by simp [hlabel]

/-- **Extending the states of an NPC keeps their form.** -/
theorem extendNpc_eq (h : m.Grows m' T T') {s : InsertionMap ℕ EnhancedRoomNpc × Writes}
    {fromTick : ℕ} {d : RoomNpc} {base : Obj → Option (Option String)}
    (hstart : enterNpc d fromTick T' (s.1.get r) =
      ((trackNpc r m.byTick T).fill d T' (labelOn m d) (labelled m d r T), T))
    (hw : ∀ o : Obj, o.IsAttackOf r → s.2.target o = targetWritten fullName m d r T s.2 base o) :
    ∃ w', extendNpc fullName m' fromTick T' s (r, d) = (s.1.set r (npcEntry m' d r T'), w') ∧
      (∀ o : Obj, o.IsAttackOf r → w'.target o = targetWritten fullName m' d r T' s.2 base o) ∧
      NpcFrame r s.2 w' := by
  have hTT : T + (T' - T) = T' := by have := h.le; omega
  unfold extendNpc
  simp only [hstart, h.foldl_tick]
  unfold postprocessNpc
  by_cases hbloat : Npc.isBloat d.spawnNpcId = true
  · -- Bloat is labelled, and no target is written.
    have hjal : Npc.isJalZek d.spawnNpcId ≠ true := by
      intro hc
      rw [Npc.isBloat_of_isJalZek hc] at hbloat
      cases hbloat
    have hdesc : (extendedNpc m m' d r T T').npc = d := rfl
    rw [hdesc, if_pos hbloat, h.relabel hbloat]
    refine ⟨_, rfl, fun o ho => ?_, ⟨rfl, rfl, rfl, fun _ _ => rfl⟩⟩
    rw [hw o ho]
    simp [targetWritten, hjal]
  · rw [extendedNpc_of_not_bloat hbloat]
    have hdesc : (npcEntry m' d r T').npc = d := rfl
    rw [hdesc, if_neg hbloat]
    by_cases hjal : Npc.isJalZek d.spawnNpcId = true
    · have hlen : (npcEntry m' d r T').length = T' := rfl
      have htimely : (npcEntry m' d r T').AttacksOnTime := npcFill_attacksOnTime h.within' _ _ _ _ _
      rw [if_pos hjal, hlen, foldl_targetResurrection htimely]
      refine ⟨_, rfl, fun o ho => ?_, ⟨rfl, rfl, rfl, fun o ho => ?_⟩⟩
      · simp only [EnhancedRoomNpc.writeTargets, npcEntry, npcFill_attack, hTT]
        rw [hw o ho]
        by_cases hlt : o.event.tick < T
        · rw [if_neg fun hc => hlt.not_ge hc.1]
          simp only [targetWritten, targetOf, h.npcAttackAt_of_lt hlt, h.resurrected_of_lt hlt]
        · have hle := Nat.not_lt.mp hlt
          have hnone : npcAttackAt m r T o.event.tick = none := npcAttackAt_of_le hle
          by_cases hlt' : o.event.tick < T'
          · simp [hnone, hle, hlt', targetWritten, hjal]
          · simp [hnone, hlt', targetWritten, npcAttackAt_of_le (Nat.not_lt.mp hlt')]
      · simp only [EnhancedRoomNpc.writeTargets, npcEntry, npcFill_attack]
        exact if_neg fun hc => ho (npcAttackAt_mem hc.2.2.1).2
    · rw [if_neg hjal]
      refine ⟨_, rfl, fun o ho => ?_, ⟨rfl, rfl, rfl, fun _ _ => rfl⟩⟩
      rw [hw o ho]
      simp [targetWritten, hjal]

end Extend

end Blert.StageState

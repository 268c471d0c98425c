import Blert.StageState.PlayerState
import Blert.Theatre.Mazes

/-!
The spawn of the Maiden.

A client only receives the Maiden two ticks into her room. The merge moves her spawn to the start
of the stage and puts updates of her on the ticks after it. It is moved to the first tick of the
timeline whether or not that has data.
-/

namespace Blert.Theatre.ChallengeServer

open Merging (EventType)

/-! ### The correction -/

def isMaiden (e : Event) : Bool := e.npc.any fun npc => Merging.Npc.isMaiden npc.id

def isMaidenSpawn (e : Event) : Bool := e.type = .npcSpawn ∧ isMaiden e

def isMaidenUpdate (e : Event) : Bool := e.type = .npcUpdate ∧ isMaiden e

def isMaidenEvent (e : Event) : Bool := isMaidenSpawn e || isMaidenUpdate e

def isFull (e : Event) : Bool :=
  e.npc.any fun npc =>
    let hitpoints := StageState.SkillLevel.fromRaw npc.hitpoints
    hitpoints.current = hitpoints.base

/-- The event of the Maiden on a tick before the one on which she was first received. -/
def initialEvent (maidenSpawn : Event) (tick : ℕ) : Event :=
  if tick = 0 then { maidenSpawn with tick := 0 }
  else { maidenSpawn with type := .npcUpdate, tick }

def correctOffsetMaidenSpawn (ticks : Ticks) : Ticks :=
  match (eventsOf ticks).find? isMaidenSpawn with
  | none => ticks
  | some maidenSpawn =>
    if maidenSpawn.tick ≠ 2 ∨ ¬isFull maidenSpawn then ticks
    else
      match ticks[maidenSpawn.tick]? with
      | some (some events) =>
        if maidenSpawn ∈ events then
          let events := addSyntheticEvent (events.erase maidenSpawn)
            { maidenSpawn with type := .npcUpdate }
          (List.range maidenSpawn.tick).foldl (fun ticks i =>
              ticks.modify i (·.map (addSyntheticEvent · (initialEvent maidenSpawn i))))
            (ticks.set maidenSpawn.tick (some events))
        else ticks
      | _ => ticks

/-! ### Finalized timelines -/

def eventsAt (ticks : Ticks) (tick : ℕ) : List Event := (ticks[tick]?.join).getD []

/-- The Maiden spawns on one tick only, and once. -/
def SpawnsAt (ticks : Ticks) (tick : ℕ) : Prop :=
  ∀ i, (eventsAt ticks i).countP isMaidenSpawn = if i = tick then 1 else 0

/-- Events know their ticks, and an NPC is not updated on the tick on which it spawns. -/
structure Finalized (ticks : Ticks) (tick : ℕ) : Prop where
  spawns : SpawnsAt ticks tick
  tick_eq : ∀ i, ∀ e ∈ eventsAt ticks i, e.tick = i
  not_updated : ∀ e ∈ eventsAt ticks tick, isMaidenUpdate e = false

/-- The Maiden was received at full hitpoints on the third tick. -/
def Offset (ticks : Ticks) : Prop := ∃ e ∈ eventsAt ticks 2, isMaidenSpawn e ∧ isFull e

/-- The spawn of the Maiden is not lost: it is where it was or at the start, from there on the
Maiden is there on every tick that has data, and the other events are where they were. -/
structure Kept (ticks ticks' : Ticks) (tick : ℕ) : Prop where
  spawn : ∃ start, (start = tick ∨ start = 0) ∧ SpawnsAt ticks' start ∧
    ∀ i es, start ≤ i → i ≤ tick → ticks'[i]? = some (some es) →
      es.countP isMaidenEvent = 1
  others : ∀ i, ((eventsAt ticks i).filter (!isMaidenSpawn ·)).Subperm (eventsAt ticks' i)

variable {ticks ticks' : Ticks} {tick i : ℕ} {es : List Event} {e maidenSpawn : Event}

lemma eventsAt_eq (h : ticks[i]? = some (some es)) : eventsAt ticks i = es := by
  simp [eventsAt, h]

lemma getElem?_of_mem (h : e ∈ eventsAt ticks i) :
    ∃ es, ticks[i]? = some (some es) ∧ e ∈ es := by
  rcases hget : ticks[i]? with _ | _ | es
  · simp [eventsAt, hget] at h
  · simp [eventsAt, hget] at h
  · exact ⟨es, rfl, by rwa [eventsAt_eq hget] at h⟩

lemma mem_eventsOf : e ∈ eventsOf ticks ↔ ∃ i, e ∈ eventsAt ticks i := by
  simp only [eventsOf, List.mem_flatten, List.mem_map]
  constructor
  · rintro ⟨es, ⟨state, hstate, rfl⟩, he⟩
    obtain ⟨i, hi⟩ := List.mem_iff_getElem?.mp hstate
    exact ⟨i, by simpa [eventsAt, hi] using he⟩
  · rintro ⟨i, he⟩
    obtain ⟨es, hget, he⟩ := getElem?_of_mem he
    exact ⟨es, ⟨some es, List.mem_of_getElem? hget, rfl⟩, he⟩

lemma perm_addSyntheticEvent (es : List Event) (e : Event) :
    (addSyntheticEvent es e).Perm (e :: es) := by
  obtain ⟨u, v, rfl, hadd⟩ := exists_addSyntheticEvent es e
  rw [hadd]
  exact List.perm_middle

lemma SpawnsAt.eq (h : SpawnsAt ticks tick) (he : e ∈ eventsAt ticks i)
    (hspawn : isMaidenSpawn e = true) : i = tick := by
  by_contra hne
  have hcount := h i
  rw [if_neg hne, List.countP_eq_zero] at hcount
  exact hcount e he hspawn

lemma SpawnsAt.unique (h : SpawnsAt ticks tick) (he : e ∈ eventsAt ticks tick)
    (hspawn : isMaidenSpawn e = true) (he' : maidenSpawn ∈ eventsAt ticks tick)
    (hspawn' : isMaidenSpawn maidenSpawn = true) : e = maidenSpawn := by
  have hcount := h tick
  rw [if_pos rfl, List.countP_eq_length_filter] at hcount
  obtain ⟨x, hx⟩ := List.length_eq_one_iff.mp hcount
  have hmem := List.mem_filter.mpr ⟨he, hspawn⟩
  have hmem' := List.mem_filter.mpr ⟨he', hspawn'⟩
  rw [hx, List.mem_singleton] at hmem hmem'
  rw [hmem, hmem']

lemma Finalized.countP_isMaidenEvent (h : Finalized ticks tick) :
    (eventsAt ticks tick).countP isMaidenEvent = 1 := by
  have hcount := h.spawns tick
  rw [if_pos rfl] at hcount
  rw [← hcount]
  refine List.countP_congr fun e he => ?_
  rw [isMaidenEvent, h.not_updated e he, Bool.or_false]

lemma Finalized.find (h : Finalized ticks tick) : ∃ maidenSpawn,
    (eventsOf ticks).find? isMaidenSpawn = some maidenSpawn ∧
      maidenSpawn ∈ eventsAt ticks tick ∧ isMaidenSpawn maidenSpawn = true ∧
      maidenSpawn.tick = tick := by
  have hcount := h.spawns tick
  rw [if_pos rfl] at hcount
  obtain ⟨e, he, hspawn⟩ := List.countP_pos_iff.mp (hcount ▸ Nat.one_pos)
  cases hfind : (eventsOf ticks).find? isMaidenSpawn with
  | none => exact absurd hspawn (List.find?_eq_none.mp hfind e (mem_eventsOf.mpr ⟨tick, he⟩))
  | some maidenSpawn =>
    have hspawn' := List.find?_some hfind
    obtain ⟨i, hmem⟩ := mem_eventsOf.mp (List.mem_of_find?_eq_some hfind)
    obtain rfl := h.spawns.eq hmem hspawn'
    exact ⟨maidenSpawn, rfl, hmem, hspawn', h.tick_eq _ _ hmem⟩

lemma correctOffsetMaidenSpawn_of_not_offset (h : Finalized ticks tick) (hoffset : ¬Offset ticks) :
    correctOffsetMaidenSpawn ticks = ticks := by
  obtain ⟨maidenSpawn, hfind, hmem, hspawn, htick⟩ := h.find
  unfold correctOffsetMaidenSpawn
  rw [hfind]
  dsimp only
  refine if_pos ?_
  by_contra hnot
  obtain ⟨htwo, hfull⟩ := not_or.mp hnot
  rw [not_ne_iff, htick] at htwo
  exact hoffset ⟨maidenSpawn, htwo ▸ hmem, hspawn, not_not.mp hfull⟩

/-- With an offset, events are added to the first three ticks that have data. -/
structure Corrected (ticks ticks' : Ticks) (maidenSpawn : Event) : Prop where
  initial : ∀ i < 2, ticks'[i]? =
    (ticks[i]?).map (·.map (addSyntheticEvent · (initialEvent maidenSpawn i)))
  second : ∀ es, ticks[2]? = some (some es) → ticks'[2]? = some (some
    (addSyntheticEvent (es.erase maidenSpawn) { maidenSpawn with type := .npcUpdate }))
  later : ∀ i, 2 < i → ticks'[i]? = ticks[i]?

lemma Finalized.corrected (h : Finalized ticks tick) (hoffset : Offset ticks) :
    tick = 2 ∧ ∃ maidenSpawn ∈ eventsAt ticks 2, isMaidenSpawn maidenSpawn = true ∧
      Corrected ticks (correctOffsetMaidenSpawn ticks) maidenSpawn := by
  obtain ⟨e, he, hspawn', hfull⟩ := hoffset
  obtain rfl := h.spawns.eq he hspawn'
  obtain ⟨maidenSpawn, hfind, hmem, hspawn, htick⟩ := h.find
  obtain rfl := h.spawns.unique he hspawn' hmem hspawn
  obtain ⟨es, hget, hes⟩ := getElem?_of_mem hmem
  refine ⟨rfl, e, hmem, hspawn, ?_⟩
  have heq : correctOffsetMaidenSpawn ticks = ((ticks.set 2 (some (addSyntheticEvent (es.erase e)
      { e with type := .npcUpdate }))).modify 0
        (·.map (addSyntheticEvent · (initialEvent e 0)))).modify 1
          (·.map (addSyntheticEvent · (initialEvent e 1))) := by
    unfold correctOffsetMaidenSpawn
    rw [hfind]
    dsimp only
    rw [if_neg (by simp [htick, hfull]), htick, hget]
    dsimp only
    rw [if_pos hes]
    rfl
  rw [heq]
  refine ⟨fun i hi => ?_, fun es' hget' => ?_, fun i hi => ?_⟩
  · interval_cases i <;> simp
  · rw [hget] at hget'
    cases hget'
    have hlt := (List.getElem?_eq_some_iff.mp hget).1
    simp [hlt]
  · have h0 : ¬0 = i := by omega
    have h1 : ¬1 = i := by omega
    have h2 : ¬2 = i := by omega
    simp [h0, h1, h2]

lemma isMaidenEvent_initialEvent (h : isMaidenSpawn maidenSpawn = true) (i : ℕ) :
    isMaidenEvent (initialEvent maidenSpawn i) = true ∧
      isMaidenSpawn (initialEvent maidenSpawn i) = decide (i = 0) := by
  obtain ⟨htype, hmaiden⟩ := of_decide_eq_true h
  have hmaiden' : maidenSpawn.npc.any (fun npc => Merging.Npc.isMaiden npc.id) = true := hmaiden
  unfold initialEvent isMaidenEvent
  split_ifs with hi <;>
    simp [isMaidenSpawn, isMaidenUpdate, isMaiden, htype, hmaiden', hi]

lemma Corrected.perm_initial (hc : Corrected ticks ticks' maidenSpawn) (hi : i < 2) :
    (eventsAt ticks' i).Perm
      (if (ticks[i]?.join).isSome then initialEvent maidenSpawn i :: eventsAt ticks i else []) := by
  have hget := hc.initial i hi
  rcases hold : ticks[i]? with _ | _ | es
  · simp [eventsAt, hget, hold]
  · simp [eventsAt, hget, hold]
  · rw [hold] at hget
    rw [eventsAt_eq hget, eventsAt_eq hold]
    exact perm_addSyntheticEvent _ _

lemma Corrected.countP_second (hc : Corrected ticks ticks' maidenSpawn)
    (hspawns : SpawnsAt ticks 2) (hmem : maidenSpawn ∈ eventsAt ticks 2)
    (hspawn : isMaidenSpawn maidenSpawn = true) :
    (eventsAt ticks' 2).countP isMaidenSpawn = 0 ∧
    (eventsAt ticks' 2).countP isMaidenEvent = (eventsAt ticks 2).countP isMaidenEvent := by
  obtain ⟨es, hget, hes⟩ := getElem?_of_mem hmem
  have hcount := hspawns 2
  rw [eventsAt_eq hget, if_pos rfl] at hcount
  obtain ⟨htype, hmaiden⟩ := of_decide_eq_true hspawn
  have hmaiden' : maidenSpawn.npc.any (fun npc => Merging.Npc.isMaiden npc.id) = true := hmaiden
  rw [eventsAt_eq (hc.second es hget), eventsAt_eq hget, (perm_addSyntheticEvent _ _).countP_eq,
    (perm_addSyntheticEvent _ _).countP_eq, List.countP_cons, List.countP_cons]
  rw [(List.perm_cons_erase hes).countP_eq, List.countP_cons_of_pos hspawn] at hcount
  rw [(List.perm_cons_erase hes).countP_eq isMaidenEvent, List.countP_cons]
  have hevent : isMaidenEvent maidenSpawn = true := by rw [isMaidenEvent, hspawn, Bool.true_or]
  have hupdate : isMaidenSpawn { maidenSpawn with type := .npcUpdate } = false := by
    simp [isMaidenSpawn]
  have hevent' : isMaidenEvent { maidenSpawn with type := .npcUpdate } = true := by
    simp [isMaidenEvent, isMaidenUpdate, isMaiden, hmaiden']
  simp only [hevent, hupdate, hevent', if_true, Bool.false_eq_true, if_false]
  exact ⟨by omega, trivial⟩

/-- A corrected timeline keeps the spawn, if its first tick has data and the Maiden has not been on
a tick before. -/
lemma Corrected.kept (hc : Corrected ticks ticks' maidenSpawn) (h : Finalized ticks 2)
    (hmem : maidenSpawn ∈ eventsAt ticks 2) (hspawn : isMaidenSpawn maidenSpawn = true)
    (hdata : ticks[0]?.join ≠ none)
    (hnone : ∀ i < 2, ∀ e ∈ eventsAt ticks i, isMaidenUpdate e = false) : Kept ticks ticks' 2 := by
  have hinitial := isMaidenEvent_initialEvent hspawn
  obtain ⟨hsecond, hsecond'⟩ := hc.countP_second h.spawns hmem hspawn
  have hnot {i : ℕ} (hi : i < 2) : (eventsAt ticks i).countP isMaidenEvent = 0 := by
    refine List.countP_eq_zero.mpr fun e he hevent => ?_
    rw [isMaidenEvent, hnone i hi e he, Bool.or_false] at hevent
    exact absurd (h.spawns.eq he hevent) hi.ne
  refine ⟨⟨0, .inr rfl, fun i => ?_, fun i es _ hi hget => ?_⟩, fun i => ?_⟩
  · rcases lt_trichotomy i 2 with hi | rfl | hi
    · have hnone := h.spawns i
      rw [if_neg hi.ne] at hnone
      rw [(hc.perm_initial hi).countP_eq]
      by_cases hzero : i = 0
      · subst hzero
        rw [if_pos (Option.isSome_iff_ne_none.mpr hdata), List.countP_cons, hnone, (hinitial 0).2]
        rfl
      · rw [if_neg hzero]
        split_ifs
        · rw [List.countP_cons, hnone, (hinitial i).2, decide_eq_false hzero]
          rfl
        · rfl
    · rw [hsecond, if_neg two_ne_zero]
    · rw [eventsAt, hc.later i hi, ← eventsAt, h.spawns i, if_neg hi.ne', if_neg (by omega)]
  · rw [← eventsAt_eq hget]
    rcases hi.lt_or_eq with hi | rfl
    · have hold := hc.initial i hi
      rw [(hc.perm_initial hi).countP_eq]
      rcases hstate : ticks[i]? with _ | _ | es'
      · simp [hstate, hget] at hold
      · simp [hstate, hget] at hold
      · rw [Option.join_some, Option.isSome_some, if_pos rfl,
          List.countP_cons_of_pos (hinitial i).1, hnot hi]
    · rw [hsecond', h.countP_isMaidenEvent]
  · rcases lt_trichotomy i 2 with hi | rfl | hi
    · refine List.filter_sublist.subperm.trans
        (List.Subperm.trans ?_ (hc.perm_initial hi).symm.subperm)
      split_ifs with hsome
      · exact (List.sublist_cons_self _ _).subperm
      · rw [eventsAt, Option.not_isSome_iff_eq_none.mp hsome]
        exact List.Subperm.refl _
    · obtain ⟨es, hget, hes⟩ := getElem?_of_mem hmem
      have hperm := (List.perm_cons_erase hes).filter (!isMaidenSpawn ·)
      rw [List.filter_cons_of_neg (by simp [hspawn])] at hperm
      rw [eventsAt_eq hget, eventsAt_eq (hc.second es hget)]
      exact hperm.subperm.trans ((List.filter_sublist.cons _).subperm.trans
        (perm_addSyntheticEvent _ _).symm.subperm)
    · rw [eventsAt, eventsAt, hc.later i hi]
      exact List.filter_sublist.subperm

lemma Corrected.of_kept (hc : Corrected ticks ticks' maidenSpawn) (h : Finalized ticks 2)
    (hmem : maidenSpawn ∈ eventsAt ticks 2) (hspawn : isMaidenSpawn maidenSpawn = true)
    (hkept : Kept ticks ticks' 2) :
    ticks[0]?.join ≠ none ∧ ∀ i < 2, ∀ e ∈ eventsAt ticks i, isMaidenUpdate e = false := by
  obtain ⟨start, hstart, hspawns, hone⟩ := hkept.spawn
  have hzero : start = 0 := by
    refine hstart.resolve_left fun htwo => ?_
    have hcount := hspawns 2
    rw [(hc.countP_second h.spawns hmem hspawn).1, if_pos htwo.symm] at hcount
    cases hcount
  subst hzero
  refine ⟨fun hnone => ?_, fun i hi e he => ?_⟩
  · have hcount := hspawns 0
    rw [(hc.perm_initial two_pos).countP_eq, hnone] at hcount
    cases hcount
  · obtain ⟨es, hget, hes⟩ := getElem?_of_mem he
    have hget' : ticks'[i]? = _ := (hc.initial i hi).trans (congrArg _ hget)
    have hcount := hone i _ (Nat.zero_le i) hi.le hget'
    rw [← eventsAt_eq hget', (hc.perm_initial hi).countP_eq, hget, Option.join_some,
      Option.isSome_some, if_pos rfl,
      List.countP_cons_of_pos (isMaidenEvent_initialEvent hspawn i).1, Nat.add_eq_right,
      List.countP_eq_zero] at hcount
    have hnot := hcount e he
    rw [isMaidenEvent, Bool.not_eq_true, Bool.or_eq_false_iff] at hnot
    exact hnot.2

/-- The spawn of the Maiden is kept exactly when, if it is corrected, the first tick has data and
she has not been on a tick before. -/
theorem maiden_kept (ticks : Ticks) :
    ((∀ e ∈ eventsOf ticks, isMaidenSpawn e = false) → correctOffsetMaidenSpawn ticks = ticks) ∧
    ∀ tick, Finalized ticks tick → (Kept ticks (correctOffsetMaidenSpawn ticks) tick ↔
      (Offset ticks → ticks[0]?.join ≠ none ∧
        ∀ i < 2, ∀ e ∈ eventsAt ticks i, isMaidenUpdate e = false)) := by
  refine ⟨fun hnone => ?_, fun tick h => ?_⟩
  · rw [correctOffsetMaidenSpawn, List.find?_eq_none.mpr (by simpa using hnone)]
  · by_cases hoffset : Offset ticks
    · obtain ⟨rfl, maidenSpawn, hmem, hspawn, hc⟩ := h.corrected hoffset
      exact ⟨fun hkept _ => hc.of_kept h hmem hspawn hkept, fun hfirst =>
        hc.kept h hmem hspawn (hfirst hoffset).1 (hfirst hoffset).2⟩
    · rw [correctOffsetMaidenSpawn_of_not_offset h hoffset]
      refine ⟨fun _ hnot => absurd hnot hoffset, fun _ => ⟨⟨tick, .inl rfl, h.spawns, ?_⟩,
        fun i => List.filter_sublist.subperm⟩⟩
      intro i es hstart htick hget
      obtain rfl := le_antisymm htick hstart
      rw [← eventsAt_eq hget, h.countP_isMaidenEvent]

/-! ### A spawn that is lost -/

section Spawned

/-- The Maiden at 3500 of 3500 hitpoints. -/
def spawned (tick : ℕ) : Event :=
  { type := .npcSpawn, stage := .tobMaiden, tick
    npc := some { id := 8360, hitpoints := 229379500 } }

lemma finalized_spawned (state : Option (List Event)) (h : state = none ∨ state = some []) :
    Finalized [state, some [], some [spawned 2]] 2 where
  spawns i := by
    rcases h with rfl | rfl <;> rcases i with _ | _ | _ | i <;> first | decide | simp [eventsAt]
  tick_eq i e he := by
    rcases h with rfl | rfl <;> rcases i with _ | _ | _ | i <;>
      simp_all [eventsAt, spawned]
  not_updated e he := by
    rcases h with rfl | rfl <;> simp_all [eventsAt, spawned, isMaidenUpdate]

theorem maiden_kept_spawned :
    correctOffsetMaidenSpawn [some [], some []] = [some [], some []] ∧
      Kept [some [], some [], some [spawned 2]]
        (correctOffsetMaidenSpawn [some [], some [], some [spawned 2]]) 2 :=
  ⟨(maiden_kept _).1 (by decide), ((maiden_kept _).2 2 (finalized_spawned _ (.inr rfl))).mpr
    fun _ => ⟨by decide, by decide⟩⟩

/-- Where the timeline has been shifted, there is no data on its first tick. -/
theorem maiden_lost : ¬∀ ticks tick, Finalized ticks tick →
    Kept ticks (correctOffsetMaidenSpawn ticks) tick := by
  intro h
  obtain ⟨start, hstart, hspawns, -⟩ :=
    (h _ 2 (finalized_spawned none (.inl rfl))).spawn
  have hcount := hspawns start
  rw [if_pos rfl] at hcount
  rcases hstart with rfl | rfl <;> revert hcount <;> decide

end Spawned

end Blert.Theatre.ChallengeServer

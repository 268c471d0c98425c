import Blert.StageState.Agreement

/-!
What one pass over a stage's events leads to.

The players are those of the party and the NPCs are those that have spawned, each with the
description its events give it. Their ticks are ticks of events.
-/

namespace Blert.StageState

/-! ### Descriptions of NPCs -/

lemma append_keeps {P : ℕ → RoomNpc → Prop} {es : List Event}
    (hafter : ∀ e ∈ es, ∀ r npc, e.belongsToNpc r = true → (∀ d ∈ npc, P r d) →
      ∀ d ∈ RoomNpc.after e npc, P r d)
    {m : NpcMap} (hm : ∀ r, ∀ d ∈ m.get r, P r d) : ∀ r, ∀ d ∈ (m.append es).get r, P r d := by
  induction es generalizing m with
  | nil => exact hm
  | cons e es ih =>
    refine ih (fun e' he' => hafter e' (List.mem_cons_of_mem _ he')) fun r d hd => ?_
    rw [get_appendNpcEvent] at hd
    split_ifs at hd with hmine
    · exact hafter e List.mem_cons_self r _ hmine (hm r) d hd
    · exact hm r d hd

/-- The ticks of a description are ticks of the stage. A death that has not happened is on tick
zero. -/
def RoomNpc.TicksWithin (T : ℕ) (d : RoomNpc) : Prop := d.spawnTick < T ∧ d.deathTick < T

lemma withSubtype_ticks (d : RoomNpc) (n : EventNpc) :
    (d.withSubtype n).spawnTick = d.spawnTick ∧ (d.withSubtype n).deathTick = d.deathTick := by
  unfold RoomNpc.withSubtype
  split <;> exact ⟨rfl, rfl⟩

lemma TicksWithin.withSubtype {T : ℕ} {d : RoomNpc} (h : d.TicksWithin T) (n : EventNpc) :
    (d.withSubtype n).TicksWithin T := by
  unfold RoomNpc.TicksWithin
  rw [(withSubtype_ticks d n).1, (withSubtype_ticks d n).2]
  exact h

lemma ticksWithin_after {T : ℕ} {e : Event} (he : e.tick < T) {npc : Option RoomNpc}
    (h : ∀ d ∈ npc, d.TicksWithin T) : ∀ d ∈ RoomNpc.after e npc, d.TicksWithin T := by
  intro d hd
  unfold RoomNpc.after at hd
  split at hd
  · cases hd
    exact TicksWithin.withSubtype ⟨he, by simp only [RoomNpc.spawned]; omega⟩ _
  · obtain ⟨d₀, hd₀, rfl⟩ := Option.map_eq_some_iff.mp hd
    exact TicksWithin.withSubtype (d := d₀.die e) ⟨(h d₀ hd₀).1, he⟩ _
  · obtain ⟨d₀, hd₀, rfl⟩ := Option.map_eq_some_iff.mp hd
    exact TicksWithin.withSubtype (h d₀ hd₀) _
  · exact h d hd

lemma ticksWithin_buildNpcMap {T : ℕ} {es : List Event} (hes : ∀ e ∈ es, e.tick < T) {r : ℕ}
    {d : RoomNpc} (hd : (buildNpcMapFromEvents es).get r = some d) : d.TicksWithin T :=
  append_keeps (P := fun _ d => d.TicksWithin T)
    (fun e he _ _ _ h => ticksWithin_after (hes e he) h) (m := ∅) (by simp) r d hd

lemma isSome_append {m : NpcMap} {r : ℕ} (h : (m.get r).isSome) (es : List Event) :
    ((m.append es).get r).isSome := by
  induction es generalizing m with
  | nil => exact h
  | cons e es ih =>
    refine ih ?_
    rw [get_appendNpcEvent]
    split_ifs
    · obtain ⟨d, hd⟩ := Option.isSome_iff_exists.mp h
      rw [hd]
      unfold RoomNpc.after
      split <;> rfl
    · exact h

lemma isSome_of_spawn {es : List Event} {e : Event} (he : e ∈ es) {n : EventNpc}
    (hn : e.payload = .npcSpawn n) : ((buildNpcMapFromEvents es).get n.roomId).isSome := by
  obtain ⟨before, after, rfl⟩ := List.append_of_mem he
  have hsplit : buildNpcMapFromEvents (before ++ e :: after) =
      (appendNpcEvent (buildNpcMapFromEvents before) e).append after := by
    simp [buildNpcMapFromEvents, NpcMap.append]
  rw [hsplit]
  refine isSome_append ?_ after
  rw [get_appendNpcEvent, if_pos (by simp [Event.belongsToNpc, hn, Payload.npc?])]
  simp [RoomNpc.after, hn]

/-! ### One pass -/

section

variable {getItemName : ℕ → String} {fullName : ℕ → Option String} {m : EventMaps} {T : ℕ}

lemma foldlM_extendPlayer_has {ps : List String} {s s' : InsertionMap String PlayerEntry × Writes}
    (h : ps.foldlM (extendPlayer getItemName m 0 T) s = some s') {p : String}
    (hp : s'.1.get p ≠ none) : s.1.get p ≠ none ∨ p ∈ ps := by
  induction ps generalizing s with
  | nil =>
    cases h
    exact Or.inl hp
  | cons q ps ih =>
    rw [List.foldlM_cons] at h
    obtain ⟨s₁, hs₁, hrest⟩ := Option.bind_eq_some_iff.mp h
    rcases ih hrest with hold | hmem
    · obtain ⟨e, -, heq⟩ := Option.bind_eq_some_iff.mp hs₁
      cases heq
      rw [InsertionMap.get_set] at hold
      by_cases hpq : p = q
      · exact Or.inr (hpq ▸ List.mem_cons_self)
      · rw [if_neg hpq] at hold
        exact Or.inl hold
    · exact Or.inr (List.mem_cons_of_mem _ hmem)

lemma computeNpcState_get (hm : ({} : EventMaps).Grows m 0 T) (npcMap : NpcMap) (w : Writes)
    (r : ℕ) :
    (computeNpcState fullName npcMap T m w).1.map.get r =
      (npcMap.get r).map fun d => npcEntry m d r T := by
  have hready : ∀ e ∈ npcMap.entries, NpcReady fullName {} 0 T w.target (∅, w) e.1 e.2 := by
    refine fun e _ => ⟨{}, 0, Or.inr ⟨rfl, rfl⟩, rfl, fun o _ => ?_⟩
    rw [targetWritten, npcAttackAt_of_le (Nat.zero_le _)]
    simp
  have hext := foldl_extendNpc hm (OrdMap.keys_nodup npcMap) hready
  cases hr : npcMap.get r with
  | none =>
    refine hext.others r fun hc => ?_
    obtain ⟨d, hd⟩ := OrdMap.mem_keys.mp hc
    rw [hr] at hd
    cases hd
  | some d => exact hext.get (r, d) (OrdMap.mem_entries.mpr hr)

structure Recorded (party : Party) (es : List Event) (T : ℕ) (v : Viewer) : Prop where
  events : v.events = (buildEventMaps es).1
  within : v.events.Within T
  players : ∀ p, v.players.map.get p ≠ none → p ∈ party.members
  npc : ∀ r, v.npcs.map.get r =
    ((buildNpcMapFromEvents es).get r).map fun d => npcEntry v.events d r T

lemma recorded_of_onePass {party : Party} {es : List Event} (hes : ∀ e ∈ es, e.tick < T)
    {v : Viewer} (h : onePass getItemName fullName party es T = some v) :
    Recorded party es T v := by
  have hgrows := append_grows (s := ({}, {})) (Nat.zero_le T) within_empty
    fun e he => ⟨Nat.zero_le _, hes e he⟩
  unfold onePass computePlayerState PlayerStateBuilder.extend at h
  obtain ⟨⟨players, w⟩, hplayers, hv⟩ := Option.bind_eq_some_iff.mp h
  obtain ⟨⟨map, w'⟩, hfold, hmap⟩ := Option.bind_eq_some_iff.mp hplayers
  cases hmap
  cases hv
  refine ⟨rfl, hgrows.within', fun p hp => ?_, fun r => computeNpcState_get hgrows _ _ r⟩
  exact (foldlM_extendPlayer_has hfold hp).resolve_left (by simp)

variable {party : Party} {es : List Event} {v : Viewer}

lemma Recorded.ticksWithin (h : Recorded party es T v) (hes : ∀ e ∈ es, e.tick < T) {r : ℕ}
    {npc : EnhancedRoomNpc} (hnpc : v.npcs.map.get r = some npc) : npc.npc.TicksWithin T := by
  rw [h.npc] at hnpc
  obtain ⟨d, hd, rfl⟩ := Option.map_eq_some_iff.mp hnpc
  exact ticksWithin_buildNpcMap hes hd

lemma Recorded.spawned (h : Recorded party es T v) {t : ℕ} {o : Obj} (ho : o ∈ v.events.byTick t)
    {n : EventNpc} (hn : o.event.payload = .npcSpawn n) : n.roomId ∈ v.npcs.map.keys := by
  rw [h.events] at ho
  obtain ⟨d, hd⟩ := Option.isSome_iff_exists.mp (isSome_of_spawn (mem_byTick ho).1 hn)
  exact InsertionMap.mem_keys.mpr ⟨_, (h.npc n.roomId).trans (by rw [hd]; rfl)⟩

end

end Blert.StageState

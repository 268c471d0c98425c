import Blert.StageState.Live
import Blert.StageState.Npcs

/-!
What appending events does to the maps of a stage.

Events that are not used up are added at the end of the lists of their tick and type. Only attacks
that may still get a style or a bounced player are written to, never a resurrection.
-/

namespace Blert.StageState

/-! ### Maps by tick and type -/

lemma crossReference_snd (m : EventMaps) (w : Writes) (e : Event) :
    (m.crossReference w e).2 = e.consumed := by
  obtain ⟨stage, tick, x, y, acc, payload⟩ := e
  unfold EventMaps.crossReference
  cases payload with
  | tobVerzikAttackStyle style t =>
    simp only
    split <;> rfl
  | tobVerzikBounce t player =>
    simp only
    split_ifs
    · cases player with
      | none => rfl
      | some p =>
        simp only
        split <;> rfl
    · rfl
  | mokhaiotlAttackStyle style t =>
    simp only
    split
    · split <;> rfl
    · rfl
  | _ => rfl

lemma appendEvent_fst (s : EventMaps × Writes) (e : Event) :
    (EventMaps.appendEvent s e).1 =
      if e.consumed then { s.1 with delivered := s.1.delivered + 1 } else s.1.push e := by
  rw [← crossReference_snd s.1 s.2 e]
  rfl

lemma append_append (s : EventMaps × Writes) (es es' : List Event) :
    EventMaps.append (EventMaps.append s es) es' = EventMaps.append s (es ++ es') := by
  simp [EventMaps.append, List.foldl_append]

/-- The objects that appending adds: one for each event that is not used up. -/
structure EventMaps.Adds (m m' : EventMaps) (es : List Event) (new : List Obj) : Prop where
  byTick : ∀ t, m'.byTick t = m.byTick t ++ new.filter (·.event.tick = t)
  byType : ∀ k, m'.byType k = m.byType k ++ new.filter (·.event.type = k)
  events : new.map Obj.event = es.filter fun e => !e.consumed

lemma append_adds (s : EventMaps × Writes) (es : List Event) :
    ∃ new, s.1.Adds (EventMaps.append s es).1 es new := by
  induction es generalizing s with
  | nil => exact ⟨[], fun _ => by simp [EventMaps.append], fun _ => by simp [EventMaps.append], rfl⟩
  | cons e es ih =>
    obtain ⟨new, hnew⟩ := ih (EventMaps.appendEvent s e)
    have hcons : EventMaps.append s (e :: es) =
        EventMaps.append (EventMaps.appendEvent s e) es := rfl
    rw [hcons]
    by_cases hc : e.consumed = true
    · refine ⟨new, fun t => ?_, fun k => ?_, ?_⟩
      · rw [hnew.byTick, appendEvent_fst, if_pos hc]
      · rw [hnew.byType, appendEvent_fst, if_pos hc]
      · rw [hnew.events, List.filter_cons_of_neg (by simp [hc])]
    · refine ⟨⟨s.1.delivered, e⟩ :: new, fun t => ?_, fun k => ?_, ?_⟩
      · rw [hnew.byTick, appendEvent_fst, if_neg hc]
        by_cases ht : t = e.tick
        · subst ht
          simp [EventMaps.push]
        · simp [EventMaps.push, ht, Ne.symm ht]
      · rw [hnew.byType, appendEvent_fst, if_neg hc]
        by_cases hk : k = e.type
        · subst hk
          simp [EventMaps.push]
        · simp [EventMaps.push, hk, Ne.symm hk]
      · rw [List.map_cons, hnew.events, List.filter_cons_of_pos (by simp [hc])]

lemma EventMaps.Adds.mem_events {m m' : EventMaps} {es : List Event} {new : List Obj}
    (h : m.Adds m' es new) {o : Obj} (ho : o ∈ new) : o.event ∈ es ∧ o.event.consumed = false := by
  have hmem : o.event ∈ es.filter fun e => !e.consumed := by
    rw [← h.events]
    exact List.mem_map_of_mem ho
  simpa using hmem

lemma append_grows {s : EventMaps × Writes} {es : List Event} {T T' : ℕ} (hle : T ≤ T')
    (hwithin : s.1.Within T) (hes : ∀ e ∈ es, T ≤ e.tick ∧ e.tick < T') :
    s.1.Grows (EventMaps.append s es).1 T T' := by
  obtain ⟨new, hnew⟩ := append_adds s es
  have htick : ∀ o ∈ new, T ≤ o.event.tick ∧ o.event.tick < T' :=
    fun o ho => hes _ (hnew.mem_events ho).1
  refine ⟨hle, hwithin, ⟨fun t o ho => ?_, fun k o ho => ?_⟩, fun t ht => ?_, fun k => ?_⟩
  · rw [hnew.byTick, List.mem_append, List.mem_filter] at ho
    rcases ho with ho | ⟨ho, ht⟩
    · have := hwithin.tick t o ho
      exact ⟨this.1, by omega⟩
    · have := htick o ho
      have ht' : o.event.tick = t := by simpa using ht
      exact ⟨ht', by omega⟩
  · rw [hnew.byType, List.mem_append, List.mem_filter] at ho
    rcases ho with ho | ⟨ho, hk⟩
    · have := hwithin.type k o ho
      exact ⟨this.1, by omega⟩
    · exact ⟨by simpa using hk, (htick o ho).2⟩
  · rw [hnew.byTick]
    have hnil : new.filter (·.event.tick = t) = [] := by
      rw [List.filter_eq_nil_iff]
      intro o ho
      have := htick o ho
      simp only [decide_eq_true_eq]
      omega
    rw [hnil, List.append_nil]
  · exact ⟨_, hnew.byType k, fun o ho => (htick o (List.mem_filter.mp ho).1).1⟩

lemma within_empty : ({} : EventMaps).Within 0 := by
  constructor <;> simp

/-! ### What events write to earlier ones -/

/-- The attack was delivered as a resurrection. -/
def Obj.IsResurrection (o : Obj) : Prop :=
  ∃ n a, o.event.payload = .npcAttack n a ∧ a.attack = .infernoMagerResurrect

/-- The attacks that are resurrections now are those that were delivered so. -/
def Writes.KeepsResurrections (w : Writes) : Prop :=
  ∀ o, w.attackOf o = some .infernoMagerResurrect ↔ o.IsResurrection

lemma keepsResurrections_empty : ({} : Writes).KeepsResurrections := by
  intro o
  unfold Writes.attackOf Obj.IsResurrection
  split
  · rename_i n a heq
    simp [heq]
  · rename_i hother
    simp only [reduceCtorEq, false_iff, not_exists, not_and]
    intro n a heq
    exact absurd heq (hother n a)

lemma setAttack_attackOf {w : Writes} {o : Obj} {a : NpcAttack} (h : (w.attackOf o).isSome)
    (k : Obj) : (w.setAttack o a).attackOf k = if k = o then some a else w.attackOf k := by
  unfold Writes.attackOf at h ⊢
  by_cases hk : k = o
  · subst hk
    cases hp : k.event.payload <;> simp_all [Writes.setAttack]
  · simp [Writes.setAttack, hk]

lemma KeepsResurrections.setAttack {w : Writes} (h : w.KeepsResurrections) {o : Obj}
    {a b : NpcAttack} (ho : w.attackOf o = some b) (hb : b ≠ .infernoMagerResurrect)
    (ha : a ≠ .infernoMagerResurrect) : (w.setAttack o a).KeepsResurrections := by
  intro k
  rw [setAttack_attackOf (by rw [ho]; rfl)]
  by_cases hk : k = o
  · subst hk
    rw [← h k, ho]
    simp [ha, hb]
  · rw [if_neg hk, h k]

lemma findNpcAttack_some {m : EventMaps} {w : Writes} {tick : ℤ} {p : NpcAttack → Bool} {o : Obj}
    (h : m.findNpcAttack w tick p = some o) : ∃ a, w.attackOf o = some a ∧ p a = true := by
  have := List.find?_some h
  simpa [Option.any_eq_true] using this

/-- Two columns of targets that differ on resurrections only, where one has what `f` makes of the
other. -/
structure Writes.Follows (f : Obj → Option (Option String) → Option (Option String))
    (w w₀ : Writes) : Prop where
  attack : w.attack = w₀.attack
  target : ∀ o, w.target o = f o (w₀.target o)
  keeps : w.KeepsResurrections

lemma Writes.Follows.attackOf {f : Obj → Option (Option String) → Option (Option String)}
    {w w₀ : Writes} (h : w.Follows f w₀) : w.attackOf = w₀.attackOf := by
  funext o
  simp [Writes.attackOf, h.attack]

lemma Writes.Follows.setAttack {f : Obj → Option (Option String) → Option (Option String)}
    {w w₀ : Writes} (h : w.Follows f w₀) {o : Obj} {a b : NpcAttack} (ho : w.attackOf o = some b)
    (hb : b ≠ .infernoMagerResurrect) (ha : a ≠ .infernoMagerResurrect) :
    (w.setAttack o a).Follows f (w₀.setAttack o a) where
  attack := by simp [Writes.setAttack, h.attack]
  target := h.target
  keeps := KeepsResurrections.setAttack h.keeps ho hb ha

lemma Writes.Follows.setTarget {f : Obj → Option (Option String) → Option (Option String)}
    (hf : ∀ o b, ¬o.IsResurrection → f o b = b) {w w₀ : Writes} (h : w.Follows f w₀) {o : Obj}
    {b : NpcAttack} (ho : w.attackOf o = some b) (hb : b ≠ .infernoMagerResurrect)
    (t : Option String) : (w.setTarget o t).Follows f (w₀.setTarget o t) where
  attack := h.attack
  target k := by
    by_cases hk : k = o
    · subst hk
      have hnot : ¬k.IsResurrection := by
        rw [← h.keeps k, ho]
        simp [hb]
      simp [Writes.setTarget, hf k _ hnot]
    · simp [Writes.setTarget, hk, h.target k]
  keeps := h.keeps

lemma mokhaiotlStyle_ne {ball : Bool} {style : AttackStyle} {a : NpcAttack}
    (h : EventMaps.mokhaiotlStyle ball style = some a) : a ≠ .infernoMagerResurrect := by
  rintro rfl
  cases style <;> cases ball <;> simp [EventMaps.mokhaiotlStyle] at h

lemma Writes.Follows.crossReference {f : Obj → Option (Option String) → Option (Option String)}
    (hf : ∀ o b, ¬o.IsResurrection → f o b = b) {w w₀ : Writes} (h : w.Follows f w₀)
    (m : EventMaps) (e : Event) :
    (m.crossReference w e).1.Follows f (m.crossReference w₀ e).1 := by
  have hfind : ∀ t p, m.findNpcAttack w t p = m.findNpcAttack w₀ t p := by
    intro t p
    simp [EventMaps.findNpcAttack, h.attackOf]
  obtain ⟨stage, tick, x, y, acc, payload⟩ := e
  unfold EventMaps.crossReference
  cases payload with
  | tobVerzikAttackStyle style t =>
    simp only [← hfind]
    cases hfound : m.findNpcAttack w t (· = .tobVerzikP3Auto) with
    | none => exact h
    | some o =>
      obtain ⟨a, ha, hp⟩ := findNpcAttack_some hfound
      obtain rfl : a = .tobVerzikP3Auto := by simpa using hp
      exact h.setAttack ha (by decide) (by cases style <;> decide)
  | tobVerzikBounce t player =>
    simp only [← hfind]
    split_ifs
    · cases player with
      | none => exact h
      | some p =>
        cases hfound : m.findNpcAttack w t (· = .tobVerzikP2Bounce) with
        | none => exact h
        | some o =>
          obtain ⟨a, ha, hp⟩ := findNpcAttack_some hfound
          obtain rfl : a = .tobVerzikP2Bounce := by simpa using hp
          exact h.setTarget hf ha (by decide) _
    · exact h
  | mokhaiotlAttackStyle style t =>
    simp only [← hfind, ← h.attackOf]
    cases hfound : m.findNpcAttack w t fun a => a = .mokhaiotlAuto || a = .mokhaiotlBall with
    | none => exact h
    | some o =>
      obtain ⟨a, ha, hp⟩ := findNpcAttack_some hfound
      have hne : a ≠ .infernoMagerResurrect := by
        rintro rfl
        simp at hp
      dsimp only
      cases hstyle : EventMaps.mokhaiotlStyle
        (decide (w.attackOf o = some .mokhaiotlBall)) style with
      | none => exact h
      | some b => exact h.setAttack ha hne (mokhaiotlStyle_ne hstyle)
  | _ => exact h

lemma crossReference_frame (m : EventMaps) (w : Writes) (e : Event) :
    (m.crossReference w e).1.weaponName = w.weaponName ∧
      (m.crossReference w e).1.damage = w.damage := by
  obtain ⟨stage, tick, x, y, acc, payload⟩ := e
  unfold EventMaps.crossReference
  cases payload with
  | tobVerzikAttackStyle style t =>
    simp only
    split <;> exact ⟨rfl, rfl⟩
  | tobVerzikBounce t player =>
    simp only
    split_ifs
    · cases player with
      | none => exact ⟨rfl, rfl⟩
      | some p =>
        simp only
        split <;> exact ⟨rfl, rfl⟩
    · exact ⟨rfl, rfl⟩
  | mokhaiotlAttackStyle style t =>
    simp only
    split
    · split <;> exact ⟨rfl, rfl⟩
    · exact ⟨rfl, rfl⟩
  | _ => exact ⟨rfl, rfl⟩

lemma append_follows {f : Obj → Option (Option String) → Option (Option String)}
    (hf : ∀ o b, ¬o.IsResurrection → f o b = b) {m : EventMaps} {w w₀ : Writes}
    (h : w.Follows f w₀) (es : List Event) :
    (EventMaps.append (m, w) es).1 = (EventMaps.append (m, w₀) es).1 ∧
      (EventMaps.append (m, w) es).2.Follows f (EventMaps.append (m, w₀) es).2 ∧
      (EventMaps.append (m, w) es).2.weaponName = w.weaponName ∧
      (EventMaps.append (m, w) es).2.damage = w.damage := by
  induction es generalizing m w w₀ with
  | nil => exact ⟨rfl, h, rfl, rfl⟩
  | cons e es ih =>
    have hstep := h.crossReference hf m e
    have hmaps : (EventMaps.appendEvent (m, w) e).1 = (EventMaps.appendEvent (m, w₀) e).1 := by
      rw [appendEvent_fst, appendEvent_fst]
    have hw : EventMaps.appendEvent (m, w) e =
        ((EventMaps.appendEvent (m, w₀) e).1, (m.crossReference w e).1) := Prod.ext hmaps rfl
    obtain ⟨h1, h2, h3, h4⟩ := ih (m := (EventMaps.appendEvent (m, w₀) e).1) hstep
    have hframe := crossReference_frame m w e
    simp only [EventMaps.append, List.foldl_cons] at h1 h2 h3 h4 ⊢
    rw [hw]
    exact ⟨h1, h2, h3.trans hframe.1, h4.trans hframe.2⟩

/-! ### The NPC map -/

lemma get_appendNpcEvent (m : NpcMap) (e : Event) (r : ℕ) :
    (appendNpcEvent m e).get r =
      if e.belongsToNpc r then RoomNpc.after e (m.get r) else m.get r := by
  unfold appendNpcEvent Event.belongsToNpc
  cases hn : e.payload.npc? with
  | none => simp
  | some n =>
    simp only [Option.any_some, decide_eq_true_eq]
    cases ha : RoomNpc.after e (m.get n.roomId) with
    | none =>
      by_cases hr : n.roomId = r
      · subst hr
        rw [if_pos rfl, ha]
        -- Only a spawn describes an NPC that was not there, and nothing removes one.
        cases hm : m.get n.roomId with
        | none => rfl
        | some d =>
          rw [hm] at ha
          unfold RoomNpc.after at ha
          split at ha <;> simp at ha
      · rw [if_neg hr]
    | some d =>
      simp only
      rw [OrdMap.get_insert]
      by_cases hr : n.roomId = r
      · subst hr
        simp [ha]
      · simp [hr, Ne.symm hr]

/-- A description apart from the NPC's death. -/
def RoomNpc.exceptDeath (npc : RoomNpc) : RoomNpc :=
  { npc with deathTick := 0, deathPoint := default }

lemma exceptDeath_withSubtype {d d' : RoomNpc} (h : d.exceptDeath = d'.exceptDeath)
    (n : EventNpc) : (d.withSubtype n).exceptDeath = (d'.withSubtype n).exceptDeath := by
  obtain ⟨a1, a2, a3, a4, a5, a6, a7, a8, a9, a10⟩ := d
  obtain ⟨b1, b2, b3, b4, b5, b6, b7, b8, b9, b10⟩ := d'
  simp only [RoomNpc.exceptDeath, RoomNpc.mk.injEq, true_and] at h
  obtain ⟨rfl, rfl, rfl, rfl, rfl, rfl, rfl, rfl⟩ := h
  unfold RoomNpc.withSubtype
  split <;> rfl

lemma roomId_withSubtype (d : RoomNpc) (n : EventNpc) : (d.withSubtype n).roomId = d.roomId := by
  unfold RoomNpc.withSubtype
  split <;> rfl

lemma after_exceptDeath {e : Event} {d d' : RoomNpc} {n : EventNpc} (hn : e.payload.npc? = some n)
    (hspawn : ∀ k, e.payload ≠ .npcSpawn k) (h : d.exceptDeath = d'.exceptDeath) :
    ∃ d₁, RoomNpc.after e (some d) = some d₁ ∧
      d₁.exceptDeath = (d'.withSubtype n).exceptDeath := by
  unfold RoomNpc.after
  cases hp : e.payload <;> simp [hp, Payload.npc?] at hn
  case npcSpawn k => exact absurd hp (hspawn k)
  case npcUpdate k =>
    subst hn
    exact ⟨_, rfl, exceptDeath_withSubtype h k⟩
  case npcDeath k =>
    subst hn
    exact ⟨_, rfl, exceptDeath_withSubtype (d := d.die e) h k⟩

lemma withSubtypes_cons (d : RoomNpc) (e : Event) (es : List Event) :
    d.withSubtypes (e :: es) =
      match e.payload.npc?.filter (·.roomId = d.roomId) with
      | some n => (d.withSubtype n).withSubtypes es
      | none => d.withSubtypes es := by
  unfold RoomNpc.withSubtypes
  cases h : e.payload.npc?.filter (·.roomId = d.roomId) with
  | none => simp [h]
  | some n => simp [h, roomId_withSubtype]

lemma append_exceptDeath {m : NpcMap} {r : ℕ} {d d' : RoomNpc} (hget : m.get r = some d)
    (h : d.exceptDeath = d'.exceptDeath) (hr : d'.roomId = r) {es : List Event}
    (hspawn : ∀ e ∈ es, ∀ n, e.payload = .npcSpawn n → n.roomId ≠ r) :
    ∃ d₁, (m.append es).get r = some d₁ ∧
      d₁.exceptDeath = (d'.withSubtypes es).exceptDeath := by
  induction es generalizing m d d' with
  | nil => exact ⟨d, hget, h⟩
  | cons e es ih =>
    have hspawn' : ∀ e' ∈ es, ∀ n, e'.payload = .npcSpawn n → n.roomId ≠ r :=
      fun e' he' => hspawn e' (by simp [he'])
    have hcons : m.append (e :: es) = (appendNpcEvent m e).append es := rfl
    rw [hcons, withSubtypes_cons]
    have hget' := get_appendNpcEvent m e r
    cases hn : e.payload.npc? with
    | none =>
      rw [if_neg (by simp [Event.belongsToNpc, hn])] at hget'
      exact ih (hget'.trans hget) h hr hspawn'
    | some n =>
      by_cases hroom : n.roomId = r
      · rw [if_pos (by simp [Event.belongsToNpc, hn, hroom]), hget] at hget'
        have hnot : ∀ k, e.payload ≠ .npcSpawn k := by
          intro k hk
          have hkn : k = n := by simpa [hk, Payload.npc?] using hn
          exact hspawn e (by simp) k hk (hkn ▸ hroom)
        obtain ⟨d₁, hd₁, hd₁'⟩ := after_exceptDeath hn hnot h
        have hmine : (some n).filter (fun k : EventNpc => decide (k.roomId = d'.roomId)) =
            some n := by
          simp [Option.filter, hroom, hr]
        rw [hmine]
        exact ih (hget'.trans hd₁) hd₁' ((roomId_withSubtype d' n).trans hr) hspawn'
      · rw [if_neg (by simp [Event.belongsToNpc, hn, hroom])] at hget'
        have hother : (some n).filter (fun k : EventNpc => decide (k.roomId = d'.roomId)) =
            none := by
          simp [Option.filter, hr, hroom]
        rw [hother]
        exact ih (hget'.trans hget) h hr hspawn'

lemma roomId_of_append {m : NpcMap} (hm : ∀ r d, m.get r = some d → d.roomId = r)
    (es : List Event) : ∀ r d, (m.append es).get r = some d → d.roomId = r := by
  induction es generalizing m with
  | nil => exact hm
  | cons e es ih =>
    refine ih fun r d hget => ?_
    rw [get_appendNpcEvent] at hget
    split_ifs at hget with hmine
    · unfold RoomNpc.after at hget
      unfold Event.belongsToNpc at hmine
      cases hp : e.payload <;> simp only [hp, Payload.npc?] at hget hmine
      case npcSpawn n =>
        obtain rfl := Option.some.inj hget
        rw [roomId_withSubtype]
        simpa [RoomNpc.spawned] using hmine
      case npcUpdate n =>
        obtain ⟨d₀, hd₀, rfl⟩ := Option.map_eq_some_iff.mp hget
        rw [roomId_withSubtype]
        exact hm r d₀ hd₀
      case npcDeath n =>
        obtain ⟨d₀, hd₀, rfl⟩ := Option.map_eq_some_iff.mp hget
        rw [roomId_withSubtype]
        exact hm r d₀ hd₀
      all_goals simp at hmine
    · exact hm r d hget

end Blert.StageState

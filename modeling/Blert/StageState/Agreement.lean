import Blert.StageState.Appending

/-!
A live stage agrees with the recorded one.

What the viewer has built after some batches has a form that depends on the events and ticks
delivered alone, as long as no batch changes what was processed before it. Building a stage in one
pass gives the same form.
-/

namespace Blert.StageState

section

variable (getItemName : ℕ → String) (fullName : ℕ → Option String) (party : Party)

/-! ### States that a tick has -/

variable {getItemName} in
lemma trackPlayer_isDead {p : String} {byTick : ℕ → List Obj} {T : ℕ}
    (h : (trackPlayer getItemName p byTick T).cursor.isDead = true) :
    ∃ t < T, ∃ o ∈ byTick t, o.event.payload = .playerDeath p := by
  induction T with
  | zero => cases h
  | succ T ih =>
    have hdead : (trackPlayer getItemName p byTick T).cursor.isDead = true ∨
        ∃ o ∈ byTick T, o.event.payload = .playerDeath p := by
      simp only [trackPlayer] at h
      unfold processPlayerTick at h
      by_cases hos : byTick T = []
      · simp only [hos, if_true] at h
        exact Or.inl h
      · simp only [hos, if_false] at h
        by_cases hmine : (byTick T).filter (·.event.belongsToPlayer p) = []
        · simp only [hmine, ne_eq, not_true_eq_false, if_false] at h
          exact Or.inl h
        · simp only [hmine, ne_eq, not_false_eq_true, if_true, Bool.or_eq_true,
            List.any_eq_true, List.mem_filter] at h
          rcases h with h | ⟨o, ⟨ho, hp⟩, hdeath⟩
          · exact Or.inl h
          · refine Or.inr ⟨o, ho, ?_⟩
            unfold Obj.isDeath Event.type at hdeath
            unfold Event.belongsToPlayer at hp
            cases hpay : o.event.payload <;> simp_all [Payload.type, Payload.player?]
    rcases hdead with hdead | ⟨o, ho, hdeath⟩
    · obtain ⟨t, ht, hrest⟩ := ih hdead
      exact ⟨t, by omega, hrest⟩
    · exact ⟨T, by omega, o, ho, hdeath⟩

lemma mem_byTick {es : List Event} {t : ℕ} {o : Obj}
    (h : o ∈ (buildEventMaps es).1.byTick t) :
    o.event ∈ es ∧ o.event.tick = t ∧ o.event.consumed = false := by
  obtain ⟨new, hnew⟩ := append_adds ({}, {}) es
  unfold buildEventMaps at h
  rw [hnew.byTick, List.nil_append, List.mem_filter] at h
  have := hnew.mem_events h.1
  exact ⟨this.1, by simpa using h.2, this.2⟩

variable {getItemName} in
lemma trackPlayer_eq_none {es : List Event} {p : String} {t : ℕ} (T : ℕ)
    (h : HasState es p t = false) :
    (trackPlayer getItemName p (buildEventMaps es).1.byTick T).stateByTick t = none := by
  by_cases ht : T ≤ t
  · exact trackPlayer_of_le ht
  rw [trackPlayer_of_lt (by omega)]
  simp only [HasState, Bool.or_eq_false_iff, List.any_eq_false, Bool.and_eq_true,
    decide_eq_true_eq, not_and, Bool.not_eq_true] at h
  obtain ⟨hevents, hdead⟩ := h
  simp only [trackPlayer]
  unfold processPlayerTick
  set byTick := (buildEventMaps es).1.byTick with hbyTick
  by_cases hos : byTick t = []
  · simp only [hos, if_true]
    exact trackPlayer_of_le le_rfl
  · have hmine : (byTick t).filter (·.event.belongsToPlayer p) = [] := by
      rw [List.filter_eq_nil_iff]
      intro o ho
      obtain ⟨hes, htick, -⟩ := mem_byTick ho
      simpa using hevents o.event hes htick
    have halive : (trackPlayer getItemName p byTick t).cursor.isDead = false := by
      by_contra hc
      obtain ⟨t', ht', o, ho, hdeath⟩ := trackPlayer_isDead (by simpa using hc)
      obtain ⟨hes, htick, -⟩ := mem_byTick ho
      obtain ⟨x, hx⟩ := List.exists_mem_of_ne_nil _ hos
      obtain ⟨hxes, hxtick, hxc⟩ := mem_byTick hx
      have hbefore : es.any (fun e => e.tick < t && e.payload = .playerDeath p) = true :=
        List.any_eq_true.mpr ⟨o.event, hes, by simp [htick, ht', hdeath]⟩
      have hon : es.any (fun e => e.tick = t && !e.consumed) = true :=
        List.any_eq_true.mpr ⟨x.event, hxes, by simp [hxtick, hxc]⟩
      simp [hbefore, hon] at hdead
    simp [hos, hmine, playerStateThisTick, halive]

/-! ### Extending all players and NPCs -/

section Extend

variable {getItemName fullName} {m m' : EventMaps} {T T' : ℕ}

lemma belongsToPlayer_inj {e : Event} {p q : String} (hp : e.belongsToPlayer p = true)
    (hq : e.belongsToPlayer q = true) : p = q := by
  unfold Event.belongsToPlayer at hp hq
  simp only [decide_eq_true_eq] at hp hq
  exact Option.some.inj (hp.symm.trans hq)

lemma PlayerWrites.frame {p q : String} {w w' : Writes} (h : PlayerWrites getItemName m q T w)
    (hframe : PlayerFrame p w w') (hne : q ≠ p) : PlayerWrites getItemName m q T w' := by
  have hother : ∀ o : Obj, o.event.belongsToPlayer q = true → ¬o.event.belongsToPlayer p = true :=
    fun o hq hp => hne (belongsToPlayer_inj hq hp)
  constructor
  · intro o ho
    rw [hframe.weaponName o (hother o ho)]
    exact h.weaponName o ho
  · intro o ho
    rw [hframe.damage o (hother o ho)]
    exact h.damage o ho

variable (getItemName) in
/-- What a player's states are extended from. -/
structure PlayerReady (m m' : EventMaps) (T T' : ℕ) (s : InsertionMap String PlayerEntry × Writes)
    (p : String) : Prop where
  entry : (s.1.get p).getD { length := 0 } = playerEntry getItemName m p T
  writes : PlayerWrites getItemName m p T s.2
  fits : ∀ o ∈ m'.byType .tobVerzikDawn, ∀ a d, o.event.payload = .tobVerzikDawn a d p → a < T'
  late : NoLateDawn getItemName m m' p T

variable (getItemName) in
/-- What extending the states of some players leads to. -/
structure PlayersExtended (m' : EventMaps) (T' : ℕ) (ps : List String)
    (s s' : InsertionMap String PlayerEntry × Writes) : Prop where
  get : ∀ p ∈ ps, s'.1.get p = some (playerEntry getItemName m' p T')
  others : ∀ p ∉ ps, s'.1.get p = s.1.get p
  writes : ∀ p ∈ ps, PlayerWrites getItemName m' p T' s'.2
  attack : s'.2.attack = s.2.attack
  target : s'.2.target = s.2.target
  frame : ∀ o : Obj, (∀ p ∈ ps, ¬o.event.belongsToPlayer p = true) →
    s'.2.weaponName o = s.2.weaponName o ∧ s'.2.damage o = s.2.damage o

lemma foldlM_extendPlayer (h : m.Grows m' T T') {ps : List String} (hnd : ps.Nodup)
    {s : InsertionMap String PlayerEntry × Writes}
    (hready : ∀ p ∈ ps, PlayerReady getItemName m m' T T' s p) :
    ∃ s', ps.foldlM (extendPlayer getItemName m' T T') s = some s' ∧
      PlayersExtended getItemName m' T' ps s s' := by
  induction ps generalizing s with
  | nil => exact ⟨s, rfl, by simp, fun _ _ => rfl, by simp, rfl, rfl, fun _ _ => ⟨rfl, rfl⟩⟩
  | cons p ps ih =>
    obtain ⟨hp, hnd'⟩ := List.nodup_cons.mp hnd
    have hr := hready p (by simp)
    obtain ⟨w', hext, hw', hframe⟩ := extendPlayer_eq h hr.entry hr.writes hr.fits hr.late
    have hready' : ∀ q ∈ ps, PlayerReady getItemName m m' T T'
        (s.1.set p (playerEntry getItemName m' p T'), w') q := by
      intro q hq
      have hne : q ≠ p := fun heq => hp (heq ▸ hq)
      have hrq := hready q (by simp [hq])
      refine ⟨?_, hrq.writes.frame hframe hne, hrq.fits, hrq.late⟩
      rw [InsertionMap.get_set, if_neg hne]
      exact hrq.entry
    obtain ⟨s', hs', hs''⟩ := ih hnd' hready'
    refine ⟨s', ?_, fun q hq => ?_, fun q hq => ?_, fun q hq => ?_, ?_, ?_, fun o ho => ?_⟩
    · rw [List.foldlM_cons, hext]
      exact hs'
    · by_cases hqps : q ∈ ps
      · exact hs''.get q hqps
      · obtain rfl : q = p := by simpa [hqps] using hq
        rw [hs''.others q hqps, InsertionMap.get_set, if_pos rfl]
    · simp only [List.mem_cons, not_or] at hq
      rw [hs''.others q hq.2, InsertionMap.get_set, if_neg hq.1]
    · by_cases hqps : q ∈ ps
      · exact hs''.writes q hqps
      · obtain rfl : q = p := by simpa [hqps] using hq
        have hnot : ∀ o : Obj, o.event.belongsToPlayer q = true →
            ∀ p' ∈ ps, ¬o.event.belongsToPlayer p' = true :=
          fun o ho p' hp' hc => hqps (belongsToPlayer_inj ho hc ▸ hp')
        constructor
        · intro o ho
          rw [(hs''.frame o (hnot o ho)).1]
          exact hw'.weaponName o ho
        · intro o ho
          rw [(hs''.frame o (hnot o ho)).2]
          exact hw'.damage o ho
    · exact hs''.attack.trans hframe.attack
    · exact hs''.target.trans hframe.target
    · have hps := hs''.frame o fun q hq => ho q (by simp [hq])
      have hmine := ho p (by simp)
      exact ⟨hps.1.trans (hframe.weaponName o hmine), hps.2.trans (hframe.damage o hmine)⟩

variable (fullName) in
/-- What an NPC's states are extended from: those it has, or none when it is new. -/
structure NpcReady (m : EventMaps) (T T' : ℕ) (base : Obj → Option (Option String))
    (s : InsertionMap ℕ EnhancedRoomNpc × Writes) (r : ℕ) (d : RoomNpc) : Prop where
  start : ∃ (m₀ : EventMaps) (T₀ : ℕ), (m₀ = m ∧ T₀ = T ∨ m₀ = {} ∧ T₀ = 0) ∧
    enterNpc d T T' (s.1.get r) =
      ((trackNpc r m₀.byTick T₀).fill d T' (labelOn m₀ d) (labelled m₀ d r T₀), T₀) ∧
    ∀ o : Obj, o.IsAttackOf r → s.2.target o = targetWritten fullName m₀ d r T₀ s.2 base o

variable (fullName) in
/-- What extending the states of some NPCs leads to. -/
structure NpcsExtended (m' : EventMaps) (T' : ℕ) (base : Obj → Option (Option String))
    (es : List (ℕ × RoomNpc)) (s s' : InsertionMap ℕ EnhancedRoomNpc × Writes) : Prop where
  get : ∀ e ∈ es, s'.1.get e.1 = some (npcEntry m' e.2 e.1 T')
  others : ∀ r ∉ es.map Prod.fst, s'.1.get r = s.1.get r
  target : ∀ e ∈ es, ∀ o : Obj, o.IsAttackOf e.1 →
    s'.2.target o = targetWritten fullName m' e.2 e.1 T' s'.2 base o
  attack : s'.2.attack = s.2.attack
  weaponName : s'.2.weaponName = s.2.weaponName
  damage : s'.2.damage = s.2.damage
  frame : ∀ o : Obj, (∀ r ∈ es.map Prod.fst, ¬o.IsAttackOf r) → s'.2.target o = s.2.target o

lemma isAttackOf_inj {o : Obj} {r r' : ℕ} (h : o.IsAttackOf r) (h' : o.IsAttackOf r') : r = r' := by
  obtain ⟨n, a, hp, rfl⟩ := h
  obtain ⟨n', a', hp', rfl⟩ := h'
  rw [hp] at hp'
  cases hp'
  rfl

lemma targetWritten_congr {w w' : Writes} {o : Obj}
    (h : w'.attackOf o = some .infernoMagerResurrect ↔ w.attackOf o = some .infernoMagerResurrect)
    (m : EventMaps) (d : RoomNpc) (r T : ℕ) (base : Obj → Option (Option String)) :
    targetWritten fullName m d r T w' base o = targetWritten fullName m d r T w base o := by
  simp only [targetWritten, h]

lemma attackOf_congr {w w' : Writes} (h : w'.attack = w.attack) (o : Obj) :
    w'.attackOf o = w.attackOf o := by
  simp [Writes.attackOf, h]

lemma foldl_extendNpc (h : m.Grows m' T T') {base : Obj → Option (Option String)}
    {es : List (ℕ × RoomNpc)} (hnd : (es.map Prod.fst).Nodup)
    {s : InsertionMap ℕ EnhancedRoomNpc × Writes}
    (hready : ∀ e ∈ es, NpcReady fullName m T T' base s e.1 e.2) :
    NpcsExtended fullName m' T' base es s
      (es.foldl (extendNpc fullName m' T T') s) := by
  induction es generalizing s with
  | nil => exact ⟨by simp, fun _ _ => rfl, by simp, rfl, rfl, rfl, fun _ _ => rfl⟩
  | cons e es ih =>
    obtain ⟨r, d⟩ := e
    obtain ⟨hr, hnd'⟩ := List.nodup_cons.mp hnd
    obtain ⟨m₀, T₀, hm₀, hstart, hw⟩ := (hready (r, d) (by simp)).start
    have hgrows : m₀.Grows m' T₀ T' := by
      rcases hm₀ with ⟨rfl, rfl⟩ | ⟨rfl, rfl⟩
      · exact h
      · refine ⟨Nat.zero_le _, within_empty, h.within', fun t ht => absurd ht (by omega), ?_⟩
        exact fun k => ⟨m'.byType k, by simp, fun _ _ => Nat.zero_le _⟩
    obtain ⟨w', hext, hw', hframe⟩ := extendNpc_eq hgrows hstart hw
    have hready' : ∀ e ∈ es, NpcReady fullName m T T' base
        (s.1.set r (npcEntry m' d r T'), w') e.1 e.2 := by
      intro e he
      have hne : e.1 ≠ r := by
        intro heq
        have hmem : e.1 ∈ es.map Prod.fst := List.mem_map_of_mem he
        rw [heq] at hmem
        exact hr hmem
      obtain ⟨m₁, T₁, hm₁, hstart₁, hw₁⟩ := (hready e (by simp [he])).start
      refine ⟨m₁, T₁, hm₁, ?_, fun o ho => ?_⟩
      · rw [InsertionMap.get_set, if_neg hne]
        exact hstart₁
      · rw [hframe.target o fun hc => hne (isAttackOf_inj ho hc), hw₁ o ho]
        exact (targetWritten_congr (by rw [attackOf_congr hframe.attack]) _ _ _ _ _).symm
    have hrest := ih hnd' hready'
    rw [List.foldl_cons, hext]
    refine ⟨fun e he => ?_, fun q hq => ?_, fun e he o ho => ?_, ?_, ?_, ?_, fun o ho => ?_⟩
    · rcases List.mem_cons.mp he with rfl | he
      · rw [hrest.others _ hr, InsertionMap.get_set, if_pos rfl]
      · exact hrest.get e he
    · simp only [List.map_cons, List.mem_cons, not_or] at hq
      rw [hrest.others q hq.2, InsertionMap.get_set, if_neg hq.1]
    · rcases List.mem_cons.mp he with rfl | he
      · have hnot : ∀ q ∈ es.map Prod.fst, ¬o.IsAttackOf q :=
          fun q hq hc => hr (isAttackOf_inj ho hc ▸ hq)
        rw [hrest.frame o hnot, hw' o ho, targetWritten_congr]
        rw [attackOf_congr (hrest.attack.trans hframe.attack)]
      · exact hrest.target e he o ho
    · exact hrest.attack.trans hframe.attack
    · exact hrest.weaponName.trans hframe.weaponName
    · exact hrest.damage.trans hframe.damage
    · have hes := hrest.frame o fun q hq => ho q (by simp [hq])
      exact hes.trans (hframe.target o (ho r (by simp)))

end Extend

/-! ### The form of what has been built -/

/-- The target of an attack when the NPCs have been processed up to a tick. -/
def writtenTarget (m : EventMaps) (npcMap : NpcMap) (T : ℕ) (w : Writes)
    (base : Obj → Option (Option String)) (o : Obj) : Option (Option String) :=
  match o.event.payload with
  | .npcAttack n _ =>
    match npcMap.get n.roomId with
    | some d => targetWritten fullName m d n.roomId T w base o
    | none => base o
  | _ => base o

/-- What the viewer has built is what the given events and ticks make of it. -/
structure Built (es : List Event) (T : ℕ) (v : Viewer) : Prop where
  events : v.events = (buildEventMaps es).1
  within : v.events.Within T
  npcMap : v.npcMap = buildNpcMapFromEvents es
  playerTicks : v.players.processedTicks = T
  npcTicks : v.npcs.processedTicks = T
  player : ∀ p ∈ party.members,
    (v.players.map.get p).getD { length := 0 } = playerEntry getItemName v.events p T
  noPlayer : ∀ p ∉ party.members, v.players.map.get p = none
  npc : ∀ r, v.npcs.map.get r = (v.npcMap.get r).map fun d => npcEntry v.events d r T
  attack : v.writes.attack = (buildEventMaps es).2.attack
  target : ∀ o, v.writes.target o =
    writtenTarget fullName v.events v.npcMap T v.writes (buildEventMaps es).2.target o
  keeps : v.writes.KeepsResurrections
  playerWrites : ∀ p ∈ party.members, PlayerWrites getItemName v.events p T v.writes
  otherWrites : ∀ o : Obj, (∀ p ∈ party.members, ¬o.event.belongsToPlayer p = true) →
    v.writes.weaponName o = none ∧ v.writes.damage o = none

def Entered (v : Viewer) : Prop := ∀ p ∈ party.members, v.players.map.get p ≠ none

variable {getItemName fullName party}

lemma writtenTarget_of_attack {m : EventMaps} {npcMap : NpcMap} {T : ℕ} {w : Writes}
    {base : Obj → Option (Option String)} {o : Obj} {r : ℕ} (h : o.IsAttackOf r) :
    writtenTarget fullName m npcMap T w base o =
      match npcMap.get r with
      | some d => targetWritten fullName m d r T w base o
      | none => base o := by
  obtain ⟨n, a, hp, rfl⟩ := h
  unfold writtenTarget
  simp only [hp]

lemma writtenTarget_of_not_attack {m : EventMaps} {npcMap : NpcMap} {T : ℕ} {w : Writes}
    {base : Obj → Option (Option String)} {o : Obj} (h : ∀ r, ¬o.IsAttackOf r) :
    writtenTarget fullName m npcMap T w base o = base o := by
  unfold writtenTarget
  split
  · rename_i n a hp
    exact absurd ⟨n, a, hp, rfl⟩ (h n.roomId)
  · rfl

lemma writtenTarget_congr {w w' : Writes} {o : Obj}
    (h : w'.attackOf o = some .infernoMagerResurrect ↔ w.attackOf o = some .infernoMagerResurrect)
    (m : EventMaps) (npcMap : NpcMap) (T : ℕ) {base base' : Obj → Option (Option String)}
    (hbase : base' o = base o) :
    writtenTarget fullName m npcMap T w' base' o = writtenTarget fullName m npcMap T w base o := by
  simp only [writtenTarget, targetWritten, h, hbase]

lemma Built.same {es : List Event} {T : ℕ} {v v' : Viewer}
    (h : Built getItemName fullName party es T v) (h' : Built getItemName fullName party es T v')
    (hin : Entered party v) (hin' : Entered party v') : v.Same v' := by
  have hevents : v.events = v'.events := h.events.trans h'.events.symm
  have hnpcMap : v.npcMap = v'.npcMap := h.npcMap.trans h'.npcMap.symm
  have hattack : v.writes.attack = v'.writes.attack := h.attack.trans h'.attack.symm
  refine ⟨hevents, hnpcMap, fun p => ?_, fun r => ?_, ?_⟩
  · by_cases hp : p ∈ party.members
    · obtain ⟨e, he⟩ := Option.ne_none_iff_exists'.mp (hin p hp)
      obtain ⟨e', he'⟩ := Option.ne_none_iff_exists'.mp (hin' p hp)
      have h1 := h.player p hp
      have h2 := h'.player p hp
      rw [he, Option.getD_some] at h1
      rw [he', Option.getD_some, ← hevents] at h2
      rw [he, he', h1, h2]
    · rw [h.noPlayer p hp, h'.noPlayer p hp]
  · rw [h.npc, h'.npc, hevents, hnpcMap]
  · refine Writes.ext hattack (funext fun o => ?_) (funext fun o => ?_) (funext fun o => ?_)
    · rw [h.target, h'.target, hevents, hnpcMap]
      exact writtenTarget_congr (by rw [attackOf_congr hattack]) _ _ _ rfl
    · by_cases ho : ∃ p ∈ party.members, o.event.belongsToPlayer p = true
      · obtain ⟨p, hp, hpo⟩ := ho
        rw [(h.playerWrites p hp).weaponName o hpo, (h'.playerWrites p hp).weaponName o hpo,
          hevents]
      · push Not at ho
        rw [(h.otherWrites o ho).1, (h'.otherWrites o ho).1]
    · by_cases ho : ∃ p ∈ party.members, o.event.belongsToPlayer p = true
      · obtain ⟨p, hp, hpo⟩ := ho
        rw [(h.playerWrites p hp).damage o hpo, (h'.playerWrites p hp).damage o hpo, hevents]
      · push Not at ho
        rw [(h.otherWrites o ho).2, (h'.otherWrites o ho).2]

lemma built_empty : Built getItemName fullName party [] 0 {} where
  events := rfl
  within := within_empty
  npcMap := rfl
  playerTicks := rfl
  npcTicks := rfl
  player _ _ := rfl
  noPlayer _ _ := rfl
  npc _ := rfl
  attack := rfl
  target o := by
    unfold writtenTarget
    split <;> rfl
  keeps := keepsResurrections_empty
  playerWrites p _ := by
    constructor
    · intro o _
      simp
    · intro o _
      rw [attackOn_of_le (Nat.zero_le _)]
      simp
  otherWrites _ _ := ⟨rfl, rfl⟩

/-- A batch that leaves what was processed before it as it was. -/
structure Undisturbed (party : Party) (es : List Event) (T : ℕ) (b : Batch) : Prop where
  le : T ≤ b.totalTicks
  tick : ∀ e ∈ b.events, T ≤ e.tick ∧ e.tick < b.totalTicks
  fits : ∀ e ∈ es ++ b.events, ∀ a d p, p ∈ party.members → e.payload = .tobVerzikDawn a d p →
    a < b.totalTicks
  late : ∀ e ∈ b.events, ∀ a d p, p ∈ party.members → e.payload = .tobVerzikDawn a d p →
    ∀ t < T, (t : ℤ) = a → HasState es p t = false
  npc : ∀ r d, (buildNpcMapFromEvents es).get r = some d →
    ∃ d', (buildNpcMapFromEvents (es ++ b.events)).get r = some d' ∧ d'.exceptDeath = d.exceptDeath

lemma buildEventMaps_append (es es' : List Event) :
    buildEventMaps (es ++ es') = EventMaps.append (buildEventMaps es) es' := by
  unfold buildEventMaps
  rw [append_append]

lemma mem_byType {es : List Event} {k : EventType} {o : Obj}
    (h : o ∈ (buildEventMaps es).1.byType k) : o.event ∈ es := by
  obtain ⟨new, hnew⟩ := append_adds ({}, {}) es
  unfold buildEventMaps at h
  rw [hnew.byType, List.nil_append, List.mem_filter] at h
  exact (hnew.mem_events h.1).1

lemma Built.follows {es : List Event} {T : ℕ} {v : Viewer}
    (h : Built getItemName fullName party es T v) :
    v.writes.Follows
      (fun o base => writtenTarget fullName v.events v.npcMap T v.writes (fun _ => base) o)
      (buildEventMaps es).2 where
  attack := h.attack
  target o := by
    rw [h.target]
    exact writtenTarget_congr Iff.rfl _ _ _ rfl
  keeps := h.keeps

lemma writtenTarget_of_not_resurrection {w : Writes} (h : w.KeepsResurrections) {m : EventMaps}
    {npcMap : NpcMap} {T : ℕ} {base : Obj → Option (Option String)} {o : Obj}
    (ho : ¬o.IsResurrection) : writtenTarget fullName m npcMap T w base o = base o := by
  have hne : ¬w.attackOf o = some .infernoMagerResurrect := fun hc => ho ((h o).mp hc)
  unfold writtenTarget targetWritten
  split
  · split
    · exact if_neg fun hc => hne hc.2.2
    · rfl
  · rfl

lemma Built.npcReady {es : List Event} {T : ℕ} {v : Viewer} {b : Batch} {w : Writes}
    (h : Built getItemName fullName party es T v) (hu : Undisturbed party es T b)
    {base : Obj → Option (Option String)}
    (hw : ∀ o, w.target o = writtenTarget fullName v.events v.npcMap T w base o) {r : ℕ}
    {d' : RoomNpc} (hd' : (buildNpcMapFromEvents (es ++ b.events)).get r = some d') :
    NpcReady fullName v.events T b.totalTicks base (v.npcs.map, w) r d' := by
  cases hd : v.npcMap.get r with
  | none =>
    -- The NPC is new: it is processed from the start.
    have hget : v.npcs.map.get r = none := by rw [h.npc, hd]; rfl
    refine ⟨{}, 0, Or.inr ⟨rfl, rfl⟩, ?_, fun o ho => ?_⟩
    · simp only [hget]
      rfl
    · simp only [hw o, writtenTarget_of_attack ho, hd]
      rw [targetWritten, npcAttackAt_of_le (Nat.zero_le _)]
      simp
  | some d =>
    rw [h.npcMap] at hd
    obtain ⟨d₁, hd₁, hsame⟩ := hu.npc r d hd
    obtain rfl : d₁ = d' := Option.some.inj (hd₁.symm.trans hd')
    rw [← h.npcMap] at hd
    obtain ⟨a1, a2, a3, a4, a5, a6, a7, a8, a9, a10⟩ := d
    obtain ⟨b1, b2, b3, b4, b5, b6, b7, b8, b9, b10⟩ := d₁
    simp only [RoomNpc.exceptDeath, RoomNpc.mk.injEq, true_and] at hsame
    obtain ⟨rfl, rfl, rfl, rfl, rfl, rfl, rfl, rfl⟩ := hsame
    refine ⟨v.events, T, Or.inl ⟨rfl, rfl⟩, ?_, fun o ho => ?_⟩
    · simp only [h.npc, hd, Option.map_some, enterNpc, npcEntry, EnhancedRoomNpc.fill,
        max_eq_right hu.le]
      rfl
    · simp only [hw o, writtenTarget_of_attack ho, hd]
      rfl

/-- **A batch that leaves what was processed as it was is added to what has been built.** -/
theorem deliver_built {es : List Event} {T : ℕ} {v : Viewer} {b : Batch}
    (h : Built getItemName fullName party es T v) (hne : b.events ≠ [])
    (hu : Undisturbed party es T b) :
    ∃ v', v.deliver getItemName fullName party b = some v' ∧
      Built getItemName fullName party (es ++ b.events) b.totalTicks v' ∧ Entered party v' := by
  have hsplit : (v.events, (buildEventMaps es).2) = buildEventMaps es := Prod.ext h.events rfl
  obtain ⟨hmaps, hfollows, hname, hdamage⟩ := append_follows (m := v.events)
    (fun o base ho => writtenTarget_of_not_resurrection h.keeps ho) h.follows b.events
  rw [hsplit, ← buildEventMaps_append] at hmaps hfollows
  have hgrows := append_grows (s := (v.events, v.writes)) hu.le h.within hu.tick
  set m' := (EventMaps.append (v.events, v.writes) b.events).1 with hm'
  set w₁ := (EventMaps.append (v.events, v.writes) b.events).2 with hw₁
  -- The players.
  have hready : ∀ p ∈ party.members,
      PlayerReady getItemName v.events m' T b.totalTicks (v.players.map, w₁) p := by
    intro p hp
    refine ⟨h.player p hp, ⟨fun o ho => ?_, fun o ho => ?_⟩, fun o ho a d hpay => ?_, ?_⟩
    · rw [hname]
      exact (h.playerWrites p hp).weaponName o ho
    · rw [hdamage]
      exact (h.playerWrites p hp).damage o ho
    · rw [hmaps] at ho
      exact hu.fits _ (mem_byType ho) a d p hp hpay
    · intro new hnew o ho a d hpay t ht hta
      obtain ⟨added, hadded⟩ := append_adds (v.events, v.writes) b.events
      rw [hm', hadded.byType] at hnew
      have hmem : o ∈ added.filter (·.event.type = .tobVerzikDawn) := by
        rw [List.append_cancel_left hnew]
        exact ho
      have hin := (hadded.mem_events (List.mem_filter.mp hmem).1).1
      rw [h.events]
      exact trackPlayer_eq_none T (hu.late _ hin a d p hp hpay t ht hta)
  obtain ⟨s₂, hs₂, hplayers⟩ := foldlM_extendPlayer hgrows party.nodup hready
  -- The NPCs.
  have hattack₂ : s₂.2.attack = w₁.attack := hplayers.attack
  have hkeeps₂ : s₂.2.KeepsResurrections := by
    intro o
    rw [attackOf_congr hattack₂]
    exact hfollows.keeps o
  have htarget₂ : ∀ o, s₂.2.target o = writtenTarget fullName v.events v.npcMap T s₂.2
      (buildEventMaps (es ++ b.events)).2.target o := by
    intro o
    rw [hplayers.target]
    refine (hfollows.target o).trans (writtenTarget_congr ?_ _ _ _ rfl)
    rw [h.keeps o, hkeeps₂ o]
  have hnpcMap : v.npcMap.append b.events = buildNpcMapFromEvents (es ++ b.events) := by
    rw [h.npcMap]
    simp [buildNpcMapFromEvents, NpcMap.append, List.foldl_append]
  have hnpcReady : ∀ e ∈ (v.npcMap.append b.events).entries, NpcReady fullName v.events T
      b.totalTicks (buildEventMaps (es ++ b.events)).2.target (v.npcs.map, s₂.2) e.1 e.2 := by
    rintro ⟨r, d'⟩ he
    rw [OrdMap.mem_entries, hnpcMap] at he
    exact h.npcReady hu htarget₂ he
  have hnpcs := foldl_extendNpc (s := (v.npcs.map, s₂.2)) hgrows (OrdMap.keys_nodup _) hnpcReady
  set s₃ := (v.npcMap.append b.events).entries.foldl
    (extendNpc fullName m' T b.totalTicks) (v.npcs.map, s₂.2) with hs₃
  refine ⟨⟨m', v.npcMap.append b.events, ⟨s₂.1, b.totalTicks⟩, ⟨s₃.1, b.totalTicks⟩, s₃.2⟩,
    ?_, ?_, ?_⟩
  · unfold Viewer.deliver PlayerStateBuilder.extend NpcStateBuilder.extend
    rw [if_neg hne]
    simp only [← hm', ← hw₁, h.playerTicks, h.npcTicks, hs₂, Option.bind_eq_bind, Option.bind_some,
      ← hs₃]
  · have hattack₃ : s₃.2.attack = w₁.attack := hnpcs.attack.trans hattack₂
    have hkeeps₃ : s₃.2.KeepsResurrections := by
      intro o
      rw [attackOf_congr hattack₃]
      exact hfollows.keeps o
    refine ⟨hmaps, hgrows.within', hnpcMap, rfl, rfl, fun p hp => ?_, fun p hp => ?_, fun r => ?_,
      hattack₃.trans hfollows.attack, fun o => ?_, hkeeps₃, fun p hp => ?_, fun o ho => ?_⟩
    · simp only [hplayers.get p hp, Option.getD_some]
    · simp only [hplayers.others p hp]
      exact h.noPlayer p hp
    · cases hd' : (v.npcMap.append b.events).get r with
      | some d' => exact hnpcs.get (r, d') (OrdMap.mem_entries.mpr hd')
      | none =>
        have hnot : r ∉ (v.npcMap.append b.events).entries.map Prod.fst := by
          intro hc
          obtain ⟨d, hd⟩ := OrdMap.mem_keys.mp hc
          rw [hd'] at hd
          cases hd
        simp only [hnpcs.others r hnot, Option.map_none]
        rw [h.npc]
        cases hd : v.npcMap.get r with
        | none => rfl
        | some d =>
          rw [h.npcMap] at hd
          obtain ⟨d₁, hd₁, -⟩ := hu.npc r d hd
          rw [hnpcMap, hd₁] at hd'
          cases hd'
    · by_cases ho : ∃ r, o.IsAttackOf r
      · obtain ⟨r, hr⟩ := ho
        rw [writtenTarget_of_attack hr]
        cases hd' : (v.npcMap.append b.events).get r with
        | some d' => exact hnpcs.target (r, d') (OrdMap.mem_entries.mpr hd') o hr
        | none =>
          have hnot : ∀ q ∈ (v.npcMap.append b.events).entries.map Prod.fst, ¬o.IsAttackOf q := by
            intro q hq hc
            obtain rfl := isAttackOf_inj hr hc
            obtain ⟨d, hd⟩ := OrdMap.mem_keys.mp hq
            rw [hd'] at hd
            cases hd
          have hold : v.npcMap.get r = none := by
            cases hd : v.npcMap.get r with
            | none => rfl
            | some d =>
              rw [h.npcMap] at hd
              obtain ⟨d₁, hd₁, -⟩ := hu.npc r d hd
              rw [hnpcMap, hd₁] at hd'
              cases hd'
          rw [hnpcs.frame o hnot]
          simp only [htarget₂ o, writtenTarget_of_attack hr, hold]
      · push Not at ho
        rw [writtenTarget_of_not_attack ho, hnpcs.frame o fun q _ => ho q]
        simp only [htarget₂ o, writtenTarget_of_not_attack ho]
    · have hw := hplayers.writes p hp
      constructor
      · intro o ho
        rw [hnpcs.weaponName]
        exact hw.weaponName o ho
      · intro o ho
        rw [hnpcs.damage]
        exact hw.damage o ho
    · have hframe := hplayers.frame o ho
      have hold := h.otherWrites o ho
      rw [hnpcs.weaponName, hnpcs.damage]
      exact ⟨hframe.1.trans (by rw [hname]; exact hold.1),
        hframe.2.trans (by rw [hdamage]; exact hold.2)⟩
  · intro p hp
    simp [hplayers.get p hp]

/-! ### Deliveries in which nothing is lost -/

/-- A stage watched so far, of which everything with events is built. -/
structure Watched (getItemName : ℕ → String) (fullName : ℕ → Option String) (party : Party)
    (s : Watching) : Prop where
  built : ∃ v, s.viewer = some v ∧ Built getItemName fullName party s.events s.eventTicks v ∧
    (s.events ≠ [] → Entered party v)
  le : s.eventTicks ≤ s.ticks
  tick : ∀ e ∈ s.events, e.tick < s.eventTicks
  fits : ∀ e ∈ s.events, ∀ a d p, p ∈ party.members → e.payload = .tobVerzikDawn a d p →
    a < s.eventTicks

lemma roomId_buildNpcMap {es : List Event} {r : ℕ} {d : RoomNpc}
    (h : (buildNpcMapFromEvents es).get r = some d) : d.roomId = r :=
  roomId_of_append (m := ∅) (by simp) es r d h

lemma NpcUnchanged.get {es : List Event} {b : Batch} {r : ℕ} {d : RoomNpc}
    (hd : (buildNpcMapFromEvents es).get r = some d) (h : NpcUnchanged b d = true) :
    ∃ d', (buildNpcMapFromEvents (es ++ b.events)).get r = some d' ∧
      d'.exceptDeath = d.exceptDeath := by
  simp only [NpcUnchanged, Bool.and_eq_true, List.all_eq_true, decide_eq_true_eq] at h
  obtain ⟨hspawn, hsub⟩ := h
  have hr := roomId_buildNpcMap hd
  have hnot : ∀ e ∈ b.events, ∀ n, e.payload = .npcSpawn n → n.roomId ≠ r := by
    intro e he n hn
    have := hspawn e he
    simpa [hn, hr] using this
  obtain ⟨d₁, hd₁, hsame⟩ := append_exceptDeath hd rfl hr hnot
  refine ⟨d₁, ?_, by rw [hsame, hsub]⟩
  simpa [buildNpcMapFromEvents, NpcMap.append, List.foldl_append] using hd₁

lemma Watched.undisturbed {s : Watching} {b : Batch} (h : Watched getItemName fullName party s)
    (hw : Whole s b) (hm : Meets party s b) : Undisturbed party s.events s.eventTicks b where
  le := h.le.trans hw.1
  tick e he := ⟨h.le.trans (hw.2 e he).1, (hw.2 e he).2⟩
  fits e he a d p hp hpay := by
    rcases List.mem_append.mp he with he | he
    · have := h.fits e he a d p hp hpay
      have := h.le.trans hw.1
      omega
    · have := hm.1 e he
      simp only [DawnInTime, hpay, hp, not_true_eq_false, decide_false, Bool.false_or,
        Bool.and_eq_true, decide_eq_true_eq] at this
      exact this.1
  late e he a d p hp hpay t ht hta := by
    have := hm.1 e he
    subst hta
    have hneg : ¬((t : ℤ) < 0) := by omega
    have hnle : ¬((s.ticks : ℤ) ≤ t) := by have := h.le; omega
    simp only [DawnInTime, hpay, hp, hneg, hnle, not_true_eq_false, decide_false, Bool.false_or,
      Bool.and_eq_true, Int.toNat_natCast, Bool.not_eq_true'] at this
    exact this.2
  npc r d hd := NpcUnchanged.get hd (hm.2 d (OrdMap.mem_values.mpr ⟨r, hd⟩))

lemma Watched.next {s : Watching} {b : Batch} (h : Watched getItemName fullName party s)
    (hw : Whole s b) (hm : Meets party s b) :
    Watched getItemName fullName party ((watch getItemName fullName party).next s b) := by
  have hu := h.undisturbed hw hm
  obtain ⟨v, hv, hbuilt, hentered⟩ := h.built
  by_cases hb : b.events = []
  · -- Nothing is built from a batch without events.
    have hdeliver : v.deliver getItemName fullName party b = some v := if_pos hb
    refine ⟨⟨v, ?_, ?_, ?_⟩, ?_, ?_, ?_⟩
    · simp only [watch, hv, Option.bind_some, hdeliver]
    · simpa only [watch, hb, List.append_nil, if_true] using hbuilt
    · simpa only [watch, hb, List.append_nil] using hentered
    · simpa only [watch, hb, if_true] using h.le.trans hw.1
    · simpa only [watch, hb, List.append_nil, if_true] using h.tick
    · simpa only [watch, hb, List.append_nil, if_true] using h.fits
  · obtain ⟨v', hv', hbuilt', hin⟩ := deliver_built hbuilt hb hu
    refine ⟨⟨v', ?_, ?_, fun _ => hin⟩, ?_, fun e he => ?_, ?_⟩
    · simp only [watch, hv, Option.bind_some, hv']
    · simpa only [watch, hb, if_false] using hbuilt'
    · simp only [watch, hb, if_false, le_refl]
    · simp only [watch, hb, if_false]
      rcases List.mem_append.mp he with he | he
      · exact (h.tick e he).trans_le (h.le.trans hw.1)
      · exact (hw.2 e he).2
    · simpa only [watch, hb, if_false] using hu.fits

lemma onePass_eq {es : List Event} (h : es ≠ []) (T : ℕ) :
    onePass getItemName fullName party es T =
      ({} : Viewer).deliver getItemName fullName party ⟨es, T⟩ := by
  unfold Viewer.deliver
  rw [if_neg h]
  rfl

lemma Watched.onePass {s : Watching} (h : Watched getItemName fullName party s)
    (hs : s.events ≠ []) :
    ∃ v, onePass getItemName fullName party s.events s.eventTicks = some v ∧
      Built getItemName fullName party s.events s.eventTicks v ∧ Entered party v := by
  have hu : Undisturbed party [] 0 ⟨s.events, s.eventTicks⟩ := by
    refine ⟨Nat.zero_le _, fun e he => ⟨Nat.zero_le _, h.tick e he⟩, h.fits,
      fun _ _ _ _ _ _ _ t ht => absurd ht (by omega), fun r d hd => ?_⟩
    cases hd
  rw [onePass_eq hs]
  exact deliver_built built_empty hs hu

end

/-- **Live stage state is recorded stage state.** A stage is watched in batches of whole ticks,
none of which changes what was processed before it. After any batch with events, what the viewer
has built is what one pass over all events so far builds: the same event maps, player states and
NPC states, and the same written into the events. -/
theorem live_eq_recorded (getItemName : ℕ → String) (fullName : ℕ → Option String) (party : Party)
    {s : Watching}
    (h : (watch getItemName fullName party).Reachable (· = {}) (Meets party) s)
    (hs : s.events ≠ []) (hlast : s.eventTicks = s.ticks) :
    ∃ v v', s.viewer = some v ∧ onePass getItemName fullName party s.events s.ticks = some v' ∧
      v.Same v' := by
  have hinv : Watched getItemName fullName party s :=
    h.invariant (I := Watched getItemName fullName party)
      (fun s (hs : s = {}) =>
        hs ▸ ⟨⟨{}, rfl, built_empty, fun hc => absurd rfl hc⟩, le_rfl, by simp, by simp⟩)
      fun _ _ hw henabled hmeets => hw.next henabled hmeets
  obtain ⟨v, hv, hbuilt, hin⟩ := hinv.built
  obtain ⟨v', hv', hbuilt', hin'⟩ := hinv.onePass hs
  rw [← hlast]
  exact ⟨v, v', hv, hv', hbuilt.same hbuilt' (hin hs) hin'⟩

/-! ### Deliveries with and without a loss -/

section

def update (tick : ℕ) (name : String) : Event where
  stage := 10
  tick := tick
  payload := .playerUpdate
    { name := name, source := .primary, offCooldownTick := 0, prayerSet := 0 }

def npcEvent (tick : ℕ) (payload : EventNpc → Payload) (id : ℕ) : Event where
  stage := 10
  tick := tick
  payload := payload { id := id, roomId := 1, hitpoints := 0, prayers := 0 }

def dawn (tick : ℕ) (attackTick : ℤ) (name : String) : Event where
  stage := 10
  tick := tick
  payload := .tobVerzikDawn attackTick 30 name

def anna : Party := ⟨["Anna"], by decide⟩

abbrev annaWatches : TransitionSystem Watching Batch := watch (fun _ => "") (fun _ => none) anna

instance (s : Watching) (b : Batch) : Decidable (annaWatches.Enabled s b) :=
  inferInstanceAs (Decidable (Whole s b))

/-- A Dawnbringer attack reported in the batch it happened in. -/
def dawnInBatch : List Batch :=
  [⟨[npcEvent 0 .npcSpawn 8370, update 0 "Anna"], 1⟩, ⟨[update 1 "Anna", dawn 2 1 "Anna"], 3⟩]

theorem dawnInBatch_agrees :
    ∃ v v', (annaWatches.run {} dawnInBatch).viewer = some v ∧
      onePass (fun _ => "") (fun _ => none) anna (annaWatches.run {} dawnInBatch).events
        (annaWatches.run {} dawnInBatch).ticks = some v' ∧ v.Same v' := by
  have hinit : annaWatches.Reachable (· = {}) (Meets anna) {} := .init rfl
  exact live_eq_recorded (fun _ => "") (fun _ => none) anna (hinit.run (by decide))
    (by decide) (by decide)

/-- A Dawnbringer attack that is reported a batch later. -/
def dawnInNextBatch : List Batch :=
  [⟨[update 0 "Anna"], 1⟩, ⟨[update 1 "Anna", dawn 1 0 "Anna"], 2⟩]

/-- An NPC that spawns again in a later batch. -/
def respawn : List Batch :=
  [⟨[npcEvent 0 .npcSpawn 8370], 1⟩, ⟨[npcEvent 1 .npcSpawn 8371], 2⟩]

/-- How much is added to the first tick of a player, and what the NPC of room 1 spawned as. -/
def shown (v : Viewer) : Option (Option ℕ) × Option ℕ :=
  ((v.players.map.get "Anna").map fun e => (e.stateByTick 0).map (·.customState.length),
    (v.npcs.map.get 1).map (·.npc.spawnNpcId))

lemma Viewer.Same.shown {v v' : Viewer} (h : v.Same v') : shown v = shown v' := by
  simp only [StageState.shown, h.player, h.npc]

/-- Watching some batches, each with the events of its new ticks, the viewer has built something
else than one pass. -/
def Lost (bs : List Batch) : Prop :=
  annaWatches.Reachable (· = {}) (fun _ _ => True) (annaWatches.run {} bs) ∧
    (annaWatches.run {} bs).events ≠ [] ∧
    (annaWatches.run {} bs).eventTicks = (annaWatches.run {} bs).ticks ∧
    ¬∃ v v', (annaWatches.run {} bs).viewer = some v ∧
      onePass (fun _ => "") (fun _ => none) anna (annaWatches.run {} bs).events
        (annaWatches.run {} bs).ticks = some v' ∧ v.Same v'

lemma lost_of_shown {bs : List Batch} (hallows : annaWatches.Allows (fun _ _ => True) {} bs)
    (hevents : (annaWatches.run {} bs).events ≠ [])
    (hticks : (annaWatches.run {} bs).eventTicks = (annaWatches.run {} bs).ticks)
    (hdiffer : (annaWatches.run {} bs).viewer.map shown ≠
      (onePass (fun _ => "") (fun _ => none) anna (annaWatches.run {} bs).events
        (annaWatches.run {} bs).ticks).map shown) : Lost bs := by
  have hinit : annaWatches.Reachable (· = {}) (fun _ _ => True) {} := .init rfl
  refine ⟨hinit.run hallows, hevents, hticks, ?_⟩
  rintro ⟨v, v', hv, hv', hsame⟩
  rw [hv, hv'] at hdiffer
  exact hdiffer (congrArg some hsame.shown)

/-- The damage of an attack reported a batch later is not shown, nor is what an NPC that spawns
again is now. -/
theorem lateDawn_lost : Lost dawnInNextBatch ∧ Lost respawn :=
  ⟨lost_of_shown (by decide) (by decide) (by decide) (by decide),
    lost_of_shown (by decide) (by decide) (by decide) (by decide)⟩

end

end Blert.StageState

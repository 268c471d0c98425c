import Blert.Bcf.Export
import Blert.Bcf.Sound
import Blert.StageState.Recorded

/-!
Which exported stages are sound.

The exporter takes the states of players and NPCs as they are. The document it makes of them is
sound exactly when every NPC dies after it spawns and does nothing outside its life, the phases
are on ticks in order, targets and names fit, and the stage has a second tick.
-/

namespace Blert.Bcf

open StageState

section

variable (names : Names) (challenge : Challenge) (v : Viewer)

/-! ### When the document is sound -/

/-- The ID of a player of the party or of an NPC of the stage. -/
def IsActor (id : String) : Prop :=
  (∃ member ∈ challenge.party.members, toBcfNormalizedPlayerName names member = id) ∨
    ∃ roomId ∈ v.npcs.map.keys, toNpcActorId roomId = id

def PhasesInOrder (stage : Stage) (totalTicks : ℕ) (m : EventMaps) : Prop :=
  match stage with
  | .infernoWave wave => wave = 69 →
    TicksInOrder totalTicks (((m.byType .npcSpawn).filter fun o =>
      o.event.payload.npc?.any fun npc =>
        npc.id = Npc.JAL_ZEK_ZUK || npc.id = Npc.JALTOK_JAD_ZUK || npc.id = Npc.JAL_MEJJAK).map
      fun o => (o.event.tick : ℤ))
  | .tobMaiden =>
    TicksInOrder totalTicks
      ([.tobMaiden70s, .tobMaiden50s, .tobMaiden30s].filterMap challenge.splits)
  | .tobNylocas =>
    TicksInOrder totalTicks (((m.byType .tobNyloWaveSpawn).map fun o => (o.event.tick : ℤ)) ++
      [.tobNyloCleanup, .tobNyloBossSpawn].filterMap challenge.splits)
  | .tobSotetseg =>
    TicksInOrder totalTicks ([.tobSotetseg66, .tobSotetseg33].filterMap challenge.splits)
  | _ => True

/-- An NPC goes into another phase on a tick: Bloat with an event of its going down or up, a boss
of the Nylocas that is not what it was on the tick before, Xarpus and Verzik with an event of
their phase. -/
def ChangesPhase (npc : EnhancedRoomNpc) (tick : ℕ) (events : List Obj) : Prop :=
  ∃ s ∈ npc.stateByTick tick,
    (StageState.Npc.isBloat s.id = true ∧
      ∃ o ∈ events, o.event.type = .tobBloatDown ∨ o.event.type = .tobBloatUp) ∨
    ((Npc.isNylocasPrinkipas s.id = true ∨ Npc.isNylocasVasilias s.id = true) ∧
      (lastState npc tick).map NpcState.id ≠ some s.id) ∨
    (Npc.isXarpus s.id = true ∧ (xarpusPhase? events).isSome) ∨
    Npc.isVerzik s.id = true ∧ ∃ phase ∈ verzikPhase? events, phase ≠ .idle

def Attacks (npc : EnhancedRoomNpc) (tick : ℕ) : Prop :=
  ∃ s ∈ npc.stateByTick tick, ∃ o ∈ s.attack, (v.writes.attackOf o).isSome

/-- An NPC lives on a tick: it has spawned, and if that was more than a tick ago it had hitpoints
left on some tick from the one before until it was gone. -/
def LivesOn (npc : EnhancedRoomNpc) (tick : ℕ) : Prop :=
  npc.npc.spawnTick ≤ tick ∧ tick ≤ npc.npc.deathTick ∧
    (tick ≤ npc.npc.spawnTick + 1 ∨ ∃ u < npc.npc.deathTick, tick ≤ u + 1 ∧
      ∀ s ∈ npc.stateByTick u, s.hitpoints.current ≠ 0)

instance (id : String) : Decidable (IsActor names challenge v id) := by
  unfold IsActor
  infer_instance

instance (totalTicks : ℤ) (ticks : List ℤ) : Decidable (TicksInOrder totalTicks ticks) := by
  unfold TicksInOrder
  infer_instance

instance (stage : Stage) (totalTicks : ℕ) (m : EventMaps) :
    Decidable (PhasesInOrder challenge stage totalTicks m) := by
  unfold PhasesInOrder
  cases stage <;> infer_instance

instance (npc : EnhancedRoomNpc) (tick : ℕ) (events : List Obj) :
    Decidable (ChangesPhase npc tick events) := by
  unfold ChangesPhase
  infer_instance

instance (npc : EnhancedRoomNpc) (tick : ℕ) : Decidable (Attacks v npc tick) := by
  unfold Attacks
  infer_instance

instance (npc : EnhancedRoomNpc) (tick : ℕ) : Decidable (LivesOn npc tick) := by
  unfold LivesOn
  infer_instance

/-- A spell is cast at no player, or at one who is an actor. -/
def SpellFits (spell : Spell) : Prop :=
  match spell.target with
  | .player player => IsActor names challenge v (toBcfNormalizedPlayerName names player)
  | _ => True

instance (spell : Spell) : Decidable (SpellFits names challenge v spell) := by
  unfold SpellFits
  cases spell.target <;> infer_instance

/-- An NPC's attack brings back an NPC that spawns, or is at no one or at an actor. -/
def AttackFits (events : List Obj) (o : Obj) : Prop :=
  ∀ attack ∈ v.writes.attackOf o,
    ¬(attack = .infernoMagerResurrect ∧ (spawned events).isSome) →
    ∀ target ∈ attackTarget v o,
      IsActor names challenge v (toBcfNormalizedPlayerName names target)

instance (events : List Obj) (o : Obj) : Decidable (AttackFits names challenge v events o) := by
  unfold AttackFits
  infer_instance

/-- What the exporter is given makes a sound document. -/
structure Exportable (stage : Stage) (totalTicks : ℕ) : Prop where
  twoTicks : 1 < totalTicks
  playerNames : (challenge.party.members.map (toBcfNormalizedPlayerName names)).Nodup
  noNpcName : ∀ member ∈ challenge.party.members, ∀ roomId ∈ v.npcs.map.keys,
    toBcfNormalizedPlayerName names member ≠ toNpcActorId roomId
  deaths : ∀ npc ∈ v.npcs.map.values, npc.npc.spawnTick < npc.npc.deathTick
  phases : PhasesInOrder challenge stage totalTicks v.events
  acts : ∀ npc ∈ v.npcs.map.values, ∀ tick < totalTicks,
    ChangesPhase npc tick (v.events.byTick tick) ∨ Attacks v npc tick → LivesOn npc tick
  spells : ∀ entry ∈ v.players.map.values, ∀ tick < totalTicks,
    ∀ s ∈ entry.stateByTick tick, ∀ spell ∈ s.spell, SpellFits names challenge v spell
  attacks : ∀ npc ∈ v.npcs.map.values, ∀ tick < totalTicks,
    ∀ s ∈ npc.stateByTick tick, ∀ o ∈ s.attack,
      AttackFits names challenge v (v.events.byTick tick) o

instance (stage : Stage) (totalTicks : ℕ) :
    Decidable (Exportable names challenge v stage totalTicks) :=
  decidable_of_iff
    (1 < totalTicks ∧
      (challenge.party.members.map (toBcfNormalizedPlayerName names)).Nodup ∧
      (∀ member ∈ challenge.party.members, ∀ roomId ∈ v.npcs.map.keys,
        toBcfNormalizedPlayerName names member ≠ toNpcActorId roomId) ∧
      (∀ npc ∈ v.npcs.map.values, npc.npc.spawnTick < npc.npc.deathTick) ∧
      PhasesInOrder challenge stage totalTicks v.events ∧
      (∀ npc ∈ v.npcs.map.values, ∀ tick < totalTicks,
        ChangesPhase npc tick (v.events.byTick tick) ∨ Attacks v npc tick → LivesOn npc tick) ∧
      (∀ entry ∈ v.players.map.values, ∀ tick < totalTicks,
        ∀ s ∈ entry.stateByTick tick, ∀ spell ∈ s.spell, SpellFits names challenge v spell) ∧
      ∀ npc ∈ v.npcs.map.values, ∀ tick < totalTicks, ∀ s ∈ npc.stateByTick tick,
        ∀ o ∈ s.attack, AttackFits names challenge v (v.events.byTick tick) o)
    ⟨fun ⟨h1, h2, h3, h4, h5, h6, h7, h8⟩ => ⟨h1, h2, h3, h4, h5, h6, h7, h8⟩,
      fun ⟨h1, h2, h3, h4, h5, h6, h7, h8⟩ => ⟨h1, h2, h3, h4, h5, h6, h7, h8⟩⟩

/-! ### Lives -/

variable {names challenge v}

lemma effectiveDeathTick_le (npc : EnhancedRoomNpc) (d : ℕ) : effectiveDeathTick npc d ≤ d := by
  induction d with
  | zero => exact le_rfl
  | succ d ih =>
    rw [effectiveDeathTick]
    split_ifs
    · exact ih.trans (Nat.le_succ d)
    · exact le_rfl

lemma le_effectiveDeathTick (npc : EnhancedRoomNpc) (d tick : ℕ) :
    tick ≤ effectiveDeathTick npc d ↔
      tick ≤ d ∧ (tick ≤ npc.npc.spawnTick + 1 ∨ ∃ u < d, tick ≤ u + 1 ∧
        ∀ s ∈ npc.stateByTick u, s.hitpoints.current ≠ 0) := by
  induction d with
  | zero =>
    simp only [effectiveDeathTick]
    omega
  | succ d ih =>
    have hzero : (npc.stateByTick d).any (·.hitpoints.current = 0) = true ↔
        ¬∀ s ∈ npc.stateByTick d, s.hitpoints.current ≠ 0 := by
      cases npc.stateByTick d <;> simp
    rw [effectiveDeathTick]
    split_ifs with hcond
    · rw [ih]
      obtain ⟨hlate, hdead⟩ := hcond
      rw [hzero] at hdead
      constructor
      · rintro ⟨hle, hlives | ⟨u, hu, htu, halive⟩⟩
        · exact ⟨by omega, Or.inl hlives⟩
        · exact ⟨by omega, Or.inr ⟨u, by omega, htu, halive⟩⟩
      · rintro ⟨hle, hlives | ⟨u, hu, htu, halive⟩⟩
        · exact ⟨by omega, Or.inl hlives⟩
        · have hne : u ≠ d := fun heq => hdead (heq ▸ halive)
          exact ⟨by omega, Or.inr ⟨u, by omega, htu, halive⟩⟩
    · refine ⟨fun hle => ⟨hle, ?_⟩, fun h => h.1⟩
      rw [not_and_or, hzero, not_not] at hcond
      rcases hcond with hearly | halive
      · exact Or.inl (by omega)
      · exact Or.inr ⟨d, by omega, hle, halive⟩

lemma spawn_lt_effectiveDeathTick (npc : EnhancedRoomNpc) (d : ℕ) :
    npc.npc.spawnTick < effectiveDeathTick npc d ↔ npc.npc.spawnTick < d := by
  rw [← Nat.succ_le_iff, le_effectiveDeathTick]
  exact ⟨fun h => h.1, fun h => ⟨h, Or.inl le_rfl⟩⟩

lemma livesOn_iff (npc : EnhancedRoomNpc) (tick : ℕ) :
    LivesOn npc tick ↔ npc.npc.spawnTick ≤ tick ∧
      tick ≤ effectiveDeathTick npc npc.npc.deathTick := by
  rw [le_effectiveDeathTick]
  rfl

/-! ### Actors -/

lemma toNpcActorId_inj {r r' : ℕ} (h : toNpcActorId r = toNpcActorId r') : r = r' := by
  have hrepr : r.repr = r'.repr := by simpa [toNpcActorId] using h
  have hdigits : Nat.toDigits 10 r = Nat.toDigits 10 r' := by
    rw [← Nat.toList_repr, hrepr, Nat.toList_repr]
  rw [← Nat.ofDigitChars_ten_toDigits (n := r), hdigits, Nat.ofDigitChars_ten_toDigits]

variable (names challenge v) in
def exportedActors : List Actor :=
  challenge.party.members.map (playerActor names) ++
    v.npcs.map.entries.map fun npc => npcActor names npc.1 npc.2

lemma ids_exportedActors :
    (exportedActors names challenge v).map Actor.id =
      challenge.party.members.map (toBcfNormalizedPlayerName names) ++
        v.npcs.map.keys.map toNpcActorId := by
  simp [exportedActors, InsertionMap.keys, Function.comp_def, playerActor, npcActor, Actor.id]

lemma mem_ids {id : String} :
    id ∈ (exportedActors names challenge v).map Actor.id ↔ IsActor names challenge v id := by
  rw [ids_exportedActors, List.mem_append, List.mem_map, List.mem_map]
  rfl

lemma nodup_ids :
    ((exportedActors names challenge v).map Actor.id).Nodup ↔
      (challenge.party.members.map (toBcfNormalizedPlayerName names)).Nodup ∧
        ∀ member ∈ challenge.party.members, ∀ roomId ∈ v.npcs.map.keys,
          toBcfNormalizedPlayerName names member ≠ toNpcActorId roomId := by
  have hrooms : (v.npcs.map.keys.map toNpcActorId).Nodup :=
    (List.nodup_map_iff fun _ _ => toNpcActorId_inj).mpr v.npcs.map.nodup
  rw [ids_exportedActors, List.nodup_append]
  simp only [hrooms, true_and, List.forall_mem_map]

lemma cellFits_iff {actors : List Actor} (hnd : (actors.map Actor.id).Nodup) {actor : Actor}
    (h : actor ∈ actors) {tick : ℤ} {cell : Cell} (hid : cell.actorId = actor.id) :
    CellFits actors tick cell ↔ (∀ l ∈ actor.lifecycle, l.Covers tick) ∧
      ∀ actions ∈ cell.actions, ActionsFit (actors.map Actor.id) actor.type actions := by
  constructor
  · rintro ⟨other, hother, heq, hlife, hfit⟩
    obtain rfl := List.inj_on_of_nodup_map hnd hother h (heq.trans hid)
    exact ⟨hlife, hfit⟩
  · rintro ⟨hlife, hfit⟩
    exact ⟨actor, h, hid.symm, hlife, hfit⟩

/-! ### Actions -/

lemma npcActorId_isActor {roomId : ℕ} {id : String} (h : id ∈ npcActorId v roomId) :
    IsActor names challenge v id := by
  unfold npcActorId at h
  split_ifs at h with hhas
  · cases h
    obtain ⟨e, he⟩ := Option.isSome_iff_exists.mp hhas
    exact Or.inr ⟨roomId, InsertionMap.mem_keys.mpr ⟨e, he⟩, rfl⟩
  · cases h

variable (challenge) in
lemma attackAction_fits {o : Obj} {a : Action} (h : a ∈ attackAction names v o) :
    a.type = "attack" ∧ a.performer = .player ∧ a.SpecCostFits ∧
      ∀ target ∈ a.targetActorId, IsActor names challenge v target := by
  unfold attackAction at h
  split at h
  · cases h
    refine ⟨rfl, rfl, trivial, fun target htarget => ?_⟩
    obtain ⟨n, -, hn⟩ := Option.bind_eq_some_iff.mp htarget
    exact npcActorId_isActor hn
  · cases h

lemma spellAction_target {spell : Spell} :
    (∀ target ∈ (spellAction names v spell).targetActorId, IsActor names challenge v target) ↔
      SpellFits names challenge v spell := by
  unfold spellAction Action.targetActorId SpellFits
  cases spell.target with
  | none => simp
  | player player => simp
  | npc n => simpa using fun _ h => npcActorId_isActor h

lemma actionsFit_playerCellActions (s : StageState.PlayerState) :
    ActionsFit ((exportedActors names challenge v).map Actor.id) .player
        (playerCellActions names v s) ↔
      ∀ spell ∈ s.spell, SpellFits names challenge v spell := by
  have hmem : ∀ a, a ∈ playerCellActions names v s ↔
      (∃ o ∈ s.attack, a ∈ attackAction names v o) ∨
        (∃ spell ∈ s.spell, spellAction names v spell = a) ∨ s.diedThisTick = true ∧ a = .death := by
    intro a
    simp [playerCellActions, Option.bind_eq_some_iff]
  constructor
  · intro h spell hspell
    refine spellAction_target.1 fun target htarget => mem_ids.1 ?_
    exact h.targets _ ((hmem _).mpr (Or.inr (Or.inl ⟨spell, hspell, rfl⟩))) target htarget
  · intro h
    refine ⟨?_, fun a ha => ?_, fun a ha => ?_, fun a ha target htarget => mem_ids.2 ?_⟩
    · have hattack : ∀ a ∈ s.attack.bind (attackAction names v), a.type = "attack" := by
        intro a ha
        obtain ⟨o, -, ho⟩ := Option.bind_eq_some_iff.mp ha
        exact (attackAction_fits challenge ho).1
      have hspell : ∀ spell, (spellAction names v spell).type = "spell" := fun _ => rfl
      have hdeath : Action.death.type = "death" := rfl
      unfold playerCellActions
      cases ha : s.attack.bind (attackAction names v) with
      | none => cases s.spell <;> cases s.diedThisTick <;> simp [hspell, hdeath]
      | some a =>
        have htype := hattack a ha
        cases s.spell <;> cases s.diedThisTick <;> simp [htype, hspell, hdeath]
    all_goals rcases (hmem a).mp ha with ⟨o, -, ho⟩ | ⟨spell, hspell, rfl⟩ | ⟨-, rfl⟩
    · exact (attackAction_fits challenge ho).2.1
    · rfl
    · rfl
    · exact (attackAction_fits challenge ho).2.2.1
    · trivial
    · trivial
    · exact (attackAction_fits challenge ho).2.2.2 target htarget
    · exact spellAction_target.2 (h spell hspell) target htarget
    · cases htarget

lemma getNpcPhaseAction_eq {npc : EnhancedRoomNpc} {tick : ℕ} {events : List Obj} {a : Action}
    (h : a ∈ getNpcPhaseAction npc tick events) : ∃ phaseType, a = .npcPhase phaseType := by
  obtain ⟨phaseType, -, rfl⟩ := Option.map_eq_some_iff.mp h
  exact ⟨phaseType, rfl⟩

lemma npcAttackAction_eq {events : List Obj} {o : Obj} {a : Action}
    (h : a ∈ npcAttackAction names v events o) :
    ∃ attackType target, a = .npcAttack attackType target := by
  obtain ⟨attack, -, rfl⟩ := Option.map_eq_some_iff.mp h
  exact ⟨_, _, rfl⟩

lemma npcAttackAction_target {events : List Obj}
    (hspawned : ∀ n ∈ spawned events, n.roomId ∈ v.npcs.map.keys) {o : Obj} :
    (∀ a ∈ npcAttackAction names v events o, ∀ target ∈ a.targetActorId,
        IsActor names challenge v target) ↔ AttackFits names challenge v events o := by
  unfold npcAttackAction AttackFits
  cases v.writes.attackOf o with
  | none => simp
  | some attack =>
    simp only [Option.map_some, Option.mem_def, Option.some.injEq, forall_eq',
      Action.targetActorId]
    by_cases hres : attack = .infernoMagerResurrect
    · cases hn : spawned events with
      | none => simp [hres]
      | some n =>
        have hactor : IsActor names challenge v (toNpcActorId n.roomId) :=
          Or.inr ⟨n.roomId, hspawned n hn, rfl⟩
        simp [hres, hactor]
    · simp [hres]

lemma actionsFit_npcCellActions {npc : EnhancedRoomNpc} {tick : ℕ} {events : List Obj}
    (hspawned : ∀ n ∈ spawned events, n.roomId ∈ v.npcs.map.keys) :
    ActionsFit ((exportedActors names challenge v).map Actor.id) .npc
        (npcCellActions names v tick npc events) ↔
      ∀ s ∈ npc.stateByTick tick, ∀ o ∈ s.attack, AttackFits names challenge v events o := by
  have hmem : ∀ a, a ∈ npcCellActions names v tick npc events ↔
      a ∈ getNpcPhaseAction npc tick events ∨
        ∃ s ∈ npc.stateByTick tick, ∃ o ∈ s.attack, a ∈ npcAttackAction names v events o := by
    intro a
    simp only [npcCellActions, List.mem_append, Option.mem_toList, Option.mem_def,
      Option.bind_eq_some_iff]
    tauto
  constructor
  · intro h s hs o ho
    refine (npcAttackAction_target hspawned).mp fun a ha target htarget => mem_ids.1 ?_
    exact h.targets a ((hmem a).mpr (Or.inr ⟨s, hs, o, ho, ha⟩)) target htarget
  · intro h
    refine ⟨?_, fun a ha => ?_, fun a ha => ?_, fun a ha target htarget => mem_ids.2 ?_⟩
    · unfold npcCellActions
      cases hphase : getNpcPhaseAction npc tick events <;>
        cases hattack : (((npc.stateByTick tick).bind NpcState.attack).bind
          (npcAttackAction names v events))
      · simp
      · simp
      · simp
      · obtain ⟨phaseType, rfl⟩ := getNpcPhaseAction_eq hphase
        obtain ⟨o, -, ho⟩ := Option.bind_eq_some_iff.mp hattack
        obtain ⟨attackType, target, rfl⟩ := npcAttackAction_eq ho
        simp [Action.type]
    all_goals rcases (hmem a).mp ha with hphase | ⟨s, hs, o, ho, hattack⟩
    · obtain ⟨phaseType, rfl⟩ := getNpcPhaseAction_eq hphase
      rfl
    · obtain ⟨attackType, target, rfl⟩ := npcAttackAction_eq hattack
      rfl
    · obtain ⟨phaseType, rfl⟩ := getNpcPhaseAction_eq hphase
      trivial
    · obtain ⟨attackType, target, rfl⟩ := npcAttackAction_eq hattack
      trivial
    · obtain ⟨phaseType, rfl⟩ := getNpcPhaseAction_eq hphase
      cases htarget
    · exact (npcAttackAction_target hspawned).mpr (h s hs o ho) a hattack target htarget

/-! ### Changes of phase -/

lemma isSome_getNyloBossPhaseType {npcId : ℕ}
    (h : Npc.isNylocasPrinkipas npcId = true ∨ Npc.isNylocasVasilias npcId = true) :
    (getNyloBossPhaseType npcId).isSome := by
  have hids : npcId ∈ [10804, 10805, 10806, 10788, 10790, 10789, 8355, 8357, 8356, 10808, 10810,
      10809] := by
    simp only [Npc.isNylocasPrinkipas, Npc.isNylocasVasilias, List.contains_eq_mem,
      Bool.or_eq_true, decide_eq_true_eq] at h
    simp only [List.mem_cons, List.not_mem_nil, or_false] at h ⊢
    tauto
  have hall : ∀ id ∈ [10804, 10805, 10806, 10788, 10790, 10789, 8355, 8357, 8356, 10808, 10810,
      10809], (getNyloBossPhaseType id).isSome := by decide
  exact hall npcId hids

lemma isSome_verzikPhaseType {phase : VerzikPhase} :
    (verzikPhaseType phase).isSome ↔ phase ≠ .idle := by
  cases phase <;> simp [verzikPhaseType]

lemma isSome_getNpcPhaseAction {npc : EnhancedRoomNpc} {tick : ℕ} {events : List Obj} :
    (getNpcPhaseAction npc tick events).isSome ↔ ChangesPhase npc tick events := by
  unfold getNpcPhaseAction ChangesPhase
  rw [Option.isSome_map]
  cases npc.stateByTick tick with
  | none => simp
  | some s =>
    simp only [Option.bind_some, npcPhaseType, Option.isSome_or, Bool.or_eq_true, Option.mem_def,
      Option.some.injEq, exists_eq_left', or_assoc]
    refine or_congr ?_ (or_congr ?_ (or_congr ?_ ?_))
    · split_ifs with hbloat hdown hup
      · obtain ⟨o, ho, htype⟩ := List.any_eq_true.mp hdown
        exact iff_of_true rfl ⟨hbloat, o, ho, Or.inl (by simpa using htype)⟩
      · obtain ⟨o, ho, htype⟩ := List.any_eq_true.mp hup
        exact iff_of_true rfl ⟨hbloat, o, ho, Or.inr (by simpa using htype)⟩
      · refine iff_of_false (by simp) ?_
        rintro ⟨-, o, ho, htype | htype⟩
        · exact hdown (List.any_eq_true.mpr ⟨o, ho, by simpa using htype⟩)
        · exact hup (List.any_eq_true.mpr ⟨o, ho, by simpa using htype⟩)
      · exact iff_of_false (by simp) fun h => hbloat h.1
    · split_ifs with hboss hnew
      · exact iff_of_true (isSome_getNyloBossPhaseType hboss) ⟨hboss, hnew⟩
      · exact iff_of_false (by simp) fun h => hnew h.2
      · exact iff_of_false (by simp) fun h => hboss h.1
    · split_ifs with hxarpus <;> simp [hxarpus]
    · split_ifs with hverzik
      · cases verzikPhase? events <;> simp [hverzik, isSome_verzikPhaseType]
      · simp [hverzik]

variable (names) in
lemma npcCellActions_ne_nil {npc : EnhancedRoomNpc} {tick : ℕ} {events : List Obj} :
    npcCellActions names v tick npc events ≠ [] ↔
      ChangesPhase npc tick events ∨ Attacks v npc tick := by
  have hattack : (((npc.stateByTick tick).bind NpcState.attack).bind
      (npcAttackAction names v events)).isSome ↔ Attacks v npc tick := by
    unfold Attacks npcAttackAction
    cases npc.stateByTick tick with
    | none => simp
    | some s => cases h : s.attack <;> simp [h]
  rw [← isSome_getNpcPhaseAction, ← hattack, npcCellActions, Ne, List.append_eq_nil_iff,
    Option.toList_eq_nil_iff, Option.toList_eq_nil_iff, not_and_or]
  simp [Option.isSome_iff_ne_none]

/-! ### Phases -/

lemma nyloWavePhase_tick {o : Obj} (h : o.event.type = .tobNyloWaveSpawn) :
    (nyloWavePhase o).map Phase.tick = some (o.event.tick : ℤ) := by
  unfold Event.type at h
  unfold nyloWavePhase
  cases hp : o.event.payload <;> simp [hp, Payload.type] at h
  rfl

lemma infernoPhase_ticks (spawns : List Obj) :
    (spawns.filterMap fun o =>
        (o.event.payload.npc?.bind fun npc => infernoPhaseType npc.id).map
          (⟨o.event.tick, ·⟩)).map Phase.tick =
      (spawns.filter fun o => o.event.payload.npc?.any fun npc =>
        npc.id = Npc.JAL_ZEK_ZUK || npc.id = Npc.JALTOK_JAD_ZUK || npc.id = Npc.JAL_MEJJAK).map
          fun o => (o.event.tick : ℤ) := by
  have hsome : ∀ npcId, (infernoPhaseType npcId).isSome =
      (npcId = Npc.JAL_ZEK_ZUK || npcId = Npc.JALTOK_JAD_ZUK || npcId = Npc.JAL_MEJJAK : Bool) := by
    intro npcId
    unfold infernoPhaseType
    split_ifs <;> simp [*]
  induction spawns with
  | nil => rfl
  | cons o spawns ih =>
    cases hnpc : o.event.payload.npc? with
    | none => simpa [hnpc] using ih
    | some npc =>
      have hid := hsome npc.id
      cases hphase : infernoPhaseType npc.id with
      | none =>
        rw [hphase, Option.isSome_none] at hid
        rw [List.filterMap_cons_none (by simp [hnpc, hphase]),
          List.filter_cons_of_neg (by simp only [hnpc, Option.any_some, ← hid]; simp)]
        exact ih
      | some phaseType =>
        rw [hphase, Option.isSome_some] at hid
        rw [List.filterMap_cons_some (b := ⟨o.event.tick, phaseType⟩) (by simp [hnpc, hphase]),
          List.filter_cons_of_pos (by simp only [hnpc, Option.any_some, ← hid]), List.map_cons,
          List.map_cons, ih]

lemma ticksInOrder_phases (stage : Stage) (totalTicks : ℕ) {m : EventMaps}
    (hm : m.Within totalTicks) :
    TicksInOrder totalTicks ((buildBcfEncounterPhases challenge stage m).map Phase.tick) ↔
      PhasesInOrder challenge stage totalTicks m := by
  have hnil : TicksInOrder totalTicks [] := ⟨List.Pairwise.nil, by simp⟩
  have hsplit : ∀ split name, (addSplitPhase challenge split name).map Phase.tick =
      (challenge.splits split).toList := by
    intro split name
    unfold addSplitPhase
    cases challenge.splits split <;> rfl
  have hsplits : ∀ splits : List SplitType,
      splits.filterMap challenge.splits = splits.flatMap fun s => (challenge.splits s).toList := by
    intro splits
    induction splits with
    | nil => rfl
    | cons s splits ih => cases h : challenge.splits s <;> simp [h, ih]
  cases stage with
  | other n => exact iff_of_true hnil trivial
  | colosseumWave wave =>
    refine iff_of_true ?_ trivial
    unfold buildBcfEncounterPhases
    dsimp only
    split_ifs
    · cases hfind : (m.byType .npcSpawn).find? isReinforcement with
      | none => exact hnil
      | some o =>
        have htick := (hm.type _ o (List.mem_of_find?_eq_some hfind)).2
        exact ⟨List.pairwise_singleton _ _, by simpa using htick⟩
    · exact hnil
  | infernoWave wave =>
    unfold buildBcfEncounterPhases PhasesInOrder
    dsimp only
    split_ifs with hwave
    · rw [infernoPhase_ticks]
      exact ⟨fun h _ => h, fun h => h hwave⟩
    · exact iff_of_true hnil fun h => absurd h hwave
  | tobMaiden => simp [buildBcfEncounterPhases, PhasesInOrder, hsplit, hsplits]
  | tobNylocas =>
    have hwaves : ((m.byType .tobNyloWaveSpawn).filterMap nyloWavePhase).map Phase.tick =
        (m.byType .tobNyloWaveSpawn).map fun o => (o.event.tick : ℤ) := by
      rw [List.map_filterMap, List.filterMap_congr fun o ho => nyloWavePhase_tick (hm.type _ o ho).1]
      simp
    simp [buildBcfEncounterPhases, PhasesInOrder, hsplit, hsplits, hwaves]
  | tobSotetseg => simp [buildBcfEncounterPhases, PhasesInOrder, hsplit, hsplits]

/-! ### The document -/

lemma mem_tickCells {tick : ℕ} {cell : Cell} :
    cell ∈ tickCells names v tick ↔
      (∃ player entry, v.players.map.get player = some entry ∧ ∃ s ∈ entry.stateByTick tick,
        cell ∈ buildPlayerCell names v (toBcfNormalizedPlayerName names player) s) ∨
      ∃ roomId npc, v.npcs.map.get roomId = some npc ∧
        cell ∈ buildNpcCell names v (toNpcActorId roomId) tick npc (v.events.byTick tick) := by
  simp only [tickCells, List.mem_append, List.mem_filterMap, Prod.exists, InsertionMap.get_eq_some,
    Option.bind_eq_some_iff, Option.mem_def]

lemma buildPlayerCell_some {id : String} {s : StageState.PlayerState} {cell : Cell}
    (h : cell ∈ buildPlayerCell names v id s) :
    cell.actorId = id ∧ ∀ actions ∈ cell.actions, actions = playerCellActions names v s := by
  unfold buildPlayerCell at h
  simp only [Option.mem_def] at h
  split_ifs at h
  all_goals
    cases h
    exact ⟨rfl, by simp⟩

lemma buildNpcCell_some {id : String} {tick : ℕ} {npc : EnhancedRoomNpc} {events : List Obj}
    {cell : Cell} (h : cell ∈ buildNpcCell names v id tick npc events) :
    cell = ⟨id, some (npcCellActions names v tick npc events), none⟩ ∧
      npcCellActions names v tick npc events ≠ [] := by
  unfold buildNpcCell at h
  simp only [Option.mem_def] at h
  split_ifs at h with hne
  exact ⟨(Option.some.inj h).symm, hne⟩

variable (names v) in
lemma buildPlayerCell_of_spell (id : String) {s : StageState.PlayerState} {spell : Spell}
    (h : spell ∈ s.spell) :
    ∃ cell ∈ buildPlayerCell names v id s, cell.actorId = id ∧
      cell.actions = some (playerCellActions names v s) := by
  have hne : playerCellActions names v s ≠ [] := by
    unfold playerCellActions
    rw [Option.mem_def.mp h]
    simp
  unfold buildPlayerCell
  simp [hne]

lemma filterMap_ids {α : Type*} {f : α → Option Cell} {id : α → String} {l : List α}
    (h : ∀ a ∈ l, ∀ cell ∈ f a, cell.actorId = id a) :
    ((l.filterMap f).map Cell.actorId).Sublist (l.map id) := by
  induction l with
  | nil => exact List.Sublist.slnil
  | cons a l ih =>
    obtain ⟨ha, hl⟩ := List.forall_mem_cons.mp h
    cases hf : f a with
    | none =>
      rw [List.filterMap_cons_none hf, List.map_cons]
      exact (ih hl).cons _
    | some cell =>
      rw [List.filterMap_cons_some hf, List.map_cons, List.map_cons, ha cell hf]
      exact (ih hl).cons_cons _

lemma nodup_tickCells (hnd : ((exportedActors names challenge v).map Actor.id).Nodup)
    (hplayers : ∀ p, v.players.map.get p ≠ none → p ∈ challenge.party.members) (tick : ℕ) :
    ((tickCells names v tick).map Cell.actorId).Nodup := by
  obtain ⟨hnames, hnpcs⟩ := nodup_ids.1 hnd
  have hmember : ∀ p ∈ v.players.map.keys, p ∈ challenge.party.members := by
    intro p hp
    obtain ⟨e, he⟩ := InsertionMap.mem_keys.mp hp
    exact hplayers p (by rw [he]; simp)
  have hsub : ((tickCells names v tick).map Cell.actorId).Sublist
      (v.players.map.keys.map (toBcfNormalizedPlayerName names) ++
        v.npcs.map.keys.map toNpcActorId) := by
    unfold tickCells InsertionMap.keys
    rw [List.map_append, List.map_map, List.map_map]
    refine (filterMap_ids fun a _ cell hcell => ?_).append
      (filterMap_ids fun a _ cell hcell => ?_)
    · obtain ⟨s, -, hs⟩ := Option.bind_eq_some_iff.mp hcell
      exact (buildPlayerCell_some hs).1
    · rw [(buildNpcCell_some hcell).1]
      rfl
  refine List.Nodup.sublist hsub (List.nodup_append.mpr ⟨?_, ?_, ?_⟩)
  · refine List.Nodup.map_on (fun p hp q hq heq => ?_) v.players.map.nodup
    exact List.inj_on_of_nodup_map hnames (hmember p hp) (hmember q hq) heq
  · exact (List.nodup_map_iff fun _ _ => toNpcActorId_inj).mpr v.npcs.map.nodup
  · rintro _ hname _ hroom rfl
    obtain ⟨p, hp, rfl⟩ := List.mem_map.mp hname
    obtain ⟨r, hr, heq⟩ := List.mem_map.mp hroom
    exact hnpcs p (hmember p hp) r hr heq.symm

lemma mem_buildTicks {totalTicks : ℕ} {t : Tick} :
    t ∈ (List.range totalTicks).filterMap (buildTick names v) ↔
      ∃ tick < totalTicks, tickCells names v tick ≠ [] ∧ t = ⟨tick, tickCells names v tick⟩ := by
  simp only [List.mem_filterMap, List.mem_range, buildTick]
  constructor
  · rintro ⟨tick, htick, h⟩
    split_ifs at h with hne
    exact ⟨tick, htick, hne, (Option.some.inj h).symm⟩
  · rintro ⟨tick, htick, hne, rfl⟩
    exact ⟨tick, htick, if_neg hne⟩

lemma ticksInOrder_buildTicks (totalTicks : ℕ) :
    TicksInOrder totalTicks
      (((List.range totalTicks).filterMap (buildTick names v)).map Tick.tick) := by
  refine ⟨List.pairwise_map.mpr (List.Pairwise.filterMap _ ?_ List.pairwise_lt_range), ?_⟩
  · intro tick tick' hlt t ht t' ht'
    unfold buildTick at ht ht'
    split_ifs at ht ht'
    cases ht
    cases ht'
    exact Int.ofNat_lt.mpr hlt
  · intro t ht
    obtain ⟨_, hmem, rfl⟩ := List.mem_map.mp ht
    obtain ⟨tick, htick, -, rfl⟩ := mem_buildTicks.1 hmem
    exact ⟨Int.natCast_nonneg tick, Int.ofNat_lt.mpr htick⟩

lemma npcCellFits_iff (hnd : ((exportedActors names challenge v).map Actor.id).Nodup)
    {roomId : ℕ} {npc : EnhancedRoomNpc} (h : v.npcs.map.get roomId = some npc) {tick : ℕ}
    {events : List Obj} (hspawned : ∀ n ∈ spawned events, n.roomId ∈ v.npcs.map.keys) :
    CellFits (exportedActors names challenge v) tick
        ⟨toNpcActorId roomId, some (npcCellActions names v tick npc events), none⟩ ↔
      LivesOn npc tick ∧
        ∀ s ∈ npc.stateByTick tick, ∀ o ∈ s.attack, AttackFits names challenge v events o := by
  have hactor : npcActor names roomId npc ∈ exportedActors names challenge v :=
    List.mem_append_right _ (List.mem_map.mpr ⟨_, InsertionMap.get_eq_some.mp h, rfl⟩)
  rw [cellFits_iff hnd hactor rfl, ← actionsFit_npcCellActions hspawned, livesOn_iff]
  simp only [npcActor, Actor.lifecycle, Actor.type, Option.mem_def, Option.some.injEq, forall_eq',
    NpcLifecycle.Covers, Option.getD_some, Nat.cast_le]

lemma playerCellFits_iff (hnd : ((exportedActors names challenge v).map Actor.id).Nodup)
    {player : String} (h : player ∈ challenge.party.members) {tick : ℕ} {cell : Cell}
    (hid : cell.actorId = toBcfNormalizedPlayerName names player) :
    CellFits (exportedActors names challenge v) tick cell ↔
      ∀ actions ∈ cell.actions,
        ActionsFit ((exportedActors names challenge v).map Actor.id) .player actions := by
  have hactor : playerActor names player ∈ exportedActors names challenge v :=
    List.mem_append_left _ (List.mem_map_of_mem h)
  rw [cellFits_iff hnd hactor hid]
  simp [playerActor, Actor.lifecycle, Actor.type]

variable (names challenge) in
/-- **An exported stage is sound exactly when it is exportable.** -/
theorem sound_toBcf_iff {es : List Event} {totalTicks : ℕ}
    (hes : ∀ e ∈ es, e.tick < totalTicks)
    (h : Recorded challenge.party es totalTicks v) (stage : Stage)
    (name description : Option String) :
    Sound (toBcf names v challenge stage totalTicks name description) ↔
      Exportable names challenge v stage totalTicks := by
  have hspawned : ∀ tick, ∀ n ∈ spawned (v.events.byTick tick), n.roomId ∈ v.npcs.map.keys := by
    intro tick n hn
    obtain ⟨o, ho, hspawn⟩ := List.exists_of_findSome?_eq_some hn
    split at hspawn
    · split_ifs at hspawn
      cases hspawn
      exact h.spawned ho ‹_›
    · cases hspawn
  have hnpcs : ∀ {npc}, npc ∈ v.npcs.map.values → ∃ roomId, v.npcs.map.get roomId = some npc := by
    intro npc hnpc
    obtain ⟨e, he, rfl⟩ := List.mem_map.mp hnpc
    exact ⟨e.1, InsertionMap.get_eq_some.mpr he⟩
  have hvalue : ∀ {roomId npc}, v.npcs.map.get roomId = some npc → npc ∈ v.npcs.map.values :=
    fun hget => List.mem_map.mpr ⟨_, InsertionMap.get_eq_some.mp hget, rfl⟩
  constructor
  · intro hsound
    have hnd : ((exportedActors names challenge v).map Actor.id).Nodup := hsound.ids
    have hcells : ∀ tick < totalTicks, ∀ cell ∈ tickCells names v tick,
        CellFits (exportedActors names challenge v) tick cell := by
      intro tick htick cell hcell
      exact hsound.cells _ (mem_buildTicks.2 ⟨tick, htick, List.ne_nil_of_mem hcell, rfl⟩) cell
        hcell
    have hnpcCell : ∀ {roomId npc}, v.npcs.map.get roomId = some npc → ∀ tick < totalTicks,
        npcCellActions names v tick npc (v.events.byTick tick) ≠ [] → _ :=
      fun hget tick htick hne => (npcCellFits_iff hnd hget (hspawned tick)).mp
        (hcells tick htick _ (mem_tickCells.2 (Or.inr ⟨_, _, hget, by
          unfold buildNpcCell
          simp [hne]⟩)))
    refine ⟨?_, (nodup_ids.1 hnd).1, (nodup_ids.1 hnd).2, fun npc hnpc => ?_, ?_,
      fun npc hnpc tick htick hacts => ?_, fun entry hentry tick htick s hs spell hspell => ?_,
      fun npc hnpc tick htick s hs o ho => ?_⟩
    · exact Int.ofNat_lt.mp (hsound.range.start 1 rfl).2
    · obtain ⟨roomId, hget⟩ := hnpcs hnpc
      have hactor : npcActor names roomId npc ∈ exportedActors names challenge v :=
        List.mem_append_right _ (List.mem_map.mpr ⟨_, InsertionMap.get_eq_some.mp hget, rfl⟩)
      have hlife := ((hsound.lifecycles _ hactor _ rfl).2 _ rfl).2
      exact (spawn_lt_effectiveDeathTick npc _).mp (Int.ofNat_lt.mp hlife)
    · exact (ticksInOrder_phases stage totalTicks h.within).mp (hsound.phases _ rfl)
    · obtain ⟨roomId, hget⟩ := hnpcs hnpc
      exact (hnpcCell hget tick htick ((npcCellActions_ne_nil names).mpr hacts)).1
    · obtain ⟨e, he, rfl⟩ := List.mem_map.mp hentry
      have hget : v.players.map.get e.1 = some e.2 := InsertionMap.get_eq_some.mpr he
      have hmember := h.players e.1 (by rw [hget]; simp)
      obtain ⟨cell, hcell, hid, hactions⟩ :=
        buildPlayerCell_of_spell names v (toBcfNormalizedPlayerName names e.1) hspell
      have hfits := hcells tick htick cell
        (mem_tickCells.2 (Or.inl ⟨e.1, e.2, hget, s, hs, hcell⟩))
      have hfit := (playerCellFits_iff hnd hmember hid).mp hfits _ hactions
      exact (actionsFit_playerCellActions s).mp hfit spell hspell
    · obtain ⟨roomId, hget⟩ := hnpcs hnpc
      intro attack hattack
      have hattacks : Attacks v npc tick := ⟨s, hs, o, ho, by rw [Option.mem_def.mp hattack]; rfl⟩
      have hne := (npcCellActions_ne_nil names).mpr
        (Or.inr (a := ChangesPhase npc tick (v.events.byTick tick)) hattacks)
      exact (hnpcCell hget tick htick hne).2 s hs o ho attack hattack
  · intro hexp
    have hnd : ((exportedActors names challenge v).map Actor.id).Nodup :=
      nodup_ids.2 ⟨hexp.playerNames, hexp.noNpcName⟩
    refine ⟨hnd, ?_, ?_, ⟨?_, ?_, ?_⟩, ticksInOrder_buildTicks totalTicks, ?_, ?_, ?_⟩
    · intro actor hactor l hl
      rcases List.mem_append.mp hactor with hplayer | hnpc
      · obtain ⟨p, -, rfl⟩ := List.mem_map.mp hplayer
        cases hl
      · obtain ⟨e, he, rfl⟩ := List.mem_map.mp hnpc
        cases hl
        have hget : v.npcs.map.get e.1 = some e.2 := InsertionMap.get_eq_some.mpr he
        have hticks := h.ticksWithin hes hget
        have hdeath := (spawn_lt_effectiveDeathTick e.2 _).mpr (hexp.deaths e.2 (hvalue hget))
        have hle := effectiveDeathTick_le e.2 e.2.npc.deathTick
        refine ⟨⟨Int.natCast_nonneg _, Int.ofNat_lt.mpr hticks.1⟩, fun d hd => ?_⟩
        cases hd
        exact ⟨⟨Int.natCast_nonneg _, Int.ofNat_lt.mpr (hle.trans_lt hticks.2)⟩,
          Int.ofNat_lt.mpr hdeath⟩
    · intro rows hrows row hrow
      cases hrows
      refine mem_ids.2 ?_
      rcases List.mem_append.mp hrow with hnpc | hplayer
      · obtain ⟨e, he, rfl⟩ := List.mem_map.mp hnpc
        exact Or.inr ⟨e.1, List.mem_map_of_mem (List.mem_filter.mp he).1, rfl⟩
      · obtain ⟨p, hp, rfl⟩ := List.mem_map.mp hplayer
        exact Or.inl ⟨p, hp, rfl⟩
    · intro startTick hstart
      cases hstart
      exact ⟨by decide, Int.ofNat_lt.mpr hexp.twoTicks⟩
    · intro endTick hend
      cases hend
    · intro startTick hstart endTick hend
      cases hend
    · intro t ht
      obtain ⟨tick, -, -, rfl⟩ := mem_buildTicks.1 ht
      exact nodup_tickCells hnd h.players tick
    · intro t ht cell hcell
      obtain ⟨tick, htick, -, rfl⟩ := mem_buildTicks.1 ht
      rcases mem_tickCells.1 hcell with ⟨p, entry, hget, s, hs, hcell⟩ | ⟨r, npc, hget, hcell⟩
      · obtain ⟨hid, hactions⟩ := buildPlayerCell_some hcell
        refine (playerCellFits_iff hnd (h.players p (by rw [hget]; simp)) hid).mpr ?_
        intro actions ha
        rw [hactions actions ha]
        exact (actionsFit_playerCellActions s).mpr (hexp.spells entry
          (List.mem_map.mpr ⟨_, InsertionMap.get_eq_some.mp hget, rfl⟩) tick htick s hs)
      · obtain ⟨rfl, hne⟩ := buildNpcCell_some hcell
        refine (npcCellFits_iff hnd hget (hspawned tick)).mpr ⟨?_, ?_⟩
        · exact hexp.acts npc (hvalue hget) tick htick ((npcCellActions_ne_nil names).mp hne)
        · exact hexp.attacks npc (hvalue hget) tick htick
    · intro phases hphases
      cases hphases
      exact (ticksInOrder_phases stage totalTicks h.within).mpr hexp.phases

end

/-- **The export of a recorded stage is valid, with all its actions and with any of them dropped,
exactly when it is exportable.** -/
theorem export_valid_iff (names : Names) (challenge : Challenge) (stage : Stage)
    (name description : Option String) {es : List Event} {totalTicks : ℕ}
    (hes : ∀ e ∈ es, e.tick < totalTicks) {v : Viewer}
    (h : onePass names.itemName names.npcFullName challenge.party es totalTicks = some v) :
    (validateSemantics (toBcf names v challenge stage totalTicks name description) = [] ∧
        ∀ f, Drops f → validateSemantics
          (transformBcf (toBcf names v challenge stage totalTicks name description) f) = []) ↔
      Exportable names challenge v stage totalTicks := by
  rw [← sound_toBcf_iff names challenge hes (recorded_of_onePass hes h) stage name description,
    validateSemantics_eq_nil_iff]
  refine ⟨fun hvalid => hvalid.1, fun hsound => ⟨hsound, fun f hf => ?_⟩⟩
  exact (validateSemantics_eq_nil_iff _).mpr (hsound.transformBcf hf)

/-! ### A wave of the Colosseum -/

/-- Names that are lower case, and of which the game's tables have none. -/
def plainNames : Names where
  toLowerCase := id
  itemName _ := "item"
  npcShortName _ := none
  npcFullName _ := none
  playerAttack _ := none
  playerSpell _ := none
  npcAttack _ := none

def anna : Challenge where
  party := ⟨["anna"], by decide⟩

/-- A jaguar warrior that spawns, attacks and dies. -/
def jaguarWarrior : List Event :=
  [⟨0, 1, 0, 0, none, .npcSpawn ⟨⟨12810, 5⟩, 125, 0, none, none, none⟩⟩,
    ⟨0, 2, 0, 0, none, .npcAttack ⟨12810, 5⟩ ⟨.other 1, some "anna"⟩⟩,
    ⟨0, 3, 0, 0, none, .npcDeath ⟨⟨12810, 5⟩, 0, 0, none, none, none⟩⟩]

lemma jaguarWarrior_built :
    (onePass plainNames.itemName plainNames.npcFullName anna.party jaguarWarrior 5).isSome := by
  decide

theorem jaguarWarrior_valid :
    ∃ v, onePass plainNames.itemName plainNames.npcFullName anna.party jaguarWarrior 5 = some v ∧
      validateSemantics (toBcf plainNames v anna (.colosseumWave 3) 5 none none) = [] := by
  have hbuilt := (Option.some_get jaguarWarrior_built).symm
  have hticks : ∀ e ∈ jaguarWarrior, e.tick < 5 := by decide
  have hvalid := export_valid_iff plainNames anna (.colosseumWave 3) none none hticks hbuilt
  exact ⟨_, hbuilt, (hvalid.mpr (by decide +kernel)).1⟩

/-- **An NPC that never dies is exported with a death before its spawn.** -/
theorem neverDies_invalid :
    (∀ e ∈ jaguarWarrior.take 2, e.tick < 5) ∧
      ((onePass plainNames.itemName plainNames.npcFullName anna.party (jaguarWarrior.take 2) 5).map
        fun v => (validateSemantics
          (toBcf plainNames v anna (.colosseumWave 3) 5 none none)).map ValidationError.message) =
        some ["deathTick must be greater than spawnTick",
          "NPC \"npc-5\" has cell after deathTick (0)"] := by
  decide +kernel

end Blert.Bcf

import Blert.Theatre.Steps

/-!
When processing a stage of the Theatre returns.

For each event and for the finish there is a condition on the state they are met in under which
nothing overflows and every conversion succeeds, and a stage is processed exactly if these
conditions hold all along.
-/

namespace Blert.Theatre

open Lifecycle Fallible Checked
open Merging (Coords)
open Processing (StageContext PlayerData StatColumn castSigned)

/-! ### Counting -/

lemma returns_count {ctx : StageContext} {i : ℕ} {column : StatColumn} {n : ℤ} :
    Returns (count ctx i column n) ↔ CountFits ctx i column n := by
  simp only [Returns, count_eq_ok, exists_and_left, exists_eq, and_true]

lemma countFits_counted {ctx : StageContext} {i j : ℕ} {column column' : StatColumn} {n m : ℤ}
    (h : column' ≠ column) :
    CountFits (counted ctx i column n) j column' m ↔ CountFits ctx j column' m := by
  unfold CountFits counted StageContext.players
  simp only [List.getElem?_modify]
  by_cases hij : i = j
  · subst hij
    simp [Option.map_eq_some_iff, PlayerData.count, Function.update_of_ne h]
  · simp [hij]

lemma returns_countEach {ctx : StageContext} {i : ℕ} {columns : List StatColumn}
    (h : columns.Nodup) :
    Returns (countEach ctx i columns) ↔ ∀ column ∈ columns, CountFits ctx i column 1 := by
  induction columns generalizing ctx with
  | nil => simp [countEach]
  | cons column columns ih =>
    obtain ⟨hmem, hnodup⟩ := List.nodup_cons.mp h
    have hrest : (∀ c ∈ columns, CountFits (counted ctx i column 1) i c 1) ↔
        ∀ c ∈ columns, CountFits ctx i c 1 := by
      refine forall₂_congr fun c hc => countFits_counted ?_
      rintro rfl
      exact hmem hc
    unfold countEach at ih ⊢
    rw [List.foldlM_cons, returns_bind, List.forall_mem_cons, ← hrest, ← ih hnodup]
    simp only [count_eq_ok]
    constructor
    · rintro ⟨_, ⟨hfits, rfl⟩, hreturns⟩
      exact ⟨hfits, hreturns⟩
    · rintro ⟨hfits, hreturns⟩
      exact ⟨_, ⟨hfits, rfl⟩, hreturns⟩

lemma chinColumns_nodup (stage : Stage) (attack : Attack) {type : PlayerAttack}
    {color : StatColumn} (h : chinColumn type = some color) :
    (chinColumns stage attack color).Nodup := by
  have hcolor : color ∈ [StatColumn.chinsThrownBlack, .chinsThrownRed, .chinsThrownGrey] := by
    cases type <;> cases h <;> decide
  have hroom : chinRoomColumns stage ∈
      [[StatColumn.chinsThrownMaiden], [.chinsThrownNylocas], []] := by
    unfold chinRoomColumns
    split_ifs <;> simp
  have hwrong : wrongThrowColumns attack ∈
      [[StatColumn.chinsThrownIncorrectlyMaiden], []] := by
    unfold wrongThrowColumns
    dsimp only
    split_ifs <;> simp
  have hall : ∀ room ∈ [[StatColumn.chinsThrownMaiden], [.chinsThrownNylocas], []],
      ∀ color ∈ [StatColumn.chinsThrownBlack, .chinsThrownRed, .chinsThrownGrey],
      ∀ wrong ∈ [[StatColumn.chinsThrownIncorrectlyMaiden], []],
        ([StatColumn.chinsThrownTotal] ++ room ++ [color] ++ wrong).Nodup := by decide
  exact hall _ hroom _ hcolor _ hwrong

lemma attackColumns_nodup (cleanup : Bool) (stage : Stage) (attack : Attack) :
    (attackColumns cleanup stage attack).Nodup := by
  unfold attackColumns
  split
  · split_ifs <;> simp
  · next h => exact chinColumns_nodup stage attack h
  · split
    any_goals split_ifs
    all_goals simp

namespace NylocasStyles

def get (styles : NylocasStyles) : NyloStyle → ℤ
  | .mage => styles.mage
  | .range => styles.ranged
  | .melee => styles.melee

lemma returns_count {styles : NylocasStyles} {style : NyloStyle} :
    Returns (styles.count style) ↔ I32 (styles.get style + 1) := by
  cases style <;>
  · unfold count get
    rw [returns_bind_iff fun _ _ => ⟨_, rfl⟩, returns_i32]

end NylocasStyles

/-! ### Conditions of events -/

/-- The styles of a boss have room for another one. -/
def BossStyleFits (p : TheatreProcessor) (npcId : ℕ) : Prop :=
  ∀ style, nylocasVasiliasStyle npcId = some style → p.nylocas.prevBossStyle ≠ some style →
    I32 (p.nylocas.bossStyles.get style + 1)

lemma returns_recordBossStyle {p : TheatreProcessor} {npcId : ℕ} :
    Returns (recordBossStyle p npcId) ↔ BossStyleFits p npcId := by
  unfold recordBossStyle BossStyleFits
  cases nylocasVasiliasStyle npcId with
  | none => simp
  | some style =>
    dsimp only
    unfold NylocasState.updateBossStyle NylocasState.countBossStyle
    rw [returns_bind_iff fun _ _ => ⟨_, rfl⟩, returns_bind_iff fun _ _ => ⟨_, rfl⟩]
    simp only [Option.some.injEq, forall_eq']
    split_ifs with h
    · simp [h]
    · simp [h, NylocasStyles.returns_count]

def SpawnFits (p : TheatreProcessor) (npc : Npc) : Prop :=
  (∀ style, npc.type = some (.nylo style true) → I32 (p.nylocas.splitStyles.get style + 1)) ∧
    BossStyleFits p npc.id

lemma returns_recordSpawnType {p : TheatreProcessor} {ctx : StageContext} {tick : ℕ}
    {type : Option NpcType} : Returns (recordSpawnType p ctx tick type) ↔
      ∀ style, type = some (.nylo style true) → I32 (p.nylocas.splitStyles.get style + 1) := by
  unfold recordSpawnType
  split
  · simp
  · next style =>
    rw [returns_bind_iff fun _ _ => ⟨_, rfl⟩, NylocasStyles.returns_count]
    constructor
    · intro h style' heq
      cases heq
      exact h
    · exact fun h => h style rfl
  · next hne =>
    simp only [returns_ok, true_iff]
    intro style h
    exact absurd h (hne style)

lemma bossStyleFits_of_recordSpawnType {p p' : TheatreProcessor} {ctx ctx' : StageContext}
    {tick npcId : ℕ} {type : Option NpcType}
    (h : recordSpawnType p ctx tick type = .ok (p', ctx')) :
    BossStyleFits p' npcId ↔ BossStyleFits p npcId := by
  unfold recordSpawnType at h
  split at h
  · cases h
    rfl
  · obtain ⟨styles, -, h⟩ := bind_eq_ok.1 h
    cases h
    rfl
  · cases h
    rfl

lemma returns_processNpcSpawn {p : TheatreProcessor} {ctx : StageContext} {tick : ℕ} {npc : Npc} :
    Returns (processNpcSpawn p ctx tick npc) ↔ SpawnFits p npc := by
  unfold processNpcSpawn SpawnFits
  rw [returns_bind, ← @returns_recordSpawnType _ ctx tick]
  constructor
  · rintro ⟨⟨p', ctx'⟩, h, hboss⟩
    rw [returns_bind_iff fun _ _ => ⟨_, rfl⟩, returns_recordBossStyle,
      bossStyleFits_of_recordSpawnType h] at hboss
    exact ⟨⟨_, h⟩, hboss⟩
  · rintro ⟨⟨⟨p', ctx'⟩, h⟩, hboss⟩
    refine ⟨(p', ctx'), h, ?_⟩
    rw [returns_bind_iff fun _ _ => ⟨_, rfl⟩, returns_recordBossStyle,
      bossStyleFits_of_recordSpawnType h]
    exact hboss

/-- The coordinates of a hand can be taken relative to the room. -/
def HandFits (hand : Coords) : Prop :=
  I32 (hand.x - BLOAT_ROOM_ORIGIN.x) ∧ I32 (hand.y - BLOAT_ROOM_ORIGIN.y)

lemma returns_placeHand {hand : Coords} : Returns (placeHand hand) ↔ HandFits hand := by
  unfold placeHand HandFits
  simp only [returns_bind, i32_eq_ok]
  constructor
  · rintro ⟨x, ⟨hx, -⟩, y, ⟨hy, -⟩, -⟩
    exact ⟨hx, hy⟩
  · rintro ⟨hx, hy⟩
    refine ⟨_, ⟨hx, rfl⟩, _, ⟨hy, rfl⟩, ?_⟩
    split_ifs <;> exact ⟨_, rfl⟩

lemma returns_captureBloatHands {s : BloatState} {hands : List Coords} :
    Returns (captureBloatHands s hands) ↔
      (∀ hand ∈ hands, HandFits hand) ∧ s.waveNumber < 2 ^ 15 := by
  unfold captureBloatHands
  simp only [← returns_placeHand, ← returns_mapM]
  simp only [returns_bind, tryFrom_eq_ok, u32_eq_ok]
  constructor
  · rintro ⟨placed, hplaced, _, ⟨hwave, -⟩, -⟩
    exact ⟨⟨placed, hplaced⟩, hwave⟩
  · rintro ⟨⟨placed, hplaced⟩, hwave⟩
    exact ⟨placed, hplaced, _, ⟨hwave, rfl⟩, _, ⟨by omega, rfl⟩, _, rfl⟩

/-- The heals of an exhumed can be added to those of Xarpus. -/
def HealsFit (p : TheatreProcessor) (heals : ℕ) : Prop :=
  heals < 2 ^ 31 ∧ I32 (exhumedHealingForScale p.challenge * heals) ∧
    I32 (p.xarpusHealing.getD 0 + exhumedHealingForScale p.challenge * heals)

lemma returns_recordExhumed {p : TheatreProcessor} {healTicks : List ℕ} :
    Returns (recordExhumed p healTicks) ↔ HealsFit p healTicks.length := by
  unfold recordExhumed HealsFit
  simp only [returns_bind, tryFrom_eq_ok, i32_eq_ok]
  constructor
  · rintro ⟨_, ⟨hlen, rfl⟩, _, ⟨hprod, rfl⟩, _, ⟨hsum, -⟩, -⟩
    exact ⟨hlen, hprod, hsum⟩
  · rintro ⟨hlen, hprod, hsum⟩
    exact ⟨_, ⟨hlen, rfl⟩, _, ⟨hprod, rfl⟩, _, ⟨hsum, rfl⟩, _, rfl⟩

/-- The end of Verzik's first phase can be moved on by its transition. -/
def P1EndFits (ctx : StageContext) : Prop :=
  ∀ p1End, ctx.stageSplit .tobEntryVerzikP1End = some p1End →
    p1End.tick + VERZIK_P1_TRANSITION_TICKS < 2 ^ 32

lemma returns_recordVerzikPhase {ctx : StageContext} {tick : ℕ} {phase : VerzikPhase} :
    Returns (recordVerzikPhase ctx tick phase) ↔ (phase = .p3 → P1EndFits ctx) := by
  cases phase with
  | p3 =>
    have hne : Processing.SplitType.tobEntryVerzikP1End ≠ .tobEntryVerzikP2End := by decide
    unfold recordVerzikPhase P1EndFits
    simp only [StageContext.stageSplit_setStageSplit, hne, false_and, if_false, true_imp_iff]
    cases ctx.stageSplit .tobEntryVerzikP1End with
    | none => simp
    | some p1End =>
      simp only [Option.some.injEq, forall_eq']
      rw [returns_bind_iff fun _ _ => ⟨_, rfl⟩, returns_u32]
  | _ => simp [recordVerzikPhase]

/-- The player that an attack tanks has room for another one. -/
def StyleFits (world : World) (r : Run) (style : VerzikAttackStyle) : Prop :=
  ∀ index, attackIndex world r.events style.npcAttackTick .tobVerzikP3Auto = some index →
    ∀ player, tank r index style.style = some player →
      CountFits r.ctx player .tobVerzikP3Melees 1

lemma returns_recordAttackStyle {world : World} {r : Run} {style : VerzikAttackStyle} :
    Returns (recordAttackStyle world r style) ↔ StyleFits world r style := by
  unfold recordAttackStyle StyleFits
  cases attackIndex world r.events style.npcAttackTick .tobVerzikP3Auto with
  | none => simp
  | some index =>
    simp only [Option.some.injEq, forall_eq']
    rw [returns_bind_iff fun _ _ => ⟨_, rfl⟩]
    unfold countTank
    cases tank r index style.style with
    | none => simp
    | some player => simp [returns_count]

/-- The condition under which an event is handled. -/
def EventFits (world : World) (r : Run) (event : Event) : Prop :=
  match event.type with
  | .playerDeath => ∀ player ∈ event.player, ∀ column ∈ deathColumns event.stage,
    CountFits r.ctx player.partyIndex column 1
  | .playerAttack => ∀ player ∈ event.player, ∀ attack ∈ event.playerAttack,
    ∀ column ∈ attackColumns (inNyloCleanup r.ctx) event.stage attack,
      CountFits r.ctx player.partyIndex column 1
  | .npcSpawn => ∀ npc ∈ event.npc, SpawnFits r.processor npc
  | .npcUpdate => ∀ npc ∈ event.npc, r.ctx.stage = .tobNylocas → BossStyleFits r.processor npc.id
  | .tobMaidenCrabLeak => isFullLeak event → r.processor.maiden.fullLeaks + 1 < 2 ^ 32
  | .tobBloatHandsDrop =>
    (∀ hand ∈ event.bloatHands, HandFits hand) ∧ r.processor.bloat.waveNumber < 2 ^ 15
  | .tobXarpusExhumed => ∀ healTicks ∈ event.xarpusExhumed, HealsFit r.processor healTicks.length
  | .tobVerzikPhase => event.verzikPhase = .p3 → P1EndFits r.ctx
  | .tobVerzikAttackStyle => ∀ style ∈ event.verzikAttackStyle, StyleFits world r style
  | _ => True

lemma returns_processPlayerAttack {p : TheatreProcessor} {ctx : StageContext} {stage : Stage}
    {player : Player} {attack : Attack} :
    Returns (processPlayerAttack p ctx stage player attack) ↔
      ∀ column ∈ attackColumns (inNyloCleanup ctx) stage attack,
        CountFits ctx player.partyIndex column 1 := by
  unfold processPlayerAttack
  rw [returns_bind_iff fun _ _ => ⟨_, rfl⟩, returns_countEach (attackColumns_nodup _ _ _)]

lemma returns_processChallengeEvent {world : World} {r : Run} {event : Event} :
    Returns (processChallengeEvent world r event) ↔ EventFits world r event := by
  unfold processChallengeEvent EventFits
  cases htype : event.type
  case playerDeath =>
    cases event.player with
    | none => simp
    | some player =>
      simp only [Option.mem_def, Option.some.injEq, forall_eq']
      rw [returns_bind_iff fun _ _ => ⟨_, rfl⟩, returns_countEach (deathColumns_nodup _)]
  case playerAttack =>
    cases event.player with
    | none => simp
    | some player =>
      cases event.playerAttack with
      | none => simp
      | some attack =>
        simp only [Option.mem_def, Option.some.injEq, forall_eq']
        rw [returns_bind_iff fun _ _ => ⟨_, rfl⟩, returns_processPlayerAttack]
  case npcSpawn =>
    cases event.npc with
    | none => simp
    | some npc =>
      simp only [Option.mem_def, Option.some.injEq, forall_eq']
      rw [returns_bind_iff fun _ _ => ⟨_, rfl⟩, returns_processNpcSpawn]
  case npcUpdate =>
    cases event.npc with
    | none => simp
    | some npc =>
      simp only [Option.mem_def, Option.some.injEq, forall_eq']
      rw [returns_bind_iff fun _ _ => ⟨_, rfl⟩]
      unfold processNpcUpdate
      split_ifs with hstage
      · simp [hstage, returns_recordBossStyle]
      · simp [hstage]
  case tobMaidenCrabLeak =>
    cases hleak : isFullLeak event with
    | false => simp
    | true =>
      simp only [if_true, true_imp_iff]
      rw [returns_bind_iff fun _ _ => ⟨_, rfl⟩, returns_u32]
  case tobBloatHandsDrop =>
    dsimp only
    rw [returns_bind_iff fun _ _ => ⟨_, rfl⟩, returns_captureBloatHands]
  case tobBloatDown => cases event.bloatDown <;> simp
  case tobNyloWaveSpawn =>
    dsimp only
    split_ifs <;> simp
  case tobSoteMazeProc => cases event.soteMaze <;> simp
  case tobSoteMazePath =>
    cases event.soteMaze with
    | none => simp
    | some path =>
      dsimp only
      split_ifs <;> simp
  case tobSoteMazeEnd => cases event.soteMaze <;> simp
  case tobXarpusExhumed =>
    cases event.xarpusExhumed with
    | none => simp
    | some healTicks =>
      simp only [Option.mem_def, Option.some.injEq, forall_eq']
      rw [returns_bind_iff fun _ _ => ⟨_, rfl⟩, returns_recordExhumed]
  case tobVerzikPhase =>
    dsimp only
    rw [returns_bind_iff fun _ _ => ⟨_, rfl⟩, returns_recordVerzikPhase]
  case tobVerzikBounce => cases event.verzikBounce <;> simp
  case tobVerzikAttackStyle =>
    cases event.verzikAttackStyle with
    | none => simp
    | some style =>
      simp only [Option.mem_def, Option.some.injEq, forall_eq']
      rw [returns_bind_iff fun _ _ => ⟨_, rfl⟩, returns_recordAttackStyle]
  all_goals simp

/-! ### The loop -/

/-- The condition under which the loop goes through the event at a place. -/
def StepFits (world : World) (r : Run) (index : ℕ) : Prop :=
  ∀ event, r.events[index]? = some event → isSkipped event = false →
    EventFits world (r.tracked world event) event

lemma returns_step {world : World} {r : Run} {index : ℕ} (h : index < r.events.length) :
    Returns (step world r index) ↔ StepFits world r index := by
  obtain ⟨event, hevent⟩ : ∃ event, r.events[index]? = some event :=
    ⟨_, List.getElem?_eq_getElem h⟩
  unfold step StepFits
  rw [hevent]
  simp only [Option.some.injEq, forall_eq']
  cases hskip : isSkipped event with
  | true => simp
  | false =>
    rw [if_neg Bool.false_ne_true, returns_bind_iff fun _ _ => ⟨_, rfl⟩,
      returns_processChallengeEvent]
    exact ⟨fun h _ => h, fun h => h rfl⟩

lemma returns_interpret {world : World} {p : TheatreProcessor} {ctx : StageContext}
    {events : List Event} : Returns (interpret world p ctx events) ↔
      Along (step world) (StepFits world) { processor := p, ctx, events }
        (List.range events.length) := by
  refine returns_foldlM_of (I := fun r => r.events.length = events.length) ?_ ?_ rfl
  · intro r index r' hlen hstep
    have hkept : Kept r.processor r.ctx r.events r := ⟨rfl, rfl, rfl, rfl, rfl, rfl⟩
    exact (hkept.step hstep).length.trans hlen
  · intro r index hindex hlen
    exact returns_step (hlen ▸ List.mem_range.mp hindex)

/-! ### Chinchompas -/

/-- What the chinchompas thrown by the player at a party position have cost. -/
def chinTotal (prices : ℤ → Option ℕ) (chins : List ChinThrow) (partyIndex : ℕ) : ℤ :=
  ((chins.filter (·.partyIndex = partyIndex)).map fun chin => chinPrice prices chin.weaponId).sum

lemma chinPrice_nonneg (prices : ℤ → Option ℕ) (weaponId : ℕ) : 0 ≤ chinPrice prices weaponId := by
  unfold chinPrice
  split
  · split_ifs <;> omega
  · exact le_rfl

lemma chinTotal_nonneg (prices : ℤ → Option ℕ) (chins : List ChinThrow) (i : ℕ) :
    0 ≤ chinTotal prices chins i := by
  refine List.sum_nonneg fun n hn => ?_
  obtain ⟨chin, -, rfl⟩ := List.mem_map.mp hn
  exact chinPrice_nonneg prices chin.weaponId

lemma chinTotal_cons (prices : ℤ → Option ℕ) (chin : ChinThrow) (chins : List ChinThrow) (i : ℕ) :
    chinTotal prices (chin :: chins) i =
      (if chin.partyIndex = i then chinPrice prices chin.weaponId else 0) +
        chinTotal prices chins i := by
  unfold chinTotal
  by_cases h : chin.partyIndex = i
  · rw [List.filter_cons_of_pos (by simpa using h), List.map_cons, List.sum_cons, if_pos h]
  · rw [List.filter_cons_of_neg (by simpa using h), if_neg h, zero_add]

lemma count_stats (data : PlayerData) (column : StatColumn) (n : ℤ) :
    (data.count column n).stats column = data.stats column + n := Function.update_self ..

/-- Values of chinchompas that no player has spent too much on. -/
def ChinsFit (prices : ℤ → Option ℕ) (chins : List ChinThrow) (ctx : StageContext) : Prop :=
  ∀ i data, ctx.players[i]? = some data →
    data.stats .chinsThrownValue + chinTotal prices chins i < 2 ^ 31

lemma returns_countChinValues {prices : ℤ → Option ℕ} {chins : List ChinThrow} {ctx : StageContext}
    (h : ∀ (i : ℕ) (data : PlayerData), ctx.players[i]? = some data →
      0 ≤ data.stats .chinsThrownValue ∧ data.stats .chinsThrownValue < 2 ^ 31) :
    Returns (countChinValues prices ctx chins) ↔ ChinsFit prices chins ctx := by
  unfold countChinValues
  induction chins generalizing ctx with
  | nil =>
    simp only [List.foldlM_nil, returns_pure, true_iff]
    intro i data hdata
    simpa [chinTotal] using (h i data hdata).2
  | cons chin chins ih =>
    set price := chinPrice prices chin.weaponId with hprice
    have hnonneg : 0 ≤ price := chinPrice_nonneg prices chin.weaponId
    rw [List.foldlM_cons, returns_bind]
    simp only [count_eq_ok]
    have hnext : CountFits ctx chin.partyIndex .chinsThrownValue price →
        ∀ (i : ℕ) (data : PlayerData),
          (counted ctx chin.partyIndex .chinsThrownValue price).players[i]? = some data →
            0 ≤ data.stats .chinsThrownValue ∧ data.stats .chinsThrownValue < 2 ^ 31 := by
      intro hfits i data hdata
      rw [getElem?_counted] at hdata
      split_ifs at hdata with hi
      · obtain ⟨old, hold, rfl⟩ := Option.map_eq_some_iff.mp hdata
        subst hi
        have hroom := (hfits old hold).2
        have hold := (h _ old hold).1
        rw [count_stats]
        omega
      · exact h i data hdata
    have htotal : ChinsFit prices chins (counted ctx chin.partyIndex .chinsThrownValue price) ↔
        ChinsFit prices (chin :: chins) ctx := by
      unfold ChinsFit
      simp only [chinTotal_cons, getElem?_counted]
      refine forall_congr' fun i => ?_
      by_cases hi : chin.partyIndex = i
      · simp only [if_pos hi, Option.map_eq_some_iff, forall_exists_index, and_imp,
          forall_apply_eq_imp_iff₂, count_stats, ← hprice, add_assoc]
      · simp only [if_neg hi, zero_add]
    constructor
    · rintro ⟨_, ⟨hfits, rfl⟩, hrest⟩
      exact htotal.mp ((ih (hnext hfits)).mp hrest)
    · intro hfit
      have hfits : CountFits ctx chin.partyIndex .chinsThrownValue price := by
        intro data hdata
        have hlt := hfit chin.partyIndex data hdata
        have hrest := chinTotal_nonneg prices chins chin.partyIndex
        have hdata := (h _ data hdata).1
        rw [chinTotal_cons, if_pos rfl, ← hprice] at hlt
        exact ⟨by omega, by omega⟩
      exact ⟨_, ⟨hfits, rfl⟩, (ih (hnext hfits)).mpr (htotal.mpr hfit)⟩

/-! ### Stalls -/

/-- Counts of stalls that are no larger than those of all waves before or after the cap. -/
structure Stalls.Consistent (s : Stalls) : Prop where
  preCap : 0 ≤ s.preCap ∧ s.preCap < 2 ^ 31
  postCap : 0 ≤ s.postCap ∧ s.postCap < 2 ^ 31
  counts : ∀ k n, s.counts[k]? = some n →
    0 ≤ n ∧ (k + 1 < 20 → n ≤ s.preCap) ∧ (20 ≤ k + 1 → n ≤ s.postCap)

lemma Stalls.countCap_eq_ok {s s' : Stalls} {wave : ℕ} : s.countCap wave = .ok s' ↔
    (wave < 20 ∧ I32 (s.preCap + 1) ∧ s' = { s with preCap := s.preCap + 1 }) ∨
      (20 ≤ wave ∧ I32 (s.postCap + 1) ∧ s' = { s with postCap := s.postCap + 1 }) := by
  unfold countCap
  split_ifs with h
  · simp only [bind_eq_ok, i32_eq_ok, Except.ok.injEq, h, not_le.mpr h, true_and, false_and,
      or_false]
    constructor
    · rintro ⟨_, ⟨hfits, rfl⟩, rfl⟩
      exact ⟨hfits, rfl⟩
    · rintro ⟨hfits, rfl⟩
      exact ⟨_, ⟨hfits, rfl⟩, rfl⟩
  · simp only [bind_eq_ok, i32_eq_ok, Except.ok.injEq, h, not_lt.mp h, true_and, false_and,
      false_or]
    constructor
    · rintro ⟨_, ⟨hfits, rfl⟩, rfl⟩
      exact ⟨hfits, rfl⟩
    · rintro ⟨hfits, rfl⟩
      exact ⟨_, ⟨hfits, rfl⟩, rfl⟩

namespace Stalls

def after (s : Stalls) (wave : ℕ) : Stalls where
  preCap := s.preCap + if wave < 20 then 1 else 0
  postCap := s.postCap + if 20 ≤ wave then 1 else 0
  counts := if wave = 0 then s.counts else s.counts.modify (wave - 1) (· + 1)

def Fits (s : Stalls) : Prop := s.preCap < 2 ^ 31 ∧ s.postCap < 2 ^ 31

lemma countWave_eq_ok {s : Stalls} {wave : ℕ}
    (h : wave ≠ 0 → ∀ n, s.counts[wave - 1]? = some n → I32 (n + 1)) : s.countWave wave =
      .ok { s with
        counts := if wave = 0 then s.counts else s.counts.modify (wave - 1) (· + 1) } := by
  unfold countWave
  by_cases hwave : wave = 0
  · simp [hwave]
  · rw [if_neg hwave, if_neg hwave]
    cases hn : s.counts[wave - 1]? with
    | none => rw [List.modify_eq_self (List.getElem?_eq_none_iff.mp hn)]
    | some n =>
      have hset : s.counts.modify (wave - 1) (· + 1) = s.counts.set (wave - 1) (n + 1) := by
        rw [List.modify_eq_set_getElem?, hn]
        rfl
      rw [hset]
      exact bind_eq_ok.2 ⟨n + 1, i32_eq_ok.2 ⟨h hwave n hn, rfl⟩, rfl⟩

lemma count_eq_ok {s s' : Stalls} {wave : ℕ} (hs : s.Consistent) :
    s.count wave = .ok s' ↔ (s.after wave).Fits ∧ s' = s.after wave := by
  obtain ⟨hpre, hpost, hcounts⟩ := hs
  unfold count after Fits
  rw [bind_eq_ok]
  simp only [countCap_eq_ok]
  by_cases hwave : wave < 20
  · have hcap : ¬20 ≤ wave := not_le.mpr hwave
    have hcount := @countWave_eq_ok { s with preCap := s.preCap + 1 } wave
    have hroom : I32 (s.preCap + 1) → wave ≠ 0 →
        ∀ n, s.counts[wave - 1]? = some n → I32 (n + 1) := by
      rintro ⟨-, hlt⟩ hne n hn
      obtain ⟨hn0, hle, -⟩ := hcounts (wave - 1) n hn
      have hle := hle (by omega)
      exact ⟨by omega, by omega⟩
    simp only [hwave, hcap, if_true, if_false, true_and, false_and, or_false, add_zero]
    constructor
    · rintro ⟨_, ⟨hfits, rfl⟩, h⟩
      rw [hcount (hroom hfits)] at h
      exact ⟨⟨hfits.2, hpost.2⟩, (Except.ok.inj h).symm⟩
    · rintro ⟨⟨hlt, -⟩, rfl⟩
      have hfits : I32 (s.preCap + 1) := ⟨by omega, hlt⟩
      exact ⟨_, ⟨hfits, rfl⟩, hcount (hroom hfits)⟩
  · have hcap : 20 ≤ wave := not_lt.mp hwave
    have hcount := @countWave_eq_ok { s with postCap := s.postCap + 1 } wave
    have hroom : I32 (s.postCap + 1) → wave ≠ 0 → ∀ n, s.counts[wave - 1]? = some n →
        I32 (n + 1) := by
      rintro ⟨-, hlt⟩ hne n hn
      obtain ⟨hn0, -, hle⟩ := hcounts (wave - 1) n hn
      have hle := hle (by omega)
      exact ⟨by omega, by omega⟩
    simp only [hwave, hcap, if_true, if_false, true_and, false_and, false_or, add_zero]
    constructor
    · rintro ⟨_, ⟨hfits, rfl⟩, h⟩
      rw [hcount (hroom hfits)] at h
      exact ⟨⟨hpre.2, hfits.2⟩, (Except.ok.inj h).symm⟩
    · rintro ⟨⟨-, hlt⟩, rfl⟩
      have hfits : I32 (s.postCap + 1) := ⟨by omega, hlt⟩
      exact ⟨_, ⟨hfits, rfl⟩, hcount (hroom hfits)⟩

lemma Consistent.after {s : Stalls} {wave : ℕ} (hs : s.Consistent) (h : (s.after wave).Fits) :
    (s.after wave).Consistent := by
  obtain ⟨hpre, hpost, hcounts⟩ := hs
  refine ⟨⟨?_, h.1⟩, ⟨?_, h.2⟩, fun k n hn => ?_⟩
  · unfold Stalls.after
    dsimp only
    split_ifs <;> omega
  · unfold Stalls.after
    dsimp only
    split_ifs <;> omega
  · unfold Stalls.after at hn ⊢
    dsimp only at hn ⊢
    by_cases hwave : wave = 0
    · rw [if_pos hwave] at hn
      obtain ⟨h0, h1, h2⟩ := hcounts k n hn
      refine ⟨h0, fun hk => (h1 hk).trans ?_, fun hk => (h2 hk).trans ?_⟩ <;>
      · split_ifs <;> omega
    · rw [if_neg hwave, List.getElem?_modify] at hn
      obtain ⟨m, hm, rfl⟩ := Option.map_eq_some_iff.mp hn
      obtain ⟨h0, h1, h2⟩ := hcounts k m hm
      refine ⟨?_, fun hk => ?_, fun hk => ?_⟩
      · split_ifs <;> omega
      · have h1 := h1 hk
        split_ifs <;> omega
      · have h2 := h2 hk
        split_ifs <;> omega

lemma returns_foldlM_count {waves : List ℕ} {s : Stalls} (hs : s.Consistent) :
    Returns (waves.foldlM count s) ↔
      s.preCap + waves.countP (· < 20) < 2 ^ 31 ∧ s.postCap + waves.countP (20 ≤ ·) < 2 ^ 31 := by
  induction waves generalizing s with
  | nil =>
    obtain ⟨hpre, hpost, -⟩ := hs
    simpa using ⟨hpre.2, hpost.2⟩
  | cons wave waves ih =>
    rw [List.foldlM_cons, returns_bind]
    simp only [count_eq_ok hs, List.countP_cons]
    have hiff : (∃ s', ((s.after wave).Fits ∧ s' = s.after wave) ∧
        Returns (waves.foldlM count s')) ↔
        (s.after wave).Fits ∧ (s.after wave).preCap + waves.countP (· < 20) < 2 ^ 31 ∧
          (s.after wave).postCap + waves.countP (20 ≤ ·) < 2 ^ 31 := by
      constructor
      · rintro ⟨_, ⟨hfits, rfl⟩, hrest⟩
        exact ⟨hfits, (ih (hs.after hfits)).mp hrest⟩
      · rintro ⟨hfits, hrest⟩
        exact ⟨_, ⟨hfits, rfl⟩, (ih (hs.after hfits)).mpr hrest⟩
    rw [hiff]
    unfold Fits after
    by_cases hwave : wave < 20
    · have hcap : ¬20 ≤ wave := not_le.mpr hwave
      simp only [hwave, hcap, if_true, if_false, decide_true, decide_false, Bool.false_eq_true]
      omega
    · have hcap : 20 ≤ wave := not_lt.mp hwave
      simp only [hwave, hcap, if_true, if_false, decide_true, decide_false, Bool.false_eq_true]
      omega

lemma consistent_initial : ({} : Stalls).Consistent := by
  refine ⟨⟨le_rfl, by decide⟩, ⟨le_rfl, by decide⟩, fun k n hn => ?_⟩
  obtain ⟨-, rfl⟩ := List.mem_replicate.mp (List.mem_of_getElem? hn)
  exact ⟨le_rfl, fun _ => le_rfl, fun _ => le_rfl⟩

end Stalls

/-! ### The finish -/

def RecordedBefore (data : CustomData) (stage : Stage) : Prop :=
  (data.rooms.take (stage.value - Stage.tobMaiden.value)).all Option.isSome

structure FinishFits (inputs : FinishInputs) (p : TheatreProcessor) (ctx : StageContext) :
    Prop where
  room : isRoom inputs.stage
  deaths : ctx.deaths.length < 2 ^ 31
  chins : ∀ i < ctx.players.length, chinTotal inputs.prices p.chinsThrown i < 2 ^ 31
  downs : inputs.stage = .tobBloat → p.bloat.downs.length < 2 ^ 15 ∧
    ∀ down ∈ p.bloat.downs, down.downNumber < 2 ^ 15 ∧ down.walkTicks < 2 ^ 15
  stalls : inputs.stage = .tobNylocas → p.nylocas.stalledWaves.countP (· < 20) < 2 ^ 31 ∧
    p.nylocas.stalledWaves.countP (20 ≤ ·) < 2 ^ 31
  p2End : inputs.stage = .tobVerzik → ∀ p2End, ctx.stageSplit .tobEntryVerzikP2End = some p2End →
    p2End.tick + VERZIK_P2_TRANSITION_TICKS < 2 ^ 32
  reds : inputs.stage = .tobVerzik → p.verzik.redSpawnTicks.length < 2 ^ 32
  ticks : inputs.events.status = .completed → (nextStageEntrySplit inputs.stage).isSome →
    RecordedBefore p.data inputs.stage → inputs.challengeTicks + inputs.events.lastTick < 2 ^ 32

lemma isRoom_cases {stage : Stage} (h : isRoom stage) : stage = .tobMaiden ∨ stage = .tobBloat ∨
    stage = .tobNylocas ∨ stage = .tobSotetseg ∨ stage = .tobXarpus ∨ stage = .tobVerzik := by
  have hlow : 10 ≤ stage.value := h.1
  have hhigh : stage.value ≤ 15 := h.2
  have hvalue : stage.value = 10 ∨ stage.value = 11 ∨ stage.value = 12 ∨ stage.value = 13 ∨
      stage.value = 14 ∨ stage.value = 15 := by omega
  simp only [← Stage.value_injective.eq_iff]
  exact hvalue

lemma hasFullyRecordedUpTo_setRoom {data : CustomData} {stage : Stage} {room : RoomData}
    (h : isRoom stage) :
    hasFullyRecordedUpTo (data.setRoom stage room) stage ↔ RecordedBefore data stage := by
  unfold hasFullyRecordedUpTo
  rw [decide_eq_true_iff, and_iff_right h]
  unfold RecordedBefore
  obtain rfl | rfl | rfl | rfl | rfl | rfl := isRoom_cases h <;>
  · simp [CustomData.rooms, CustomData.setRoom, Stage.tobMaiden, Stage.tobBloat, Stage.tobNylocas,
      Stage.tobSotetseg, Stage.tobXarpus, Stage.tobVerzik]

section

variable {inputs : FinishInputs} {p : TheatreProcessor} {ctx ctx' : StageContext}
  {room : RoomData} {deaths : ℤ}

lemma returns_bloatDownRow {accurateUntil : ℕ} {down : BloatDownRecord} :
    Returns (bloatDownRow accurateUntil down) ↔
      down.downNumber < 2 ^ 15 ∧ down.walkTicks < 2 ^ 15 := by
  unfold bloatDownRow
  simp only [returns_bind, tryFrom_eq_ok]
  constructor
  · rintro ⟨_, ⟨hnumber, -⟩, _, ⟨hwalk, -⟩, -⟩
    exact ⟨hnumber, hwalk⟩
  · rintro ⟨hnumber, hwalk⟩
    exact ⟨_, ⟨hnumber, rfl⟩, _, ⟨hwalk, rfl⟩, _, rfl⟩

lemma returns_finishBloat : Returns (finishBloat inputs p ctx room deaths) ↔
    p.bloat.downs.length < 2 ^ 15 ∧
      ∀ down ∈ p.bloat.downs, down.downNumber < 2 ^ 15 ∧ down.walkTicks < 2 ^ 15 := by
  unfold finishBloat
  simp only [← @returns_bloatDownRow inputs.events.accurateUntil, ← returns_mapM]
  rw [returns_bind]
  constructor
  · rintro ⟨_, hcount, h⟩
    rw [returns_bind_iff fun _ _ => ⟨_, rfl⟩] at h
    exact ⟨(tryFrom_eq_ok.1 hcount).1, h⟩
  · rintro ⟨hcount, h⟩
    refine ⟨_, tryFrom_eq_ok.2 ⟨hcount, rfl⟩, ?_⟩
    rwa [returns_bind_iff fun _ _ => ⟨_, rfl⟩]

lemma returns_finishNylocas : Returns (finishNylocas inputs p ctx room deaths) ↔
    p.nylocas.stalledWaves.countP (· < 20) < 2 ^ 31 ∧
      p.nylocas.stalledWaves.countP (20 ≤ ·) < 2 ^ 31 := by
  unfold finishNylocas
  rw [returns_bind_iff fun _ _ => ⟨_, rfl⟩,
    Stalls.returns_foldlM_count Stalls.consistent_initial]
  simp only [zero_add]
  omega

lemma returns_recordVerzikP3 : Returns (recordVerzikP3 inputs ctx) ↔
    ∀ p2End, ctx.stageSplit .tobEntryVerzikP2End = some p2End →
      p2End.tick + VERZIK_P2_TRANSITION_TICKS < 2 ^ 32 := by
  unfold recordVerzikP3
  cases ctx.stageSplit .tobEntryVerzikP2End with
  | none => simp
  | some p2End =>
    simp only [Option.some.injEq, forall_eq']
    rw [returns_bind_iff fun _ _ => ⟨_, rfl⟩, returns_u32]

lemma returns_finishVerzik : Returns (finishVerzik inputs p ctx room deaths) ↔
    (∀ p2End, ctx.stageSplit .tobEntryVerzikP2End = some p2End →
      p2End.tick + VERZIK_P2_TRANSITION_TICKS < 2 ^ 32) ∧
      p.verzik.redSpawnTicks.length < 2 ^ 32 := by
  unfold finishVerzik
  rw [← @returns_recordVerzikP3 inputs, returns_bind]
  constructor
  · rintro ⟨ctx', hctx, h⟩
    rw [returns_bind_iff fun _ _ => ⟨_, rfl⟩, returns_tryFrom] at h
    exact ⟨⟨ctx', hctx⟩, h⟩
  · rintro ⟨⟨ctx', hctx⟩, h⟩
    refine ⟨ctx', hctx, ?_⟩
    rwa [returns_bind_iff fun _ _ => ⟨_, rfl⟩, returns_tryFrom]

/-- What is asked of the state of the room that is finished. -/
def RoomFits (inputs : FinishInputs) (p : TheatreProcessor) (ctx : StageContext) : Prop :=
  (inputs.stage = .tobBloat → p.bloat.downs.length < 2 ^ 15 ∧
    ∀ down ∈ p.bloat.downs, down.downNumber < 2 ^ 15 ∧ down.walkTicks < 2 ^ 15) ∧
  (inputs.stage = .tobNylocas → p.nylocas.stalledWaves.countP (· < 20) < 2 ^ 31 ∧
    p.nylocas.stalledWaves.countP (20 ≤ ·) < 2 ^ 31) ∧
  (inputs.stage = .tobVerzik →
    (∀ p2End, ctx.stageSplit .tobEntryVerzikP2End = some p2End →
      p2End.tick + VERZIK_P2_TRANSITION_TICKS < 2 ^ 32) ∧ p.verzik.redSpawnTicks.length < 2 ^ 32)

lemma returns_finishRoom (h : isRoom inputs.stage) :
    Returns (finishRoom inputs p ctx room deaths) ↔ RoomFits inputs p ctx := by
  unfold finishRoom RoomFits
  obtain hstage | hstage | hstage | hstage | hstage | hstage := isRoom_cases h <;> rw [hstage]
  · rw [if_pos rfl]
    exact iff_of_true ⟨_, rfl⟩ ⟨fun h => absurd h (by decide), fun h => absurd h (by decide),
      fun h => absurd h (by decide)⟩
  · rw [if_neg (by decide), if_pos rfl, returns_finishBloat]
    exact ⟨fun h => ⟨fun _ => h, fun h => absurd h (by decide), fun h => absurd h (by decide)⟩,
      fun h => h.1 rfl⟩
  · rw [if_neg (by decide), if_neg (by decide), if_pos rfl, returns_finishNylocas]
    exact ⟨fun h => ⟨fun h => absurd h (by decide), fun _ => h, fun h => absurd h (by decide)⟩,
      fun h => h.2.1 rfl⟩
  · rw [if_neg (by decide), if_neg (by decide), if_neg (by decide), if_pos rfl]
    refine iff_of_true ?_ ⟨fun h => absurd h (by decide), fun h => absurd h (by decide),
      fun h => absurd h (by decide)⟩
    unfold finishSotetseg
    dsimp only
    split <;> exact ⟨_, rfl⟩
  · rw [if_neg (by decide), if_neg (by decide), if_neg (by decide), if_neg (by decide), if_pos rfl]
    exact iff_of_true ⟨_, rfl⟩ ⟨fun h => absurd h (by decide), fun h => absurd h (by decide),
      fun h => absurd h (by decide)⟩
  · rw [if_neg (by decide), if_neg (by decide), if_neg (by decide), if_neg (by decide),
      if_neg (by decide), if_pos rfl, returns_finishVerzik]
    exact ⟨fun h => ⟨fun h => absurd h (by decide), fun h => absurd h (by decide), fun _ => h⟩,
      fun h => h.2.2 rfl⟩

lemma isRoom_of_returns_finishRoom (h : Returns (finishRoom inputs p ctx room deaths)) :
    isRoom inputs.stage := by
  unfold finishRoom at h
  split_ifs at h with h1 h2 h3 h4 h5 h6
  · rw [h1]; decide
  · rw [h2]; decide
  · rw [h3]; decide
  · rw [h4]; decide
  · rw [h5]; decide
  · rw [h6]; decide
  · exact absurd h (by simp)

lemma returns_roomSplit {stage : Stage} (h : isRoom stage) : Returns (roomSplit stage) := by
  unfold roomSplit
  obtain rfl | rfl | rfl | rfl | rfl | rfl := isRoom_cases h
  all_goals
    split_ifs <;> first | exact ⟨_, rfl⟩ | contradiction

lemma returns_recordNextEntry {data : CustomData} (h : isRoom inputs.stage)
    (hroom : p.data = data.setRoom inputs.stage room) : Returns (recordNextEntry inputs p ctx) ↔
      (inputs.events.status = .completed → (nextStageEntrySplit inputs.stage).isSome →
        RecordedBefore data inputs.stage →
          inputs.challengeTicks + inputs.events.lastTick < 2 ^ 32) := by
  unfold recordNextEntry
  cases nextStageEntrySplit inputs.stage with
  | none => simp
  | some nextEntry =>
    have hrecorded := @hasFullyRecordedUpTo_setRoom data _ room h
    dsimp only
    rw [hroom]
    split_ifs with hcond
    · rw [returns_bind_iff fun _ _ => ⟨_, rfl⟩, returns_u32]
      exact ⟨fun h _ _ _ => h, fun h => h hcond.1 rfl (hrecorded.mp hcond.2)⟩
    · exact iff_of_true ⟨_, rfl⟩ fun h1 _ h2 => absurd ⟨h1, hrecorded.mpr h2⟩ hcond

lemma returns_partyMember {party : List String} {index : ℕ} :
    Returns (partyMember party index) ↔ index < party.length := by
  unfold partyMember
  by_cases h : index < party.length
  · rw [List.getElem?_eq_getElem h]
    exact iff_of_true ⟨_, rfl⟩ h
  · rw [List.getElem?_eq_none (not_lt.mp h)]
    exact iff_of_false (by simp) h

lemma returns_onStageFinished (hdeaths : ∀ index ∈ ctx.deaths, index < p.challenge.party.length)
    (hchins : ∀ (i : ℕ) (data : PlayerData), ctx.players[i]? = some data →
      data.stats .chinsThrownValue = 0) :
    Returns (onStageFinished inputs p ctx) ↔ FinishFits inputs p ctx := by
  have hvalues : Returns (countChinValues inputs.prices ctx p.chinsThrown) ↔
      ∀ i < ctx.players.length, chinTotal inputs.prices p.chinsThrown i < 2 ^ 31 := by
    rw [returns_countChinValues fun i data hdata => by rw [hchins i data hdata]; decide]
    unfold ChinsFit
    constructor
    · intro h i hi
      have hdata := List.getElem?_eq_getElem hi
      simpa [hchins i _ hdata] using h i _ hdata
    · intro h i data hdata
      rw [hchins i data hdata, zero_add]
      exact h i (List.getElem?_eq_some_iff.mp hdata).1
  have hdead : Returns (ctx.deaths.mapM (partyMember p.challenge.party)) :=
    returns_mapM.2 fun index hindex => returns_partyMember.2 (hdeaths index hindex)
  unfold onStageFinished
  rw [returns_bind]
  constructor
  · rintro ⟨ctx₁, h₁, h⟩
    obtain ⟨hdeaths₁, hsplits₁, -⟩ := countChinValues_eq_ok h₁
    obtain ⟨dead, h₂, h⟩ := returns_bind.1 h
    obtain ⟨deaths, h₃, h⟩ := returns_bind.1 h
    obtain ⟨finish, h₄, h⟩ := returns_bind.1 h
    obtain ⟨split, h₅, h⟩ := returns_bind.1 h
    rw [returns_bind_iff fun _ _ => ⟨_, rfl⟩] at h
    have hroom := isRoom_of_returns_finishRoom ⟨_, h₄⟩
    obtain ⟨hbloat, hnylocas, hverzik⟩ := (returns_finishRoom hroom).mp ⟨_, h₄⟩
    have hlen : dead.length = ctx.deaths.length := by
      rw [← hdeaths₁]
      exact (mapM_ok h₂).length_eq.symm
    have hverzik : inputs.stage = .tobVerzik →
        (∀ p2End, ctx.stageSplit .tobEntryVerzikP2End = some p2End →
          p2End.tick + VERZIK_P2_TRANSITION_TICKS < 2 ^ 32) ∧
          p.verzik.redSpawnTicks.length < 2 ^ 32 := by
      intro hstage
      have hverzik := hverzik hstage
      unfold StageContext.stageSplit at hverzik ⊢
      rwa [hsplits₁] at hverzik
    exact
      { room := hroom
        deaths := hlen ▸ (tryFrom_eq_ok.1 h₃).1
        chins := hvalues.mp ⟨_, h₁⟩
        downs := hbloat
        stalls := hnylocas
        p2End := fun hstage => (hverzik hstage).1
        reds := fun hstage => (hverzik hstage).2
        ticks := (returns_recordNextEntry hroom rfl).mp h }
  · intro h
    obtain ⟨ctx₁, h₁⟩ := hvalues.mpr h.chins
    obtain ⟨hdeaths₁, hsplits₁, -⟩ := countChinValues_eq_ok h₁
    refine ⟨ctx₁, h₁, ?_⟩
    rw [hdeaths₁]
    obtain ⟨dead, h₂⟩ := hdead
    have hlen : dead.length = ctx.deaths.length := (mapM_ok h₂).length_eq.symm
    refine returns_bind.2 ⟨dead, h₂, returns_bind.2
      ⟨_, tryFrom_eq_ok.2 ⟨hlen ▸ h.deaths, rfl⟩, ?_⟩⟩
    have hfits : RoomFits inputs { p with chinsThrown := [] } ctx₁ := by
      refine ⟨h.downs, h.stalls, fun hstage => ⟨?_, h.reds hstage⟩⟩
      unfold StageContext.stageSplit
      rw [hsplits₁]
      exact h.p2End hstage
    obtain ⟨finish, h₄⟩ := (returns_finishRoom h.room).mpr hfits
    refine returns_bind.2 ⟨finish, h₄, ?_⟩
    obtain ⟨split, h₅⟩ := returns_roomSplit h.room
    refine returns_bind.2 ⟨split, h₅, ?_⟩
    rw [returns_bind_iff fun _ _ => ⟨_, rfl⟩]
    exact (returns_recordNextEntry h.room rfl).mpr h.ticks

end

/-! ### Stages -/

/-- Every event fits into the state that the loop meets it in, and the finish into the state that
the loop leaves. -/
def StageFits (world : World) (inputs : FinishInputs) (p : TheatreProcessor)
    (events : List Event) : Prop :=
  let ctx := StageContext.new inputs.stage p.challenge.party
  Along (step world) (StepFits world) { processor := p, ctx, events }
    (List.range events.length) ∧
  ∀ r, interpret world p ctx events = .ok r → FinishFits inputs r.processor r.ctx

/-- A stage is processed without a panic exactly if all that is added up along the way fits. -/
theorem returns_processStage (world : World) (inputs : FinishInputs) (p : TheatreProcessor)
    (events : List Event) :
    Returns (processStage world inputs p events) ↔ StageFits world inputs p events := by
  have hfinish : ∀ r, interpret world p (.new inputs.stage p.challenge.party) events = .ok r →
      (Returns (onStageFinished inputs r.processor r.ctx) ↔
        FinishFits inputs r.processor r.ctx) := by
    intro r hr
    have hkept := kept_interpret hr
    have hlen : r.ctx.players.length = p.challenge.party.length :=
      hkept.players.trans List.length_replicate
    refine returns_onStageFinished (fun i hi => ?_) ?_
    · rw [hkept.challenge, ← hlen]
      exact interpret_inv (P := fun _ r => ∀ i ∈ r.ctx.deaths, i < r.ctx.players.length)
        (fun _ _ _ _ h hstep => deaths_step h hstep) (by simp [StageContext.new]) hr i hi
    · refine interpret_inv (P := fun _ r => ∀ (i : ℕ) (data : PlayerData),
        r.ctx.players[i]? = some data → data.stats .chinsThrownValue = 0)
        (fun _ _ _ _ h hstep => chinsThrownValue_step h hstep) (fun i data hdata => ?_) hr
      rw [(List.mem_replicate.mp (List.mem_of_getElem? hdata)).2]
      rfl
  unfold processStage StageFits
  dsimp only
  rw [returns_bind, ← returns_interpret]
  constructor
  · rintro ⟨r, hr, hreturns⟩
    refine ⟨⟨r, hr⟩, fun r' hr' => ?_⟩
    cases hr.symm.trans hr'
    exact (hfinish r hr).mp hreturns
  · rintro ⟨⟨r, hr⟩, h⟩
    exact ⟨r, hr, (hfinish r hr).mpr (h r hr)⟩

/-! ### A bloat that walks for too long -/

section Walk

lemma walkHead_lt : 0 < Timeline.NUM_EQUIPMENT_SLOTS := by decide

lemma walkTorso_lt : 5 < Timeline.NUM_EQUIPMENT_SLOTS := by decide

def walkWorld : World := .linear ⟨⟨0, walkHead_lt⟩, ⟨5, walkTorso_lt⟩⟩

def walkChallenge : ChallengeInfo :=
  { uuid := 1, sessionUuid := 2, challengeType := .tob, mode := .tobRegular
    party := ["1Ogp", "WWWWWWWWWWQQ"], partyChanged := false, stage := .tobBloat
    stageAttempt := none, status := .inProgress, createdUnixMs := 0, finishedUnixMs := none
    reportedTimes := none }

lemma walkTick_lt : 60 < 2 ^ 32 := by decide

def walkInputs : FinishInputs :=
  { prices := fun _ => none, challengeTicks := 100, stage := .tobBloat
    events := { lastTick := 60, missingTickCount := 0, preciseServerTickCount := true
                accurateUntil := 61, queryableUntil := 61, status := .completed
                lastTick_lt := walkTick_lt }
    handsWanted := true }

/-- Bloat goes down, and a client says that it has walked for forty thousand ticks. -/
def walkDown : Event :=
  { type := .tobBloatDown, stage := .tobBloat, tick := 40
    bloatDown := some { downNumber := 1, upTicks := 40000 } }

/-- The ticks do not fit into a smallint. -/
theorem not_returns_walk : ¬∀ (world : World) (inputs : FinishInputs) (p : TheatreProcessor)
    (events : List Event), isRoom inputs.stage → Returns (processStage world inputs p events) := by
  intro h
  obtain ⟨finished, hfinished⟩ := h walkWorld walkInputs (.new walkChallenge none) [walkDown]
    (by decide)
  have hpanics : processStage walkWorld walkInputs (.new walkChallenge none) [walkDown] =
      .error (.message "walk ticks fit in smallint") := rfl
  rw [hpanics] at hfinished
  cases hfinished

end Walk

end Blert.Theatre

import Blert.Theatre.Finish

/-!
What handling an event leaves as it is.

An event changes what other events say of the attacks of NPCs and nothing else of them; the party,
the challenge and the rooms recorded before stay.
-/

namespace Blert.Theatre

open Lifecycle Fallible Checked
open Processing (StageContext PlayerData StatColumn)

def Event.base (event : Event) : Event := { event with npcAttack := none }

/-! ### Counting -/

/-- A statistic of the player at a party position, if there is one, can take some more. -/
def CountFits (ctx : StageContext) (partyIndex : ℕ) (column : StatColumn) (n : ℤ) : Prop :=
  ∀ data, ctx.players[partyIndex]? = some data → I32 (data.stats column + n)

/-- The context after a statistic has been added to. -/
def counted (ctx : StageContext) (partyIndex : ℕ) (column : StatColumn) (n : ℤ) : StageContext :=
  { ctx with challenge := { ctx.challenge with
      players := ctx.players.modify partyIndex fun data => data.count column n } }

lemma count_eq_ok {ctx ctx' : StageContext} {i : ℕ} {column : StatColumn} {n : ℤ} :
    count ctx i column n = .ok ctx' ↔ CountFits ctx i column n ∧ ctx' = counted ctx i column n := by
  unfold count CountFits counted
  cases h : ctx.players[i]? with
  | none =>
    have hlen : ctx.players.length ≤ i := List.getElem?_eq_none_iff.mp h
    rw [List.modify_eq_self hlen]
    constructor
    · intro hok
      cases hok
      exact ⟨nofun, rfl⟩
    · rintro ⟨-, rfl⟩
      rfl
  | some data =>
    have hset : ctx.players.modify i (fun data => data.count column n) =
        ctx.players.set i (data.count column n) := by
      rw [List.modify_eq_set_getElem?, h]
      rfl
    rw [hset]
    simp only [bind_eq_ok, i32_eq_ok, Except.ok.injEq, Option.some.injEq, forall_eq']
    constructor
    · rintro ⟨_, ⟨hfits, -⟩, rfl⟩
      exact ⟨hfits, rfl⟩
    · rintro ⟨hfits, rfl⟩
      exact ⟨_, ⟨hfits, rfl⟩, rfl⟩

lemma getElem?_counted {ctx : StageContext} {i j : ℕ} {column : StatColumn} {n : ℤ} :
    (counted ctx i column n).players[j]? =
      if i = j then ctx.players[j]?.map fun data => data.count column n
      else ctx.players[j]? := by
  unfold counted StageContext.players
  dsimp only
  rw [List.getElem?_modify]
  split_ifs
  · rfl
  · cases ctx.challenge.players[j]? <;> rfl

def addCount (players : List PlayerData) (c : ℕ × StatColumn) : List PlayerData :=
  players.modify c.1 fun data => data.count c.2 1

def addCounts (counts : List (ℕ × StatColumn)) (players : List PlayerData) : List PlayerData :=
  counts.foldl addCount players

lemma addCounts_append (counts counts' : List (ℕ × StatColumn)) (players : List PlayerData) :
    addCounts (counts ++ counts') players = addCounts counts' (addCounts counts players) :=
  List.foldl_append ..

lemma stats_addCount {players : List PlayerData} {c : ℕ × StatColumn} {i : ℕ} {data : PlayerData}
    (h : players[i]? = some data) : ∃ data', (addCount players c)[i]? = some data' ∧
      data'.gear = data.gear ∧
      ∀ column, data'.stats column = data.stats column + if (i, column) = c then 1 else 0 := by
  obtain ⟨j, column⟩ := c
  unfold addCount
  rw [List.getElem?_modify, h]
  refine ⟨_, rfl, ?_⟩
  dsimp only
  split_ifs with hij
  · subst hij
    refine ⟨rfl, fun column' => ?_⟩
    by_cases hcolumn : column' = column
    · subst hcolumn
      simp [PlayerData.count]
    · simp [PlayerData.count, hcolumn]
  · refine ⟨rfl, fun column' => ?_⟩
    have hne : ¬(i, column') = (j, column) := fun heq => hij (Prod.mk.inj heq).1.symm
    rw [if_neg hne, add_zero]

lemma stats_addCounts {counts : List (ℕ × StatColumn)} {players : List PlayerData} {i : ℕ}
    {data : PlayerData} (h : players[i]? = some data) :
    ∃ data', (addCounts counts players)[i]? = some data' ∧ data'.gear = data.gear ∧
      ∀ column, data'.stats column = data.stats column + counts.count (i, column) := by
  induction counts generalizing players data with
  | nil => exact ⟨data, h, rfl, fun column => by simp⟩
  | cons c counts ih =>
    obtain ⟨data₁, h₁, hgear₁, hstats₁⟩ := stats_addCount (c := c) h
    obtain ⟨data₂, h₂, hgear₂, hstats₂⟩ := ih h₁
    refine ⟨data₂, h₂, hgear₂.trans hgear₁, fun column => ?_⟩
    rw [hstats₂, hstats₁, List.count_cons, add_assoc, Nat.cast_add]
    congr 1
    rw [add_comm]
    congr 1
    by_cases hc : (i, column) = c
    · simp [hc]
    · have hc' : ¬c = (i, column) := fun h => hc h.symm
      simp [hc, hc']

lemma length_addCounts (counts : List (ℕ × StatColumn)) (players : List PlayerData) :
    (addCounts counts players).length = players.length := by
  induction counts generalizing players with
  | nil => rfl
  | cons c counts ih => exact (ih _).trans (List.length_modify ..)

lemma countChinValues_eq_ok {prices : ℤ → Option ℕ} {chins : List ChinThrow}
    {ctx ctx' : StageContext}
    (h : countChinValues prices ctx chins = .ok ctx') :
    ctx'.deaths = ctx.deaths ∧ ctx'.stageSplits = ctx.stageSplits ∧
      ctx'.players.length = ctx.players.length := by
  refine @foldlM_inv _ _ _ _ (fun (_ : List ChinThrow) (ctx' : StageContext) =>
    ctx'.deaths = ctx.deaths ∧ ctx'.stageSplits = ctx.stageSplits ∧
      ctx'.players.length = ctx.players.length) ?_ chins [] ctx ctx' ⟨rfl, rfl, rfl⟩ h
  rintro done chin ctx₁ ctx₂ ⟨hdeaths, hsplits, hplayers⟩ hcount
  obtain ⟨-, rfl⟩ := count_eq_ok.1 hcount
  exact ⟨hdeaths, hsplits, (List.length_modify ..).trans hplayers⟩

lemma stats_countChinValues {prices : ℤ → Option ℕ} {chins : List ChinThrow}
    {ctx ctx' : StageContext} (h : countChinValues prices ctx chins = .ok ctx') {i : ℕ}
    {data' : PlayerData} (hdata : ctx'.players[i]? = some data') :
    ∃ data, ctx.players[i]? = some data ∧
      ∀ column, column ≠ .chinsThrownValue → data'.stats column = data.stats column := by
  refine @foldlM_inv _ _ _ _ (fun (_ : List ChinThrow) (ctx' : StageContext) =>
    ∀ data', ctx'.players[i]? = some data' → ∃ data, ctx.players[i]? = some data ∧
      ∀ column, column ≠ .chinsThrownValue → data'.stats column = data.stats column) ?_ chins []
    ctx ctx' (fun data' hdata => ⟨data', hdata, fun _ _ => rfl⟩) h data' hdata
  intro done chin ctx₁ ctx₂ hold hcount data' hdata
  obtain ⟨-, rfl⟩ := count_eq_ok.1 hcount
  rw [getElem?_counted] at hdata
  split_ifs at hdata
  · obtain ⟨data₁, hdata₁, rfl⟩ := Option.map_eq_some_iff.mp hdata
    obtain ⟨data, hdata, hstats⟩ := hold data₁ hdata₁
    refine ⟨data, hdata, fun column hcolumn => ?_⟩
    rw [← hstats column hcolumn]
    exact Function.update_of_ne hcolumn _ _
  · exact hold data' hdata

/-! ### Contexts -/

/-- A context that differs at most in its splits and in what has been counted. -/
structure CtxFrame (counts : List (ℕ × StatColumn)) (ctx ctx' : StageContext) : Prop where
  stage : ctx'.stage = ctx.stage
  deaths : ctx'.deaths = ctx.deaths
  party : ctx'.challenge.party = ctx.challenge.party
  challengeSplits : ctx'.challenge.challengeSplits = ctx.challenge.challengeSplits
  players : ctx'.players = addCounts counts ctx.players

lemma CtxFrame.refl (ctx : StageContext) : CtxFrame [] ctx ctx := ⟨rfl, rfl, rfl, rfl, rfl⟩

lemma CtxFrame.trans {counts counts' : List (ℕ × StatColumn)} {ctx ctx' ctx'' : StageContext}
    (h : CtxFrame counts ctx ctx') (h' : CtxFrame counts' ctx' ctx'') :
    CtxFrame (counts ++ counts') ctx ctx'' :=
  ⟨h'.stage.trans h.stage, h'.deaths.trans h.deaths, h'.party.trans h.party,
    h'.challengeSplits.trans h.challengeSplits,
    by rw [h'.players, h.players, addCounts_append]⟩

lemma frame_setStageSplit (ctx : StageContext) (split : Processing.SplitType) (tick start : ℕ)
    (completion : Bool) : CtxFrame [] ctx (ctx.setStageSplit split tick start completion) := by
  unfold StageContext.setStageSplit
  split_ifs <;> exact ⟨rfl, rfl, rfl, rfl, rfl⟩

lemma frame_count {ctx ctx' : StageContext} {i : ℕ} {column : StatColumn}
    (h : count ctx i column 1 = .ok ctx') : CtxFrame [(i, column)] ctx ctx' := by
  obtain ⟨-, rfl⟩ := count_eq_ok.1 h
  exact ⟨rfl, rfl, rfl, rfl, rfl⟩

lemma frame_countEach {ctx ctx' : StageContext} {i : ℕ} {columns : List StatColumn}
    (h : countEach ctx i columns = .ok ctx') :
    CtxFrame (columns.map fun column => (i, column)) ctx ctx' := by
  unfold countEach at h
  refine @foldlM_inv _ _ _ _
    (fun done ctx' => CtxFrame (done.map fun column => (i, column)) ctx ctx')
    ?_ columns [] ctx ctx' (.refl ctx) h
  intro done column ctx₁ ctx₂ hframe hcount
  rw [List.map_append]
  exact hframe.trans (frame_count hcount)

lemma frame_recordMaidenCrab (ctx : StageContext) (tick : ℕ) (spawn : MaidenCrabSpawn) :
    CtxFrame [] ctx (recordMaidenCrab ctx tick spawn) := by
  cases spawn with
  | seventies => exact frame_setStageSplit ..
  | _ =>
    unfold recordMaidenCrab
    dsimp only
    split
    · exact (frame_setStageSplit ..).trans (frame_setStageSplit ..)
    · exact frame_setStageSplit ..

lemma frame_recordMazeProc (s : SotetsegState) (ctx : StageContext) (tick : ℕ) (kind : Maze) :
    CtxFrame [] ctx (recordMazeProc s ctx tick kind).2 := by
  cases kind with
  | maze66 => exact frame_setStageSplit ..
  | maze33 =>
    unfold recordMazeProc
    dsimp only
    split
    · exact (frame_setStageSplit ..).trans (frame_setStageSplit ..)
    · exact frame_setStageSplit ..

lemma frame_recordMazeEnd (s : SotetsegState) (ctx : StageContext) (tick : ℕ) (path : SoteMaze) :
    CtxFrame [] ctx (recordMazeEnd s ctx tick path).2 := by
  unfold recordMazeEnd
  split
  · exact frame_setStageSplit ..
  · exact .refl ctx

lemma frame_recordXarpusPhase (ctx : StageContext) (tick : ℕ) (phase : XarpusPhase) :
    CtxFrame [] ctx (recordXarpusPhase ctx tick phase) := by
  cases phase with
  | p1 => exact .refl ctx
  | p2 => exact frame_setStageSplit ..
  | p3 =>
    unfold recordXarpusPhase
    dsimp only
    split
    · exact (frame_setStageSplit ..).trans (frame_setStageSplit ..)
    · exact frame_setStageSplit ..

lemma frame_recordVerzikPhase {ctx ctx' : StageContext} {tick : ℕ} {phase : VerzikPhase}
    (h : recordVerzikPhase ctx tick phase = .ok ctx') : CtxFrame [] ctx ctx' := by
  cases phase with
  | p3 =>
    unfold recordVerzikPhase at h
    dsimp only at h
    split at h
    · obtain ⟨_, -, h⟩ := bind_eq_ok.1 h
      cases h
      exact (frame_setStageSplit ..).trans (frame_setStageSplit ..)
    · cases h
      exact frame_setStageSplit ..
  | p2 =>
    cases h
    exact frame_setStageSplit ..
  | _ =>
    cases h
    exact .refl _

/-! ### Processors -/

/-- A processor that differs at most in what it has seen of the stage. -/
structure ProcessorFrame (p p' : TheatreProcessor) : Prop where
  challenge : p'.challenge = p.challenge
  data : p'.data = p.data

lemma ProcessorFrame.refl (p : TheatreProcessor) : ProcessorFrame p p := ⟨rfl, rfl⟩

lemma ProcessorFrame.trans {p p' p'' : TheatreProcessor} (h : ProcessorFrame p p')
    (h' : ProcessorFrame p' p'') : ProcessorFrame p p'' :=
  ⟨h'.challenge.trans h.challenge, h'.data.trans h.data⟩

lemma frame_recordSpawnType {p p' : TheatreProcessor} {ctx ctx' : StageContext} {tick : ℕ}
    {type : Option NpcType} (h : recordSpawnType p ctx tick type = .ok (p', ctx')) :
    ProcessorFrame p p' ∧ CtxFrame [] ctx ctx' := by
  unfold recordSpawnType at h
  split at h
  · cases h
    exact ⟨⟨rfl, rfl⟩, frame_recordMaidenCrab ..⟩
  · obtain ⟨_, -, h⟩ := bind_eq_ok.1 h
    cases h
    exact ⟨⟨rfl, rfl⟩, .refl ctx⟩
  · cases h
    exact ⟨.refl p, .refl ctx⟩

lemma frame_recordBossStyle {p p' : TheatreProcessor} {npcId : ℕ}
    (h : recordBossStyle p npcId = .ok p') : ProcessorFrame p p' := by
  unfold recordBossStyle at h
  split at h
  · obtain ⟨_, -, h⟩ := bind_eq_ok.1 h
    cases h
    exact ⟨rfl, rfl⟩
  · cases h
    exact .refl p

lemma frame_recordReds (p : TheatreProcessor) (ctx : StageContext) (tick npcId : ℕ) :
    ProcessorFrame p (recordReds p ctx tick npcId).1 ∧
      CtxFrame [] ctx (recordReds p ctx tick npcId).2 := by
  unfold recordReds
  dsimp only
  split_ifs
  · split
    · exact ⟨⟨rfl, rfl⟩, frame_setStageSplit ..⟩
    · split_ifs
      · exact ⟨⟨rfl, rfl⟩, .refl ctx⟩
      · exact ⟨.refl p, .refl ctx⟩
  · exact ⟨.refl p, .refl ctx⟩

lemma frame_processNpcSpawn {p p' : TheatreProcessor} {ctx ctx' : StageContext} {tick : ℕ}
    {npc : Npc} (h : processNpcSpawn p ctx tick npc = .ok (p', ctx')) :
    ProcessorFrame p p' ∧ CtxFrame [] ctx ctx' := by
  unfold processNpcSpawn at h
  obtain ⟨⟨p₁, ctx₁⟩, h₁, h⟩ := bind_eq_ok.1 h
  obtain ⟨p₂, h₂, h⟩ := bind_eq_ok.1 h
  obtain ⟨hp₁, hctx₁⟩ := frame_recordSpawnType h₁
  obtain ⟨hp₃, hctx₃⟩ := frame_recordReds p₂ ctx₁ tick npc.id
  rw [Except.ok.inj h] at hp₃ hctx₃
  exact ⟨(hp₁.trans (frame_recordBossStyle h₂)).trans hp₃, hctx₁.trans hctx₃⟩

lemma frame_processNpcUpdate {p p' : TheatreProcessor} {ctx : StageContext} {npc : Npc}
    (h : processNpcUpdate p ctx npc = .ok p') : ProcessorFrame p p' := by
  unfold processNpcUpdate at h
  split_ifs at h
  · exact frame_recordBossStyle h
  · cases h
    exact .refl p

lemma frame_processPlayerAttack {p p' : TheatreProcessor} {ctx ctx' : StageContext} {stage : Stage}
    {player : Player} {attack : Attack}
    (h : processPlayerAttack p ctx stage player attack = .ok (p', ctx')) :
    ProcessorFrame p p' ∧ CtxFrame ((attackColumns (inNyloCleanup ctx) stage attack).map
      fun column => (player.partyIndex, column)) ctx ctx' := by
  unfold processPlayerAttack at h
  obtain ⟨_, hcount, h⟩ := bind_eq_ok.1 h
  cases h
  exact ⟨⟨rfl, rfl⟩, frame_countEach hcount⟩

lemma frame_recordExhumed {p p' : TheatreProcessor} {healTicks : List ℕ}
    (h : recordExhumed p healTicks = .ok p') : ProcessorFrame p p' := by
  unfold recordExhumed at h
  obtain ⟨_, -, h⟩ := bind_eq_ok.1 h
  obtain ⟨_, -, h⟩ := bind_eq_ok.1 h
  obtain ⟨_, -, h⟩ := bind_eq_ok.1 h
  cases h
  exact ⟨rfl, rfl⟩

/-! ### Events -/

/-- What holds of the event loop before an event and after it. -/
structure Frame (counts : List (ℕ × StatColumn)) (r r' : Run) : Prop where
  events : r'.events.map Event.base = r.events.map Event.base
  kept : r'.kept = r.kept
  ctx : CtxFrame counts r.ctx r'.ctx
  processor : ProcessorFrame r.processor r'.processor

lemma Frame.refl (r : Run) : Frame [] r r := ⟨rfl, rfl, .refl r.ctx, .refl r.processor⟩

lemma map_base_changeAttack (events : List Event) (index : ℕ)
    (f : NpcAttackEvent → NpcAttackEvent) :
    (changeAttack events index f).map Event.base = events.map Event.base := by
  refine List.ext_getElem? fun i => ?_
  unfold changeAttack
  rw [List.getElem?_map, List.getElem?_map, List.getElem?_modify]
  cases events[i]? with
  | none => rfl
  | some event =>
    rw [Option.map_eq_map, Option.map_some, Option.map_some, Option.map_some]
    split_ifs <;> rfl

section

variable {world : World} {r r' : Run} {event : Event} {keep : Bool}

lemma Frame.of_ctx {counts : List (ℕ × StatColumn)} {ctx : StageContext}
    (h : CtxFrame counts r.ctx ctx) : Frame counts r { r with ctx } :=
  ⟨rfl, rfl, h, .refl r.processor⟩

lemma Frame.of_processor {p : TheatreProcessor} (h : ProcessorFrame r.processor p) :
    Frame [] r { r with processor := p } :=
  ⟨rfl, rfl, .refl r.ctx, h⟩

lemma Frame.of_both {counts : List (ℕ × StatColumn)} {p : TheatreProcessor} {ctx : StageContext}
    (hp : ProcessorFrame r.processor p) (hctx : CtxFrame counts r.ctx ctx) :
    Frame counts r { r with processor := p, ctx } :=
  ⟨rfl, rfl, hctx, hp⟩

lemma Frame.of_events {events : List Event}
    (h : events.map Event.base = r.events.map Event.base) : Frame [] r { r with events } :=
  ⟨h, rfl, .refl r.ctx, .refl r.processor⟩

lemma frame_recordBounce (r : Run) (bounce : VerzikBounce) :
    Frame [] r (recordBounce world r bounce).1 := by
  unfold recordBounce
  split_ifs
  · exact .refl r
  · split
    · exact .refl r
    · dsimp only
      split
      · exact .of_events (map_base_changeAttack ..)
      · exact .of_processor ⟨rfl, rfl⟩

def styleCounts (world : World) (r : Run) (style : VerzikAttackStyle) : List (ℕ × StatColumn) :=
  match attackIndex world r.events style.npcAttackTick .tobVerzikP3Auto with
  | none => []
  | some index =>
    (tank r index style.style).toList.map fun player => (player, .tobVerzikP3Melees)

lemma frame_countTank {ctx : StageContext} {index : ℕ} {style : AttackStyle}
    (h : countTank r index style = .ok ctx) :
    CtxFrame ((tank r index style).toList.map fun player => (player, .tobVerzikP3Melees)) r.ctx
      ctx := by
  unfold countTank at h
  split at h
  · next htank =>
    rw [htank]
    exact frame_count h
  · next htank =>
    rw [htank]
    cases h
    exact .refl r.ctx

lemma frame_recordAttackStyle {style : VerzikAttackStyle}
    (h : recordAttackStyle world r style = .ok r') : Frame (styleCounts world r style) r r' := by
  unfold recordAttackStyle at h
  unfold styleCounts
  cases hindex : attackIndex world r.events style.npcAttackTick .tobVerzikP3Auto with
  | none =>
    rw [hindex] at h
    cases h
    exact .of_processor ⟨rfl, rfl⟩
  | some index =>
    rw [hindex] at h
    obtain ⟨ctx, hctx, h⟩ := bind_eq_ok.1 h
    cases h
    exact ⟨map_base_changeAttack .., rfl, frame_countTank hctx, .refl _⟩

def eventCounts (world : World) (r : Run) (event : Event) : List (ℕ × StatColumn) :=
  match event.type with
  | .playerDeath => event.player.toList.flatMap fun player =>
    (deathColumns event.stage).map fun column => (player.partyIndex, column)
  | .playerAttack => event.player.toList.flatMap fun player =>
    event.playerAttack.toList.flatMap fun attack =>
      (attackColumns (inNyloCleanup r.ctx) event.stage attack).map fun column =>
        (player.partyIndex, column)
  | .tobVerzikAttackStyle => event.verzikAttackStyle.toList.flatMap (styleCounts world r)
  | _ => []

lemma frame_processChallengeEvent (h : processChallengeEvent world r event = .ok (r', keep)) :
    Frame (eventCounts world r event) r r' := by
  unfold processChallengeEvent at h
  unfold eventCounts
  cases htype : event.type <;> rw [htype] at h <;> dsimp only at h ⊢
  case playerDeath =>
    cases hplayer : event.player with
    | none =>
      rw [hplayer] at h
      cases h
      exact .refl r
    | some player =>
      rw [hplayer] at h
      obtain ⟨ctx, hctx, h⟩ := bind_eq_ok.1 h
      cases h
      simpa using Frame.of_ctx (frame_countEach hctx)
  case playerAttack =>
    cases hplayer : event.player with
    | none =>
      rw [hplayer] at h
      cases h
      exact .refl r
    | some player =>
      cases hattack : event.playerAttack with
      | none =>
        rw [hplayer, hattack] at h
        cases h
        exact .refl r
      | some attack =>
        rw [hplayer, hattack] at h
        obtain ⟨⟨p, ctx⟩, hhandled, h⟩ := bind_eq_ok.1 h
        cases h
        obtain ⟨hp, hctx⟩ := frame_processPlayerAttack hhandled
        simpa using Frame.of_both hp hctx
  case npcSpawn =>
    split at h
    · obtain ⟨⟨p, ctx⟩, hspawn, h⟩ := bind_eq_ok.1 h
      cases h
      obtain ⟨hp, hctx⟩ := frame_processNpcSpawn hspawn
      exact .of_both hp hctx
    · cases h
      exact .refl r
  case npcUpdate =>
    split at h
    · obtain ⟨p, hp, h⟩ := bind_eq_ok.1 h
      cases h
      exact .of_processor (frame_processNpcUpdate hp)
    · cases h
      exact .refl r
  case tobMaidenCrabLeak =>
    split_ifs at h
    · obtain ⟨_, -, h⟩ := bind_eq_ok.1 h
      cases h
      exact .of_processor ⟨rfl, rfl⟩
    · cases h
      exact .refl r
  case tobBloatDown =>
    split at h <;> cases h
    · exact .of_processor ⟨rfl, rfl⟩
    · exact .refl r
  case tobBloatHandsDrop =>
    obtain ⟨_, -, h⟩ := bind_eq_ok.1 h
    cases h
    exact .of_processor ⟨rfl, rfl⟩
  case tobNyloWaveSpawn =>
    split_ifs at h <;> cases h
    · exact .of_ctx (frame_setStageSplit ..)
    · exact .of_ctx (frame_setStageSplit ..)
    · exact .refl r
  case tobNyloWaveStall =>
    cases h
    exact .of_processor ⟨rfl, rfl⟩
  case tobNyloCleanupEnd =>
    cases h
    exact .of_ctx (frame_setStageSplit ..)
  case tobNyloBossSpawn =>
    cases h
    exact .of_ctx (frame_setStageSplit ..)
  case tobSoteMazeProc =>
    split at h <;> cases h
    · exact .of_both ⟨rfl, rfl⟩ (frame_recordMazeProc ..)
    · exact .refl r
  case tobSoteMazePath =>
    split at h
    · split_ifs at h <;> cases h
      · exact .of_processor ⟨rfl, rfl⟩
      · exact .refl r
    · cases h
      exact .refl r
  case tobSoteMazeEnd =>
    split at h <;> cases h
    · exact .of_both ⟨rfl, rfl⟩ (frame_recordMazeEnd ..)
    · exact .refl r
  case tobXarpusExhumed =>
    split at h
    · obtain ⟨p, hp, h⟩ := bind_eq_ok.1 h
      cases h
      exact .of_processor (frame_recordExhumed hp)
    · cases h
      exact .refl r
  case tobXarpusPhase =>
    cases h
    exact .of_ctx (frame_recordXarpusPhase ..)
  case tobVerzikPhase =>
    obtain ⟨ctx, hctx, h⟩ := bind_eq_ok.1 h
    cases h
    exact .of_ctx (frame_recordVerzikPhase hctx)
  case tobVerzikBounce =>
    split at h
    · next bounce _ =>
      have hframe := @frame_recordBounce world r bounce
      rwa [Except.ok.inj h] at hframe
    · cases h
      exact .refl r
  case tobVerzikAttackStyle =>
    cases hstyle : event.verzikAttackStyle with
    | none =>
      rw [hstyle] at h
      cases h
      exact .refl r
    | some style =>
      rw [hstyle] at h
      obtain ⟨_, hhandled, h⟩ := bind_eq_ok.1 h
      cases h
      simpa using frame_recordAttackStyle hhandled
  all_goals
    cases h
    exact .refl r

end

/-! ### The loop -/

lemma length_trackEvent (slots : Slots) (ctx : StageContext) (event : Event) :
    (trackEvent slots ctx event).players.length = ctx.players.length := by
  unfold trackEvent
  split
  · exact List.length_modify ..
  · unfold StageContext.recordDeath
    split_ifs <;> rfl
  · rfl

lemma party_trackEvent (slots : Slots) (ctx : StageContext) (event : Event) :
    (trackEvent slots ctx event).challenge.party = ctx.challenge.party := by
  unfold trackEvent
  split
  · rfl
  · unfold StageContext.recordDeath
    split_ifs <;> rfl
  · rfl

section

variable {world : World} {r r' : Run} {index : ℕ}

/-- The loop at an event, before the event is handled. -/
def Run.tracked (world : World) (r : Run) (event : Event) : Run :=
  { r with ctx := trackEvent world.slots r.ctx event }

lemma step_cases (h : step world r index = .ok r') : ∃ event, r.events[index]? = some event ∧
    ((isSkipped event ∧ r' = r) ∨ (isSkipped event = false ∧ ∃ handled keep,
      processChallengeEvent world (r.tracked world event) event = .ok (handled, keep) ∧
        r' = { handled with kept := if keep then handled.kept ++ [index] else handled.kept })) := by
  unfold step at h
  cases hevent : r.events[index]? with
  | none =>
    rw [hevent] at h
    cases h
  | some event =>
    rw [hevent] at h
    dsimp only at h
    refine ⟨event, rfl, ?_⟩
    cases hskip : isSkipped event with
    | true =>
      rw [hskip, if_pos rfl] at h
      exact .inl ⟨rfl, (Except.ok.inj h).symm⟩
    | false =>
      rw [hskip, if_neg Bool.false_ne_true] at h
      obtain ⟨⟨handled, keep⟩, hhandled, h⟩ := bind_eq_ok.1 h
      exact .inr ⟨rfl, handled, keep, hhandled, (Except.ok.inj h).symm⟩

/-- What a stage's loop keeps of its start. -/
structure Kept (p : TheatreProcessor) (ctx : StageContext) (events : List Event) (r : Run) :
    Prop where
  events : r.events.map Event.base = events.map Event.base
  stage : r.ctx.stage = ctx.stage
  party : r.ctx.challenge.party = ctx.challenge.party
  players : r.ctx.players.length = ctx.players.length
  challenge : r.processor.challenge = p.challenge
  data : r.processor.data = p.data

lemma stage_trackEvent (slots : Slots) (ctx : StageContext) (event : Event) :
    (trackEvent slots ctx event).stage = ctx.stage := by
  unfold trackEvent
  split
  · rfl
  · unfold StageContext.recordDeath
    split_ifs <;> rfl
  · rfl

variable {p : TheatreProcessor} {ctx : StageContext} {events : List Event}

lemma Kept.step (hkept : Kept p ctx events r) (h : step world r index = .ok r') :
    Kept p ctx events r' := by
  obtain ⟨event, -, ⟨-, rfl⟩ | ⟨-, handled, keep, hhandled, rfl⟩⟩ := step_cases h
  · exact hkept
  obtain ⟨hevents, -, hctx, hp⟩ := frame_processChallengeEvent hhandled
  have hplayers : handled.ctx.players.length = (r.tracked world event).ctx.players.length := by
    rw [hctx.players, length_addCounts]
  exact ⟨hevents.trans hkept.events,
    hctx.stage.trans ((stage_trackEvent ..).trans hkept.stage),
    hctx.party.trans ((party_trackEvent ..).trans hkept.party),
    hplayers.trans ((length_trackEvent ..).trans hkept.players),
    hp.challenge.trans hkept.challenge, hp.data.trans hkept.data⟩

lemma Kept.length (hkept : Kept p ctx events r) : r.events.length = events.length := by
  simpa using congrArg List.length hkept.events

lemma interpret_inv {P : List ℕ → Run → Prop}
    (hstep : ∀ done index r r', P done r → Theatre.step world r index = .ok r' →
      P (done ++ [index]) r')
    (hstart : P [] { processor := p, ctx, events })
    (h : interpret world p ctx events = .ok r) : P (List.range events.length) r :=
  @foldlM_inv _ _ _ _ P hstep (List.range events.length) [] _ r hstart h

lemma kept_interpret (h : interpret world p ctx events = .ok r) : Kept p ctx events r :=
  interpret_inv (P := fun _ r => Kept p ctx events r) (fun _ _ _ _ hkept h => hkept.step h)
    ⟨rfl, rfl, rfl, rfl, rfl, rfl⟩ h

/-! ### Statistics -/

lemma deathColumns_nodup (stage : Stage) : (deathColumns stage).Nodup := by
  unfold deathColumns
  split_ifs <;> decide

lemma stats_trackEvent (slots : Slots) {ctx : StageContext} (event : Event) {i : ℕ}
    {data : PlayerData} (h : ctx.players[i]? = some data) :
    ∃ data', (trackEvent slots ctx event).players[i]? = some data' ∧ data'.stats = data.stats := by
  unfold trackEvent
  split
  · unfold StageContext.players at h ⊢
    dsimp only
    rw [List.getElem?_modify, h]
    refine ⟨_, rfl, ?_⟩
    dsimp only
    split_ifs <;> rfl
  · unfold StageContext.recordDeath
    split_ifs <;> exact ⟨data, h, rfl⟩
  · exact ⟨data, h, rfl⟩

def stepCounts (world : World) (r : Run) (index : ℕ) : List (ℕ × StatColumn) :=
  match r.events[index]? with
  | some event => if isSkipped event then [] else eventCounts world (r.tracked world event) event
  | none => []

lemma stats_step (hstep : step world r index = .ok r') {i : ℕ} {data : PlayerData}
    (h : r.ctx.players[i]? = some data) : ∃ data', r'.ctx.players[i]? = some data' ∧
      ∀ column, data'.stats column =
        data.stats column + (stepCounts world r index).count (i, column) := by
  unfold stepCounts
  obtain ⟨event, hevent, ⟨hskip, rfl⟩ | ⟨hskip, handled, keep, hhandled, rfl⟩⟩ := step_cases hstep
  · rw [hevent]
    exact ⟨data, h, fun column => by simp [hskip]⟩
  · have hctx := (frame_processChallengeEvent hhandled).ctx
    obtain ⟨data₁, h₁, hstats₁⟩ := stats_trackEvent world.slots event h
    obtain ⟨data₂, h₂, -, hstats₂⟩ :=
      @stats_addCounts (eventCounts world (r.tracked world event) event) _ i data₁ h₁
    refine ⟨data₂, by rw [← h₂]; exact congrArg (·[i]?) hctx.players, fun column => ?_⟩
    rw [hstats₂, hstats₁, hevent]
    simp [hskip]

lemma mem_attackColumns {cleanup : Bool} {stage : Stage} {attack : Attack} {column : StatColumn}
    (h : column ∈ attackColumns cleanup stage attack) : column ∈ [StatColumn.bgsSmacks,
      .hammerBops, .challyPokes, .elderMaulSmacks, .ralosAutos, .chinsThrownTotal,
      .chinsThrownMaiden, .chinsThrownNylocas, .chinsThrownBlack, .chinsThrownRed,
      .chinsThrownGrey, .chinsThrownIncorrectlyMaiden, .tobVerzikP1TrollSpecs,
      .unchargedScytheSwings, .tobBarragesWithoutProperWeapon] := by
  unfold attackColumns at h
  cases hsmack : smackColumn attack.type with
  | some smack =>
    rw [hsmack] at h
    have hmem : column = smack := by
      dsimp only at h
      split_ifs at h
      · cases h
      · cases h
      · exact List.mem_singleton.mp h
    subst hmem
    cases htype : attack.type <;> rw [htype] at hsmack <;> cases hsmack <;> decide
  | none =>
    rw [hsmack] at h
    cases hcolor : chinColumn attack.type with
    | some color =>
      rw [hcolor] at h
      unfold chinColumns chinRoomColumns wrongThrowColumns at h
      simp only [List.mem_append, List.mem_singleton] at h
      rcases h with ((rfl | h) | rfl) | h
      · decide
      · split_ifs at h
        · rw [List.mem_singleton.mp h]; decide
        · rw [List.mem_singleton.mp h]; decide
        · cases h
      · cases htype : attack.type <;> rw [htype] at hcolor <;> cases hcolor <;> decide
      · split_ifs at h
        · rw [List.mem_singleton.mp h]; decide
        · cases h
    | none =>
      rw [hcolor] at h
      dsimp only at h
      split at h
      any_goals split_ifs at h
      all_goals first | cases h; done | (rw [List.mem_singleton.mp h]; decide)

lemma ne_chinsThrownValue {event : Event} {c : ℕ × StatColumn}
    (h : c ∈ eventCounts world r event) : c.2 ≠ .chinsThrownValue := by
  unfold eventCounts at h
  split at h
  · obtain ⟨player, -, h⟩ := List.mem_flatMap.mp h
    obtain ⟨column, hcolumn, rfl⟩ := List.mem_map.mp h
    rintro rfl
    unfold deathColumns at hcolumn
    split_ifs at hcolumn <;> revert hcolumn <;> decide
  · obtain ⟨player, -, h⟩ := List.mem_flatMap.mp h
    obtain ⟨attack, -, h⟩ := List.mem_flatMap.mp h
    obtain ⟨column, hcolumn, rfl⟩ := List.mem_map.mp h
    rintro rfl
    have hmem := mem_attackColumns hcolumn
    revert hmem
    decide
  · obtain ⟨style, -, h⟩ := List.mem_flatMap.mp h
    unfold styleCounts at h
    split at h
    · cases h
    · obtain ⟨player, -, rfl⟩ := List.mem_map.mp h
      exact nofun
  · cases h

lemma chinsThrownValue_step
    (h : ∀ (i : ℕ) (data : PlayerData), r.ctx.players[i]? = some data →
      data.stats .chinsThrownValue = 0) (hstep : step world r index = .ok r') :
    ∀ (i : ℕ) (data : PlayerData), r'.ctx.players[i]? = some data →
      data.stats .chinsThrownValue = 0 := by
  intro i data hdata
  have hkept : Kept r.processor r.ctx r.events r := ⟨rfl, rfl, rfl, rfl, rfl, rfl⟩
  have hi : i < r.ctx.players.length := by
    rw [← (hkept.step hstep).players]
    exact (List.getElem?_eq_some_iff.mp hdata).1
  have hold := List.getElem?_eq_getElem hi
  obtain ⟨data', hdata', hstats⟩ := stats_step hstep hold
  cases hdata.symm.trans hdata'
  rw [hstats, h i _ hold, zero_add, Nat.cast_eq_zero, List.count_eq_zero]
  intro hmem
  unfold stepCounts at hmem
  split at hmem
  · split_ifs at hmem
    · cases hmem
    · exact ne_chinsThrownValue hmem rfl
  · cases hmem

/-! ### Deaths -/

lemma deaths_trackEvent {slots : Slots} {ctx : StageContext} {event : Event}
    (h : ∀ i ∈ ctx.deaths, i < ctx.players.length) :
    ∀ i ∈ (trackEvent slots ctx event).deaths, i < ctx.players.length := by
  unfold trackEvent
  split
  · exact h
  · unfold StageContext.recordDeath
    split_ifs with hplayer
    · intro i hi
      rcases List.mem_append.mp hi with hi | hi
      · exact h i hi
      · rw [List.mem_singleton.mp hi]
        exact hplayer
    · exact h
  · exact h

lemma deaths_step (h : ∀ i ∈ r.ctx.deaths, i < r.ctx.players.length)
    (hstep : step world r index = .ok r') : ∀ i ∈ r'.ctx.deaths, i < r'.ctx.players.length := by
  obtain ⟨event, -, ⟨-, rfl⟩ | ⟨-, handled, keep, hhandled, rfl⟩⟩ := step_cases hstep
  · exact h
  have hctx := (frame_processChallengeEvent hhandled).ctx
  dsimp only
  rw [hctx.deaths, hctx.players, length_addCounts]
  unfold Run.tracked
  rw [length_trackEvent]
  exact deaths_trackEvent h

end

end Blert.Theatre

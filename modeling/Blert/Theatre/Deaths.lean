import Blert.Processing.Deaths
import Blert.Theatre.Challenge
import Blert.Theatre.Measures

/-!
Deaths in the Theatre of Blood.

The death of a member of the party is recorded with the stage and counted among the member's
statistics, those of the room that the event names included. At the end of the stage all recorded
deaths are stored with the room.
-/

namespace Blert.Theatre

open Lifecycle Checked Fallible ReadCommitted
open Processing (ChallengePlayer ChallengeProcessor Database DeathsAgree Environment Inputs
  PlayerData Ran StageContext
  StageRun StatColumn Transaction castUnsigned)

/-! ### Reported deaths -/

/-- The party position of the player whose death an event is. -/
def deathOf (event : Event) : Option ℕ :=
  if event.type = .playerDeath then event.player.map Player.partyIndex else none

/-- The party positions of the players whose deaths are among some events, in order. -/
def deathsAmong (events : List Event) : List ℕ := events.filterMap deathOf

def countingIn (column : StatColumn) (events : List Event) : List Event :=
  events.filter fun e => column ∈ deathColumns e.stage

lemma deathsAmong_append (events : List Event) (e : Event) :
    deathsAmong (events ++ [e]) = deathsAmong events ++ (deathOf e).toList := by
  unfold deathsAmong
  rw [List.filterMap_append]
  cases hdeath : deathOf e <;> simp [hdeath]

lemma deathsAmong_countingIn_append (column : StatColumn) (events : List Event) (e : Event) :
    deathsAmong (countingIn column (events ++ [e])) = deathsAmong (countingIn column events) ++
      if column ∈ deathColumns e.stage then (deathOf e).toList else [] := by
  unfold countingIn
  rw [List.filter_append, List.filter_cons, List.filter_nil]
  simp only [decide_eq_true_eq]
  split_ifs
  · exact deathsAmong_append ..
  · rw [List.append_nil, List.append_nil]

lemma deaths_trackEvent_eq (slots : Slots) (ctx : StageContext) (event : Event) :
    (trackEvent slots ctx event).deaths =
      ctx.deaths ++ (deathOf event).toList.filter (· < ctx.players.length) := by
  unfold trackEvent deathOf
  split
  · next htype _ => simp [htype]
  · next player htype hplayer =>
    rw [if_pos htype, hplayer, Option.map_some, Option.toList_some]
    unfold StageContext.recordDeath
    split_ifs with h <;> simp [h]
  · next hother =>
    split_ifs with htype
    · cases hplayer : event.player with
      | none => simp
      | some player => exact (hother player htype hplayer).elim
    · simp

def deathStats : List StatColumn :=
  [.deathsTotal, .deathsMaiden, .deathsBloat, .deathsNylocas, .deathsSotetseg, .deathsXarpus,
    .deathsVerzik]

lemma count_eventCounts (world : World) (r : Run) (event : Event) {column : StatColumn}
    (hcolumn : column ∈ deathStats) (i : ℕ) : (eventCounts world r event).count (i, column) =
      (if column ∈ deathColumns event.stage then (deathOf event).toList else []).count i := by
  have hother : event.type ≠ .playerDeath →
      (if column ∈ deathColumns event.stage then (deathOf event).toList else []).count i = 0 := by
    intro htype
    unfold deathOf
    rw [if_neg htype, Option.toList_none, ite_self, List.count_nil]
  unfold eventCounts
  split
  · next htype =>
    unfold deathOf
    rw [if_pos htype]
    cases event.player with
    | none => simp
    | some player =>
      rw [Option.toList_some, List.flatMap_singleton, Option.map_some, Option.toList_some]
      by_cases hi : player.partyIndex = i
      · subst hi
        rw [List.count_map_of_injective _ (fun column => (player.partyIndex, column))
          fun _ _ h => (Prod.mk.inj h).2, (deathColumns_nodup _).count]
        split_ifs <;> simp
      · rw [List.count_eq_zero.mpr]
        · split_ifs <;> simp [hi]
        · intro hmem
          obtain ⟨_, -, heq⟩ := List.mem_map.mp hmem
          exact hi (Prod.mk.inj heq).1
  · next htype =>
    rw [hother (by rw [htype]; decide), List.count_eq_zero]
    intro hmem
    obtain ⟨player, -, hmem⟩ := List.mem_flatMap.mp hmem
    obtain ⟨attack, -, hmem⟩ := List.mem_flatMap.mp hmem
    obtain ⟨column', hattack, heq⟩ := List.mem_map.mp hmem
    cases heq
    have hmem := mem_attackColumns hattack
    revert hcolumn hmem
    cases column <;> decide
  · next htype =>
    rw [hother (by rw [htype]; decide), List.count_eq_zero]
    intro hmem
    obtain ⟨style, -, hmem⟩ := List.mem_flatMap.mp hmem
    unfold styleCounts at hmem
    split at hmem
    · cases hmem
    · obtain ⟨player, -, heq⟩ := List.mem_map.mp hmem
      cases heq
      revert hcolumn
      decide
  · next hdeath _ _ =>
    rw [hother hdeath]
    rfl

/-! ### The loop -/

/-- The deaths recorded in the loop are those of the events gone through, and each column counts
the ones that belong there. -/
structure Counted (seen : List Event) (r : Run) : Prop where
  deaths : r.ctx.deaths = (deathsAmong seen).filter (· < r.ctx.players.length)
  stats : ∀ (i : ℕ) (data : PlayerData) (column : StatColumn), r.ctx.players[i]? = some data →
    column ∈ deathStats → data.stats column = ((deathsAmong (countingIn column seen)).count i : ℕ)

section

variable {world : World} {r r' : Run} {p : TheatreProcessor} {ctx : StageContext}
  {events : List Event} {index : ℕ}

lemma Counted.step {places : List ℕ} (hr : Counted (handledAt events places) r)
    (hkept : Kept p ctx events r) (hstep : Theatre.step world r index = .ok r') :
    Counted (handledAt events (places ++ [index])) r' := by
  have hlen := (hkept.step hstep).players.trans hkept.players.symm
  obtain ⟨event, hevent, hcases⟩ := step_cases hstep
  obtain ⟨e, he, hbase⟩ := hkept.event hevent
  have hskipped : isSkipped event = isSkipped e :=
    (congrArg isSkipped hbase : isSkipped event.base = isSkipped e.base)
  have hdeath : deathOf event = deathOf e :=
    (congrArg deathOf hbase : deathOf event.base = deathOf e.base)
  have hstage : event.stage = e.stage :=
    (congrArg Event.stage hbase : event.base.stage = e.base.stage)
  rw [handledAt_append he, ← hskipped]
  rcases hcases with ⟨hskip, rfl⟩ | ⟨hskip, handled, keep, hhandled, rfl⟩
  · rw [hskip, if_pos rfl, List.append_nil]
    exact hr
  · rw [hskip, if_neg Bool.false_ne_true]
    have hctx := (frame_processChallengeEvent hhandled).ctx
    refine ⟨?_, fun i data column hdata hcolumn => ?_⟩
    · rw [deathsAmong_append, List.filter_append, hlen, ← hr.deaths, ← hdeath,
        ← deaths_trackEvent_eq world.slots]
      exact hctx.deaths
    · have hi : i < r.ctx.players.length := by
        rw [← hlen]
        exact (List.getElem?_eq_some_iff.mp hdata).1
      have hold := List.getElem?_eq_getElem hi
      obtain ⟨data', hdata', hstats⟩ := stats_step hstep hold
      cases hdata.symm.trans hdata'
      have hcounts : stepCounts world r index = eventCounts world (r.tracked world event) event := by
        unfold stepCounts
        rw [hevent]
        exact if_neg (by rw [hskip]; exact Bool.false_ne_true)
      rw [hstats, hr.stats i _ column hold hcolumn, hcounts, count_eventCounts _ _ _ hcolumn,
        deathsAmong_countingIn_append, List.count_append, hdeath, hstage, Nat.cast_add]

lemma counted_interpret {stage : Stage} {party : List String}
    (h : interpret world p (.new stage party) events = .ok r) : Counted (handled events) r := by
  have hinv := interpret_inv (P := fun places r =>
    Kept p (.new stage party) events r ∧ Counted (handledAt events places) r)
    (fun places index r r' hr hstep => ⟨hr.1.step hstep, hr.2.step hr.1 hstep⟩) ?_ h
  · rw [← handledAt_range]
    exact hinv.2
  · refine ⟨⟨rfl, rfl, rfl, rfl, rfl, rfl⟩, rfl, fun i data column hdata _ => ?_⟩
    obtain rfl := List.eq_of_mem_replicate (List.mem_of_getElem? hdata)
    rfl

end

/-! ### Finishing -/

/-- What a finished stage says of deaths: those recorded are the deaths of members of the party
among its events, each is listed with the room and counted there, and the statistics of each
player count the player's. -/
structure RoomDeaths (party : List String) (events : List Event) (finished : Finished) : Prop where
  events : finished.ctx.deaths = (deathsAmong events).filter (· < party.length)
  room : List.Forall₂ (fun i name => party[i]? = some name) finished.ctx.deaths
    finished.room.deaths
  stored : finished.stats.deaths = finished.ctx.deaths.length
  players : finished.ctx.players.length = party.length
  total : ∀ (i : ℕ) (data : PlayerData), finished.ctx.players[i]? = some data →
    data.stats .deathsTotal = finished.ctx.deaths.count i

section

variable {inputs : FinishInputs} {p : TheatreProcessor} {ctx ctx' : StageContext} {room : RoomData}
  {deaths : ℤ}

lemma frame_setSplits (tick : ℕ) (completion : Bool) (ctx : StageContext)
    (splits : List (Processing.SplitType × ℕ)) :
    CtxFrame [] ctx (setSplits tick completion ctx splits) := by
  unfold setSplits
  induction splits generalizing ctx with
  | nil => exact .refl ctx
  | cons split splits ih => exact (frame_setStageSplit ..).trans (ih _)

lemma finishRoom_deaths {finish : RoomFinish}
    (h : finishRoom inputs p ctx room deaths = .ok finish) :
    finish.room.deaths = room.deaths ∧ finish.stats.deaths = deaths := by
  unfold finishRoom at h
  split_ifs at h
  · cases h
    exact ⟨rfl, rfl⟩
  · obtain ⟨_, -, h⟩ := bind_eq_ok.1 h
    obtain ⟨_, -, h⟩ := bind_eq_ok.1 h
    cases h
    exact ⟨rfl, rfl⟩
  · obtain ⟨_, -, h⟩ := bind_eq_ok.1 h
    cases h
    exact ⟨rfl, rfl⟩
  · unfold finishSotetseg at h
    cases hmaze₁ : p.sotetseg.maze1 <;> cases hmaze₂ : p.sotetseg.maze2 <;>
      rw [hmaze₁, hmaze₂] at h <;> cases h <;> exact ⟨rfl, rfl⟩
  · cases h
    exact ⟨rfl, rfl⟩
  · obtain ⟨_, -, h⟩ := bind_eq_ok.1 h
    obtain ⟨_, -, h⟩ := bind_eq_ok.1 h
    cases h
    exact ⟨rfl, rfl⟩

lemma frame_recordNextEntry (h : recordNextEntry inputs p ctx = .ok ctx') :
    ctx'.deaths = ctx.deaths ∧ ctx'.players = ctx.players := by
  have hset : ∀ split ticks accurate,
      (ctx.setChallengeSplit split ticks accurate).deaths = ctx.deaths ∧
        (ctx.setChallengeSplit split ticks accurate).players = ctx.players := by
    intro split ticks accurate
    unfold StageContext.setChallengeSplit Processing.ChallengeContext.setChallengeSplit
    split_ifs <;> exact ⟨rfl, rfl⟩
  unfold recordNextEntry at h
  split at h
  · split_ifs at h
    · obtain ⟨_, -, h⟩ := bind_eq_ok.1 h
      cases h
      exact hset ..
    · cases h
      exact ⟨rfl, rfl⟩
  · cases h
    exact ⟨rfl, rfl⟩

/-- The finish of a stage keeps the deaths recorded and all statistics but one, and lists the
deaths with the room. -/
lemma onStageFinished_deaths {finished : Finished}
    (h : onStageFinished inputs p ctx = .ok finished) :
    finished.ctx.deaths = ctx.deaths ∧
      finished.ctx.players.length = ctx.players.length ∧
      List.Forall₂ (fun i name => p.challenge.party[i]? = some name) ctx.deaths
        finished.room.deaths ∧
      finished.stats.deaths = ctx.deaths.length ∧
      ∀ (i : ℕ) (data' : PlayerData), finished.ctx.players[i]? = some data' →
        ∃ data, ctx.players[i]? = some data ∧
          ∀ column, column ≠ .chinsThrownValue → data'.stats column = data.stats column := by
  unfold onStageFinished at h
  obtain ⟨ctx₁, hctx₁, h⟩ := bind_eq_ok.1 h
  obtain ⟨dead, hdead, h⟩ := bind_eq_ok.1 h
  obtain ⟨deaths, hdeaths, h⟩ := bind_eq_ok.1 h
  obtain ⟨finish, hfinish, h⟩ := bind_eq_ok.1 h
  obtain ⟨split, hsplit, h⟩ := bind_eq_ok.1 h
  obtain ⟨ctx₂, hctx₂, h⟩ := bind_eq_ok.1 h
  cases h
  obtain ⟨hdeaths₁, -, hplayers₁⟩ := countChinValues_eq_ok hctx₁
  have hframe : CtxFrame [] ctx₁ (finish.ctx.setStageSplit split inputs.events.lastTick 0 true) := by
    rw [finishRoom_splits hfinish]
    exact (frame_setSplits ..).trans (frame_setStageSplit ..)
  obtain ⟨hdeaths₂, hplayers₂⟩ := frame_recordNextEntry hctx₂
  obtain ⟨hroom, hstats⟩ := finishRoom_deaths hfinish
  have hplayers : ctx₂.players = ctx₁.players := hplayers₂.trans hframe.players
  have hforall : List.Forall₂ (fun i name => p.challenge.party[i]? = some name) ctx.deaths dead := by
    rw [hdeaths₁] at hdead
    refine (mapM_ok hdead).imp fun i name hname => ?_
    unfold partyMember at hname
    split at hname
    · next hget =>
      cases hname
      exact hget
    · cases hname
  refine ⟨(hdeaths₂.trans hframe.deaths).trans hdeaths₁, ?_, ?_, ?_, ?_⟩
  · rw [hplayers, hplayers₁]
  · rw [hroom]
    exact hforall
  · obtain ⟨-, rfl⟩ := tryFrom_eq_ok.1 hdeaths
    rw [hstats, hforall.length_eq]
  · intro i data' hdata'
    rw [hplayers] at hdata'
    exact stats_countChinValues hctx₁ hdata'

variable {world : World} {events : List Event} {finished : Finished}

/-- What is stored of the deaths in a stage, and in which case the statistics of the room count
them too. -/
lemma roomDeaths (h : processStage world inputs p events = .ok finished) :
    RoomDeaths p.challenge.party (handled events) finished ∧
      ((∀ e ∈ handled events, e.type = .playerDeath → e.stage = inputs.stage) →
        ∀ (i : ℕ) (data : PlayerData), finished.ctx.players[i]? = some data →
          ∀ column ∈ deathColumns inputs.stage,
            data.stats column = finished.ctx.deaths.count i) := by
  obtain ⟨r, hr, hfinish⟩ := bind_eq_ok.1 h
  obtain ⟨hdeaths, hlen, hroom, hstored, hplayers⟩ := onStageFinished_deaths hfinish
  have hkept := kept_interpret hr
  have hcounted := counted_interpret hr
  have hparty : r.ctx.players.length = p.challenge.party.length :=
    hkept.players.trans List.length_replicate
  have hcount : ∀ (i : ℕ) (data : PlayerData), finished.ctx.players[i]? = some data →
      ∀ column ∈ deathStats,
        deathsAmong (countingIn column (handled events)) = deathsAmong (handled events) →
          data.stats column = finished.ctx.deaths.count i := by
    intro i data' hdata' column hcolumn hall
    obtain ⟨data, hdata, hstats⟩ := hplayers i data' hdata'
    have hi : i < r.ctx.players.length := (List.getElem?_eq_some_iff.mp hdata).1
    rw [hstats column ?_, hcounted.stats i data column hdata hcolumn, hall, hdeaths,
      hcounted.deaths, List.count_filter (by simpa using hi)]
    rintro rfl
    revert hcolumn
    decide
  refine ⟨⟨?_, ?_, ?_, hlen.trans hparty, fun i data hdata => ?_⟩, fun hstage i data hdata column
    hcolumn => ?_⟩
  · rw [hdeaths, hcounted.deaths, hparty]
  · rw [hdeaths, ← hkept.challenge]
    exact hroom
  · rw [hstored, hdeaths]
  · refine hcount i data hdata .deathsTotal (by decide) ?_
    unfold countingIn
    rw [List.filter_eq_self.mpr fun e _ => by simp [deathColumns]]
  · refine hcount i data hdata column ?_ ?_
    · unfold deathColumns at hcolumn
      split_ifs at hcolumn <;> revert hcolumn <;> cases column <;> decide
    · unfold deathsAmong countingIn
      rw [List.filterMap_filter]
      refine List.filterMap_congr fun e he => ?_
      split_ifs with hmem
      · rfl
      · unfold deathOf
        rw [if_neg]
        intro htype
        rw [hstage e he htype] at hmem
        exact hmem (decide_eq_true hcolumn)

end

/-! ### Runs -/

lemma keepsDeaths_processor (handsWanted : Database CustomData StatsRow → Bool) :
    (processor handsWanted).KeepsDeaths := by
  intro p txn prices stored ctx stage events db p' ctx' ticks cs h
  change (finishStage handsWanted p txn prices stored ctx stage events).exec db = _ at h
  unfold finishStage at h
  simp only [Program.exec_bind_ok] at h
  obtain ⟨wanted, cs₁, _, -, ⟨finished, cs₂, _, h₂, ⟨_, cs₃, cs₄, -, h₄, rfl⟩, rfl⟩, rfl⟩ := h
  obtain ⟨hfinished, rfl⟩ := Program.exec_lift_ok.mp h₂
  obtain ⟨h₄, rfl⟩ := Program.exec_pure_ok.mp h₄
  cases h₄
  cases hstage : onStageFinished { prices := fun item => prices (castUnsigned item)
                                   challengeTicks := stored.challengeTicks
                                   stage, events, handsWanted := wanted } p ctx with
  | error panic =>
    rw [hstage] at hfinished
    cases hfinished
  | ok finished' =>
    rw [hstage] at hfinished
    cases hfinished
    exact (onStageFinished_deaths hstage).1

/-- A run of stage processing of a challenge in the Theatre, with the merged events of the stage,
which are interpreted in the event loop. -/
structure TheatreRun where
  txn : Transaction CustomData
  inputs : Inputs TheatreProcessor
  world : World
  events : List Event
  interprets : ∀ f p output p', inputs.recorded = .ok f → f p = (some output, p') →
    ∃ r, interpret world p (.new inputs.info.stage inputs.info.party) events = .ok r ∧
      output.ctx = r.ctx ∧ p' = r.processor

/-- The deaths among the events of a run are those that are recorded. -/
def TheatreRun.run (run : TheatreRun) : StageRun TheatreProcessor CustomData where
  txn := run.txn
  inputs := run.inputs
  deaths := deathsAmong (handled run.events)
  tracked f p output p' hrecorded hf := by
    obtain ⟨r, hr, hctx, -⟩ := run.interprets f p output p' hrecorded hf
    have hlen : (StageContext.new run.inputs.info.stage run.inputs.info.party).players.length =
        run.inputs.info.party.length := List.length_replicate
    rw [hctx, (counted_interpret hr).deaths, (kept_interpret hr).players, hlen]

/-- Where no member of the party dies twice in a stage, a challenge's total of deaths stays the
number of stage deaths recorded over its players. In each room of the Theatre the deaths stored,
those listed and those counted for the players are of the same events, for the statistics of the
room if the events are of its stage. -/
theorem deaths_agree {σ Custom Own : Type} (env : Environment σ Custom Own)
    (hkeeps : env.processor.KeepsDeaths) {id : ℕ} {start finish : Database Custom Own}
    {runs : List (StageRun σ Custom)} (hran : Ran env id start runs finish)
    (hunique : ((start.playersOf id).map ChallengePlayer.playerId).Nodup)
    (hstart : DeathsAgree id start) (hruns : ∀ run ∈ runs, run.DieOnce) :
    DeathsAgree id finish ∧
      ∀ (world : World) (inputs : FinishInputs) (p : TheatreProcessor) (events : List Event)
        (finished : Finished), processStage world inputs p events = .ok finished →
        RoomDeaths p.challenge.party (handled events) finished ∧
          ((∀ e ∈ handled events, e.type = .playerDeath → e.stage = inputs.stage) →
            ∀ (i : ℕ) (data : PlayerData), finished.ctx.players[i]? = some data →
              ∀ column ∈ deathColumns inputs.stage,
                data.stats column = finished.ctx.deaths.count i) :=
  ⟨hran.agree hkeeps hunique hstart hruns, fun _ _ _ _ _ => roomDeaths⟩

/-! ### A player who dies twice -/

section Maiden

def maidenInfo : ChallengeInfo :=
  { uuid := 7, sessionUuid := 8, challengeType := .tob, mode := .tobRegular, party := ["1Ogp"]
    partyChanged := false, stage := .tobMaiden, stageAttempt := none, status := .inProgress
    createdUnixMs := 1000, finishedUnixMs := none, reportedTimes := none }

lemma maidenId_pos : 0 < 3 := by decide

def maidenDatabase : Database CustomData StatsRow where
  challenges := (∅ : InsertionMap Uuid Processing.Challenge).set 7
    { id := 3, id_pos := maidenId_pos, sessionId := some 4, challengeType := .tob
      mode := .tobRegular, scale := 1, stage := .tobMaiden, status := .inProgress
      startTime := 1000, finishTime := none, challengeTicks := 0, overallTicks := none
      totalDeaths := 0, fullRecording := false }
  processingState := ∅
  challengePlayers := (∅ : InsertionMap (ℕ × ℕ) ChallengePlayer).set (3, 0)
    ⟨2, "1Ogp", .bandos, []⟩
  recordedChallenges := ∅
  challengeSplits := ∅
  personalBestHistory := ∅
  queryableEvents := ∅
  sessions := ∅
  players := (∅ : InsertionMap ℕ Processing.Player).set 2 ⟨"1Ogp", "1ogp", 1⟩
  playerStats := ∅
  processorRows := (∅ : InsertionMap (ℕ × ℕ) StatsRow).set (3, 0) fun _ => none

def deathEvent (tick : ℕ) : Event :=
  { type := .playerDeath, stage := .tobMaiden, tick, player := some { partyIndex := 0 } }

/-- What the streams of a stage are merged to. -/
def interpretOutput (world : World) (info : ChallengeInfo) (merged : Processing.MergedEvents)
    (events : List Event) (p : TheatreProcessor) :
    Option Processing.InterpretOutput × TheatreProcessor :=
  match interpret world p (.new info.stage info.party) events with
  | .ok r => (some { events := merged, ctx := r.ctx, queryable := fun _ => [] }, r.processor)
  | .error _ => (none, p)

lemma maidenTick_lt : 90 < 2 ^ 32 := by decide

lemma maidenChallenge_pos : 0 < 5 := by decide

def maidenRun (events : List Event) : TheatreRun where
  txn := ⟨.stage 3 .tobMaiden none, 3, some 4, none, false⟩
  inputs :=
    { info := maidenInfo
      recorded := .ok (interpretOutput soteWorld maidenInfo
        { lastTick := 90, missingTickCount := 0, preciseServerTickCount := true
          accurateUntil := 91, queryableUntil := 91, status := .wiped
          lastTick_lt := maidenTick_lt }
        events)
      saveChallenge := .ok ()
      saveStageEvents := .ok ()
      deleteChallenge := .ok ()
      prices _ := none
      now := 6000
      ids := ⟨5, maidenChallenge_pos, 6, fun _ => 9, id, id, id⟩ }
  world := soteWorld
  events
  interprets f p output p' hf houtput := by
    cases hf
    unfold interpretOutput at houtput
    split at houtput
    · next r hr =>
      cases houtput
      exact ⟨r, hr, rfl, rfl⟩
    · cases houtput

def maidenEnvironment : Environment TheatreProcessor CustomData StatsRow :=
  environment (fun _ => true) ⟨id, id⟩

lemma ran_maiden (events : List Event) (a : ProcessingPayload × Option CustomData)
    (cs : List (Processing.Change CustomData StatsRow))
    (h : (Processing.processStage maidenEnvironment (maidenRun events).inputs
      (maidenRun events).txn).exec maidenDatabase = .ok (a, cs)) :
    Ran maidenEnvironment 3 maidenDatabase [(maidenRun events).run] (applyAll cs maidenDatabase) :=
  .next rfl h .none

/-- The deaths recorded where the player dies once. -/
theorem deaths_agree_maiden : ∃ finish, Ran maidenEnvironment 3 maidenDatabase
    [(maidenRun [deathEvent 40]).run] finish ∧ DeathsAgree 3 finish := by
  have hran := ran_maiden [deathEvent 40] _ _ rfl
  refine ⟨_, hran, (deaths_agree maidenEnvironment (keepsDeaths_processor _) hran (by decide)
    ?_ fun run hrun => ?_).1⟩
  · rintro e he
    obtain rfl := List.mem_singleton.mp he
    rfl
  · obtain rfl := List.mem_singleton.mp hrun
    unfold StageRun.DieOnce
    decide

/-- A player who is said to die twice in a stage is counted twice in the challenge's total, and
once in the player's list. -/
theorem not_deaths_agree_maiden : ¬∀ {σ Custom Own : Type} (env : Environment σ Custom Own),
    env.processor.KeepsDeaths → ∀ {id : ℕ} {start finish : Database Custom Own}
      {runs : List (StageRun σ Custom)}, Ran env id start runs finish →
      ((start.playersOf id).map ChallengePlayer.playerId).Nodup → DeathsAgree id start →
      DeathsAgree id finish := by
  intro h
  have hagree := h maidenEnvironment (keepsDeaths_processor _)
    (ran_maiden [deathEvent 40, deathEvent 60] _ _ rfl) (by decide) (by
      rintro e he
      obtain rfl := List.mem_singleton.mp he
      rfl)
  have htotal := hagree (7, _) List.mem_cons_self
  revert htotal
  decide

end Maiden

end Blert.Theatre

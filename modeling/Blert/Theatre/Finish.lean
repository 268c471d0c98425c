import Blert.Theatre.Processor

/-!
The end of a stage of the Theatre of Blood.

Once the events have been gone through, the splits that last until the end of the room are
recorded, and what the room has come to is stored with the challenge and as a row of statistics.
-/

namespace Blert.Theatre

open Lifecycle Checked
open Timeline (SkillLevel)
open Processing (StageContext SplitType ChallengeTicks castSigned)

/-! ### Rooms -/

namespace CustomData

def rooms (data : CustomData) : List (Option RoomData) :=
  [data.maiden, data.bloat, data.nylocas, data.sotetseg, data.xarpus, data.verzik]

def setRoom (data : CustomData) (stage : Stage) (room : RoomData) : CustomData :=
  if stage = .tobMaiden then { data with maiden := some room }
  else if stage = .tobBloat then { data with bloat := some room }
  else if stage = .tobNylocas then { data with nylocas := some room }
  else if stage = .tobSotetseg then { data with sotetseg := some room }
  else if stage = .tobXarpus then { data with xarpus := some room }
  else if stage = .tobVerzik then { data with verzik := some room }
  else data

end CustomData

/-- Whether a stage is a room of the Theatre. -/
def isRoom (stage : Stage) : Prop := .tobMaiden ≤ stage ∧ stage ≤ .tobVerzik

instance : DecidablePred isRoom := fun _ => by unfold isRoom; infer_instance

/-- Whether every room up to and including a stage has been recorded. -/
def hasFullyRecordedUpTo (data : CustomData) (stage : Stage) : Bool :=
  isRoom stage ∧
    (data.rooms.take (stage.value - Stage.tobMaiden.value + 1)).all Option.isSome

def roomSplit (stage : Stage) : Except Panic SplitType :=
  if stage = .tobMaiden then .ok .tobEntryMaiden
  else if stage = .tobBloat then .ok .tobEntryBloat
  else if stage = .tobNylocas then .ok .tobEntryNyloRoom
  else if stage = .tobSotetseg then .ok .tobEntrySotetseg
  else if stage = .tobXarpus then .ok .tobEntryXarpus
  else if stage = .tobVerzik then .ok .tobEntryVerzikRoom
  else .error (.message "invalid ToB stage")

def nextStageEntrySplit (stage : Stage) : Option SplitType :=
  if stage = .tobBloat then some .tobEntryNyloStart
  else if stage = .tobNylocas then some .tobEntrySotetsegStart
  else if stage = .tobSotetseg then some .tobEntryXarpusStart
  else if stage = .tobXarpus then some .tobEntryVerzikStart
  else none

/-! ### Statistics of rooms -/

structure BloatDownRow where
  downNumber : ℕ
  downTick : ℤ
  walkTicks : ℕ
  accurate : Bool

/-- What is written of a room. The deaths are the number of dead players. -/
inductive RoomStats
  | maiden (deaths fullLeaks : ℤ) (scuffedSpawns : Bool)
  | bloat (deaths : ℤ) (downCount : ℕ) (firstDownHp : Option SkillLevel)
      (downs : List BloatDownRow) (hands : List BloatHand)
  | nylocas (deaths : ℤ) (stalls : List ℤ) (preCapStalls postCapStalls : ℤ)
      (splitStyles bossStyles : NylocasStyles)
  | sotetseg (deaths : ℤ)
  | xarpus (deaths : ℤ) (healing : Option ℤ)
  | verzik (deaths : ℤ) (redsCount : Option ℤ)

def RoomStats.deaths : RoomStats → ℤ
  | maiden deaths _ _ | bloat deaths _ _ _ _ | nylocas deaths _ _ _ _ _ | sotetseg deaths
  | xarpus deaths _ | verzik deaths _ => deaths

/-! ### Finishing rooms -/

/-- What the end of a stage is told: the answer of the price resolver for an item, the ticks stored
for the challenge, the stage, its merged events, and whether more hands may be stored today. -/
structure FinishInputs where
  prices : ℤ → Option ℕ
  challengeTicks : ℕ
  stage : Stage
  events : Processing.MergedEvents
  handsWanted : Bool

/-- Everything that the finish of a room writes. -/
structure RoomFinish where
  room : RoomData
  ctx : StageContext
  stats : RoomStats

section

variable (inputs : FinishInputs) (p : TheatreProcessor) (ctx : StageContext) (room : RoomData)
  (deaths : ℤ)

/-- Records a split that has lasted from another one to the end of the stage. -/
def lastSplit (split since : SplitType) : StageContext :=
  match ctx.stageSplit since with
  | some s => ctx.setStageSplit split inputs.events.lastTick s.tick true
  | none => ctx

def finishMaiden : Except Panic RoomFinish :=
  .ok { room
        ctx := lastSplit inputs ctx .tobEntryMaiden30sEnd .tobEntryMaiden30s
        stats := .maiden deaths (castSigned p.maiden.fullLeaks) p.maiden.scuffedSpawns }

def bloatDownRow (accurateUntil : ℕ) (down : BloatDownRecord) : Except Panic BloatDownRow := do
  let downNumber ← tryFrom (2 ^ 15) down.downNumber "down number fits in smallint"
  let walkTicks ← tryFrom (2 ^ 15) down.walkTicks "walk ticks fit in smallint"
  .ok { downNumber, downTick := castSigned down.tick, walkTicks
        accurate := down.tick < accurateUntil }

def finishBloat : Except Panic RoomFinish := do
  let downCount ← tryFrom (2 ^ 15) p.bloat.downs.length "downs fit in smallint"
  let downs ← p.bloat.downs.mapM (bloatDownRow inputs.events.accurateUntil)
  let fullyQueryable := inputs.events.lastTick < inputs.events.queryableUntil
  let hands := if fullyQueryable ∧ inputs.handsWanted then p.bloat.hands else []
  .ok { room := { room with bloatDownTicks := p.bloat.downs.map BloatDownRecord.tick }
        ctx
        stats := .bloat deaths downCount p.bloat.firstDownHp downs hands }

structure Stalls where
  /-- By wave, from the first to the thirty-first. -/
  counts : List ℤ := List.replicate 31 0
  preCap : ℤ := 0
  postCap : ℤ := 0

namespace Stalls

def countCap (s : Stalls) (wave : ℕ) : Except Panic Stalls :=
  if wave < 20 then do
    let preCap ← i32 (s.preCap + 1)
    .ok { s with preCap }
  else do
    let postCap ← i32 (s.postCap + 1)
    .ok { s with postCap }

def countWave (s : Stalls) (wave : ℕ) : Except Panic Stalls :=
  if wave = 0 then .ok s
  else
    match s.counts[wave - 1]? with
    | some n => do
      let n ← i32 (n + 1)
      .ok { s with counts := s.counts.set (wave - 1) n }
    | none => .ok s

def count (s : Stalls) (wave : ℕ) : Except Panic Stalls := do
  let s ← s.countCap wave
  s.countWave wave

end Stalls

def finishNylocas : Except Panic RoomFinish := do
  let stalls ← p.nylocas.stalledWaves.foldlM Stalls.count {}
  .ok { room := { room with nyloWavesStalled := p.nylocas.stalledWaves }
        ctx := lastSplit inputs ctx .tobEntryNyloBoss .tobEntryNyloBossSpawn
        stats := .nylocas deaths stalls.counts stalls.preCap stalls.postCap p.nylocas.splitStyles
          p.nylocas.bossStyles }

def Pivots.toList : Pivots → List ℕ
  | complete pivots | accumulated pivots => pivots.toList
  | incomplete _ => []

/-- Records the third phase, if the second maze has been seen to end. -/
def finishMaze2 (maze : SotetsegMaze) : StageContext :=
  if 0 < maze.endTick then
    ctx.setStageSplit .tobEntrySotetsegP3 inputs.events.lastTick maze.endTick true
  else ctx

def finishSotetseg : Except Panic RoomFinish :=
  let room := match p.sotetseg.maze1 with
    | some maze => { room with sotetsegMaze1Pivots := maze.pivots.toList
                               sotetsegMaze1Chosen := maze.chosenPlayer }
    | none => room
  match p.sotetseg.maze2 with
  | some maze =>
    .ok { room := { room with sotetsegMaze2Pivots := maze.pivots.toList
                              sotetsegMaze2Chosen := maze.chosenPlayer }
          ctx := finishMaze2 inputs ctx maze
          stats := .sotetseg deaths }
  | none => .ok { room, ctx, stats := .sotetseg deaths }

def finishXarpus : Except Panic RoomFinish :=
  .ok { room
        ctx := lastSplit inputs ctx .tobEntryXarpusP3 .tobEntryXarpusScreech
        stats := .xarpus deaths p.xarpusHealing }

/-- Records Verzik's third phase, if the end of the second has been seen. -/
def recordVerzikP3 : Except Panic StageContext :=
  match ctx.stageSplit .tobEntryVerzikP2End with
  | some p2End => do
    let start ← u32 (p2End.tick + VERZIK_P2_TRANSITION_TICKS)
    .ok (ctx.setStageSplit .tobEntryVerzikP3 inputs.events.lastTick start true)
  | none => .ok ctx

def finishVerzik : Except Panic RoomFinish := do
  let ctx ← recordVerzikP3 inputs ctx
  let redsCount ← tryFrom (2 ^ 32) p.verzik.redSpawnTicks.length "reds"
  .ok { room := { room with verzikRedsCount := redsCount }
        ctx
        stats := .verzik deaths (if 0 < redsCount then some (castSigned redsCount) else none) }

def finishRoom : Except Panic RoomFinish :=
  if inputs.stage = .tobMaiden then finishMaiden inputs p ctx room deaths
  else if inputs.stage = .tobBloat then finishBloat inputs p ctx room deaths
  else if inputs.stage = .tobNylocas then finishNylocas inputs p ctx room deaths
  else if inputs.stage = .tobSotetseg then finishSotetseg inputs p ctx room deaths
  else if inputs.stage = .tobXarpus then finishXarpus inputs p ctx room deaths
  else if inputs.stage = .tobVerzik then finishVerzik inputs p ctx room deaths
  else .error (.message "invalid ToB stage")

end

/-! ### The finish of a stage -/

def chinPrice (prices : ℤ → Option ℕ) (weaponId : ℕ) : ℤ :=
  match prices (castSigned weaponId) with
  | some price => if price < 2 ^ 31 then price else 2 ^ 31 - 1
  | none => 0

/-- Adds what the thrown chinchompas cost to the statistics. -/
def countChinValues (prices : ℤ → Option ℕ) (ctx : StageContext) (chins : List ChinThrow) :
    Except Panic StageContext :=
  chins.foldlM (fun ctx chin =>
    count ctx chin.partyIndex .chinsThrownValue (chinPrice prices chin.weaponId)) ctx

def partyMember (party : List String) (index : ℕ) : Except Panic String :=
  match party[index]? with
  | some name => .ok name
  | none => .error .indexOutOfBounds

/-- The entry split of the stage after a completed one. -/
def recordNextEntry (inputs : FinishInputs) (p : TheatreProcessor) (ctx : StageContext) :
    Except Panic StageContext :=
  match nextStageEntrySplit inputs.stage with
  | some nextEntry =>
    if inputs.events.status = .completed ∧ hasFullyRecordedUpTo p.data inputs.stage then do
      let ticks ← u32 (inputs.challengeTicks + inputs.events.lastTick)
      .ok (ctx.setChallengeSplit nextEntry ticks
        (some (!p.challenge.partyChanged && inputs.events.preciseServerTickCount)))
    else .ok ctx
  | none => .ok ctx

structure Finished where
  processor : TheatreProcessor
  ctx : StageContext
  room : RoomData
  stats : RoomStats
  ticks : ChallengeTicks

def onStageFinished (inputs : FinishInputs) (p : TheatreProcessor) (ctx : StageContext) :
    Except Panic Finished := do
  let ctx ← countChinValues inputs.prices ctx p.chinsThrown
  let p := { p with chinsThrown := [] }
  let dead ← ctx.deaths.mapM (partyMember p.challenge.party)
  let room : RoomData :=
    { stage := inputs.stage, ticksLost := inputs.events.missingTickCount, deaths := dead }
  let deaths ← tryFrom (2 ^ 31) room.deaths.length "max 5 deaths"
  let finish ← finishRoom inputs p ctx room deaths
  let p := { p with data := p.data.setRoom inputs.stage finish.room }
  let split ← roomSplit inputs.stage
  let ctx := finish.ctx.setStageSplit split inputs.events.lastTick 0 true
  let ctx ← recordNextEntry inputs p ctx
  .ok { processor := p, ctx, room := finish.room, stats := finish.stats
        ticks := .add inputs.events.lastTick }

def processStage (world : World) (inputs : FinishInputs) (p : TheatreProcessor)
    (events : List Event) : Except Panic Finished := do
  let r ← interpret world p (.new inputs.stage p.challenge.party) events
  onStageFinished inputs r.processor r.ctx

end Blert.Theatre

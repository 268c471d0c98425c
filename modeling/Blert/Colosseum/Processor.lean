import Blert.Processing.Runs

/-!
Colosseum challenge processing.

A handicap that has been chosen before is offered again at its next level, whose id is that of the
level below and an increment. The processor's state is stored between waves and read back at the
next one, together with how often each handicap has been chosen. Each addition is checked.
-/

namespace Blert.Colosseum

open Lifecycle Checked ReadCommitted
open Merging (EventType)
open Processing (ChallengeContext ChallengeProcessor ChallengeTicks Environment Failure MergedEvents
  Naming SplitType Sql StageContext StatColumn StoredState Transaction castUnsigned)

def handicapLevelIncrement : ℕ := 30

def numHandicaps : ℕ := 14

/-! ### State -/

structure WaveData where
  stage : Stage
  ticksLost : ℕ
  handicap : ℕ
  options : List ℕ

/-- In-flight Colosseum state stored between stages. -/
structure CustomData where
  waves : List WaveData := []
  /-- Leveled ID of every handicap picked in wave order. -/
  handicaps : List ℕ := []
  /-- Times each base handicap has been picked. -/
  handicapLevels : Fin numHandicaps → ℕ := fun _ => 0

structure ColosseumProcessor where
  challenge : ChallengeInfo
  data : CustomData
  /-- Leveled ID of the handicap chosen this wave. -/
  selectedHandicap : Option ℕ := none
  /-- Leveled IDs of the handicaps offered this wave. -/
  waveHandicapOptions : List ℕ := []

def ColosseumProcessor.new (challenge : ChallengeInfo) (customData : Option CustomData) :
    ColosseumProcessor :=
  { challenge, data := customData.getD {} }

/-! ### Events -/

structure Event where
  type : EventType
  /-- The party position of its player. -/
  partyIndex : Option ℕ := none
  handicap : Option ℤ := none
  handicapOptions : List ℤ := []

/-- How often a base handicap has been picked. -/
def CustomData.level (data : CustomData) (handicap : ℕ) : ℕ :=
  if h : handicap < numHandicaps then data.handicapLevels ⟨handicap, h⟩ else 0

def levelHandicap (data : CustomData) (handicap : ℕ) : Except Panic ℕ := do
  let increment ← u32 (data.level handicap * handicapLevelIncrement)
  u32 (handicap + increment)

/-- Counts a base handicap as picked once more. -/
def CustomData.incrementLevel (data : CustomData) (handicap : ℕ) : Except Panic CustomData :=
  if h : handicap < numHandicaps then do
    let level ← u32 (data.handicapLevels ⟨handicap, h⟩ + 1)
    .ok { data with handicapLevels := Function.update data.handicapLevels ⟨handicap, h⟩ level }
  else .ok data

/-- The position of the handicap one level below a leveled ID. -/
def positionBelow (selected : ℕ) : List ℕ → Except Panic (Option ℕ)
  | [] => .ok none
  | handicap :: handicaps => do
    let next ← u32 (handicap + handicapLevelIncrement)
    if next = selected then .ok (some 0)
    else do
      let index ← positionBelow selected handicaps
      .ok (index.map (· + 1))

/-- Puts a picked handicap in the place of the one it upgrades. -/
def placeHandicap (base selected : ℕ) (handicaps : List ℕ) : Except Panic (List ℕ) := do
  match ← positionBelow selected handicaps with
  | some index => .ok (handicaps.set index selected)
  | none => .ok (handicaps ++ [base])

def chooseHandicap (p : ColosseumProcessor) (base : ℕ) (options : List ℕ) :
    Except Panic ColosseumProcessor := do
  let selected ← levelHandicap p.data base
  let options ← options.mapM (levelHandicap p.data)
  let data ← p.data.incrementLevel base
  let handicaps ← placeHandicap base selected data.handicaps
  .ok { p with
    data := { data with handicaps }
    selectedHandicap := some selected
    waveHandicapOptions := options }

def processChallengeEvent (p : ColosseumProcessor) (event : Event) :
    Except Panic ColosseumProcessor :=
  if event.type = .colosseumHandicapChoice then
    chooseHandicap p (castUnsigned (event.handicap.getD 0)) (event.handicapOptions.map castUnsigned)
  else .ok p

/-- An event of a player outside the party is passed over. -/
def isSkipped (event : Event) : Bool := event.partyIndex = some (2 ^ 32 - 1)

def step (p : ColosseumProcessor) (event : Event) : Except Panic ColosseumProcessor :=
  if isSkipped event then .ok p else processChallengeEvent p event

/-- Goes through the merged events of a wave. -/
def interpret (p : ColosseumProcessor) (events : List Event) : Except Panic ColosseumProcessor :=
  events.foldlM step p

/-! ### The end of a wave -/

lemma declared_colosseumWave1 : Stage.Declared 100 := by decide

def colosseumWave1 : Stage := ⟨100, declared_colosseumWave1⟩

def waveIndex (stage : Stage) : ℤ := stage.value - colosseumWave1.value

/-- Whether each wave up to and including this one has been recorded. -/
def hasFullyRecordedUpTo (data : CustomData) (stage : Stage) : Bool :=
  decide (colosseumWave1 ≤ stage ∧ stage ≤ .colosseumWave12) &&
    (List.range (stage.value + 1)).all fun value =>
      decide (value < colosseumWave1.value) || data.waves.any fun wave => wave.stage.value = value

def repeatedHandicaps (handicaps : List ℕ) : List ℕ :=
  handicaps.flatMap fun handicap =>
    List.replicate (handicap / handicapLevelIncrement + 1) (handicap % handicapLevelIncrement)

def splitType (value : ℤ) (expected : String) : Except Panic SplitType :=
  match SplitType.tryFrom value with
  | some split => .ok split
  | none => .error (.message expected)

structure Finished where
  processor : ColosseumProcessor
  ctx : StageContext
  /-- The handicaps to store with the challenge. -/
  handicaps : List ℕ
  ticks : ChallengeTicks

/-- Records the time at which the next wave starts, if the waves up to it are. -/
def recordNextStart (p : ColosseumProcessor) (challengeTicks : ℕ) (ctx : StageContext)
    (stage : Stage) (events : MergedEvents) : Except Panic StageContext :=
  if events.status = .completed ∧ colosseumWave1 < stage ∧ stage < .colosseumWave12 ∧
      hasFullyRecordedUpTo p.data stage then do
    let split ← splitType (SplitType.colosseumWave3Start.value + waveIndex stage - 1)
      "wave start splits are consecutive"
    .ok (ctx.setChallengeSplit split challengeTicks
      (some (!p.challenge.partyChanged && events.preciseServerTickCount)))
  else .ok ctx

def onStageFinished (p : ColosseumProcessor) (storedTicks : ℕ) (ctx : StageContext) (stage : Stage)
    (events : MergedEvents) : Except Panic Finished := do
  let challengeTicks ← u32 (storedTicks + events.lastTick)
  let wave : WaveData :=
    { stage
      ticksLost := events.missingTickCount
      handicap := p.selectedHandicap.getD 0
      options := p.waveHandicapOptions }
  let p := { p with data := { p.data with waves := p.data.waves ++ [wave] } }
  let split ← splitType (SplitType.colosseumWave1.value + waveIndex stage)
    "wave splits are consecutive"
  let ctx := ctx.setStageSplit split events.lastTick 0 true
  let ctx ← recordNextStart p challengeTicks ctx stage events
  .ok
    { processor := p
      ctx
      handicaps := repeatedHandicaps p.data.handicaps
      ticks := .add events.lastTick }

/-! ### The type of challenge -/

abbrev StatsRow := List ℕ

def onCreate (p : ColosseumProcessor) (txn : Transaction CustomData) :
    Sql CustomData StatsRow ColosseumProcessor := do
  .write fun _ => .ok ((), [.processorRow (txn.challengeId, 0) (some [])])
  return p

def saveHandicaps (txn : Transaction CustomData) (handicaps : List ℕ) :
    Sql CustomData StatsRow Unit :=
  .write fun db => .ok ((), if db.processorRows.has (txn.challengeId, 0) then
    [.processorRow (txn.challengeId, 0) (some handicaps)] else [])

def finishStage (p : ColosseumProcessor) (txn : Transaction CustomData)
    (stored : StoredState CustomData) (ctx : StageContext) (stage : Stage) (events : MergedEvents) :
    Sql CustomData StatsRow (ColosseumProcessor × StageContext × ChallengeTicks) := do
  let finished ← .lift
    ((onStageFinished p stored.challengeTicks ctx stage events).mapError Failure.ofPanic)
  saveHandicaps txn finished.handicaps
  return (finished.processor, finished.ctx, finished.ticks)

/-- The statistic that the end of a challenge counts in. -/
def statusColumn : ChallengeStatus → Option StatColumn
  | .completed => some .colosseumCompletions
  | .reset => some .colosseumResets
  | .wiped => some .colosseumWipes
  | .inProgress | .abandoned => none

def onFinish (p : ColosseumProcessor) (ctx : ChallengeContext) (finalTicks : ℕ) :
    ChallengeContext :=
  let ctx := ctx.setChallengeSplit .colosseumChallenge finalTicks none
  match statusColumn p.challenge.status with
  | some column => ctx.eachPlayer (·.count column 1)
  | none => ctx

def processor : ChallengeProcessor ColosseumProcessor CustomData StatsRow where
  onCreate
  onStageFinished p txn _ stored ctx stage events := finishStage p txn stored ctx stage events
  onFinish p _ _ ctx finalTicks := pure (p, onFinish p ctx finalTicks)
  customData p := some p.data
  finalChallengeTicks _ ticks := ticks
  hasFullyRecordedUpTo p := hasFullyRecordedUpTo p.data
  onCreate_own p txn := by
    refine (Program.writes_write fun db _ cs hrun c hc => ?_).bind fun _ => trivial
    cases hrun
    obtain rfl := List.mem_singleton.mp hc
    trivial
  onStageFinished_own p txn prices stored ctx stage events := by
    refine (Program.writes_lift _).bind fun finished =>
      (Program.writes_write fun db _ cs hrun c hc => ?_).bind fun _ => trivial
    cases hrun
    split_ifs at hc
    · obtain rfl := List.mem_singleton.mp hc
      trivial
    · cases hc
  onFinish_own _ _ _ _ _ := Program.writes_pure _

def environment (naming : Naming) : Environment ColosseumProcessor CustomData StatsRow where
  processor
  processorFor info customData := .ok (some (.new info customData))
  naming

end Blert.Colosseum

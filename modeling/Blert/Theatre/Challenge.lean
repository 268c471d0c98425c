import Blert.Processing.Pipeline
import Blert.Theatre.Finish

/-!
The Theatre of Blood as a type of challenge.

The rows of the Theatre are the statistics of its rooms, one row for each challenge.
-/

namespace Blert.Theatre

open Lifecycle Checked ReadCommitted
open Processing (ChallengeProcessor ChallengeContext ChallengeTicks Database Environment Failure
  MergedEvents Naming Sql StageContext StatColumn StoredState Transaction castUnsigned)

abbrev StatsRow := Stage → Option RoomStats

def onCreate (p : TheatreProcessor) (txn : Transaction CustomData) :
    Sql CustomData StatsRow TheatreProcessor := do
  .write fun _ => .ok ((), [.processorRow (txn.challengeId, 0) (some fun _ => none)])
  return p

/-- Stores the statistics of a room with those of the challenge. -/
def saveRoomStats (txn : Transaction CustomData) (stage : Stage) (stats : RoomStats) :
    Sql CustomData StatsRow Unit :=
  .write fun db => .ok ((), match db.processorRows.get (txn.challengeId, 0) with
    | some row =>
      [.processorRow (txn.challengeId, 0) (some (Function.update row stage (some stats)))]
    | none => [])

def finishStage (handsWanted : Database CustomData StatsRow → Bool) (p : TheatreProcessor)
    (txn : Transaction CustomData) (prices : ℕ → Option ℕ) (stored : StoredState CustomData)
    (ctx : StageContext) (stage : Stage) (events : MergedEvents) :
    Sql CustomData StatsRow (TheatreProcessor × StageContext × ChallengeTicks) := do
  let handsWanted ← .read fun db => .ok (handsWanted db)
  let finished ← .lift ((onStageFinished
    { prices := fun item => prices (castUnsigned item), challengeTicks := stored.challengeTicks
      stage, events, handsWanted } p ctx).mapError Failure.ofPanic)
  saveRoomStats txn stage finished.stats
  return (finished.processor, finished.ctx, finished.ticks)

/-- The statistic that the end of a challenge counts in. -/
def statusColumn : ChallengeStatus → Option StatColumn
  | .completed => some .tobCompletions
  | .reset => some .tobResets
  | .wiped => some .tobWipes
  | .inProgress | .abandoned => none

def onFinish (p : TheatreProcessor) (ctx : ChallengeContext) (finalTicks : ℕ) : ChallengeContext :=
  let ctx := ctx.setChallengeSplit .tobEntryChallenge finalTicks none
  let ctx := match p.challenge.reportedTimes.bind ReportedTimes.overall with
    | some overall => ctx.setChallengeSplit .tobEntryOverall overall none
    | none => ctx
  match statusColumn p.challenge.status with
  | some column => ctx.eachPlayer (·.count column 1)
  | none => ctx

/-- The processing of the Theatre. Whether more hands may be stored today is read from the
database. -/
def processor (handsWanted : Database CustomData StatsRow → Bool) :
    ChallengeProcessor TheatreProcessor CustomData StatsRow where
  onCreate
  onStageFinished := finishStage handsWanted
  onFinish p _ _ ctx finalTicks := pure (p, onFinish p ctx finalTicks)
  customData p := some p.data
  finalChallengeTicks _ ticks := ticks
  hasFullyRecordedUpTo p := hasFullyRecordedUpTo p.data
  onCreate_own p txn := by
    refine (Program.writes_write fun db _ cs hrun c hc => ?_).bind fun _ => trivial
    cases hrun
    obtain rfl := List.mem_singleton.mp hc
    trivial
  onStageFinished_own p txn prices stored ctx stage events := by
    refine (Program.writes_read _).bind fun wanted => (Program.writes_lift _).bind fun finished =>
      (Program.writes_write fun db _ cs hrun c hc => ?_).bind fun _ => trivial
    cases hrun
    split at hc
    · obtain rfl := List.mem_singleton.mp hc
      trivial
    · cases hc
  onFinish_own _ _ _ _ _ := Program.writes_pure _

def environment (handsWanted : Database CustomData StatsRow → Bool) (naming : Naming) :
    Environment TheatreProcessor CustomData StatsRow where
  processor := processor handsWanted
  processorFor info customData := .ok (some (.new info customData))
  naming

end Blert.Theatre

import Blert.Checked
import Blert.Lifecycle.State
import Blert.Merging.Merger
import Blert.Processing.Database

/-!
Type-specific challenge processing.

What a processing run collects, and the interface through which each challenge type takes part
in it. A type's own writes stay within its own tables, except that at the end of a challenge it
may also touch the challenge's recorded splits.
-/

namespace Blert.Processing

open Lifecycle ReadCommitted

def Failure.ofPanic : Checked.Panic → Failure
  | .overflow => .panicked "arithmetic overflow"
  | .indexOutOfBounds => .panicked "index out of bounds"
  | .message text => .panicked text

/-! ### What a run collects -/

/-- Data accumulated about a single party member during a processing run. -/
structure PlayerData where
  gear : Option PrimaryMeleeGear
  stats : PlayerStats

instance : Inhabited PlayerData := ⟨⟨none, 0⟩⟩

def PlayerData.count (p : PlayerData) (column : StatColumn) (n : ℤ) : PlayerData :=
  { p with stats := Function.update p.stats column (p.stats column + n) }

/-- Challenge-scoped state accumulated by a processing run. -/
structure ChallengeContext where
  party : List String
  /-- By party position. -/
  players : List PlayerData
  challengeSplits : OrdMap SplitType ChallengeSplit

namespace ChallengeContext

def new (party : List String) : ChallengeContext :=
  ⟨party, List.replicate party.length default, ∅⟩

def eachPlayer (ctx : ChallengeContext) (f : PlayerData → PlayerData) : ChallengeContext :=
  { ctx with players := ctx.players.map f }

/-- Records a split whose timer spans the entire challenge. -/
def setChallengeSplit (ctx : ChallengeContext) (split : SplitType) (ticks : ℕ)
    (accurate : Option Bool) : ChallengeContext :=
  if 0 < ticks then
    { ctx with challengeSplits := ctx.challengeSplits.insert split ⟨ticks, accurate⟩ }
  else ctx

/-- Resolves the recorded challenge splits to their final accuracy. -/
def splits (ctx : ChallengeContext) (defaultAccuracy : Bool) : List SavedSplit :=
  ctx.challengeSplits.entries.map fun e =>
    { split := e.1, ticks := e.2.ticks, accurate := e.2.accurate.getD defaultAccuracy }

end ChallengeContext

/-- Stage-scoped state accumulated by the event loop. -/
structure StageContext where
  stage : Stage
  challenge : ChallengeContext
  /-- Party indices of players who died this stage, in death order. -/
  deaths : List ℕ
  stageSplits : OrdMap SplitType StageSplit

namespace StageContext

def new (stage : Stage) (party : List String) : StageContext :=
  ⟨stage, .new party, [], ∅⟩

def players (ctx : StageContext) : List PlayerData := ctx.challenge.players

def eachPlayer (ctx : StageContext) (f : PlayerData → PlayerData) : StageContext :=
  { ctx with challenge := ctx.challenge.eachPlayer f }

/-- Records the death of the player at a party position. Deaths of players outside the party are
ignored. -/
def recordDeath (ctx : StageContext) (partyIndex : ℕ) : StageContext :=
  if partyIndex < ctx.players.length then { ctx with deaths := ctx.deaths ++ [partyIndex] }
  else ctx

def partyIndex (ctx : StageContext) (username : String) : Option ℕ :=
  ctx.challenge.party.findIdx? (· = username)

def stageSplit (ctx : StageContext) (split : SplitType) : Option StageSplit :=
  ctx.stageSplits.get split

def setChallengeSplit (ctx : StageContext) (split : SplitType) (ticks : ℕ)
    (accurate : Option Bool) : StageContext :=
  { ctx with challenge := ctx.challenge.setChallengeSplit split ticks accurate }

/-- Records a split whose timer is local to the current stage. -/
def setStageSplit (ctx : StageContext) (split : SplitType) (tick start : ℕ)
    (requiresCompletion : Bool) : StageContext :=
  if start < tick then
    { ctx with stageSplits := ctx.stageSplits.insert split ⟨tick, start, requiresCompletion⟩ }
  else ctx

lemma stageSplit_setStageSplit (ctx : StageContext) (split split' : SplitType)
    (tick start : ℕ) (completion : Bool) :
    (ctx.setStageSplit split tick start completion).stageSplit split' =
      if split' = split ∧ start < tick then some ⟨tick, start, completion⟩
      else ctx.stageSplit split' := by
  unfold setStageSplit stageSplit
  split_ifs with h1 h2 h2
  · rw [OrdMap.get_insert, if_pos h2.1]
  · rw [OrdMap.get_insert, if_neg (fun h => h2 ⟨h, h1⟩)]
  · exact absurd h2.2 h1
  · rfl

/-- Resolves every split recorded during the stage to its final accuracy. Stage splits are
accurate within the timeline's accurate prefix, challenge splits only if they say so. -/
def splits (ctx : StageContext) (accurateUntil : ℕ) (completed : Bool) : List SavedSplit :=
  (ctx.stageSplits.entries.map fun e =>
    { split := e.1, ticks := e.2.tick - e.2.start
      accurate := e.2.tick < accurateUntil && (!e.2.requiresCompletion || completed) }) ++
    ctx.challenge.splits false

end StageContext

inductive ChallengeTicks
  /-- Adds the stage's ticks to the total. -/
  | add (ticks : ℕ)
  /-- Replaces the stored total. -/
  | set (ticks : ℕ)

structure StoredPlayerInfo where
  id : ℕ
  gear : PrimaryMeleeGear

/-- Challenge state a processing run retrieves from the database. -/
structure StoredState (Custom : Type) where
  /-- Party members in order. -/
  players : List StoredPlayerInfo
  challengeTicks : ℕ
  customData : Option Custom

/-- What merging a stage's streams says of its timeline. -/
structure MergedEvents extends Merging.MergedEventsMetadata where
  status : StageStatus
  lastTick_lt : lastTick < 2 ^ 32

/-- The interpreted result of a stage's events. -/
structure InterpretOutput where
  events : MergedEvents
  ctx : StageContext
  /-- The kept events within the queryable prefix, as rows. -/
  queryable : List StoredPlayerInfo → List QueryableEvent

/-! ### Transactions -/

structure Transaction (Custom : Type) where
  trigger : Trigger
  /-- Database id of the challenge row. -/
  challengeId : ℕ
  sessionId : Option ℕ
  /-- The processor continuation state stored by the last committed run. -/
  customData : Option Custom
  /-- Whether the challenge's rows were removed within the transaction. -/
  deleted : Bool

/-- A write to the tables of a challenge type. -/
def Change.IsOwn {Custom Own : Type} : Change Custom Own → Prop
  | .processorRow _ _ => True
  | _ => False

/-- A write to the tables of a challenge type, or to recorded splits. -/
def Change.IsFinishing {Custom Own : Type} : Change Custom Own → Prop
  | .processorRow _ _ | .challengeSplit _ (some _) | .personalBest _ (some _) => True
  | _ => False

structure ChallengeProcessor (σ Custom Own : Type) where
  onCreate : σ → Transaction Custom → Sql Custom Own σ
  onStageFinished : σ → Transaction Custom → (prices : ℕ → Option ℕ) → StoredState Custom →
    StageContext → Stage → MergedEvents → Sql Custom Own (σ × StageContext × ChallengeTicks)
  onFinish : σ → Transaction Custom → StoredState Custom → ChallengeContext →
    (finalTicks : ℕ) → Sql Custom Own (σ × ChallengeContext)
  /-- Custom state to persist across the challenge processing runs. -/
  customData : σ → Option Custom
  /-- The official final tick count given the total across all stages. -/
  finalChallengeTicks : σ → ℕ → ℕ
  /-- Whether every stage up to and including this one has recorded data. -/
  hasFullyRecordedUpTo : σ → Stage → Bool
  onCreate_own : ∀ p txn, (onCreate p txn).Writes Change.IsOwn
  onStageFinished_own : ∀ p txn prices stored ctx stage events,
    (onStageFinished p txn prices stored ctx stage events).Writes Change.IsOwn
  onFinish_own : ∀ p txn stored ctx ticks,
    (onFinish p txn stored ctx ticks).Writes Change.IsFinishing

end Blert.Processing

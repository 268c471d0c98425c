import Mathlib.Data.Prod.Lex
import Mathlib.Order.Basic
import Mathlib.Tactic

/-!
The value types of the challenge lifecycle.

Identifiers, counters and clocks are numbers. Where the source saturates at the width of a
machine word the bound is written out; a counter the source merely increments is unbounded
here.
-/

namespace Blert.Lifecycle

/-- The largest 64-bit value, at which clock arithmetic saturates. -/
def u64Max : ℕ := 2 ^ 64 - 1

/-- Milliseconds since a challenge-specific epoch. -/
abbrev Timestamp := ℕ

abbrev Duration := ℕ

def saturatingAdd (a b : ℕ) : ℕ := min (a + b) u64Max

def Timestamp.add (t : Timestamp) (d : Duration) : Timestamp := saturatingAdd t d

/-- Fencing epoch of one challenge actor incarnation. -/
abbrev Epoch := ℕ

/-- The epoch assigned when a challenge is created. -/
def Epoch.initial : Epoch := 1

/-- Position of a message in an inbox: a millisecond timestamp, then a sequence number. -/
abbrev MsgId := ℕ ×ₗ ℕ

def MsgId.unixMillis (id : MsgId) : ℕ := (ofLex id).1

def MsgId.zero : MsgId := toLex (0, 0)

/-- Position of an entry in a challenge journal. -/
abbrev JournalSeq := ℕ

abbrev ClientId := ℤ
abbrev UserId := ℤ
abbrev SessionToken := String
abbrev Uuid := BitVec 128

inductive ChallengeStatus
  | inProgress | completed | reset | wiped | abandoned
  deriving DecidableEq

inductive RecordingType
  | spectator | participant
  deriving DecidableEq

inductive ChallengeType
  | unknownChallenge | tob | cox | toa | colosseum | inferno | mokhaiotl
  deriving DecidableEq

inductive ChallengeMode
  | noMode | tobEntry | tobRegular | tobHard | coxRegular | coxChallenge
  | toaEntry | toaNormal | toaExpert
  deriving DecidableEq

inductive StageStatus
  | entered | started | completed | wiped
  deriving DecidableEq

/-- Whether the status indicates the stage is over. -/
def StageStatus.isFinished (s : StageStatus) : Bool :=
  s == .completed || s == .wiped

/-! ### Stages -/

def Stage.Declared (n : ℕ) : Prop :=
  n = 0 ∨ (10 ≤ n ∧ n ≤ 15) ∨ (20 ≤ n ∧ n ≤ 32) ∨ (40 ≤ n ∧ n ≤ 48) ∨ (50 ≤ n ∧ n ≤ 58) ∨
    (100 ≤ n ∧ n ≤ 111) ∨ (200 ≤ n ∧ n ≤ 268)

instance : DecidablePred Stage.Declared := fun _ => by
  unfold Stage.Declared; infer_instance

/-- A stage of some challenge, identified by its wire value. -/
structure Stage where
  value : ℕ
  declared : Stage.Declared value

namespace Stage

lemma value_injective : Function.Injective Stage.value := by
  rintro ⟨a, _⟩ ⟨b, _⟩ h
  cases h; rfl

instance : DecidableEq Stage := fun s t =>
  decidable_of_iff (s.value = t.value) value_injective.eq_iff

/-- Stages are ordered by wire value, which within a challenge is the order of play. -/
instance : LinearOrder Stage := LinearOrder.lift' Stage.value value_injective

def unknownStage : Stage := ⟨0, by decide⟩
def tobMaiden : Stage := ⟨10, by decide⟩
def tobBloat : Stage := ⟨11, by decide⟩
def tobNylocas : Stage := ⟨12, by decide⟩
def tobSotetseg : Stage := ⟨13, by decide⟩
def tobXarpus : Stage := ⟨14, by decide⟩
def tobVerzik : Stage := ⟨15, by decide⟩
def coxOlm : Stage := ⟨32, by decide⟩
def toaWardens : Stage := ⟨48, by decide⟩
def mokhaiotlDelve8 : Stage := ⟨57, by decide⟩
def mokhaiotlDelve8plus : Stage := ⟨58, by decide⟩
def colosseumWave12 : Stage := ⟨111, by decide⟩
def infernoWave69 : Stage := ⟨268, by decide⟩

/-- The stage with a wire value, if there is one. -/
def tryFrom (n : ℕ) : Option Stage :=
  if h : Declared n then some ⟨n, h⟩ else none

def challengeType (s : Stage) : Option ChallengeType :=
  if 10 ≤ s.value ∧ s.value ≤ 15 then some .tob
  else if 20 ≤ s.value ∧ s.value ≤ 32 then some .cox
  else if 40 ≤ s.value ∧ s.value ≤ 48 then some .toa
  else if 50 ≤ s.value ∧ s.value ≤ 58 then some .mokhaiotl
  else if 100 ≤ s.value ∧ s.value ≤ 111 then some .colosseum
  else if 200 ≤ s.value ∧ s.value ≤ 268 then some .inferno
  else none

/-- Whether a stage can be re-attempted by starting it again. -/
def isRetriable (s : Stage) : Bool := s == mokhaiotlDelve8plus

/-- The attempt a freshly started stage is on. -/
def firstAttempt (s : Stage) : Option ℕ := if s.isRetriable then some 1 else none

/-- The stages of challenge type `ty` with consecutive wire values from `n` on. -/
def stagesFrom (ty : ChallengeType) : ℕ → ℕ → List Stage
  | 0, _ => []
  | fuel + 1, n =>
    match (tryFrom n).filter (fun s => s.challengeType = some ty) with
    | some s => s :: stagesFrom ty fuel (n + 1)
    | none => []

/-- The stages that are later than this one in its challenge. No wire value exceeds 268, so
the search is over before its fuel is. -/
def laterStages (s : Stage) : List Stage :=
  match s.challengeType with
  | none => []
  | some .toa => []
  | some ty => stagesFrom ty 269 (s.value + 1)

end Stage

example : Stage.mokhaiotlDelve8.laterStages = [Stage.mokhaiotlDelve8plus] := by decide

/-- The stage whose completion results in an overall completion. -/
def ChallengeType.lastStage : ChallengeType → Option Stage
  | .tob => some Stage.tobVerzik
  | .cox => some Stage.coxOlm
  | .toa => some Stage.toaWardens
  | .mokhaiotl => some Stage.mokhaiotlDelve8
  | .colosseum => some Stage.colosseumWave12
  | .inferno => some Stage.infernoWave69
  | .unknownChallenge => none

/-- Client-reported completion times, in ticks. -/
structure ReportedTimes where
  challenge : ℕ
  overall : Option ℕ
  deriving DecidableEq

/-- Challenge state snapshot at the time of a processing run. -/
structure ChallengeInfo where
  uuid : Uuid
  sessionUuid : Uuid
  challengeType : ChallengeType
  mode : ChallengeMode
  party : List String
  partyChanged : Bool
  stage : Stage
  stageAttempt : Option ℕ
  status : ChallengeStatus
  createdUnixMs : ℕ
  finishedUnixMs : Option ℕ
  reportedTimes : Option ReportedTimes

/-- Result that a completed processing run feeds back into the challenge. -/
inductive ProcessingPayload
  | stage (status : StageStatus) (ticks : ℕ)
  | none
  deriving DecidableEq

structure ProcessingError where
  message : String
  retriable : Bool
  deriving DecidableEq

/-! ### Deadlines -/

inductive DeadlineKind
  | stageEnd | challengeEnd | cleanupDisconnect | cleanupAllIdle
  | processingDue | processingTimeout
  deriving DecidableEq

structure Deadline where
  kind : DeadlineKind
  time : Timestamp
  deriving DecidableEq

end Blert.Lifecycle

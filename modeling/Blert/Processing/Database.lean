import Blert.InsertionMap
import Blert.ReadCommitted
import Blert.Processing.Split

/-!
The challenge database.

Tables are maps from a unique key of theirs to rows. A column that holds the code of an
enumeration holds the enumeration here, times are milliseconds, and a table of a challenge
type's own numbers its rows within each challenge. Rows that reference a challenge go when the
challenge is deleted.
-/

namespace Blert.Processing

open Lifecycle ReadCommitted

/-! ### Machine integers -/

def castSigned (n : ℕ) : ℤ := if n < 2 ^ 31 then n else n - 2 ^ 32

def castUnsigned (n : ℤ) : ℕ := (n % 2 ^ 32).toNat

def wrappingAdd (a b : ℕ) : ℕ := (a + b) % 2 ^ 32

def wrappingSub (a b : ℕ) : ℕ := (a + 2 ^ 32 - b % 2 ^ 32) % 2 ^ 32

/-! ### Errors -/

inductive Error
  | database (message : String)
  | invalidData (message : String)

def Error.toProcessingError : Error → ProcessingError
  | .database message => ⟨"database: " ++ message, true⟩
  | .invalidData message => ⟨"invalid data: " ++ message, false⟩

/-- How a processing run ends without a result. -/
inductive Failure
  | error (e : ProcessingError)
  | panicked (message : String)

def Failure.database (message : String) : Failure :=
  .error (Error.database message).toProcessingError

def Failure.invalidData (message : String) : Failure :=
  .error (Error.invalidData message).toProcessingError

def uniqueViolation (constraint : String) : Failure :=
  .database ("db error: ERROR: duplicate key value violates unique constraint " ++ constraint)

def foreignKeyViolation (table : String) : Failure :=
  .database ("db error: ERROR: insert or update violates foreign key constraint on " ++ table)

/-- A value of an integer column, which must be in its range. -/
def int4 (n : ℤ) : Except Failure ℤ :=
  if -2 ^ 31 ≤ n ∧ n < 2 ^ 31 then .ok n
  else .error (.database "db error: ERROR: integer out of range")

/-! ### Rows -/

inductive PrimaryMeleeGear
  | unknown | eliteVoid | bandos | torva | blorva | oathplate | radiantOathplate
  deriving DecidableEq

inductive SessionStatus
  | active | completed | hidden
  deriving DecidableEq

inductive StatColumn
  | colosseumCompletions | colosseumWipes | colosseumResets
  | infernoCompletions | infernoWipes | infernoResets
  | mokhaiotlCompletions | mokhaiotlWipes | mokhaiotlResets
  | mokhaiotlTotalDelves | mokhaiotlDelvesCompleted | mokhaiotlDeepDelvesCompleted
  | tobCompletions | tobWipes | tobResets
  | deathsTotal | deathsMaiden | deathsBloat | deathsNylocas | deathsSotetseg | deathsXarpus
  | deathsVerzik
  | hammerBops | bgsSmacks | challyPokes | unchargedScytheSwings | ralosAutos | elderMaulSmacks
  | tobBarragesWithoutProperWeapon | tobVerzikP1TrollSpecs | tobVerzikP3Melees
  | chinsThrownTotal | chinsThrownBlack | chinsThrownRed | chinsThrownGrey | chinsThrownMaiden
  | chinsThrownNylocas | chinsThrownValue | chinsThrownIncorrectlyMaiden
  deriving DecidableEq

abbrev PlayerStats := StatColumn → ℤ

structure Challenge where
  id : ℕ
  id_pos : 0 < id
  sessionId : Option ℕ
  challengeType : ChallengeType
  mode : ChallengeMode
  scale : ℕ
  stage : Stage
  status : ChallengeStatus
  startTime : ℕ
  finishTime : Option ℕ
  challengeTicks : ℤ
  overallTicks : Option ℤ
  totalDeaths : ℕ
  fullRecording : Bool

/-- How far a challenge has been processed, and with which outcome. -/
structure ProcessingCursor (Custom : Type) where
  processedSeq : JournalSeq
  outcomeStatus : Option StageStatus
  outcomeTicks : Option ℤ
  customData : Option Custom
  finalizedSeq : Option JournalSeq

structure ChallengePlayer where
  playerId : ℕ
  username : String
  primaryGear : PrimaryMeleeGear
  stageDeaths : List Stage
  deriving DecidableEq

structure SplitRow where
  id : ℕ
  scale : ℕ
  ticks : ℤ
  accurate : Bool

structure PersonalBest where
  playerId : ℕ
  challengeSplitId : ℕ
  createdAt : ℕ

structure QueryableEvent where
  eventType : ℤ
  tick : ℤ
  xCoord : ℤ
  yCoord : ℤ
  subtype : Option ℤ
  playerId : Option ℕ
  npcId : Option ℤ
  customInt1 : Option ℤ
  customInt2 : Option ℤ
  customShort1 : Option ℤ
  customShort2 : Option ℤ

structure QueryableEventRow where
  challengeId : ℕ
  stage : Stage
  mode : ChallengeMode
  event : QueryableEvent

structure Session where
  uuid : Uuid
  challengeType : ChallengeType
  challengeMode : ChallengeMode
  scale : ℕ
  partyHash : String
  startTime : ℕ
  endTime : Option ℕ
  status : SessionStatus
  deriving DecidableEq

structure Player where
  username : String
  normalizedUsername : String
  totalRecordings : ℤ

/-- A name that has been given up, which is no longer unique. -/
def isZombie (normalizedUsername : String) : Bool := normalizedUsername.startsWith "*"

/-! ### Tables -/

structure Database (Custom Own : Type) where
  challenges : InsertionMap Uuid Challenge
  /-- By challenge id. -/
  processingState : InsertionMap ℕ (ProcessingCursor Custom)
  /-- By challenge id and orb. -/
  challengePlayers : InsertionMap (ℕ × ℕ) ChallengePlayer
  recordedChallenges : InsertionMap (ℕ × UserId) RecordingType
  challengeSplits : InsertionMap (ℕ × SplitType) SplitRow
  personalBestHistory : InsertionMap ℕ PersonalBest
  queryableEvents : InsertionMap ℕ QueryableEventRow
  sessions : InsertionMap ℕ Session
  players : InsertionMap ℕ Player
  /-- By player and day. -/
  playerStats : InsertionMap (ℕ × ℕ) PlayerStats
  processorRows : InsertionMap (ℕ × ℕ) Own

inductive Change (Custom Own : Type)
  | challenge (uuid : Uuid) (row : Option Challenge)
  | processingState (challengeId : ℕ) (row : Option (ProcessingCursor Custom))
  | challengePlayer (key : ℕ × ℕ) (row : Option ChallengePlayer)
  | recordedChallenge (key : ℕ × UserId) (row : Option RecordingType)
  | challengeSplit (key : ℕ × SplitType) (row : Option SplitRow)
  | personalBest (id : ℕ) (row : Option PersonalBest)
  | queryableEvent (id : ℕ) (row : Option QueryableEventRow)
  | session (id : ℕ) (row : Option Session)
  | player (id : ℕ) (row : Option Player)
  | playerStats (key : ℕ × ℕ) (row : Option PlayerStats)
  | processorRow (key : ℕ × ℕ) (row : Option Own)

inductive Table
  | challenges | processingState | challengePlayers | recordedChallenges | challengeSplits
  | personalBestHistory | queryableEvents | sessions | players | playerStats | processorRows
  deriving DecidableEq

def Change.table {Custom Own : Type} : Change Custom Own → Table
  | .challenge _ _ => .challenges
  | .processingState _ _ => .processingState
  | .challengePlayer _ _ => .challengePlayers
  | .recordedChallenge _ _ => .recordedChallenges
  | .challengeSplit _ _ => .challengeSplits
  | .personalBest _ _ => .personalBestHistory
  | .queryableEvent _ _ => .queryableEvents
  | .session _ _ => .sessions
  | .player _ _ => .players
  | .playerStats _ _ => .playerStats
  | .processorRow _ _ => .processorRows

/-- A row, or the value of a unique index, that a transaction holds until it ends. -/
inductive Lock
  | challenge (uuid : Uuid)
  | processingState (challengeId : ℕ)
  | challengePlayer (key : ℕ × ℕ)
  | recordedChallenge (key : ℕ × UserId)
  | challengeSplit (key : ℕ × SplitType)
  | personalBest (id : ℕ)
  | queryableEvent (id : ℕ)
  | session (id : ℕ)
  | sessionUuid (uuid : Uuid)
  | activeSession (challengeType : ChallengeType) (mode : ChallengeMode) (partyHash : String)
  | player (id : ℕ)
  | playerName (normalizedUsername : String)
  | playerStats (key : ℕ × ℕ)
  | processorRow (key : ℕ × ℕ)

def Session.indexLocks (s : Session) : List Lock :=
  .sessionUuid s.uuid ::
    if s.endTime = none then [.activeSession s.challengeType s.challengeMode s.partyHash] else []

def Player.indexLocks (p : Player) : List Lock :=
  if isZombie p.normalizedUsername then [] else [.playerName p.normalizedUsername]

section

variable {Custom Own : Type}

namespace Change

def apply : Change Custom Own → Database Custom Own → Database Custom Own
  | .challenge k r, db => { db with challenges := db.challenges.assign k r }
  | .processingState k r, db => { db with processingState := db.processingState.assign k r }
  | .challengePlayer k r, db => { db with challengePlayers := db.challengePlayers.assign k r }
  | .recordedChallenge k r, db =>
    { db with recordedChallenges := db.recordedChallenges.assign k r }
  | .challengeSplit k r, db => { db with challengeSplits := db.challengeSplits.assign k r }
  | .personalBest k r, db => { db with personalBestHistory := db.personalBestHistory.assign k r }
  | .queryableEvent k r, db => { db with queryableEvents := db.queryableEvents.assign k r }
  | .session k r, db => { db with sessions := db.sessions.assign k r }
  | .player k r, db => { db with players := db.players.assign k r }
  | .playerStats k r, db => { db with playerStats := db.playerStats.assign k r }
  | .processorRow k r, db => { db with processorRows := db.processorRows.assign k r }

def locks : Change Custom Own → List Lock
  | .challenge k _ => [.challenge k]
  | .processingState k _ => [.processingState k]
  | .challengePlayer k _ => [.challengePlayer k]
  | .recordedChallenge k _ => [.recordedChallenge k]
  | .challengeSplit k _ => [.challengeSplit k]
  | .personalBest k _ => [.personalBest k]
  | .queryableEvent k _ => [.queryableEvent k]
  | .session k r => .session k :: (r.map Session.indexLocks).getD []
  | .player k r => .player k :: (r.map Player.indexLocks).getD []
  | .playerStats k _ => [.playerStats k]
  | .processorRow k _ => [.processorRow k]

end Change

instance : Storage (Database Custom Own) (Change Custom Own) Lock := ⟨Change.apply, Change.locks⟩

abbrev Sql (Custom Own α : Type) := Program (Database Custom Own) (Change Custom Own) Failure α

namespace Database

variable (db : Database Custom Own)

def challengesById (id : ℕ) : List (Uuid × Challenge) :=
  db.challenges.entries.filter (·.2.id = id)

/-- A reference to a challenge must find it. -/
def requireChallenge (id : ℕ) (table : String) : Except Failure Unit :=
  if (db.challengesById id).isEmpty then .error (foreignKeyViolation table) else .ok ()

def updateChallenge (id : ℕ) (f : Challenge → Except Failure Challenge) :
    Except Failure (Unit × List (Change Custom Own)) := do
  let changes ← (db.challengesById id).mapM fun e => do
    let row ← f e.2
    .ok (.challenge e.1 (some row))
  .ok ((), changes)

/-- The rows that go when a challenge is deleted. -/
def dependents (id : ℕ) : List (Change Custom Own) :=
  let splits := db.challengeSplits.entries.filter (·.1.1 = id)
  (db.processingState.entries.filter (·.1 = id)).map (.processingState ·.1 none) ++
    (db.challengePlayers.entries.filter (·.1.1 = id)).map (.challengePlayer ·.1 none) ++
    (db.recordedChallenges.entries.filter (·.1.1 = id)).map (.recordedChallenge ·.1 none) ++
    splits.map (.challengeSplit ·.1 none) ++
    (db.personalBestHistory.entries.filter fun e =>
      splits.any (·.2.id = e.2.challengeSplitId)).map (.personalBest ·.1 none) ++
    (db.queryableEvents.entries.filter (·.2.challengeId = id)).map (.queryableEvent ·.1 none) ++
    (db.processorRows.entries.filter (·.1.1 = id)).map (.processorRow ·.1 none)

def deleteChallenge (id : ℕ) : List (Change Custom Own) :=
  (db.challengesById id).map (.challenge ·.1 none) ++ db.dependents id

def updateSession (id : ℕ) (f : Session → Session) : List (Change Custom Own) :=
  match db.sessions.get id with
  | some s => [.session id (some (f s))]
  | none => []

end Database

end

end Blert.Processing

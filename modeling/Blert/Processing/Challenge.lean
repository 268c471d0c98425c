import Blert.Processing.Session

/-!
Challenge data processing.

The runs that create a challenge, note its recorders, stage and mode, and finish it.
-/

namespace Blert.Processing

open Lifecycle ReadCommitted

variable {σ Custom Own : Type}

/-- What does not change between runs: the processors of challenge types, which some types
lack, and how names are formed. -/
structure Environment (σ Custom Own : Type) where
  processor : ChallengeProcessor σ Custom Own
  processorFor : ChallengeInfo → Option Custom → Except ProcessingError (Option σ)
  naming : Naming

section Create

variable (env : Environment σ Custom Own) (inputs : Inputs σ)

/-- Records that a player has started a challenge, creating their row if it does not exist. -/
def startPlayerChallenge (orb : ℕ) (username : String) : Sql Custom Own ℕ :=
  .write fun db =>
    let name := env.naming.normalizeRsn username
    let existing := if isZombie name then none
      else db.players.entries.find? (·.2.normalizedUsername = name)
    match existing with
    | some (id, row) =>
      .ok (id, [.player id (some { row with totalRecordings := row.totalRecordings + 1 })])
    | none =>
      let id := inputs.ids.player orb
      if db.players.has id then .error (uniqueViolation "players_pkey")
      else .ok (id, [.player id (some ⟨username, name, 1⟩)])

def insertChallengePlayer (challengeId orb : ℕ) (username : String) : Sql Custom Own Unit := do
  let playerId ← startPlayerChallenge env inputs orb username
  .write fun db => do
    db.requireChallenge challengeId "challenge_players"
    .ok ((), [.challengePlayer (challengeId, orb)
      (some ⟨playerId, username, .unknown, []⟩)])

def insertChallengeRow (sessionId : ℕ) : Sql Custom Own Unit :=
  let info := inputs.info
  .write fun db =>
    if db.challenges.has info.uuid then .error (uniqueViolation "uix_challenges_uuid")
    else if ¬ (db.challengesById inputs.ids.challenge).isEmpty then
      .error (uniqueViolation "challenges_pkey")
    else
      .ok ((), [.challenge info.uuid (some
        { id := inputs.ids.challenge
          id_pos := inputs.ids.challenge_pos
          sessionId := some sessionId
          challengeType := info.challengeType
          mode := info.mode
          scale := info.party.length
          stage := info.stage
          status := .inProgress
          startTime := info.createdUnixMs
          finishTime := none
          challengeTicks := 0
          overallTicks := none
          totalDeaths := 0
          fullRecording := false })])

def insertChallenge (txn : Transaction Custom) : Sql Custom Own (Transaction Custom) := do
  let sessionId ← resolveSession env.naming inputs.ids inputs.info inputs.info.createdUnixMs
  insertChallengeRow inputs sessionId
  let txn := { txn with challengeId := inputs.ids.challenge }
  .forEach (fun (username, orb) => insertChallengePlayer env inputs txn.challengeId orb username)
    inputs.info.party.zipIdx
  return txn

/-- Initializes a new challenge, returning custom processor state to persist. -/
def create (txn : Transaction Custom) : Sql Custom Own (Transaction Custom × Option Custom) := do
  let txn ← insertChallenge env inputs txn
  match ← answer (env.processorFor inputs.info none) with
  | none => return (txn, none)
  | some p =>
    let p ← env.processor.onCreate p txn
    answer inputs.saveChallenge
    return (txn, env.processor.customData p)

end Create

/-- The order in which kinds of recording prevail. -/
def RecordingType.greatest : RecordingType → RecordingType → RecordingType
  | .spectator, t => t
  | .participant, _ => .participant

def addRecorder (txn : Transaction Custom) (userId : UserId) (recordingType : RecordingType) :
    Sql Custom Own Unit :=
  .write fun db => do
    db.requireChallenge txn.challengeId "recorded_challenges"
    let recorded := match db.recordedChallenges.get (txn.challengeId, userId) with
      | some t => RecordingType.greatest t recordingType
      | none => recordingType
    .ok ((), [.recordedChallenge (txn.challengeId, userId) (some recorded)])

/-- Records the challenge starting a new stage. -/
def updateStage (txn : Transaction Custom) (stage : Stage) : Sql Custom Own Unit :=
  .write fun db => db.updateChallenge txn.challengeId fun row => .ok { row with stage }

/-- Records a change to the challenge's mode. -/
def updateMode (txn : Transaction Custom) (mode : ChallengeMode) : Sql Custom Own Unit := do
  .write fun db => db.updateChallenge txn.challengeId fun row => .ok { row with mode }
  updateSessionMode txn mode

def playerRows (db : Database Custom Own) (challengeId : ℕ) : List ChallengePlayer :=
  ((db.challengePlayers.entries.filter (·.1.1 = challengeId)).insertionSort
    (·.1.2 ≤ ·.1.2)).map Prod.snd

def loadDatabaseState (txn : Transaction Custom) (info : ChallengeInfo) :
    Sql Custom Own (StoredState Custom) := do
  let players ← .read fun db =>
    let rows := playerRows db txn.challengeId
    if rows.length ≠ info.party.length then
      .error (.invalidData (s!"challenge has {rows.length} players, " ++
        s!"expected {info.party.length}"))
    else .ok (rows.map fun row => (⟨row.playerId, row.primaryGear⟩ : StoredPlayerInfo))
  let challengeTicks ← .read fun db =>
    match db.challengesById txn.challengeId with
    | [(_, row)] => .ok (castUnsigned row.challengeTicks)
    | _ => .error (.database "query returned an unexpected number of rows")
  return { players, challengeTicks, customData := txn.customData }

section Finish

variable (env : Environment σ Custom Own) (inputs : Inputs σ)

def finalizeChallengeRow (txn : Transaction Custom) (finishTime finalTicks : ℕ)
    (fullRecording : Bool) : Sql Custom Own Unit :=
  .write fun db => db.updateChallenge txn.challengeId fun row => .ok
    { row with
      status := inputs.info.status
      challengeTicks := castSigned finalTicks
      overallTicks := (inputs.info.reportedTimes.bind ReportedTimes.overall).map castSigned
      finishTime := some finishTime
      fullRecording }

/-- Takes back the recording that creating the challenge counted for a player. -/
def dropRecording (db : Database Custom Own) (playerId : ℕ) : List (Change Custom Own) :=
  match db.players.get playerId with
  | some row => [.player playerId (some { row with totalRecordings := row.totalRecordings - 1 })]
  | none => []

/-- Deletes a challenge without recorded data. -/
def deleteEmptyChallenge (txn : Transaction Custom) (players : List StoredPlayerInfo)
    (finishTime : ℕ) : Sql Custom Own (Transaction Custom) := do
  updateEndTime txn finishTime
  .write fun db => .ok ((), db.deleteChallenge txn.challengeId)
  answer inputs.deleteChallenge
  .write fun db => .ok ((), (players.map StoredPlayerInfo.id).dedup.flatMap (dropRecording db))
  return { txn with deleted := true }

/-- The final tick count: the server's report, where there is one. -/
def finalTicks (info : ChallengeInfo) (recordedTicks : ℕ) : ℕ :=
  match info.reportedTimes with
  | some times => if times.challenge ≠ recordedTicks then times.challenge else recordedTicks
  | none => recordedTicks

/-- Whether the times of a finished challenge are accurate. -/
def timesAccurate (p : σ) : Bool :=
  !inputs.info.partyChanged &&
    (match inputs.info.challengeType.lastStage with
    | some last => env.processor.hasFullyRecordedUpTo p last
    | none => false) &&
    inputs.info.status = .completed

/-- Finalizes a challenge with recorded data. -/
def finishRecorded (txn : Transaction Custom) (stored : StoredState Custom) (finishTime : ℕ)
    (p : σ) : Sql Custom Own Unit := do
  let recordedTicks := env.processor.finalChallengeTicks p stored.challengeTicks
  let final := finalTicks inputs.info recordedTicks
  let challengeTicks := wrappingAdd (wrappingSub stored.challengeTicks recordedTicks) final
  let fullRecording := env.processor.hasFullyRecordedUpTo p inputs.info.stage
  finalizeChallengeRow inputs txn finishTime challengeTicks fullRecording
  updateEndTime txn finishTime
  let (p, ctx) ← env.processor.onFinish p txn stored (.new inputs.info.party) final
  saveSplits inputs.ids inputs.now txn inputs.info (ctx.splits (timesAccurate env inputs p))
    stored.players
  updatePlayerStats inputs.now ctx.players stored.players

/-- Finalizes a challenge, recording its outcome. A challenge without recorded data is
deleted. -/
def finish (txn : Transaction Custom) : Sql Custom Own (Transaction Custom) := do
  let stored ← loadDatabaseState txn inputs.info
  match inputs.info.finishedUnixMs with
  | none => .fail (.invalidData "invalid finish without an end time")
  | some finishTime =>
    if stored.challengeTicks = 0 then
      deleteEmptyChallenge inputs txn stored.players finishTime
    else
      match ← answer (env.processorFor inputs.info stored.customData) with
      | none => do
        finalizeChallengeRow inputs txn finishTime stored.challengeTicks false
        updateEndTime txn finishTime
        return txn
      | some p => do
        finishRecorded env inputs txn stored finishTime p
        return txn

end Finish

end Blert.Processing

import Blert.Processing.Persist

/-!
Session database storage.

A challenge belongs to its party's session. The first challenge of a session creates it, closing
a stale one that the party has left open.
-/

namespace Blert.Processing

open Lifecycle ReadCommitted

variable {σ Custom Own : Type}

/-! ### Names -/

/-- What the names of players and parties are computed with: the standard lower case and the
hexadecimal digest of a hash function. -/
structure Naming where
  toLowercase : String → String
  digest : String → String

namespace Naming

variable (naming : Naming)

/-- Standard normalization of a player's name. -/
def normalizeRsn (name : String) : String :=
  (naming.toLowercase name).map fun c => if c = '-' ∨ c = ' ' then '_' else c

def partyHash (party : List String) : String :=
  naming.digest ("-".intercalate ((party.map naming.normalizeRsn).insertionSort (· ≤ ·)))

end Naming

/-! ### Inputs of a run -/

/-- What a processing run is given besides the database: the challenge's state, the answers of
the stream store and the blob repository, the prices, the clock and fresh ids. -/
structure Inputs (σ : Type) where
  info : ChallengeInfo
  /-- The stage's recorded streams, as what interpreting them yields: the output, none for a
  stage without data, and the processor's state after the event loop. -/
  recorded : Except ProcessingError (σ → Option InterpretOutput × σ)
  saveChallenge : Except ProcessingError Unit
  saveStageEvents : Except ProcessingError Unit
  deleteChallenge : Except ProcessingError Unit
  prices : ℕ → Option ℕ
  now : ℕ
  ids : Ids

def answer {α : Type} (r : Except ProcessingError α) : Sql Custom Own α :=
  .lift (r.mapError Failure.error)

/-! ### Sessions -/

inductive FinalizationOutcome
  | deleted
  | updated

/-- The most frequent mode, the first in order among equally frequent ones. -/
def frequentMode (modes : List ChallengeMode) : Option ChallengeMode :=
  let order : List ChallengeMode := [.noMode, .tobEntry, .tobRegular, .tobHard, .coxRegular,
    .coxChallenge, .toaEntry, .toaNormal, .toaExpert]
  order.foldl (fun best mode =>
    match best with
    | some b => if modes.count b < modes.count mode then some mode else some b
    | none => if 0 < modes.count mode then some mode else none) none

/-- Closes a session, writing its final state. A session without challenges is deleted. -/
def finalizeSession (sessionId : ℕ) (defaultEndTime : Option ℕ) :
    Sql Custom Own FinalizationOutcome := do
  let rows ← .read fun db => .ok (db.challenges.values.filter (·.sessionId = some sessionId))
  if rows.isEmpty then
    .write fun db => .ok (.deleted,
      if db.sessions.has sessionId then [.session sessionId none] else [])
  else
    let status := if rows.all (·.status = .abandoned) then .hidden else .completed
    let lastFinish := (rows.filterMap Challenge.finishTime).max?
    let earliestStart := (rows.map Challenge.startTime).min?
    let endTime := lastFinish.or defaultEndTime
    let mode := (frequentMode (rows.map Challenge.mode)).filter (· ≠ .noMode)
    .write fun db => .ok (.updated, db.updateSession sessionId fun s =>
      { s with
        status
        startTime := earliestStart.getD s.startTime
        endTime := (endTime.toList ++ s.endTime.toList).max?
        challengeMode := mode.getD s.challengeMode })

/-- Closes the first of a party's stale sessions. -/
def closeStale (startTime : ℕ) : List ℕ → Sql Custom Own Unit
  | [] => pure ()
  | id :: _ => do
    let _ ← finalizeSession id (some startTime)
    return ()

/-- Inserts the row of a session, of which a party has one open at a time. -/
def insertSession (ids : Ids) (info : ChallengeInfo) (hash : String) (startTime : ℕ) :
    Sql Custom Own ℕ :=
  .write fun db =>
    if db.sessions.values.any (·.uuid = info.sessionUuid) then
      .error (uniqueViolation "uix_challenge_sessions_uuid")
    else if db.sessions.values.any fun s => s.challengeType = info.challengeType ∧
        s.challengeMode = info.mode ∧ s.partyHash = hash ∧ s.endTime = none then
      .error (uniqueViolation "uix_session_new")
    else if db.sessions.has ids.session then
      .error (uniqueViolation "challenge_sessions_pkey")
    else
      .ok (ids.session, [.session ids.session (some
        { uuid := info.sessionUuid
          challengeType := info.challengeType
          challengeMode := info.mode
          scale := info.party.length
          partyHash := hash
          startTime
          endTime := none
          status := .active })])

/-- Finds the session of a challenge, or creates it. -/
def resolveSession (naming : Naming) (ids : Ids) (info : ChallengeInfo) (startTime : ℕ) :
    Sql Custom Own ℕ := do
  let active ← .read fun db =>
    .ok ((db.sessions.entries.find? (·.2.uuid = info.sessionUuid)).map Prod.fst)
  match active with
  | some id => return id
  | none => do
    let hash := naming.partyHash info.party
    -- the rows are locked, without a change
    let stale ← .write fun db =>
      let rows := db.sessions.entries.filter fun e =>
        e.2.challengeType = info.challengeType ∧ e.2.partyHash = hash ∧ e.2.endTime = none
      .ok (rows.map Prod.fst, rows.map fun e => .session e.1 (some e.2))
    closeStale startTime stale
    insertSession ids info hash startTime

def Transaction.session (txn : Transaction Custom) : Except Failure ℕ :=
  match txn.sessionId with
  | some id => .ok id
  | none => .error (.invalidData "challenge has no session")

def updateEndTime (txn : Transaction Custom) (endTime : ℕ) : Sql Custom Own Unit := do
  let id ← .lift txn.session
  .write fun db => .ok ((), db.updateSession id fun s => { s with endTime := some endTime })

def updateSessionMode (txn : Transaction Custom) (mode : ChallengeMode) :
    Sql Custom Own Unit := do
  let id ← .lift txn.session
  .write fun db => .ok ((), db.updateSession id fun s => { s with challengeMode := mode })

end Blert.Processing

import Blert.Processing.Processor

/-!
Database writers for challenge processing effects.

Writers that the source issues together run here one after the other, in the order in which the
source lists them.
-/

namespace Blert.Processing

open Lifecycle ReadCommitted

variable {Custom Own : Type}

/-- The ids that the database's sequences hand out to a run. -/
structure Ids where
  challenge : ℕ
  challenge_pos : 0 < challenge
  session : ℕ
  /-- By orb. -/
  player : ℕ → ℕ
  split : ℕ → ℕ
  personalBest : ℕ → ℕ
  queryableEvent : ℕ → ℕ

/-! ### Players -/

/-- The deaths and the gear to record for each player they are new for. -/
def playerUpdates (stage : Stage) (ctx : StageContext) (players : List StoredPlayerInfo) :
    List (List Stage × PrimaryMeleeGear × ℕ) :=
  players.zipIdx.filterMap fun (player, index) =>
    let died := if index ∈ ctx.deaths then [stage] else []
    let gear := match player.gear with
      | .unknown => ((ctx.players[index]?).bind PlayerData.gear).getD .unknown
      | gear => gear
    if died = [] ∧ gear = player.gear then none else some (died, gear, player.id)

def updatePlayers (txn : Transaction Custom) (stage : Stage) (ctx : StageContext)
    (players : List StoredPlayerInfo) : Sql Custom Own Unit :=
  .forEach (fun (died, gear, playerId) => .write fun db =>
    let rows := db.challengePlayers.entries.filter fun e =>
      e.1.1 = txn.challengeId ∧ e.2.playerId = playerId
    .ok ((), rows.map fun e => .challengePlayer e.1
      (some { e.2 with stageDeaths := e.2.stageDeaths ++ died, primaryGear := gear })))
    (playerUpdates stage ctx players)

def StatColumn.all : List StatColumn :=
  [.colosseumCompletions, .colosseumWipes, .colosseumResets, .infernoCompletions, .infernoWipes,
    .infernoResets, .mokhaiotlCompletions, .mokhaiotlWipes, .mokhaiotlResets,
    .mokhaiotlTotalDelves, .mokhaiotlDelvesCompleted, .mokhaiotlDeepDelvesCompleted,
    .tobCompletions, .tobWipes, .tobResets, .deathsTotal, .deathsMaiden, .deathsBloat,
    .deathsNylocas, .deathsSotetseg, .deathsXarpus, .deathsVerzik, .hammerBops, .bgsSmacks,
    .challyPokes, .unchargedScytheSwings, .ralosAutos, .elderMaulSmacks,
    .tobBarragesWithoutProperWeapon, .tobVerzikP1TrollSpecs, .tobVerzikP3Melees,
    .chinsThrownTotal, .chinsThrownBlack, .chinsThrownRed, .chinsThrownGrey, .chinsThrownMaiden,
    .chinsThrownNylocas, .chinsThrownValue, .chinsThrownIncorrectlyMaiden]

def statsEmpty (stats : PlayerStats) : Bool := StatColumn.all.all fun c => stats c = 0

def latestStats (db : Database Custom Own) (playerId : ℕ) : PlayerStats :=
  let rows := db.playerStats.entries.filter (·.1.1 = playerId)
  let latest := rows.foldl (fun (best : Option (ℕ × PlayerStats)) e =>
    match best with
    | some b => if b.1 < e.1.2 then some (e.1.2, e.2) else some b
    | none => some (e.1.2, e.2)) none
  (latest.map Prod.snd).getD 0

def dayMillis : ℕ := 86400000

/-- Applies each player's accumulated stat changes to their statistics of today. The query
reads the latest row before it waits for the row it writes. -/
def updatePlayerStats (now : ℕ) (data : List PlayerData) (players : List StoredPlayerInfo) :
    Sql Custom Own Unit :=
  .forEach (fun (info, data) => do
    let prev ← .read fun db => .ok (latestStats db info.id)
    .write fun _ => .ok ((), [.playerStats (info.id, now / dayMillis) (some (prev + data.stats))]))
    ((players.zip data).filter fun (_, data) => !statsEmpty data.stats)

/-! ### Splits -/

structure InsertedSplit where
  id : ℕ
  split : SplitType
  ticks : ℕ
  accurate : Bool

/-- Splits as they are stored, with the ids they are given. -/
def insertedSplits (ids : Ids) (mode : ChallengeMode) (splits : List SavedSplit) :
    List InsertedSplit :=
  splits.zipIdx.map fun (e, n) => ⟨ids.split n, e.split.adjustTo mode, e.ticks, e.accurate⟩

def InsertedSplit.row (s : InsertedSplit) (scale : ℕ) : SplitRow :=
  ⟨s.id, scale, castSigned s.ticks, s.accurate⟩

/-- Stores splits, of which a challenge has at most one of each type. -/
def writeSplits (ids : Ids) (txn : Transaction Custom) (info : ChallengeInfo)
    (splits : List SavedSplit) : Sql Custom Own (List InsertedSplit) :=
  if splits.isEmpty then pure []
  else .write fun db => do
    db.requireChallenge txn.challengeId "challenge_splits"
    let inserted := insertedSplits ids info.mode splits
    if (inserted.map InsertedSplit.split).Nodup ∧
        ∀ s ∈ inserted, !db.challengeSplits.has (txn.challengeId, s.split) then
      .ok (inserted, inserted.map fun s =>
        .challengeSplit (txn.challengeId, s.split) (some (s.row info.party.length)))
    else .error (uniqueViolation "unique_challenge_id_type")

/-- The time of a player's most recent personal best of a type and scale. Of bests recorded at
one time the first is taken. -/
def currentBest (db : Database Custom Own) (scale playerId : ℕ) (split : SplitType) : Option ℤ :=
  let rows := (db.personalBestHistory.values.filter (·.playerId = playerId)).flatMap fun best =>
    (db.challengeSplits.entries.filter fun e =>
      e.2.id = best.challengeSplitId ∧ e.1.2 = split ∧ e.2.scale = scale).map fun e =>
        (best.createdAt, e.2.ticks)
  let latest := rows.foldl (fun (last : Option (ℕ × ℤ)) r =>
    match last with
    | some l => if l.1 < r.1 then some r else some l
    | none => some r) none
  latest.map Prod.snd

def newBests (current : ℕ → SplitType → Option ℤ) (players : List StoredPlayerInfo)
    (splits : List InsertedSplit) : List (ℕ × ℕ) :=
  splits.flatMap fun split => players.filterMap fun player =>
    match current player.id split.split with
    | none => some (player.id, split.id)
    | some ticks => if castSigned split.ticks < ticks then some (player.id, split.id) else none

/-- Compares the accurate splits against each player's current personal bests, recording any new
or improved times. -/
def updatePersonalBests (ids : Ids) (now : ℕ) (info : ChallengeInfo)
    (players : List StoredPlayerInfo) (splits : List InsertedSplit) : Sql Custom Own Unit :=
  let accurate := splits.filter InsertedSplit.accurate
  if accurate.isEmpty then pure ()
  else do
    let current ← .read fun db => .ok (currentBest db info.party.length)
    let bests := newBests current players accurate
    if bests.isEmpty then pure ()
    else .write fun db =>
      if ∀ n < bests.length, !db.personalBestHistory.has (ids.personalBest n) then
        .ok ((), bests.zipIdx.map fun (best, n) =>
          .personalBest (ids.personalBest n) (some ⟨best.1, best.2, now⟩))
      else .error (uniqueViolation "personal_best_history_pkey")

/-- Marks all recorded splits of the challenge accurate and updates players' personal bests. -/
def setSplitsAccurate (ids : Ids) (now : ℕ) (txn : Transaction Custom) (info : ChallengeInfo)
    (players : List StoredPlayerInfo) : Sql Custom Own Unit := do
  let splits ← .write fun db =>
    let rows := db.challengeSplits.entries.filter (·.1.1 = txn.challengeId)
    .ok (rows.map fun e => (⟨e.2.id, e.1.2, castUnsigned e.2.ticks, true⟩ : InsertedSplit),
      rows.map fun e => .challengeSplit e.1 (some { e.2 with accurate := true }))
  updatePersonalBests ids now info players splits

/-- Stores resolved splits, updating players' personal bests from any that are accurate. -/
def saveSplits (ids : Ids) (now : ℕ) (txn : Transaction Custom) (info : ChallengeInfo)
    (splits : List SavedSplit) (players : List StoredPlayerInfo) : Sql Custom Own Unit := do
  let inserted ← writeSplits ids txn info splits
  updatePersonalBests ids now info players inserted

/-! ### The challenge and its events -/

def ChallengeTicks.total : ChallengeTicks → ℤ → Except Failure ℤ
  | .add ticks, stored => int4 (stored + castSigned ticks)
  | .set ticks, _ => .ok (castSigned ticks)

def updateChallengeRow (txn : Transaction Custom) (ticks : ChallengeTicks) (newDeaths : ℕ) :
    Sql Custom Own Unit :=
  .write fun db => db.updateChallenge txn.challengeId fun row => do
    let challengeTicks ← ticks.total row.challengeTicks
    .ok { row with challengeTicks, totalDeaths := row.totalDeaths + newDeaths }

/-- Writes the stage's kept events within the queryable prefix. -/
def writeQueryableEvents (ids : Ids) (txn : Transaction Custom) (info : ChallengeInfo)
    (output : InterpretOutput) (players : List StoredPlayerInfo) : Sql Custom Own Unit :=
  let rows := output.queryable players
  if output.events.queryableUntil = 0 ∨ rows.isEmpty then pure ()
  else .write fun db => do
    db.requireChallenge txn.challengeId "queryable_events"
    if ∀ n < rows.length, !db.queryableEvents.has (ids.queryableEvent n) then
      .ok ((), rows.zipIdx.map fun (event, n) => .queryableEvent (ids.queryableEvent n)
        (some ⟨txn.challengeId, info.stage, info.mode, event⟩))
    else .error (uniqueViolation "queryable_events")

end Blert.Processing

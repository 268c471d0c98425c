import Blert.Minima
import Blert.Names.Accounts

/-!
Moving what has been recorded of a player to another one.

Statistics are cumulative, so that the rows that move are rebased, and those that come after the
window are adjusted. The history of personal bests is rebuilt from a challenge on.
-/

namespace Blert.Names

open Lifecycle Processing

variable {Custom Own : Type}

/-- Whether a time is after a date and not after another one, where these are given. -/
def isBetween (fromDate toDate : Option ℤ) (t : ℤ) : Bool :=
  fromDate.all (· < t) && toDate.all (t ≤ ·)

/-! ### Statistics -/

def statsDate (day : ℕ) : ℤ := day * dayMillis

def statsOf (db : Accounts Custom Own) (playerId : ℕ) : List (ℕ × PlayerStats) :=
  ((db.playerStats.entries.filter (·.1.1 = playerId)).map fun e => (e.1.2, e.2)).insertionSort
    (·.1 ≤ ·.1)

def lastStatsAtOrBefore (db : Accounts Custom Own) (playerId : ℕ) (date : Option ℤ) :
    Option PlayerStats :=
  date.bind fun d => (((statsOf db playerId).filter (statsDate ·.1 ≤ d)).getLast?).map Prod.snd

/-- Gives a row of statistics to another player. -/
def moveStats (targetPlayerId sourcePlayerId day : ℕ) (stats : PlayerStats) :
    Tx Custom Own Unit := do
  let db ← get
  if targetPlayerId ≠ sourcePlayerId ∧ db.playerStats.has (targetPlayerId, day) then
    throw (duplicateKey "uix_player_stats_player_id_date")
  set { db with
    playerStats := (db.playerStats.erase (sourcePlayerId, day)).set (targetPlayerId, day) stats }

def shiftStats (playerId : ℕ) (toDate : ℤ) (delta : PlayerStats) : Tx Custom Own Unit :=
  modify fun db =>
    { db with
      playerStats := db.playerStats.mapValues fun key stats =>
        if key.1 = playerId ∧ toDate < statsDate key.2 then stats + delta else stats }

/-- Adjusts what comes after a window. Later rows of the source include what it recorded in the
window, and the target's do not. -/
def shiftLaterStats (targetPlayerId sourcePlayerId : ℕ) (toDate : Option ℤ)
    (delta : Option PlayerStats) : Tx Custom Own Unit :=
  match toDate, delta with
  | some toDate, some delta => do
    shiftStats targetPlayerId toDate delta
    shiftStats sourcePlayerId toDate (-delta)
  | _, _ => pure ()

def updatePlayerStats (targetPlayerId sourcePlayerId : ℕ) (fromDate toDate : Option ℤ) :
    Tx Custom Own ℕ := do
  let db ← get
  let targetLast := (lastStatsAtOrBefore db targetPlayerId fromDate).getD 0
  let sourceLast := (lastStatsAtOrBefore db sourcePlayerId fromDate).getD 0
  let statsToMigrate := (statsOf db sourcePlayerId).filter fun row =>
    isBetween fromDate toDate (statsDate row.1)
  statsToMigrate.forM fun (day, stats) =>
    moveStats targetPlayerId sourcePlayerId day (targetLast + (stats - sourceLast))
  shiftLaterStats targetPlayerId sourcePlayerId toDate
    (statsToMigrate.getLast?.map fun row => row.2 - sourceLast)
  return statsToMigrate.length

/-! ### API keys -/

/-- Reassigns API keys whose last use falls within a migration window. -/
def updateApiKeys (targetPlayerId sourcePlayerId : ℕ) (fromDate toDate : Option ℤ) :
    Tx Custom Own ℕ := do
  let db ← get
  let moves (key : ApiKey) : Bool :=
    key.playerId = sourcePlayerId && fromDate.all (fun d => key.lastUsed.any (d < ·)) &&
      toDate.all (fun d => key.lastUsed.any (· ≤ d))
  set { db with
    apiKeys := db.apiKeys.mapValues fun _ key =>
      if moves key then { key with playerId := targetPlayerId } else key }
  return (db.apiKeys.values.filter moves).length

/-! ### Personal bests -/

abbrev SplitKind := SplitType × ℕ

structure RankedSplit where
  id : ℕ
  kind : SplitKind
  ticks : ℤ
  challengeId : ℕ
  finishTime : Option ℕ

/-- A time before another one, where a time that is missing comes last. -/
def finishesBefore : Option ℕ → Option ℕ → Prop
  | some a, some b => a ≤ b
  | none, some _ => False
  | _, none => True

instance : DecidableRel finishesBefore := fun a b => by
  cases a <;> cases b <;> (unfold finishesBefore; infer_instance)

/-- The accurate splits of challenges, with the times at which they finished. -/
def accurateSplits (db : Accounts Custom Own) : List RankedSplit :=
  (db.challengeSplits.entries.filter (·.2.accurate)).flatMap fun e =>
    (db.challengesById e.1.1).map fun c =>
      ⟨e.2.id, (e.1.2, e.2.scale), e.2.ticks, e.1.1, c.2.finishTime⟩

/-- The accurate splits of the challenges in which a player took part. -/
def playedSplits (db : Accounts Custom Own) (playerId : ℕ) : List RankedSplit :=
  (accurateSplits db).flatMap fun s =>
    ((db.participations playerId).filter (·.1.1 = s.challengeId)).map fun _ => s

def distinctAccurateSplitTypes (db : Accounts Custom Own) (challengeIds : List ℕ) :
    List SplitKind :=
  ((db.challengeSplits.entries.filter fun e => e.1.1 ∈ challengeIds ∧ e.2.accurate).map fun e =>
    (e.1.2, e.2.scale)).dedup

def isRecomputed (db : Accounts Custom Own) (playerId : ℕ) (splits : List SplitKind)
    (cutoffChallengeId : ℕ) (row : PersonalBest) : Bool :=
  row.playerId = playerId && db.challengeSplits.entries.any fun e =>
    e.2.id = row.challengeSplitId && decide (cutoffChallengeId ≤ e.1.1) &&
      decide ((e.1.2, e.2.scale) ∈ splits)

def insertPersonalBest (playerId : ℕ) (history : InsertionMap ℕ PersonalBest)
    (split : RankedSplit) : Except NameError (InsertionMap ℕ PersonalBest) :=
  match split.finishTime with
  | some createdAt => .ok (history.set (freshId history) ⟨playerId, split.id, createdAt⟩)
  | none => .error (.database "null value in column created_at violates not-null constraint")

def recomputedBests (db : Accounts Custom Own) (playerId : ℕ) (splits : List SplitKind)
    (cutoffChallengeId : ℕ) : List RankedSplit :=
  let played := (playedSplits db playerId).filter (·.kind ∈ splits)
  let best (kind : SplitKind) : Option ℤ :=
    leastOf (·.ticks) none
      (played.filter fun s => s.kind = kind ∧ s.challengeId < cutoffChallengeId)
  minimaByKind (·.kind) (·.ticks) best
    ((played.filter (cutoffChallengeId ≤ ·.challengeId)).insertionSort fun a b =>
      finishesBefore a.finishTime b.finishTime)

def recomputePbHistoryFrom (playerId : ℕ) (splitsToRecompute : List SplitKind)
    (cutoffChallengeId : ℕ) : Tx Custom Own ℕ := do
  if splitsToRecompute = [] then
    return 0
  let db ← get
  let recomputed (row : PersonalBest) :=
    isRecomputed db playerId splitsToRecompute cutoffChallengeId row
  let pbsToInsert := recomputedBests db playerId splitsToRecompute cutoffChallengeId
  let kept := db.personalBestHistory.filter fun _ row => !recomputed row
  let history ← (pbsToInsert.foldlM (insertPersonalBest playerId) kept : Except NameError _)
  set { db with personalBestHistory := history }
  return (db.personalBestHistory.values.filter recomputed).length + pbsToInsert.length

def leastChallenge (challengeIds : List ℕ) : ℕ := challengeIds.min?.getD 0

/-- Recomputes the history of both players of challenges that have moved. -/
def updatePersonalBestHistory (targetPlayerId sourcePlayerId : ℕ) (challengeIds : List ℕ) :
    Tx Custom Own ℕ := do
  let db ← get
  let moved := (accurateSplits db).filter (·.challengeId ∈ challengeIds)
  if challengeIds = [] ∨ moved = [] then
    return 0
  let distinctSplitTypes := (moved.map (·.kind)).dedup
  let cutoffChallengeId := leastChallenge challengeIds
  let source ← recomputePbHistoryFrom sourcePlayerId distinctSplitTypes cutoffChallengeId
  let target ← recomputePbHistoryFrom targetPlayerId distinctSplitTypes cutoffChallengeId
  return source + target

/-! ### What does not change -/

/-- Players, challenges, and who took part in them. -/
def records (db : Accounts Custom Own) :=
  (db.players, db.challenges, db.challengePlayers, db.challengeSplits)

open Fallible

lemma frames_moveStats (targetPlayerId sourcePlayerId day : ℕ) (stats : PlayerStats) :
    Frames records (@moveStats Custom Own targetPlayerId sourcePlayerId day
      stats) := by
  refine frames_get_bind fun s a s' h => ?_
  dsimp only at h
  split_ifs at h
  · cases h
  · cases h
    rfl

lemma frames_shiftStats (playerId : ℕ) (toDate : ℤ) (delta : PlayerStats) :
    Frames records (@shiftStats Custom Own playerId toDate delta) :=
  frames_modify fun _ => rfl

lemma frames_updatePlayerStats (targetPlayerId sourcePlayerId : ℕ) (fromDate toDate : Option ℤ) :
    Frames records (@updatePlayerStats Custom Own targetPlayerId
      sourcePlayerId fromDate toDate) := by
  refine frames_get_bind fun s a s' h => ?_
  refine Frames.bind (frames_forM fun row => frames_moveStats _ _ _ _) (fun _ => ?_) s a s' h
  refine Frames.bind ?_ fun _ => frames_pure _
  unfold shiftLaterStats
  split
  · exact (frames_shiftStats _ _ _).bind fun _ => frames_shiftStats _ _ _
  · exact frames_pure _

lemma frames_updateApiKeys (targetPlayerId sourcePlayerId : ℕ) (fromDate toDate : Option ℤ) :
    Frames records (@updateApiKeys Custom Own targetPlayerId
      sourcePlayerId fromDate toDate) := by
  refine frames_get_bind fun s a s' h => ?_
  cases h
  rfl

lemma frames_recomputePbHistoryFrom (playerId : ℕ) (splits : List SplitKind)
    (cutoffChallengeId : ℕ) :
    Frames records (@recomputePbHistoryFrom Custom Own playerId splits
      cutoffChallengeId) := by
  intro s a s' h
  unfold recomputePbHistoryFrom at h
  split_ifs at h
  · cases h
    rfl
  · refine frames_get_bind (fun s a s' h => ?_) s a s' h
    obtain ⟨history, s₁, hhistory, h⟩ := run_bind_ok.1 h
    rw [StateT.run_monadLift] at hhistory
    obtain ⟨_, _, hhistory⟩ := bind_eq_ok.1 hhistory
    cases hhistory
    cases h
    rfl

lemma frames_updatePersonalBestHistory (targetPlayerId sourcePlayerId : ℕ)
    (challengeIds : List ℕ) :
    Frames records (@updatePersonalBestHistory Custom Own targetPlayerId
      sourcePlayerId challengeIds) := by
  refine frames_get_bind fun s a s' h => ?_
  dsimp only at h
  split_ifs at h
  · cases h
    rfl
  · refine Frames.bind (frames_recomputePbHistoryFrom _ _ _) (fun _ => ?_) s a s' h
    exact (frames_recomputePbHistoryFrom _ _ _).bind fun _ => frames_pure _

end Blert.Names

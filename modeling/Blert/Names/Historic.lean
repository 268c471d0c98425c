import Blert.Names.Migration

/-!
Historic name changes.

A chain of past renames says which of the recorded challenges belong to one player. They are moved
to the record that has the current name, and what that record has of former holders of its name
goes to a zombie record.
-/

namespace Blert.Names

open Lifecycle Processing Fallible

variable {Custom Own : Type}

/-! ### Plans -/

inductive TargetPlayer
  | use (playerId : ℕ)
  | create (currentName : String)

/-- A record with challenges of a single name window. -/
structure SourcePlayer where
  playerId : ℕ
  windowIndex : ℕ
  challengeIds : List ℕ

/-- What a historic name change sequence would change. -/
structure MigrationPlan where
  target : TargetPlayer
  windows : List NameWindow
  sourcePlayers : List SourcePlayer
  emptiedSourceIds : List ℕ
  evictedTargetChallengeIds : List ℕ
  unownedApiKeyCount : ℕ
  /-- The ids of live name changes that the sequence duplicates. -/
  supersededLiveRows : List ℕ

/-- The challenges that move, by the record that loses them. -/
def idsBySource (sources : List SourcePlayer) : InsertionMap ℕ (List ℕ) :=
  (∅ : InsertionMap ℕ (List ℕ)).pushAll
    (sources.flatMap fun s => s.challengeIds.map (s.playerId, ·))

def TargetPlayer.isPlayer : TargetPlayer → ℕ → Bool
  | .use targetId, playerId => playerId = targetId
  | .create _, _ => false

section

variable (naming : Naming) (db : Accounts Custom Own)

/-- The target of a sequence whose last name is given. -/
def resolveTarget (currentName : String) : TargetPlayer :=
  match playerNamed db (naming.normalizeRsn currentName) with
  | some id => .use id
  | none => .create currentName

/-- All participations with the times at which their challenges started. -/
def startedRows : List (((ℕ × ℕ) × ChallengePlayer) × ℤ) :=
  db.challengePlayers.entries.flatMap fun e => (db.startTimes e.1.1).map (e, ·)

def matchedRows (target : TargetPlayer) (window : NameWindow) : List (ℕ × ℕ) :=
  (((startedRows db).filter fun r =>
    naming.normalizeRsn r.1.2.username = window.normalizedRsn ∧ inWindow r.2 window ∧
      !target.isPlayer r.1.2.playerId).map fun r => (r.1.2.playerId, r.1.1.1)).insertionSort
    fun a b => a.1 < b.1 ∨ a.1 = b.1 ∧ a.2 ≤ b.2

def gatherSourcePlayers (windows : List NameWindow) (target : TargetPlayer) :
    List SourcePlayer :=
  windows.zipIdx.flatMap fun (window, windowIndex) =>
    ((∅ : InsertionMap ℕ (List ℕ)).pushAll (matchedRows naming db target window)).entries.map
      fun (playerId, challengeIds) => ⟨playerId, windowIndex, challengeIds⟩

/-- The records that would lose all of their participations. -/
def findEmptiedSources (sourcePlayers : List SourcePlayer) : List ℕ :=
  ((idsBySource sourcePlayers).entries.filter fun e =>
    (db.participations e.1).length = e.2.length).map Prod.fst

def findTargetUnownedChallenges (windows : List NameWindow) : TargetPlayer → List ℕ
  | .create _ => []
  | .use playerId =>
    ((db.startedParticipations playerId).filter fun r =>
      !belongsToChainTarget windows (naming.normalizeRsn r.1.2.username) r.2).map (·.1.1.1)

/-- The number of API keys on the target outside of the current window. -/
def countTargetUnownedKeys (windows : List NameWindow) : TargetPlayer → ℕ
  | .create _ => 0
  | .use playerId =>
    (db.apiKeys.values.filter fun key => key.playerId = playerId ∧
      !key.lastUsed.any fun t => windows.getLast?.any (inWindow t)).length

/-- How much earlier than its transition a live rename may have been recorded, in milliseconds. -/
def liveRenameMatchSlack : ℤ := 24 * 60 * 60 * 1000

/-- Whether a chain contains an entry corresponding to a live name change. -/
def chainIncludesLiveRename (live : NameChange) : List ChainTransition → Bool
  | [] => false
  | a :: rest =>
    decide (naming.normalizeRsn a.oldName = naming.normalizeRsn live.oldName ∧
      naming.normalizeRsn a.newName = naming.normalizeRsn live.newName ∧
      a.effectiveFrom - liveRenameMatchSlack < live.effectiveFrom ∧
      rest.head?.all (live.effectiveFrom ≤ ·.effectiveFrom)) ||
      chainIncludesLiveRename live rest

/-- The accepted live name changes that record a rename of a chain. -/
def findSupersededLiveRows (chain : List ChainTransition) : List ℕ :=
  let chainNames := chain.flatMap fun t =>
    [naming.normalizeRsn t.oldName, naming.normalizeRsn t.newName]
  (db.nameChanges.entries.filter fun e =>
    e.2.kind = .standard ∧ e.2.status = .accepted ∧
      naming.normalizeRsn e.2.oldName ∈ chainNames ∧
      naming.normalizeRsn e.2.newName ∈ chainNames ∧
      chainIncludesLiveRename naming e.2 chain).map Prod.fst

def decidePlan (chain : List ChainTransition) : Option MigrationPlan := do
  let windows ← deriveNameWindows naming chain
  let last ← chain.getLast?
  let target := resolveTarget naming db last.newName
  let sourcePlayers := gatherSourcePlayers naming db windows target
  return {
    target
    windows
    sourcePlayers
    emptiedSourceIds := findEmptiedSources db sourcePlayers
    evictedTargetChallengeIds := findTargetUnownedChallenges naming db windows target
    unownedApiKeyCount := countTargetUnownedKeys db windows target
    supersededLiveRows := findSupersededLiveRows naming db chain }

end

/-! ### Execution -/

section

variable (naming : Naming)

def resolveOrCreateTargetId : TargetPlayer → Tx Custom Own ℕ
  | .use playerId => pure playerId
  | .create currentName => insertPlayer naming currentName 0

/-- Moves the participations of a player in some challenges. Returns how many there are. -/
def moveChallenges (targetId sourceId : ℕ) (challengeIds : List ℕ) : Tx Custom Own ℕ := do
  let db ← get
  set (db.moveParticipations targetId sourceId challengeIds)
  return ((db.participations sourceId).filter (·.1.1 ∈ challengeIds)).length

/-- Moves the statistics of the windows of other names onto the zombie. -/
def moveForeignStats (zombieId targetId : ℕ) (currentName : String) :
    List NameWindow → Tx Custom Own ℕ
  | [] => pure 0
  | window :: windows => do
    let moved ←
      if window.normalizedRsn = currentName then pure 0
      else updatePlayerStats zombieId targetId window.fromTime window.toTime
    let rest ← moveForeignStats zombieId targetId currentName windows
    return moved + rest

/-- Rebuilds the personal bests of a player for the splits of some challenges. -/
def recompute (playerId : ℕ) (challengeIds : List ℕ) : Tx Custom Own ℕ := do
  let db ← get
  recomputePbHistoryFrom playerId (distinctAccurateSplitTypes db challengeIds)
    (leastChallenge challengeIds)

/-- Splits the target's own challenges that belong to a prior holder of the current name onto a
zombie record. -/
def evictTargetHistory (plan : MigrationPlan) (targetId : ℕ) : Tx Custom Own ℕ := do
  if 0 < plan.unownedApiKeyCount then
    throw (.unownedApiKeys plan.unownedApiKeyCount)
  else if plan.evictedTargetChallengeIds = [] then
    return 0
  else
    let evicted := plan.evictedTargetChallengeIds
    let currentName := (plan.windows.getLast?.map (·.normalizedRsn)).getD ""
    let db ← get
    match db.players.get targetId with
    | none => throw (.other "Cannot destructure property 'username' of undefined")
    | some target => do
      let zombieId ← insertPlayer naming (zombieName target.username) evicted.length
      let moved ← moveChallenges zombieId targetId evicted
      let stats ← moveForeignStats zombieId targetId currentName plan.windows
      let targetBests ← recompute targetId evicted
      let zombieBests ← recompute zombieId evicted
      modify (·.addRecordings targetId (-evicted.length))
      return moved + stats + targetBests + zombieBests

/-- Reassigns the live name changes a sequence duplicates, and hides them. -/
def reassignSupersededLiveRows (plan : MigrationPlan) (targetId : ℕ) : Tx Custom Own Unit :=
  modify fun db => { db with
    nameChanges := db.nameChanges.mapValues fun id nc =>
      if id ∈ plan.supersededLiveRows then
        { nc with playerId := some targetId, hiddenFromProfile := true }
      else nc }

/-- Moves the data of one source onto the target. -/
def moveSource (windows : List NameWindow) (targetId : ℕ) (source : SourcePlayer) :
    Tx Custom Own ℕ :=
  match windows[source.windowIndex]? with
  | none => throw (.other "Cannot read properties of undefined")
  | some window => do
    let moved ← moveChallenges targetId source.playerId source.challengeIds
    let stats ← updatePlayerStats targetId source.playerId window.fromTime window.toTime
    let keys ← updateApiKeys targetId source.playerId window.fromTime window.toTime
    return moved + stats + keys

/-- The sum of what is counted for each element. -/
def sumM {α : Type} (f : α → Tx Custom Own ℕ) : List α → Tx Custom Own ℕ
  | [] => pure 0
  | x :: xs => do
    let n ← f x
    let rest ← sumM f xs
    return n + rest

/-- Takes the challenges that have moved off the counts of the records that had them. -/
def discountSources (sources : List (ℕ × List ℕ)) : Tx Custom Own Unit :=
  sources.forM fun (sourceId, challengeIds) =>
    modify (·.addRecordings sourceId (-challengeIds.length))

/-- Consolidates the chain player's scattered data onto the target record. -/
def consolidateSources (plan : MigrationPlan) (targetId : ℕ) : Tx Custom Own ℕ := do
  let movedChallengeIds := plan.sourcePlayers.flatMap (·.challengeIds)
  if movedChallengeIds = [] then
    return 0
  else
    let bySource := (idsBySource plan.sourcePlayers).entries
    let moved ← sumM (moveSource plan.windows targetId) plan.sourcePlayers
    let targetBests ← recompute targetId movedChallengeIds
    let sourceBests ← sumM (fun (sourceId, challengeIds) => recompute sourceId challengeIds)
      (bySource.filter fun e => e.1 ∉ plan.emptiedSourceIds)
    modify (·.addRecordings targetId movedChallengeIds.length)
    discountSources bySource
    return moved + targetBests + sourceBests

/-- Executes a migration plan. Returns the target's id and the number of documents moved. -/
def applyPlan (plan : MigrationPlan) : Tx Custom Own (ℕ × ℕ) := do
  let targetId ← resolveOrCreateTargetId naming plan.target
  let evicted ← evictTargetHistory naming plan targetId
  reassignSupersededLiveRows plan targetId
  let moved ← consolidateSources plan targetId
  return (targetId, evicted + moved)

/-- Deletes player records that were emptied by a migration. -/
def deleteEmptiedSources (emptiedSourceIds : List ℕ) (db : Accounts Custom Own) :
    Accounts Custom Own :=
  emptiedSourceIds.foldl (fun db id =>
    if db.participations id = [] then db.deletePlayer id else db) db

end

end Blert.Names

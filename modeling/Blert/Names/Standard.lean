import Blert.Names.Migration

/-!
Standard name changes.

A player takes a new name. If another record has the name already, what it has recorded after the
player's last challenge is the player's, and the rest is a former holder's, which becomes a zombie.
-/

namespace Blert.Names

open Lifecycle Processing Fallible

variable {Custom Own : Type}

inductive NameChangeUpdate
  | renamed (playerId : ℕ) (oldName newName : String)
  | merged (deletedPlayerId remainingPlayerId : ℕ) (oldName newName : String)
  deriving DecidableEq

/-- What is asked of other services while a name change is processed: whether a player of the names
is in a challenge, before and after, and the hiscores of the names, unless a lookup fails. -/
structure Answers where
  activeBefore : Bool
  activeAfter : Bool
  hiscores : Option (Option PlayerExperience × Option PlayerExperience)
  now : ℤ

structure NameChangeQueryResult where
  id : ℕ
  oldName : String
  newName : String
  playerId : ℕ
  skipChecks : Bool
  kind : NameChangeKind
  experience : PlayerExperience

def Skill.all : List Skill :=
  [.overall, .attack, .defence, .strength, .hitpoints, .ranged, .prayer, .magic]

def compareExperience (before after : PlayerExperience) : List Skill :=
  Skill.all.filter fun skill => before skill ≠ 0 ∧ after skill < before skill

def checkHiscores (recorded : PlayerExperience) :
    Option PlayerExperience → Option PlayerExperience → NameChangeStatus
  | some _, _ => .oldStillInUse
  | none, none => .newDoesNotExist
  | none, some current =>
    if compareExperience recorded current = [] then .pending else .decreasedExperience

section

variable (naming : Naming)

def acceptNameChange (id : ℕ) (now : ℤ) (migratedDocuments : ℕ) : Tx Custom Own Unit :=
  updateNameChange id fun nc =>
    { nc with
      status := .accepted
      processedAt := some now
      effectiveFrom := now
      migratedDocuments := migratedDocuments }

/-- Gives what a player has recorded after a time to another one. Returns how many documents moved,
how many challenges, and whether there are earlier ones. -/
def migrateFrom (playerId newPlayerId : ℕ) (updateFrom : ℤ) :
    Tx Custom Own (ℕ × ℕ × Bool) := do
  let db ← get
  let challengesToUpdate := ((db.startedParticipations newPlayerId).filter
    (updateFrom < ·.2)).map (·.1.1.1)
  let previouslyExisted := (db.startedParticipations newPlayerId).any (·.2 ≤ updateFrom)
  let moved := (db.participations newPlayerId).filter (·.1.1 ∈ challengesToUpdate)
  set (db.moveParticipations playerId newPlayerId challengesToUpdate)
  let keys ← updateApiKeys playerId newPlayerId (some updateFrom) none
  let bests ← updatePersonalBestHistory playerId newPlayerId challengesToUpdate
  let stats ← updatePlayerStats playerId newPlayerId (some updateFrom) none
  return (moved.length + keys + bests + stats, challengesToUpdate.length, previouslyExisted)

/-- Turns the record that has the new name into a zombie, or deletes it. Returns its id if it is
deleted. -/
def retireNewPlayer (newPlayerId : ℕ) (newName : String) (challengesUpdated : ℕ)
    (previouslyExisted : Bool) : Tx Custom Own (Option ℕ) := do
  if previouslyExisted then
    renamePlayer naming newPlayerId (zombieName newName) (-challengesUpdated)
    setExperience newPlayerId fun _ => 0
    return none
  else
    modify (·.deletePlayer newPlayerId)
    return some newPlayerId

/-- Merges the record that has the new name. Returns how many documents and challenges moved, and
the record's id if it is deleted. -/
def mergeNewPlayer (playerId newPlayerId : ℕ) (newName : String) :
    Tx Custom Own (ℕ × ℕ × Option ℕ) := do
  let db ← get
  match ((db.startedParticipations playerId).map (·.2)).max? with
  | some updateFrom =>
    let (migrated, challengesUpdated, previouslyExisted) ←
      migrateFrom playerId newPlayerId updateFrom
    let deleted ← retireNewPlayer naming newPlayerId newName challengesUpdated previouslyExisted
    return (migrated, challengesUpdated, deleted)
  | none =>
    let deleted ← retireNewPlayer naming newPlayerId newName 0 false
    return (0, 0, deleted)

def absorbNewPlayer (playerId : ℕ) (newName : String) : Tx Custom Own (ℕ × ℕ × Option ℕ) := do
  let db ← get
  match playerNamed db (naming.normalizeRsn newName) with
  | some newPlayerId => mergeNewPlayer naming playerId newPlayerId newName
  | none => return (0, 0, none)

def changeDisplayName (nameChange : NameChangeQueryResult) (now : ℤ) :
    Tx Custom Own (Option NameChangeUpdate) := do
  modify fun db => { db with
    players := db.players.modify nameChange.playerId fun p =>
      { p with username := nameChange.newName } }
  updateNameChange nameChange.id fun nc =>
    { nc with status := .accepted, processedAt := some now, effectiveFrom := now }
  return some (.renamed nameChange.playerId nameChange.oldName nameChange.newName)

/-- Gives the player its new name, and what the record had that had it before. -/
def takeName (answers : Answers) (nameChange : NameChangeQueryResult)
    (newExperience : Option PlayerExperience) : Tx Custom Own (Option NameChangeUpdate) := do
  let (migratedDocuments, challengesUpdated, deletedPlayerId) ←
    absorbNewPlayer naming nameChange.playerId nameChange.newName
  if answers.activeAfter then
    throw (.playerInActiveChallenge nameChange.id)
  renamePlayer naming nameChange.playerId nameChange.newName challengesUpdated
  match newExperience with
  | some experience => setExperience nameChange.playerId experience
  | none => pure ()
  acceptNameChange nameChange.id answers.now migratedDocuments
  match deletedPlayerId with
  | some deletedPlayerId =>
    return some (.merged deletedPlayerId nameChange.playerId nameChange.oldName nameChange.newName)
  | none => return some (.renamed nameChange.playerId nameChange.oldName nameChange.newName)

def processStandardNameChange (answers : Answers) (nameChange : NameChangeQueryResult) :
    Tx Custom Own (Option NameChangeUpdate) := do
  if naming.normalizeRsn nameChange.oldName = naming.normalizeRsn nameChange.newName then
    changeDisplayName nameChange answers.now
  else if answers.activeBefore then
    throw (.playerInActiveChallenge nameChange.id)
  else
    match answers.hiscores with
    | none => return none
    | some (oldExperience, newExperience) =>
      let status := checkHiscores nameChange.experience oldExperience newExperience
      if status ≠ .pending ∧ !nameChange.skipChecks then
        updateNameChange nameChange.id fun nc =>
          { nc with status := status, processedAt := some answers.now }
        return none
      else takeName naming answers nameChange newExperience

def findNameChange (db : Accounts Custom Own) (changeId : ℕ) : Option NameChangeQueryResult := do
  let nc ← db.nameChanges.get changeId
  let playerId ← nc.playerId
  if db.players.has playerId then
    some ⟨changeId, nc.oldName, nc.newName, playerId, nc.skipChecks, nc.kind,
      (db.experience.get playerId).getD fun _ => 0⟩
  else none

def processNameChange (answers : Answers) (changeId : ℕ) :
    Tx Custom Own (Option NameChangeUpdate) := do
  let db ← get
  match findNameChange db changeId with
  | none => return none
  | some nameChange =>
    if nameChange.kind = .historic then
      throw (.other
        "historic name changes should not be processed via processNameChange")
    else processStandardNameChange naming answers nameChange

end

end Blert.Names

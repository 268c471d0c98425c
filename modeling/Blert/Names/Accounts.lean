import Blert.Names.Chain

/-!
Player accounts.

Besides the challenges, an account has API keys and name changes. When a player is deleted
everything that references the player goes too. A transaction that fails leaves no changes.
-/

namespace Blert.Names

open Lifecycle Processing

inductive Skill
  | overall | attack | defence | strength | hitpoints | ranged | prayer | magic

abbrev PlayerExperience := Skill → ℤ

structure ApiKey where
  playerId : ℕ
  lastUsed : Option ℤ

inductive NameChangeStatus
  | pending | accepted | oldStillInUse | newDoesNotExist | decreasedExperience | deferred | failed
  deriving DecidableEq

inductive NameChangeKind
  | standard | historic
  deriving DecidableEq

structure NameChange where
  oldName : String
  newName : String
  playerId : Option ℕ
  status : NameChangeStatus
  kind : NameChangeKind
  skipChecks : Bool
  effectiveFrom : ℤ
  sequenceId : Option String
  hiddenFromProfile : Bool
  processedAt : Option ℤ
  migratedDocuments : ℕ

structure Accounts (Custom Own : Type) extends Database Custom Own where
  /-- The experience columns of the players. -/
  experience : InsertionMap ℕ PlayerExperience
  apiKeys : InsertionMap ℕ ApiKey
  nameChanges : InsertionMap ℕ NameChange

inductive NameError
  | database (message : String)
  | playerInActiveChallenge (changeId : ℕ)
  | unownedApiKeys (count : ℕ)
  | other (message : String)

def duplicateKey (constraint : String) : NameError :=
  .database ("duplicate key value violates unique constraint " ++ constraint)

abbrev Tx (Custom Own α : Type) := StateT (Accounts Custom Own) (Except NameError) α

section

variable {Custom Own : Type}

def freshId {ν : Type} (m : InsertionMap ℕ ν) : ℕ := m.keys.foldr max 0 + 1

namespace Accounts

variable (db : Accounts Custom Own)

def startTimes (challengeId : ℕ) : List ℤ :=
  (db.challengesById challengeId).map fun e => (e.2.startTime : ℤ)

def participations (playerId : ℕ) : List ((ℕ × ℕ) × ChallengePlayer) :=
  db.challengePlayers.entries.filter (·.2.playerId = playerId)

def startedParticipations (playerId : ℕ) : List (((ℕ × ℕ) × ChallengePlayer) × ℤ) :=
  (db.participations playerId).flatMap fun e => (db.startTimes e.1.1).map (e, ·)

/-- Gives the participations of a player in some challenges to another one. -/
def moveParticipations (targetId sourceId : ℕ) (challengeIds : List ℕ) : Accounts Custom Own :=
  { db with
    challengePlayers := db.challengePlayers.mapValues fun key row =>
      if row.playerId = sourceId ∧ key.1 ∈ challengeIds then { row with playerId := targetId }
      else row }

/-- Changes the count of a player's recordings. -/
def addRecordings (playerId : ℕ) (n : ℤ) : Accounts Custom Own :=
  { db with
    players := db.players.modify playerId fun p =>
      { p with totalRecordings := p.totalRecordings + n } }

/-- Deletes a player with everything that references it. -/
def deletePlayer (id : ℕ) : Accounts Custom Own :=
  { db with
    players := db.players.erase id
    experience := db.experience.erase id
    challengePlayers := db.challengePlayers.filter fun _ row => row.playerId ≠ id
    playerStats := db.playerStats.filter fun key _ => key.1 ≠ id
    personalBestHistory := db.personalBestHistory.filter fun _ row => row.playerId ≠ id
    apiKeys := db.apiKeys.filter fun _ row => row.playerId ≠ id
    nameChanges := db.nameChanges.filter fun _ row => row.playerId ≠ some id }

/-- Whether a player other than one has a name that is not a zombie's. -/
def nameTaken (id : ℕ) (normalizedUsername : String) : Bool :=
  !isZombie normalizedUsername &&
    db.players.entries.any fun e => decide (e.1 ≠ id) && e.2.normalizedUsername = normalizedUsername

end Accounts

def playerNamed (db : Accounts Custom Own) (normalizedUsername : String) : Option ℕ :=
  (db.players.entries.find? (·.2.normalizedUsername = normalizedUsername)).map Prod.fst

def renamePlayer (naming : Naming) (id : ℕ) (username : String) (addedRecordings : ℤ) :
    Tx Custom Own Unit := do
  let db ← get
  let normalized := naming.normalizeRsn username
  if db.players.has id && db.nameTaken id normalized then
    throw (duplicateKey "uix_players_username")
  set { db with
    players := db.players.modify id fun p =>
      { p with
        username := username
        normalizedUsername := normalized
        totalRecordings := p.totalRecordings + addedRecordings } }

def insertPlayer (naming : Naming) (username : String) (totalRecordings : ℤ) :
    Tx Custom Own ℕ := do
  let db ← get
  let normalized := naming.normalizeRsn username
  let id := freshId db.players
  if db.nameTaken id normalized then
    throw (duplicateKey "uix_players_username")
  set { db with
    players := db.players.set id ⟨username, normalized, totalRecordings⟩
    experience := db.experience.set id fun _ => 0 }
  return id

def setExperience (id : ℕ) (experience : PlayerExperience) : Tx Custom Own Unit :=
  modify fun db => { db with experience := db.experience.modify id fun _ => experience }

def updateNameChange (id : ℕ) (f : NameChange → NameChange) : Tx Custom Own Unit :=
  modify fun db => { db with nameChanges := db.nameChanges.modify id f }

/-! ### Participations -/

def Accounts.Referential (db : Accounts Custom Own) : Prop :=
  ∀ key row, db.challengePlayers.get key = some row → ∃ c, db.challengesById key.1 = [c]

lemma mem_participations {db : Accounts Custom Own} {playerId : ℕ}
    {e : (ℕ × ℕ) × ChallengePlayer} : e ∈ db.participations playerId ↔
      db.challengePlayers.get e.1 = some e.2 ∧ e.2.playerId = playerId := by
  rw [Accounts.participations, List.mem_filter, InsertionMap.get_eq_some]
  simp

lemma mem_startedParticipations {db : Accounts Custom Own} {playerId : ℕ}
    {e : ((ℕ × ℕ) × ChallengePlayer) × ℤ} : e ∈ db.startedParticipations playerId ↔
      e.1 ∈ db.participations playerId ∧ e.2 ∈ db.startTimes e.1.1.1 := by
  obtain ⟨e, t⟩ := e
  rw [Accounts.startedParticipations, List.mem_flatMap]
  constructor
  · rintro ⟨e', he', ht⟩
    obtain ⟨t', ht', heq⟩ := List.mem_map.mp ht
    cases heq
    exact ⟨he', ht'⟩
  · rintro ⟨he, ht⟩
    exact ⟨e, he, List.mem_map.mpr ⟨t, ht, rfl⟩⟩

lemma Accounts.Referential.startTimes {db : Accounts Custom Own} (h : db.Referential)
    {key : ℕ × ℕ} {row : ChallengePlayer} (hget : db.challengePlayers.get key = some row) :
    ∃ t, db.startTimes key.1 = [t] := by
  obtain ⟨c, hc⟩ := h key row hget
  exact ⟨_, congrArg (List.map _) hc⟩

end

end Blert.Names

import Blert.Optimistic
import Blert.Processing.Session
import Blert.Redis.Store

/-!
What the challenge manager keeps in Redis, key by key.

A challenge is a hash of fields that are set and deleted one by one, so that a hash may hold some of
them only. The clients of a challenge and the timeouts of all challenges are hashes too, with an
entry for each client and each challenge.
-/

namespace Blert.Manager

open Optimistic Lifecycle Processing Redis

inductive LifecycleState
  | initializing | active | cleanup
  deriving DecidableEq

inductive TimeoutState
  | none | stageEnd | challengeEnd | cleanup
  deriving DecidableEq

structure ChallengeTimeout where
  timestamp : ℕ
  /-- How often a cleanup may still be put off because clients are connected. -/
  maxRetryAttempts : ℕ
  retryIntervalMs : ℕ
  deriving DecidableEq

structure PlayerInfo where
  id : ℤ
  gear : ℕ
  deriving DecidableEq

/-! ### Challenges -/

structure ChallengeHash (Custom : Type) where
  id : Option ℤ := none
  sessionId : Option ℤ := none
  uuid : Option Uuid := none
  challengeType : Option ChallengeType := none
  mode : Option ChallengeMode := none
  stage : Option Stage := none
  stageAttempt : Option ℕ := none
  status : Option ChallengeStatus := none
  stageStatus : Option StageStatus := none
  party : Option (List String) := none
  players : Option (List PlayerInfo) := none
  totalDeaths : Option ℕ := none
  challengeTicks : Option ℕ := none
  state : Option LifecycleState := none
  reportedChallengeTicks : Option ℕ := none
  reportedOverallTicks : Option ℕ := none
  timeoutState : Option TimeoutState := none
  processingStage : Option ℕ := none
  customData : Option Custom := none
  partyChangedMidChallenge : Option Bool := none
  deriving DecidableEq

/-! ### Clients -/

structure ConnectingClient where
  userId : UserId
  clientId : ClientId
  sessionToken : SessionToken
  pluginVersion : String
  runeLiteVersion : String
  deriving DecidableEq

structure StageCompletion where
  stage : Stage
  attempt : Option ℕ
  deriving DecidableEq

structure ChallengeClient extends ConnectingClient where
  type : RecordingType
  active : Bool
  stage : Stage
  stageAttempt : Option ℕ
  stageStatus : StageStatus
  lastCompleted : StageCompletion
  deriving DecidableEq

/-! ### Keys -/

inductive Key
  | challenge (uuid : Uuid)
  | clients (uuid : Uuid)
  | processed (uuid : Uuid)
  | streams (uuid : Uuid)
  | stream (uuid : Uuid) (stage : StageAttempt)
  | timeouts
  | clientChallenge (clientId : ClientId)
  /-- The challenges of a party, whose names hold no hyphens and so can be told apart. -/
  | party (challengeType : ChallengeType) (names : List String)
  | session (challengeType : ChallengeType) (names : List String)
  | player (name : String)
  deriving DecidableEq

@[reducible] def Val (Custom : Type) : Key → Type
  | .challenge _ => ChallengeHash Custom
  | .clients _ => OrdMap ClientId ChallengeClient
  | .processed _ => List StageAttempt
  | .streams _ => List StageAttempt
  | .stream _ _ => List String
  | .timeouts => OrdMap Uuid ChallengeTimeout
  | .clientChallenge _ => Option Uuid
  | .party _ _ => List Uuid
  | .session _ _ => Option ℤ
  | .player _ => Option Uuid

instance {Custom : Type} [DecidableEq Custom] : ∀ k, DecidableEq (Val Custom k)
  | .challenge _ => inferInstanceAs (DecidableEq (ChallengeHash Custom))
  | .clients _ => inferInstanceAs (DecidableEq (OrdMap ClientId ChallengeClient))
  | .processed _ => inferInstanceAs (DecidableEq (List StageAttempt))
  | .streams _ => inferInstanceAs (DecidableEq (List StageAttempt))
  | .stream _ _ => inferInstanceAs (DecidableEq (List String))
  | .timeouts => inferInstanceAs (DecidableEq (OrdMap Uuid ChallengeTimeout))
  | .clientChallenge _ => inferInstanceAs (DecidableEq (Option Uuid))
  | .party _ _ => inferInstanceAs (DecidableEq (List Uuid))
  | .session _ _ => inferInstanceAs (DecidableEq (Option ℤ))
  | .player _ => inferInstanceAs (DecidableEq (Option Uuid))

/-- The members of a party in the order and the form in which keys name them. -/
def partyMembers (naming : Naming) (party : List String) : List String :=
  (party.insertionSort (· ≤ ·)).map naming.normalizeRsn

def Database.empty {Custom : Type} : ∀ k, Val Custom k
  | .challenge _ => {}
  | .clients _ => ∅
  | .processed _ => ([] : List StageAttempt)
  | .streams _ => ([] : List StageAttempt)
  | .stream _ _ => ([] : List String)
  | .timeouts => ∅
  | .clientChallenge _ => none
  | .party _ _ => ([] : List Uuid)
  | .session _ _ => none
  | .player _ => none

/-! ### Errors -/

inductive Failure
  | unsupportedMode
  | createFailed
  | challengeGone (uuid : Uuid)
  | joinGaveUp (uuid : Uuid) (clientId : ClientId) (retries : ℕ)
  | alreadyInChallenge
  | challengeMissing
  /-- No challenge is there to register a recorder for. -/
  | recorderFailed
  /-- A challenge lacks fields that are read. -/
  | incompleteChallenge

/-! ### Operations -/

variable {Custom : Type}

abbrev Database (Custom : Type) := Optimistic.Store (Val Custom)

abbrev Transaction (Custom α : Type) := Txn (Val Custom) Failure α

abbrev Writes (Custom : Type) := List (Write (Val Custom))

def get (k : Key) : Transaction Custom (Val Custom k) := Txn.get k

def getChallengeFields (uuid : Uuid) : Transaction Custom (ChallengeHash Custom) :=
  get (.challenge uuid)

def getChallengeClients (uuid : Uuid) : Transaction Custom (OrdMap ClientId ChallengeClient) :=
  get (.clients uuid)

def getChallengeClient (uuid : Uuid) (clientId : ClientId) :
    Transaction Custom (Option ChallengeClient) := do
  let clients ← getChallengeClients uuid
  pure (clients.get clientId)

def getLastChallengeForParty (naming : Naming) (type : ChallengeType) (party : List String) :
    Transaction Custom (Option Uuid) := do
  let challenges : List Uuid ← get (.party type (partyMembers naming party))
  pure challenges.getLast?

def getSessionId (naming : Naming) (type : ChallengeType) (party : List String) :
    Transaction Custom (Option ℤ) :=
  get (.session type (partyMembers naming party))

section Eval

variable {s : Database Custom}

@[simp] lemma eval_getChallengeFields (uuid : Uuid) :
    (getChallengeFields uuid).eval s = .ok (s (.challenge uuid), []) := rfl

@[simp] lemma eval_getLastChallengeForParty (naming : Naming) (type : ChallengeType)
    (party : List String) : (getLastChallengeForParty naming type party).eval s =
      .ok (List.getLast? (s (.party type (partyMembers naming party))), []) := rfl

@[simp] lemma eval_getSessionId (naming : Naming) (type : ChallengeType) (party : List String) :
    (getSessionId naming type party).eval s =
      .ok (s (.session type (partyMembers naming party)), []) := rfl

end Eval

/-- Sets fields of a challenge, and deletes those that become null. -/
def setChallengeFields (uuid : Uuid) (fields : ChallengeHash Custom → ChallengeHash Custom) :
    Writes Custom :=
  [⟨.challenge uuid, fields⟩]

def setChallengeClient (uuid : Uuid) (clientId : ClientId) (client : ChallengeClient) :
    Writes Custom :=
  [⟨.clients uuid, fun clients => OrdMap.insert clients clientId client⟩,
   ⟨.clientChallenge clientId, fun _ => some uuid⟩]

def deleteStageStream (uuid : Uuid) (stage : StageAttempt) : Writes Custom :=
  [⟨.stream uuid stage, fun _ => ([] : List String)⟩]

def clearChallengeTimeout (uuid : Uuid) : Writes Custom :=
  [⟨.challenge uuid, fun h => { h with timeoutState := some .none }⟩,
   ⟨.timeouts, fun timeouts => OrdMap.erase timeouts uuid⟩]

def setSessionChallenge (naming : Naming) (sessionId : ℤ) (type : ChallengeType)
    (party : List String) : Writes Custom :=
  [⟨.session type (partyMembers naming party), fun _ => some sessionId⟩]

/-- Prolongs the life of a session's key, which the value under it does not show. -/
def refreshSessionDuration (naming : Naming) (type : ChallengeType) (party : List String) :
    Writes Custom :=
  [⟨.session type (partyMembers naming party), fun session => session⟩]

def setPlayerActiveChallenge (naming : Naming) (displayName : String) (uuid : Uuid) :
    Writes Custom :=
  [⟨.player (naming.normalizeRsn displayName), fun _ => some uuid⟩]

def addChallengeForParty (naming : Naming) (type : ChallengeType) (party : List String)
    (uuid : Uuid) : Writes Custom :=
  [⟨.party type (partyMembers naming party), fun challenges => List.append challenges [uuid]⟩]

def deleteLastChallengeForParty (naming : Naming) (type : ChallengeType) (party : List String) :
    Writes Custom :=
  [⟨.party type (partyMembers naming party), fun challenges => List.dropLast challenges⟩]

/-- Deletes the keys of those players that are still in the challenge. -/
def deletePlayers (naming : Naming) (uuid : Uuid) : List String → Transaction Custom Unit
  | [] => pure ()
  | player :: players => do
    let current : Option Uuid ← get (.player (naming.normalizeRsn player))
    if current = some uuid then
      Txn.put [⟨.player (naming.normalizeRsn player), fun _ => (none : Option Uuid)⟩]
      deletePlayers naming uuid players
    else deletePlayers naming uuid players

def deleteChallengeKeys (uuid : Uuid) : Writes Custom :=
  [⟨.challenge uuid, fun _ => ({} : ChallengeHash Custom)⟩,
   ⟨.clients uuid, fun _ => (∅ : OrdMap ClientId ChallengeClient)⟩,
   ⟨.processed uuid, fun _ => ([] : List StageAttempt)⟩,
   ⟨.timeouts, fun timeouts => OrdMap.erase timeouts uuid⟩]

/-- Takes a challenge off the lists of its party and its players, if those are known. -/
def unlistChallenge (naming : Naming) (uuid : Uuid) (type : Option ChallengeType) :
    Option (List String) → Transaction Custom Unit
  | none => pure ()
  | some party => do
    Txn.put (type.toList.map fun type =>
      ⟨.party type (partyMembers naming party), fun challenges => List.erase challenges uuid⟩)
    deletePlayers naming uuid party

def deleteChallengeData (naming : Naming) (uuid : Uuid) (type : Option ChallengeType)
    (party : Option (List String)) : Transaction Custom Unit := do
  Txn.put (deleteChallengeKeys uuid)
  let streams : List StageAttempt ← get (.streams uuid)
  Txn.put (streams.flatMap (deleteStageStream uuid))
  Txn.put [⟨.streams uuid, fun _ => ([] : List StageAttempt)⟩]
  unlistChallenge naming uuid type party

/-! ### Deletion -/

section Deletion

variable {naming : Naming} {s : Database Custom}

lemma eval_deletePlayers (naming : Naming) (uuid : Uuid) (players : List String) :
    ∃ ws, (deletePlayers naming uuid players).eval s = .ok ((), ws) ∧
      ∀ w ∈ ws, ∃ name, w = ⟨.player name, fun _ => (none : Option Uuid)⟩ := by
  induction players with
  | nil => exact ⟨[], rfl, nofun⟩
  | cons player players ih =>
    obtain ⟨ws, heval, hws⟩ := ih
    have hget : (get (.player (naming.normalizeRsn player)) :
        Transaction Custom (Option Uuid)).eval s =
      .ok (s (.player (naming.normalizeRsn player)), []) := rfl
    simp only [deletePlayers, Txn.eval_bind, hget]
    split_ifs
    · simp only [Txn.eval_bind, Txn.eval_put, heval, Except.map]
      exact ⟨_, rfl, by simpa using hws⟩
    · exact ⟨ws, by simp [heval, Except.map], hws⟩

lemma applyAll_players {ws : Writes Custom}
    (h : ∀ w ∈ ws, ∃ name, w = ⟨.player name, fun _ => (none : Option Uuid)⟩) (name : String)
    (s : Database Custom) :
    applyAll ws s (.player name) = s (.player name) ∨
      applyAll ws s (.player name) = (none : Option Uuid) := by
  induction ws generalizing s with
  | nil => exact Or.inl rfl
  | cons w ws ih =>
    obtain ⟨n, rfl⟩ := h w List.mem_cons_self
    rw [applyAll_cons]
    rcases ih (fun w hw => h w (List.mem_cons_of_mem _ hw))
      (Write.apply ⟨.player n, fun _ => (none : Option Uuid)⟩ s) with heq | heq
    · rw [heq]
      by_cases hn : name = n
      · subst hn
        exact Or.inr (by simp [Write.apply])
      · exact Or.inl (by simp [Write.apply, hn])
    · exact Or.inr heq

lemma eval_unlistChallenge (naming : Naming) (uuid : Uuid) (type : Option ChallengeType)
    (party : Option (List String)) :
    ∃ ws, (unlistChallenge naming uuid type party).eval s = .ok ((), ws) ∧ ∀ s',
      (∀ k, (∀ name, k ≠ .player name) → (∀ ty names, k ≠ .party ty names) →
        applyAll ws s' k = s' k) ∧
      (∀ name, applyAll ws s' (.player name) = s' (.player name) ∨
        applyAll ws s' (.player name) = (none : Option Uuid)) ∧
      ∀ ty names, applyAll ws s' (.party ty names) =
        if type = some ty ∧ party.map (partyMembers naming) = some names
        then List.erase (s' (.party ty names)) uuid else s' (.party ty names) := by
  cases party with
  | none => exact ⟨[], rfl, fun s' => ⟨fun _ _ _ => rfl, fun _ => Or.inl rfl, by simp⟩⟩
  | some party =>
    obtain ⟨players, heval, hplayers⟩ := eval_deletePlayers (s := s) naming uuid party
    have hkeep : ∀ k, (∀ name, k ≠ .player name) → ∀ s', applyAll players s' k = s' k :=
      fun k hk s' => applyAll_of_ne (fun w hw => by
        obtain ⟨name, rfl⟩ := hplayers w hw
        exact (hk name).symm) s'
    cases type with
    | none =>
      refine ⟨players, by simp [unlistChallenge, Txn.eval_bind, heval, Except.map], fun s' =>
        ⟨fun k hk _ => hkeep k hk s', fun name => applyAll_players hplayers name s', ?_⟩⟩
      intro ty names
      simpa using hkeep (.party ty names) (by simp) s'
    | some type =>
      simp only [unlistChallenge, Txn.eval_bind, Txn.eval_put, heval, Except.map]
      refine ⟨_, rfl, fun s' => ⟨fun k hplayer hparty => ?_, fun name => ?_, fun ty names => ?_⟩⟩
      all_goals simp only [applyAll_append, Option.toList_some, List.map_cons, List.map_nil,
        applyAll_cons, applyAll_nil]
      · rw [hkeep k hplayer]
        exact Write.apply_of_ne (hparty _ _) _
      · rcases applyAll_players hplayers name _ with h | h
        · exact Or.inl (by rw [h]; simp [Write.apply])
        · exact Or.inr h
      · rw [hkeep _ (by simp)]
        by_cases h : type = ty ∧ partyMembers naming party = names
        · obtain ⟨rfl, rfl⟩ := h
          simp [Write.apply]
        · have hne : Key.party ty names ≠ .party type (partyMembers naming party) := by
            intro heq
            cases heq
            exact h ⟨rfl, rfl⟩
          simp [Write.apply, hne, h]

lemma applyAll_streams (uuid : Uuid) (stages : List StageAttempt) (stage : StageAttempt)
    (s : Database Custom) :
    applyAll (stages.flatMap (deleteStageStream uuid)) s (.stream uuid stage) =
      if stage ∈ stages then ([] : List String) else s (.stream uuid stage) := by
  induction stages generalizing s with
  | nil => rfl
  | cons st stages ih =>
    rw [List.flatMap_cons, applyAll_append, ih]
    by_cases hst : stage = st
    · subst hst
      simp [deleteStageStream, Write.apply]
    · simp [deleteStageStream, Write.apply, hst]

structure Deletes (naming : Naming) (uuid : Uuid) (type : Option ChallengeType)
    (party : Option (List String)) (s s' : Database Custom) : Prop where
  challenge : s' (.challenge uuid) = ({} : ChallengeHash Custom)
  clients : s' (.clients uuid) = (∅ : OrdMap ClientId ChallengeClient)
  processed : s' (.processed uuid) = ([] : List StageAttempt)
  streams : s' (.streams uuid) = ([] : List StageAttempt)
  timeouts : s' .timeouts = OrdMap.erase (s .timeouts) uuid
  stream : ∀ stage, s' (.stream uuid stage) =
    if stage ∈ (s (.streams uuid) : List StageAttempt) then ([] : List String)
    else s (.stream uuid stage)
  list : ∀ ty names, s' (.party ty names) =
    if type = some ty ∧ party.map (partyMembers naming) = some names
    then List.erase (s (.party ty names)) uuid else s (.party ty names)
  player : ∀ name, s' (.player name) = s (.player name) ∨ s' (.player name) = (none : Option Uuid)
  client : ∀ c, s' (.clientChallenge c) = s (.clientChallenge c)
  others : ∀ v, v ≠ uuid → s' (.challenge v) = s (.challenge v) ∧
    s' (.clients v) = s (.clients v) ∧ s' (.processed v) = s (.processed v) ∧
    s' (.streams v) = s (.streams v) ∧ ∀ stage, s' (.stream v stage) = s (.stream v stage)

lemma eval_deleteChallengeData (naming : Naming) (uuid : Uuid) (type : Option ChallengeType)
    (party : Option (List String)) :
    ∃ ws, (deleteChallengeData naming uuid type party).eval s = .ok ((), ws) ∧
      Deletes naming uuid type party s (applyAll ws s) := by
  have hstreams : (get (.streams uuid) : Transaction Custom (List StageAttempt)).eval s =
    .ok (s (.streams uuid), []) := rfl
  obtain ⟨last, heval, hlast⟩ :=
    eval_unlistChallenge (s := s) naming uuid type party
  have hstream : ∀ (stages : List StageAttempt) k (s' : Database Custom),
      (∀ stage, k ≠ .stream uuid stage) →
      applyAll (stages.flatMap (deleteStageStream uuid)) s' k = s' k := by
    intro stages k s' hk
    refine applyAll_of_ne (fun w hw => ?_) s'
    obtain ⟨stage, -, hw⟩ := List.mem_flatMap.mp hw
    rw [deleteStageStream, List.mem_singleton] at hw
    subst hw
    exact (hk stage).symm
  simp only [deleteChallengeData, Txn.eval_bind, Txn.eval_put, hstreams, Except.map, heval]
  refine ⟨_, rfl, ?_⟩
  constructor
  all_goals simp only [applyAll_append, List.nil_append]
  · simp [hlast, hstream, deleteChallengeKeys, Write.apply]
  · simp [hlast, hstream, deleteChallengeKeys, Write.apply]
  · simp [hlast, hstream, deleteChallengeKeys, Write.apply]
  · simp [hlast, deleteChallengeKeys, Write.apply]
  · simp [hlast, hstream, deleteChallengeKeys, Write.apply]
  · simp [hlast, applyAll_streams, deleteChallengeKeys, Write.apply]
  · intro ty names
    simp [hlast, hstream, deleteChallengeKeys, Write.apply]
  · intro name
    rcases (hlast _).2.1 name with h | h
    · exact Or.inl (h.trans (by simp [hstream, deleteChallengeKeys, Write.apply]))
    · exact Or.inr h
  · simp [hlast, hstream, deleteChallengeKeys, Write.apply]
  · intro v hv
    simp [hlast, hstream, deleteChallengeKeys, Write.apply, hv]

lemma total_deletePlayers (uuid : Uuid) (players : List String) :
    (deletePlayers naming uuid players : Transaction Custom Unit).Total := by
  induction players with
  | nil => trivial
  | cons player players ih =>
    refine (Txn.total_get _).bind fun current => ?_
    split_ifs
    · exact (Txn.total_put _).bind fun _ => ih
    · exact ih

lemma total_deleteChallengeData (uuid : Uuid) (type : Option ChallengeType)
    (party : Option (List String)) :
    (deleteChallengeData naming uuid type party : Transaction Custom Unit).Total := by
  refine (Txn.total_put _).bind fun _ => (Txn.total_get _).bind fun _ =>
    (Txn.total_put _).bind fun _ => (Txn.total_put _).bind fun _ => ?_
  cases party with
  | none => trivial
  | some party => exact (Txn.total_put _).bind fun _ => total_deletePlayers uuid party

lemma writes_deleteChallengeData {uuid : Uuid} {type : Option ChallengeType}
    {party : Option (List String)} {reads : Txn.Reads (Val Custom)} {ws : Writes Custom} {u : Unit}
    (h : (deleteChallengeData naming uuid type party).Leads reads ws (.pure u)) : ws ≠ [] :=
  Txn.leads_put_bind h (by simp [deleteChallengeKeys])

end Deletion

end Blert.Manager

import Blert.Manager.Store

/-!
Requests to start a challenge.

A client creates a challenge for its party or joins the one the party has in progress. Which of the
two it does is decided in one transaction, in which a creator also lists its challenge under the
party and marks it as initializing. Others that find the challenge so wait until it is active.
-/

namespace Blert.Manager

open Optimistic Lifecycle Processing

structure StartRequest where
  client : ConnectingClient
  type : ChallengeType
  mode : ChallengeMode
  stage : Stage
  party : List String
  recordingType : RecordingType
  deriving DecidableEq

structure ChallengeStatusResponse where
  uuid : Uuid
  mode : ChallengeMode
  stage : Stage
  stageAttempt : Option ℕ

/-- The action a client should take when starting a challenge. -/
inductive StartAction
  | create | immediateJoin | deferredJoin

inductive StartActionDecision
  | create (uuid : Uuid) (sessionId : Option ℤ)
  | deferredJoin (uuid : Uuid)
  | immediateJoin (uuid : Uuid) (response : ChallengeStatusResponse)

def DEFERRED_JOIN_MAX_RETRIES : ℕ := 10

section Transactions

variable {Custom : Type} (naming : Naming)

/-! ### The decision -/

def ConnectingClient.entering (client : ConnectingClient) (recordingType : RecordingType)
    (stage : Stage) (stageAttempt : Option ℕ) : Option ChallengeClient → ChallengeClient
  | some existing =>
    -- A client that rejoins keeps the last stage it completed.
    { existing with
      stage, stageAttempt
      stageStatus := .entered
      sessionToken := client.sessionToken
      active := true
      pluginVersion := client.pluginVersion
      runeLiteVersion := client.runeLiteVersion }
  | none =>
    { client with
      type := recordingType
      active := true
      stage, stageAttempt
      stageStatus := .entered
      lastCompleted := { stage := Stage.unknownStage, attempt := none } }

def createChallengeClient (challengeUuid : Uuid) (client : ConnectingClient)
    (recordingType : RecordingType) (stage : Stage) (stageAttempt : Option ℕ) :
    Transaction Custom ChallengeClient := do
  let existing ← getChallengeClient challengeUuid client.clientId
  pure (client.entering recordingType stage stageAttempt existing)

def ChallengeHash.found (h : ChallengeHash Custom) :
    Option (LifecycleState × ChallengeStatus × Stage) :=
  match h.state, h.status, h.stage with
  | some state, some status, some stage =>
    if state = .cleanup then none else some (state, status, stage)
  | _, _, _ => none

lemma ChallengeHash.state_of_found {h : ChallengeHash Custom} {state : LifecycleState}
    {x : ChallengeStatus × Stage} (hfound : h.found = some (state, x)) : h.state = some state := by
  unfold found at hfound
  split at hfound
  · rename_i hstate _ _
    split_ifs at hfound
    cases hfound
    exact hstate
  · cases hfound

/-- What a client does about a challenge of its party that is there. -/
def startAction (stage : Stage) (timeoutState : Option TimeoutState) :
    LifecycleState × ChallengeStatus × Stage → StartAction
  | (state, status, lastStage) =>
    if status = .completed ∨ timeoutState = some .challengeEnd then .create
    else if stage ≠ Stage.unknownStage ∧ stage < lastStage then .create
    else if state = .initializing then .deferredJoin
    else .immediateJoin

/-- The minimum for other clients to recognize that a challenge is initializing. -/
def initializing (stage : Stage) (h : ChallengeHash Custom) : ChallengeHash Custom :=
  { h with
    state := some .initializing
    status := some .inProgress
    stage := some stage
    timeoutState := some .none }

/-- Joins the last challenge of the party, unless a new one is to be created. -/
def joinLastChallenge (req : StartRequest) :
    Option Uuid → Transaction Custom (Option StartActionDecision)
  | none => pure none
  | some last => do
    let fields ← getChallengeFields last
    match fields.found with
    | none =>
      Txn.put (deleteLastChallengeForParty naming req.type req.party)
      pure none
    | some (state, status, lastStage) =>
      match startAction req.stage fields.timeoutState (state, status, lastStage) with
      | .create => pure none
      | .deferredJoin => pure (some (.deferredJoin last))
      | .immediateJoin =>
        let challengeClient ← createChallengeClient last req.client req.recordingType lastStage
          fields.stageAttempt
        Txn.put (setChallengeClient last req.client.clientId challengeClient)
        Txn.put (refreshSessionDuration naming req.type req.party)
        pure (some (.immediateJoin last
          { uuid := last
            mode := fields.mode.getD .noMode
            stage := lastStage
            stageAttempt := fields.stageAttempt }))

/-- Lists the challenge to be created under its party, with the minimum of its fields. -/
def addChallenge (req : StartRequest) (challengeUuid : Uuid) :
    Transaction Custom StartActionDecision := do
  Txn.put (addChallengeForParty naming req.type req.party challengeUuid)
  Txn.put (setChallengeFields challengeUuid (initializing req.stage))
  let sessionId ← getSessionId naming req.type req.party
  pure (.create challengeUuid sessionId)

/-- A challenge that is joined while it is due for cleanup goes on. -/
def cancelCleanup (uuid : Uuid) (decision : StartActionDecision) :
    Transaction Custom StartActionDecision := do
  let fields ← getChallengeFields uuid
  if fields.timeoutState = some .cleanup then
    Txn.put (clearChallengeTimeout uuid)
    pure decision
  else pure decision

/-- Decides what a client does. The uuid is the one made up for the challenge it may create. -/
def determineStartAction (req : StartRequest) (challengeUuid : Uuid) :
    Transaction Custom StartActionDecision := do
  let lastChallengeForParty ← getLastChallengeForParty naming req.type req.party
  let decision ← joinLastChallenge naming req lastChallengeForParty
  match decision with
  | none => addChallenge naming req challengeUuid
  | some (.create uuid sessionId) => pure (.create uuid sessionId)
  | some (.deferredJoin uuid) => cancelCleanup uuid (.deferredJoin uuid)
  | some (.immediateJoin uuid response) => cancelCleanup uuid (.immediateJoin uuid response)

/-! ### Creation -/

/-- What the database made up for a new challenge. -/
structure Created (Custom : Type) where
  databaseId : ℤ
  sessionId : ℤ
  playerIds : List ℤ
  customData : Option Custom

/-- Sets the fields of a challenge to the state of its new processor, and makes it active. -/
def newChallengeState (req : StartRequest) (uuid : Uuid) (created : Created Custom)
    (h : ChallengeHash Custom) : ChallengeHash Custom :=
  { h with
    id := some created.databaseId
    sessionId := some created.sessionId
    uuid := some uuid
    challengeType := some req.type
    mode := some (if req.type = .inferno then .noMode else req.mode)
    stage := some req.stage
    stageAttempt := none
    status := some .inProgress
    stageStatus := some .entered
    party := some req.party
    players := some (created.playerIds.map fun id => { id, gear := 0 })
    totalDeaths := some 0
    challengeTicks := some 0
    reportedChallengeTicks := none
    reportedOverallTicks := none
    customData := created.customData
    partyChangedMidChallenge := some false
    state := some .active }

def activateChallenge (req : StartRequest) (uuid : Uuid) (created : Created Custom) :
    Transaction Custom Unit := do
  let challengeClient ← createChallengeClient uuid req.client req.recordingType req.stage none
  Txn.put (setChallengeFields uuid (newChallengeState req uuid created))
  Txn.put (setChallengeClient uuid req.client.clientId challengeClient)
  Txn.put (setSessionChallenge naming created.sessionId req.type req.party)
  Txn.put (req.party.flatMap fun player => setPlayerActiveChallenge naming player uuid)

/-! ### Waiting for a creation -/

/-- Joins a challenge if it is active already. -/
def deferredJoin (req : StartRequest) (uuid : Uuid) :
    Transaction Custom (Option ChallengeStatusResponse) := do
  let fields ← getChallengeFields uuid
  if fields.state = none ∨ fields.state = some .cleanup then .fail (.challengeGone uuid)
  else if fields.state ≠ some .active then pure none
  else
    let response : ChallengeStatusResponse :=
      { uuid
        mode := fields.mode.getD .noMode
        stage := fields.stage.getD Stage.unknownStage
        stageAttempt := fields.stageAttempt }
    let challengeClient ← createChallengeClient uuid req.client req.recordingType response.stage
      response.stageAttempt
    Txn.put (setChallengeClient uuid req.client.clientId challengeClient)
    pure (some response)

/-! ### What the transactions do -/

section Specs

variable {naming} {s : Database Custom} {req : StartRequest}

@[simp] lemma eval_createChallengeClient (uuid : Uuid) (client : ConnectingClient)
    (recordingType : RecordingType) (stage : Stage) (attempt : Option ℕ) :
    (createChallengeClient uuid client recordingType stage attempt).eval s =
      .ok (client.entering recordingType stage attempt
        (OrdMap.get (s (.clients uuid)) client.clientId), []) := rfl

def StartRequest.challenges (naming : Naming) (req : StartRequest) (s : Database Custom) :
    List Uuid :=
  s (.party req.type (partyMembers naming req.party))

/-- The last challenge of the party that a start would join. -/
def StartRequest.Creates (naming : Naming) (req : StartRequest) (s : Database Custom) : Prop :=
  ∀ last ∈ (req.challenges naming s).getLast?, ∀ x,
    ChallengeHash.found (s (.challenge last)) = some x →
      startAction req.stage (ChallengeHash.timeoutState (s (.challenge last))) x = .create

lemma eval_joinLastChallenge_none (h : req.Creates naming s) :
    ∃ ws, (joinLastChallenge naming req (req.challenges naming s).getLast?).eval s =
        .ok (none, ws) ∧
      (ws = [] ∨ ws = deleteLastChallengeForParty naming req.type req.party) := by
  cases hlast : (req.challenges naming s).getLast? with
  | none => exact ⟨[], rfl, Or.inl rfl⟩
  | some last =>
    cases hfound : ChallengeHash.found (s (.challenge last)) with
    | none => exact ⟨_, by simp [joinLastChallenge, Txn.eval_bind, hfound, Except.map], Or.inr rfl⟩
    | some x =>
      have hact := h last hlast x hfound
      exact ⟨[], by simp [joinLastChallenge, Txn.eval_bind, hfound, hact, Except.map], Or.inl rfl⟩

lemma eval_determine_create {uuid : Uuid} (h : req.Creates naming s) :
    ∃ sessionId ws listed, (determineStartAction naming req uuid).eval s =
        .ok (.create uuid sessionId, ws) ∧
      (∀ v ∈ listed, v ∈ req.challenges naming s) ∧
      req.challenges naming (applyAll ws s) = listed ++ [uuid] ∧
      applyAll ws s (.challenge uuid) = initializing req.stage (s (.challenge uuid)) ∧
      ∀ k, k ≠ .party req.type (partyMembers naming req.party) → k ≠ .challenge uuid →
        applyAll ws s k = s k := by
  obtain ⟨ws, heval, hws⟩ := eval_joinLastChallenge_none h
  unfold StartRequest.challenges at heval
  refine ⟨(s (.session req.type (partyMembers naming req.party)) : Option ℤ),
    ws ++ (addChallengeForParty naming req.type req.party uuid ++
      setChallengeFields uuid (initializing req.stage)),
    if ws = [] then req.challenges naming s else (req.challenges naming s).dropLast,
    ?_, fun v hv => ?_, ?_, ?_, fun k hparty hchallenge => ?_⟩
  · simp [determineStartAction, addChallenge, Txn.eval_bind, Except.map, heval]
  · split_ifs at hv
    · exact hv
    · exact List.dropLast_subset _ hv
  all_goals rw [applyAll_append, applyAll_append]
  · rcases hws with rfl | rfl <;>
      simp [StartRequest.challenges, addChallengeForParty, setChallengeFields,
        deleteLastChallengeForParty, Write.apply]
  · rcases hws with rfl | rfl <;>
      simp [addChallengeForParty, setChallengeFields, deleteLastChallengeForParty, Write.apply]
  · rcases hws with rfl | rfl <;>
      simp [addChallengeForParty, setChallengeFields, deleteLastChallengeForParty, Write.apply,
        hparty, hchallenge]

section Join

variable {uuid last : Uuid} {x : LifecycleState × ChallengeStatus × Stage}
  (hlast : (req.challenges naming s).getLast? = some last)
  (hfound : ChallengeHash.found (s (.challenge last)) = some x)
  (htimeout : ChallengeHash.timeoutState (s (.challenge last)) ≠ some .cleanup)

include hlast hfound htimeout

lemma eval_determine_join (hact : startAction req.stage
      (ChallengeHash.timeoutState (s (.challenge last))) x = .immediateJoin) :
    ∃ response client ws, (determineStartAction naming req uuid).eval s =
        .ok (.immediateJoin last response, ws) ∧ response.uuid = last ∧
      applyAll ws s = applyAll (setChallengeClient last req.client.clientId client) s := by
  unfold StartRequest.challenges at hlast
  have hrefresh : ∀ s : Database Custom,
      applyAll (refreshSessionDuration naming req.type req.party) s = s := fun s =>
    Function.update_eq_self _ _
  simp only [determineStartAction, joinLastChallenge, cancelCleanup, Txn.eval_bind, Except.map,
    hlast, hfound, hact, htimeout, eval_getLastChallengeForParty, eval_getChallengeFields,
    eval_createChallengeClient, Txn.eval_put, Txn.eval_pure, if_false]
  refine ⟨_, req.client.entering req.recordingType x.2.2
    (ChallengeHash.stageAttempt (s (.challenge last)))
    (OrdMap.get (s (.clients last)) req.client.clientId), _, rfl, rfl, ?_⟩
  simp [applyAll_append, hrefresh]

lemma eval_determine_wait (hact : startAction req.stage
      (ChallengeHash.timeoutState (s (.challenge last))) x = .deferredJoin) :
    (determineStartAction naming req uuid).eval s = .ok (.deferredJoin last, []) := by
  unfold StartRequest.challenges at hlast
  simp [determineStartAction, joinLastChallenge, cancelCleanup, Txn.eval_bind, Except.map, hlast,
    hfound, hact, htimeout]

end Join

lemma leads_joinLastChallenge {last : Option Uuid} {reads : Txn.Reads (Val Custom)}
    {ws : Writes Custom} {d : StartActionDecision}
    (h : (joinLastChallenge naming req last).Leads reads ws (.pure (some d))) :
    ∃ u hash x, last = some u ∧ (⟨.challenge u, hash⟩ : Σ k, Val Custom k) ∈ reads ∧
      ChallengeHash.found hash = some x ∧
      ((d = .deferredJoin u ∧
        startAction req.stage (ChallengeHash.timeoutState hash) x = .deferredJoin) ∨ ws ≠ []) := by
  cases last with
  | none => cases h.2.2
  | some u =>
    obtain ⟨hash, r₁, r₂, w₁, w₂, rfl, rfl, hget, hrest⟩ := Txn.leads_bind h
    obtain ⟨rfl, rfl⟩ := Txn.leads_get hget
    refine ⟨u, hash, ?_⟩
    cases hfound : hash.found with
    | none =>
      rw [hfound] at hrest
      obtain ⟨-, r₁, r₂, w₁, w₂, rfl, rfl, -, hrest⟩ := Txn.leads_bind hrest
      cases (Txn.leads_pure hrest).2.2
    | some x =>
      obtain ⟨state, status, lastStage⟩ := x
      refine ⟨_, rfl, List.mem_cons_self, rfl, ?_⟩
      rw [hfound] at hrest
      dsimp only at hrest
      split at hrest
      · cases (Txn.leads_pure hrest).2.2
      · rename_i hact
        exact Or.inl ⟨Option.some.inj (Txn.leads_pure hrest).2.2, hact⟩
      · obtain ⟨client, r₃, r₄, w₃, w₄, rfl, rfl, -, hrest⟩ := Txn.leads_bind hrest
        refine Or.inr (List.append_ne_nil_of_right_ne_nil _
          (List.append_ne_nil_of_right_ne_nil _ ?_))
        exact Txn.leads_put_bind hrest (by simp [setChallengeClient])

lemma leads_cancelCleanup {uuid : Uuid} {decision d : StartActionDecision}
    {reads : Txn.Reads (Val Custom)} {ws : Writes Custom}
    (h : (cancelCleanup uuid decision).Leads reads ws (.pure d)) : d = decision := by
  obtain ⟨fields, r₁, r₂, w₁, w₂, rfl, rfl, -, hrest⟩ := Txn.leads_bind h
  split_ifs at hrest
  · obtain ⟨-, r₃, r₄, w₃, w₄, rfl, rfl, -, hrest⟩ := Txn.leads_bind hrest
    exact (Txn.leads_pure hrest).2.2
  · exact (Txn.leads_pure hrest).2.2

/-- What a transaction decides that has written nothing: to wait for a challenge that it found
listed and initializing. -/
lemma waits_of_leads {uuid : Uuid} {reads : Txn.Reads (Val Custom)} {d : StartActionDecision}
    (h : (determineStartAction naming req uuid).Leads reads [] (.pure d)) :
    ∃ listed last hash x, d = .deferredJoin last ∧
      (⟨.party req.type (partyMembers naming req.party), listed⟩ : Σ k, Val Custom k) ∈ reads ∧
      List.getLast? (listed : List Uuid) = some last ∧
      (⟨.challenge last, hash⟩ : Σ k, Val Custom k) ∈ reads ∧
      ChallengeHash.found hash = some x ∧
      startAction req.stage (ChallengeHash.timeoutState hash) x = .deferredJoin := by
  obtain ⟨last, r₁, r₂, w₁, w₂, rfl, hnil, hlast, hrest⟩ := Txn.leads_bind h
  obtain ⟨rfl, rfl⟩ := List.append_eq_nil_iff.mp hnil.symm
  obtain ⟨listed, r₃, r₄, w₃, w₄, rfl, -, hget, hlisted⟩ := Txn.leads_bind hlast
  obtain ⟨rfl, rfl⟩ := Txn.leads_get hget
  obtain ⟨rfl, rfl, rfl⟩ := Txn.leads_pure hlisted
  obtain ⟨decision, r₅, r₆, w₅, w₆, rfl, hnil, hjoin, hrest⟩ := Txn.leads_bind hrest
  obtain ⟨rfl, rfl⟩ := List.append_eq_nil_iff.mp hnil.symm
  cases decision with
  | none =>
    -- A creation queues writes.
    exact absurd rfl (Txn.leads_put_bind hrest (by simp [addChallengeForParty]))
  | some decision =>
    obtain ⟨u, hash, x, hu, hmem, hfound, ⟨rfl, hact⟩ | hne⟩ := leads_joinLastChallenge hjoin
    · exact ⟨listed, u, hash, x, leads_cancelCleanup hrest, by simp, hu, by simp [hmem], hfound,
        hact⟩
    · exact absurd rfl hne

lemma total_determineStartAction (uuid : Uuid) :
    (determineStartAction naming req uuid : Transaction Custom StartActionDecision).Total := by
  have hcancel : ∀ uuid d,
      (cancelCleanup uuid d : Transaction Custom StartActionDecision).Total := by
    intro uuid d fields
    change Txn.Total (if _ then _ else _)
    split_ifs
    · exact (Txn.total_put _).bind fun _ => trivial
    · trivial
  have hjoin : ∀ last, Txn.Total (joinLastChallenge naming req last : Transaction Custom _) := by
    intro last
    cases last with
    | none => trivial
    | some last =>
      refine (Txn.total_get _).bind fun fields => ?_
      cases ChallengeHash.found fields with
      | none => exact (Txn.total_put _).bind fun _ => trivial
      | some x =>
        dsimp only
        cases startAction req.stage fields.timeoutState x with
        | create => trivial
        | deferredJoin => trivial
        | immediateJoin => exact Txn.Total.bind (fun _ => trivial) fun _ =>
            (Txn.total_put _).bind fun _ => (Txn.total_put _).bind fun _ => trivial
  refine Txn.Total.bind (fun _ => trivial) fun last => (hjoin last).bind fun d => ?_
  cases d with
  | none => exact (Txn.total_put _).bind fun _ => (Txn.total_put _).bind fun _ => fun _ => trivial
  | some d =>
    cases d with
    | create uuid sessionId => trivial
    | deferredJoin uuid => exact hcancel _ _
    | immediateJoin uuid response => exact hcancel _ _

lemma applyAll_setPlayers (naming : Naming) (players : List String) (uuid : Uuid)
    (s : Database Custom) :
    (∀ k, (∀ name, k ≠ .player name) →
      applyAll (players.flatMap fun player => setPlayerActiveChallenge naming player uuid) s k =
        s k) ∧
    ∀ name, applyAll (players.flatMap fun player => setPlayerActiveChallenge naming player uuid) s
        (.player name) = s (.player name) ∨
      applyAll (players.flatMap fun player => setPlayerActiveChallenge naming player uuid) s
        (.player name) = some uuid := by
  induction players generalizing s with
  | nil => exact ⟨fun _ _ => rfl, fun _ => Or.inl rfl⟩
  | cons player players ih =>
    simp only [List.flatMap_cons, applyAll_append, setPlayerActiveChallenge, applyAll_cons,
      applyAll_nil] at ih ⊢
    refine ⟨fun k hk => ?_, fun name => ?_⟩
    · rw [(ih _).1 k hk]
      exact Write.apply_of_ne (hk _) s
    · rcases (ih (Write.apply ⟨.player (naming.normalizeRsn player), fun _ => some uuid⟩ s)).2 name
        with h | h
      · rw [h]
        by_cases hname : name = naming.normalizeRsn player
        · subst hname
          exact Or.inr (by simp [Write.apply])
        · exact Or.inl (by simp [Write.apply, hname])
      · exact Or.inr h

lemma eval_activateChallenge (naming : Naming) (req : StartRequest) (uuid : Uuid)
    (created : Created Custom) :
    ∃ client ws, (activateChallenge naming req uuid created).eval s = .ok ((), ws) ∧
      client.active = true ∧
      applyAll ws s (.challenge uuid) = newChallengeState req uuid created (s (.challenge uuid)) ∧
      applyAll ws s (.clients uuid) =
        OrdMap.insert (s (.clients uuid)) req.client.clientId client ∧
      applyAll ws s (.clientChallenge req.client.clientId) = some uuid ∧
      (∀ name, applyAll ws s (.player name) = s (.player name) ∨
        applyAll ws s (.player name) = some uuid) ∧
      ∀ k, k ≠ .challenge uuid → k ≠ .clients uuid → k ≠ .clientChallenge req.client.clientId →
        (∀ type names, k ≠ .session type names) → (∀ name, k ≠ .player name) →
          applyAll ws s k = s k := by
  have hplayers := fun s : Database Custom => applyAll_setPlayers naming req.party uuid s
  refine ⟨req.client.entering req.recordingType req.stage none
    (OrdMap.get (s (.clients uuid)) req.client.clientId), ?_⟩
  simp only [activateChallenge, Txn.eval_bind, Txn.eval_put, eval_createChallengeClient, Except.map]
  refine ⟨_, rfl, ?_, ?_⟩
  · cases OrdMap.get (s (.clients uuid)) req.client.clientId <;> rfl
  simp only [applyAll_append, List.nil_append]
  refine ⟨?_, ?_, ?_, fun name => ?_, fun k h1 h2 h3 h4 h5 => ?_⟩
  · simp [hplayers, setChallengeFields, setChallengeClient, setSessionChallenge, Write.apply]
  · simp [hplayers, setChallengeFields, setChallengeClient, setSessionChallenge, Write.apply]
  · simp [hplayers, setChallengeFields, setChallengeClient, setSessionChallenge, Write.apply]
  · rcases (hplayers _).2 name with h | h
    · refine Or.inl (h.trans ?_)
      simp [setChallengeFields, setChallengeClient, setSessionChallenge, Write.apply]
    · exact Or.inr h
  · rw [(hplayers _).1 k h5]
    simp [setChallengeFields, setChallengeClient, setSessionChallenge, Write.apply, h1, h2, h3, h4]

lemma total_activateChallenge (uuid : Uuid) (created : Created Custom) :
    (activateChallenge naming req uuid created).Total := by
  have hclient : (createChallengeClient uuid req.client req.recordingType req.stage none :
      Transaction Custom ChallengeClient).Total := fun _ => trivial
  exact hclient.bind fun _ => (Txn.total_put _).bind fun _ => (Txn.total_put _).bind fun _ =>
    (Txn.total_put _).bind fun _ => Txn.total_put _

lemma writes_activateChallenge {uuid : Uuid} {created : Created Custom}
    {reads : Txn.Reads (Val Custom)} {ws : Writes Custom} {u : Unit}
    (h : (activateChallenge naming req uuid created).Leads reads ws (.pure u)) : ws ≠ [] := by
  obtain ⟨client, r₁, r₂, w₁, w₂, rfl, rfl, -, hrest⟩ := Txn.leads_bind h
  exact List.append_ne_nil_of_right_ne_nil _
    (Txn.leads_put_bind hrest (by simp [setChallengeFields]))

lemma eval_deferredJoin {uuid : Uuid} {r : Option ChallengeStatusResponse} {ws : Writes Custom}
    (h : (deferredJoin req uuid).eval s = .ok (r, ws)) (hws : ws ≠ []) :
    ∃ response client, r = some response ∧ response.uuid = uuid ∧ client.active = true ∧
      ChallengeHash.state (s (.challenge uuid)) = some .active ∧
      applyAll ws s = applyAll (setChallengeClient uuid req.client.clientId client) s := by
  unfold deferredJoin at h
  simp only [Txn.eval_bind, eval_getChallengeFields] at h
  split_ifs at h with hgone hwait
  · cases h
  · simp only [Txn.eval_pure, Except.map, List.append_nil, Except.ok.injEq, Prod.mk.injEq] at h
    exact absurd h.2.symm hws
  · simp only [Txn.eval_bind, eval_createChallengeClient, Txn.eval_put, Txn.eval_pure, Except.map,
      Except.ok.injEq, Prod.mk.injEq] at h
    obtain ⟨rfl, rfl⟩ := h
    refine ⟨_, req.client.entering req.recordingType
      ((ChallengeHash.stage (s (.challenge uuid))).getD Stage.unknownStage)
      (ChallengeHash.stageAttempt (s (.challenge uuid)))
      (OrdMap.get (s (.clients uuid)) req.client.clientId), rfl, rfl, ?_, by simpa using hwait, ?_⟩
    · cases OrdMap.get (s (.clients uuid)) req.client.clientId <;> rfl
    · simp only [List.nil_append, List.append_nil]

lemma waits_of_deferredJoin {uuid : Uuid} {reads : Txn.Reads (Val Custom)}
    {r : Option ChallengeStatusResponse}
    (h : (deferredJoin req uuid).Leads reads [] (.pure r)) : r = none := by
  obtain ⟨fields, r₁, r₂, w₁, w₂, rfl, hnil, -, hrest⟩ := Txn.leads_bind h
  obtain ⟨rfl, rfl⟩ := List.append_eq_nil_iff.mp hnil.symm
  split_ifs at hrest
  · cases hrest.2.2
  · exact (Txn.leads_pure hrest).2.2
  · obtain ⟨client, r₃, r₄, w₃, w₄, rfl, hnil, -, hrest⟩ := Txn.leads_bind hrest
    obtain ⟨rfl, rfl⟩ := List.append_eq_nil_iff.mp hnil.symm
    exact absurd rfl (Txn.leads_put_bind hrest (by simp [setChallengeClient]))

end Specs

end Transactions

/-! ### Calls -/

/-- Where a call to create or join a challenge is. -/
inductive StartTask (naming : Naming) (Custom : Type)
  | determining (req : StartRequest) (uuid : Uuid)
      (a : Attempt (determineStartAction naming req uuid : Transaction Custom StartActionDecision))
  /-- The challenge is being created in the database. -/
  | creating (req : StartRequest) (uuid : Uuid) (sessionId : Option ℤ)
  | activating (req : StartRequest) (uuid : Uuid) (created : Created Custom)
      (a : Attempt (activateChallenge naming req uuid created))
  /-- The creation has failed. -/
  | deleting (req : StartRequest) (uuid : Uuid)
      (a : Attempt (deleteChallengeData naming uuid (some req.type) (some req.party) :
        Transaction Custom Unit))
  | joining (req : StartRequest) (uuid : Uuid) (retries : ℕ)
      (a : Attempt (deferredJoin req uuid :
        Transaction Custom (Option ChallengeStatusResponse)))
  | waiting (req : StartRequest) (uuid : Uuid) (retries : ℕ)
  /-- The client is being registered as a recorder of the challenge. -/
  | recording (req : StartRequest) (response : ChallengeStatusResponse)
  | returned (req : StartRequest) (response : ChallengeStatusResponse)
  | failed (req : StartRequest) (failure : Failure)

inductive StartInput (Custom : Type)
  /-- Its transaction reads a key or ends. -/
  | proceed
  /-- Its transaction fails as a key it has read was written, and is tried again. -/
  | retry
  | created (created : Created Custom)
  | createFailed
  | waited
  | recorded (known : Bool)

namespace StartTask

variable {naming : Naming} {Custom : Type} [DecidableEq Custom]

/-- A call begins. The uuid is the one it makes up, should it create a challenge. -/
def createOrJoin (req : StartRequest) (uuid : Uuid) : StartTask naming Custom :=
  if req.mode = .tobEntry then .failed req .unsupportedMode
  else .determining req uuid (.start _)

def decided (req : StartRequest) : StartActionDecision → StartTask naming Custom
  | .create uuid sessionId => .creating req uuid sessionId
  | .deferredJoin uuid => .joining req uuid 0 (.start _)
  | .immediateJoin _ response => .recording req response

/-- After an attempt to join a challenge that is being created. -/
def attempted (req : StartRequest) (uuid : Uuid) (retries : ℕ) :
    Option ChallengeStatusResponse → StartTask naming Custom
  | some response => .recording req response
  | none => .waiting req uuid retries

def proceed (s : Database Custom) :
    StartTask naming Custom → Option (Database Custom × StartTask naming Custom)
  | determining req uuid a =>
    match a.advance s with
    | .running a => some (s, .determining req uuid a)
    | .ended (.ok decision) s => some (s, decided req decision)
    | .ended (.error e) s => some (s, .failed req e)
  | activating req uuid created a =>
    match a.advance s with
    | .running a => some (s, .activating req uuid created a)
    | .ended (.ok _) s =>
      some (s, .recording req { uuid, mode := req.mode, stage := req.stage, stageAttempt := none })
    | .ended (.error e) s => some (s, .failed req e)
  | deleting req uuid a =>
    match a.advance s with
    | .running a => some (s, .deleting req uuid a)
    | .ended (.ok _) s => some (s, .failed req .createFailed)
    | .ended (.error e) s => some (s, .failed req e)
  | joining req uuid retries a =>
    match a.advance s with
    | .running a => some (s, .joining req uuid retries a)
    | .ended (.ok response) s => some (s, attempted req uuid retries response)
    | .ended (.error e) s => some (s, .failed req e)
  | _ => none

/-- A transaction is tried again from the start. -/
def retry : StartTask naming Custom → Option (StartTask naming Custom)
  | determining req uuid _ => some (.determining req uuid (.start _))
  | activating req uuid created _ => some (.activating req uuid created (.start _))
  | deleting req uuid _ => some (.deleting req uuid (.start _))
  | joining req uuid retries _ => some (.joining req uuid retries (.start _))
  | _ => none

def step (s : Database Custom) (t : StartTask naming Custom) :
    StartInput Custom → Option (Database Custom × StartTask naming Custom)
  | .proceed => t.proceed s
  | .retry => t.retry.map fun t => (s, t)
  | .created created =>
    match t with
    | creating req uuid _ => some (s, .activating req uuid created (.start _))
    | _ => none
  | .createFailed =>
    match t with
    | creating req uuid _ => some (s, .deleting req uuid (.start _))
    | _ => none
  | .waited =>
    match t with
    | waiting req uuid retries =>
      if retries + 1 = DEFERRED_JOIN_MAX_RETRIES then
        some (s, .failed req (.joinGaveUp uuid req.client.clientId (retries + 1)))
      else some (s, .joining req uuid (retries + 1) (.start _))
    | _ => none
  | .recorded known =>
    match t with
    | recording req response =>
      some (s, if known then .returned req response else .failed req .recorderFailed)
    | _ => none

end StartTask

end Blert.Manager

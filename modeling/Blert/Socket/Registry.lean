import Blert.Socket.Server

/-!
Which challenge each client is in, and which clients are listed under each challenge.

Of all that a server does few things touch these: a client leaves its challenge, enters one it
started, takes one up again, drops out with its socket, or is released when the challenge finishes.
-/

namespace Blert.Socket

/-- The active challenges of the clients, and the clients listed under the challenges. -/
structure Registry where
  active : ClientRef → Option String
  lists : String → Option (List ClientRef)

namespace Registry

def listed (r : Registry) (challengeId : String) : List ClientRef := (r.lists challengeId).getD []

def setActive (r : Registry) (c : ClientRef) (challengeId : Option String) : Registry :=
  { r with active := Function.update r.active c challengeId }

def setList (r : Registry) (challengeId : String) (clients : Option (List ClientRef)) : Registry :=
  { r with lists := Function.update r.lists challengeId clients }

/-- A client is taken off the list of its challenge and has none. -/
def leave (r : Registry) (c : ClientRef) : Registry :=
  match r.active c with
  | none => r
  | some challengeId =>
    if challengeId = "" then r
    else
      match r.lists challengeId with
      | none => r
      | some clients =>
        (r.setList challengeId
          (if clients.length = 1 then none else some (clients.filter (· ≠ c)))).setActive c none

/-- A client is moved from any previous challenge into another one. -/
def enter (r : Registry) (c : ClientRef) (challengeId : String) : Registry :=
  let r := r.leave c
  (r.setList challengeId (some (r.listed challengeId ++ [c]))).setActive c (some challengeId)

/-- A client takes up a challenge without being listed. -/
def rejoin (r : Registry) (c : ClientRef) (challengeId : String) : Registry :=
  r.setActive c (some challengeId)

def drop (r : Registry) (c : ClientRef) : Registry := (r.leave c).setActive c none

/-- The listed clients that track a challenge are released, and its list is gone. -/
def finish (r : Registry) (challengeId : String) : Registry :=
  { active := fun c =>
      if c ∈ r.listed challengeId ∧ r.active c = some challengeId then none else r.active c
    lists := Function.update r.lists challengeId none }

end Registry

namespace World

def registry (w : World) : Registry :=
  { active := fun c => (w.client c).getActiveChallengeId, lists := w.clientsByChallenge }

/-! ### What operations do to the registry -/

@[simp] lemma registry_emit (w : World) (c : ClientRef) (e : Effect) :
    (w.emit c e).registry = w.registry := rfl
@[simp] lemma registry_suspend (w : World) (c : ClientRef) (s : Option Suspended) :
    (w.suspend c s).registry = w.registry := rfl
@[simp] lemma registry_finish (w : World) (c : ClientRef) :
    (w.finish c).registry = w.registry := rfl
@[simp] lemma registry_sendMessage (w : World) (c : ClientRef) (reply : Reply) :
    (w.sendMessage c reply).registry = w.registry := by
  unfold sendMessage
  split_ifs <;> rfl

lemma registry_updateClient (w : World) (c : ClientRef) (f : Client → Client) :
    (w.updateClient c f).registry =
      w.registry.setActive c (f (w.client c)).getActiveChallengeId := by
  simp only [registry, Registry.setActive, updateClient, Registry.mk.injEq, and_true]
  funext d
  by_cases hd : d = c
  · subst hd
    simp
  · simp [hd]

lemma registry_updateClient_eq (w : World) (c : ClientRef) (f : Client → Client)
    (hf : (f (w.client c)).getActiveChallengeId = (w.client c).getActiveChallengeId) :
    (w.updateClient c f).registry = w.registry := by
  rw [registry_updateClient, hf]
  exact congrArg (Registry.mk · _) (Function.update_eq_self c w.registry.active)

lemma registry_removeClientFromChallenge (w : World) (c : ClientRef) :
    (w.removeClientFromChallenge c).registry = w.registry.leave c := by
  unfold removeClientFromChallenge Registry.leave
  change _ = match (w.client c).getActiveChallengeId with
    | none => _
    | some _ => _
  cases (w.client c).getActiveChallengeId with
  | none => rfl
  | some challengeId =>
    dsimp only
    split_ifs with hempty
    · rfl
    · change _ = match w.clientsByChallenge challengeId with
        | none => _
        | some _ => _
      cases w.clientsByChallenge challengeId with
      | none => rfl
      | some clients => exact registry_updateClient _ c _

lemma registry_updateClientStatus (w : World) (c : ClientRef) (status : ClientStatus) :
    (w.updateClientStatus c status).registry =
      if status = .disconnected then w.registry.leave c else w.registry := by
  unfold updateClientStatus
  split_ifs
  · exact registry_removeClientFromChallenge w c
  · rfl

lemma registry_closeClient (w : World) (c : ClientRef) :
    (w.closeClient c).registry = w.registry.leave c := by
  unfold closeClient
  split_ifs with h
  · rw [registry_updateClient_eq _ _ _ rfl, registry_updateClientStatus, if_pos rfl]
  · -- A client that is in no challenge has none to leave.
    have hnone : w.registry.active c = none := by
      simp only [Bool.or_eq_true, not_or] at h
      simpa [registry] using h.2
    rw [Registry.leave, hnone]

lemma registry_cleanup (w : World) (c : ClientRef) :
    (w.cleanup c).registry = w.registry.drop c := by
  unfold cleanup
  rw [registry_updateClient, registry_closeClient, registry_updateClient_eq _ _ _ rfl]
  rfl

lemma registry_enterChallenge (w : World) (c : ClientRef) (status : ChallengeStatusResponse) :
    (w.enterChallenge c status).registry = w.registry.rejoin c status.uuid := by
  unfold enterChallenge
  rw [registry_updateClient]
  simp [Registry.rejoin]

lemma registry_started (w : World) (c : ClientRef) (requestId : ℕ)
    (status : ChallengeStatusResponse) :
    (w.started c requestId status).registry = w.registry.enter c status.uuid := by
  unfold started Registry.enter
  rw [registry_finish, registry_sendMessage, registry_enterChallenge,
    ← registry_removeClientFromChallenge]
  rfl

lemma registry_completed (w : World) (c : ClientRef) (challengeId : String)
    (after : AfterCompletion) :
    (w.completed c challengeId after).registry = w.registry.leave c := by
  rw [← registry_removeClientFromChallenge]
  cases after <;> simp [completed]

lemma registry_endRecording (challengeId : String) (w : World) (c : ClientRef) :
    (w.endRecording challengeId c).registry = w.registry.setActive c none := by
  unfold endRecording
  rw [registry_updateClient, registry_sendMessage]
  rfl

lemma registry_endRecordings (challengeId : String) (clients : List ClientRef) (w : World) :
    (clients.foldl (endRecording challengeId) w).registry =
      { w.registry with active := fun c => if c ∈ clients then none else w.registry.active c } := by
  induction clients generalizing w with
  | nil => simp
  | cons d clients ih =>
    rw [List.foldl_cons, ih, registry_endRecording]
    simp only [Registry.setActive, Registry.mk.injEq, and_true]
    funext c
    by_cases hd : c = d <;> by_cases hc : c ∈ clients <;> simp [hd, hc]

lemma registry_handleChallengeFinish (w : World) (challengeId : String) :
    (w.handleChallengeFinish challengeId).registry = w.registry.finish challengeId := by
  unfold handleChallengeFinish Registry.finish Registry.listed
  change _ = Registry.mk
    (fun c => if c ∈ (w.clientsByChallenge challengeId).getD [] ∧ _ then _ else _) _
  cases hlist : w.clientsByChallenge challengeId with
  | none =>
    have hself : Function.update w.clientsByChallenge challengeId none = w.clientsByChallenge := by
      rw [← hlist, Function.update_eq_self]
    simp only [registry, Option.getD_none, List.not_mem_nil, false_and, if_false, hself]
  | some clients =>
    have hfold := registry_endRecordings challengeId
      (clients.filter fun c => (w.client c).getActiveChallengeId = some challengeId) w
    have hactive := congrArg Registry.active hfold
    have hlists := congrArg Registry.lists hfold
    simp only [registry, Registry.mk.injEq] at hactive hlists ⊢
    refine ⟨?_, ?_⟩
    · rw [hactive]
      funext c
      exact if_congr (by simp [List.mem_filter]) rfl rfl
    · rw [hlists]

/-! ### What a step does to the registry -/

/-- What follows a wait changes the registry only where a challenge is entered or left. -/
inductive RegistryResume (w : World) (c : ClientRef) (w' : World) : Suspended → Answer → Prop
  | started (requestId : ℕ) (body : StartBody) (accepted : Option ChallengeStatusResponse)
      (status : ChallengeStatusResponse)
      (h : w'.registry = w.registry.enter c status.uuid) :
      RegistryResume w c w' (.starting requestId body accepted) (.accepted status)
  | joined (challengeId : String) (body : JoinBody) (accepted : Option ChallengeStatusResponse)
      (status : ChallengeStatusResponse)
      (h : w'.registry = w.registry.rejoin c status.uuid) :
      RegistryResume w c w' (.joining challengeId body accepted) (.accepted status)
  | completed (challengeId : String) (body : FinishBody) (after : AfterCompletion)
      (answer : Answer) (h : w'.registry = w.registry.leave c) :
      RegistryResume w c w' (.completing challengeId body after) answer
  | other (s : Suspended) (answer : Answer) (h : w'.registry = w.registry) :
      RegistryResume w c w' s answer

lemma registry_handleMessage (w : World) (c : ClientRef) (message : ServerMessage) :
    (w.handleMessage c message).registry = w.registry := by
  unfold handleMessage
  split <;> try rfl
  · -- A report of the game state.
    unfold handleGameStateUpdate
    split
    · split <;> rfl
    · dsimp only
      split_ifs
      · rw [registry_suspend, registry_updateClientStatus, if_neg (by decide),
          registry_updateClient_eq _ _ _ rfl]
      · rw [registry_finish, registry_updateClient_eq _ _ _ rfl]
    · rw [registry_finish, registry_updateClient_eq _ _ _ rfl]
  · unfold handleConfirmation
    split_ifs <;> rfl
  · split_ifs
    · unfold handleChallengeStart
      split_ifs
      · rw [registry_finish, registry_sendMessage]
      · rfl
    · rfl
  · unfold handleChallengeEnd
    split_ifs <;> rfl
  · unfold handleChallengeUpdate updateChallenge
    split_ifs <;> first | rfl | (split <;> first | rfl | (split_ifs <;> rfl))
  · split_ifs <;> rfl

lemma registry_writeEntry (w : World) (c : ClientRef) (challengeId : String)
    (entry : StageEntry) : (w.writeEntry c challengeId entry).registry = w.registry := by
  unfold writeEntry
  dsimp only
  rw [registry_emit]
  split_ifs
  · rfl
  · rw [registry_updateClient_eq _ _ _ (Client.getActiveChallengeId_recordMetadataWritten _ _),
      registry_emit]

lemma registry_resumeEvents (w : World) (c : ClientRef) (challengeId : String)
    (entries : List StageEntry) (processed : List Bool) :
    (w.resumeEvents c challengeId entries processed).registry = w.registry := by
  unfold resumeEvents
  dsimp only
  split_ifs
  · rfl
  · rw [registry_suspend]
    generalize List.map Prod.fst _ = entries
    induction entries generalizing w with
    | nil => rfl
    | cons entry entries ih => rw [List.foldl_cons, ih, registry_writeEntry]

lemma registry_requestChallengeStateConfirmation (w : World) (c : ClientRef) (rsn : String)
    (challenge : Option (String × ChallengeInfo)) :
    (w.requestChallengeStateConfirmation c rsn challenge).registry = w.registry := by
  cases challenge with
  | none => rfl
  | some challenge => exact registry_sendMessage w c _

lemma registry_resume (w : World) (c : ClientRef) (s : Suspended) (answer : Answer) :
    RegistryResume w c (w.resume c s answer) s answer := by
  unfold resume
  split
  case h_4 => exact .started _ _ _ _ (registry_started w c _ _)
  case h_6 => exact .joined _ _ _ _ (registry_enterChallenge w c _)
  case h_7 => exact .completed _ _ _ _ (registry_completed w c _ _)
  all_goals refine .other _ _ ?_
  · simp
  · simp
  · unfold resumeStart
    split_ifs
    · rfl
    · simp
  · simp
  · unfold resumeStageEnd
    split_ifs <;> rfl
  · rfl
  · rw [registry_finish, registry_updateClient_eq _ _ _
      (Client.getActiveChallengeId_setStageAttempt _ _ _)]
  · rfl
  · exact registry_resumeEvents w c _ _ _
  · simp
  · rw [registry_suspend, registry_updateClient_eq _ _ _ rfl]
  · unfold identified
    dsimp only
    split_ifs
    · rw [registry_suspend, registry_updateClient_eq _ _ _ rfl]
    · rw [registry_finish, registry_sendMessage, registry_updateClient_eq _ _ _ rfl]
  · unfold resumeLogin
    dsimp only
    split_ifs
    · rw [registry_suspend, registry_updateClientStatus, if_neg (by decide),
        registry_requestChallengeStateConfirmation]
    · rw [registry_finish, registry_requestChallengeStateConfirmation]
  · rw [registry_finish, registry_updateClient_eq _ _ _ rfl]
  · rfl

/-- The steps of a server, as far as the registry goes. -/
inductive RegistryNext (w : World) (r : Registry) : Act → Prop
  | same (act : Act) (hopen : ∀ c, act ≠ .close c) (h : r = w.registry) : RegistryNext w r act
  | started (c : ClientRef) (requestId : ℕ) (body : StartBody)
      (accepted : Option ChallengeStatusResponse) (status : ChallengeStatusResponse)
      (hs : w.handler c = some (.starting requestId body accepted))
      (h : r = w.registry.enter c status.uuid) : RegistryNext w r (.resume c (.accepted status))
  | joined (c : ClientRef) (challengeId : String) (body : JoinBody)
      (accepted : Option ChallengeStatusResponse) (status : ChallengeStatusResponse)
      (hs : w.handler c = some (.joining challengeId body accepted))
      (h : r = w.registry.rejoin c status.uuid) : RegistryNext w r (.resume c (.accepted status))
  | completed (c : ClientRef) (challengeId : String) (body : FinishBody) (after : AfterCompletion)
      (answer : Answer) (hs : w.handler c = some (.completing challengeId body after))
      (h : r = w.registry.leave c) : RegistryNext w r (.resume c answer)
  | closed (c : ClientRef) (h : r = w.registry.drop c) : RegistryNext w r (.close c)
  | finished (challengeId : String) (h : r = w.registry.finish challengeId) :
      RegistryNext w r (.challengeFinish challengeId)

lemma registry_next (w : World) (act : Act) :
    RegistryNext w (server.next w act).registry act := by
  cases act with
  | receive c message => exact .same _ (by simp) (registry_handleMessage w c message)
  | resume c answer =>
    change RegistryNext w (w.resumeHandler c answer).registry _
    unfold resumeHandler
    cases hs : w.handler c with
    | none => exact .same _ (by simp) rfl
    | some s =>
      have hresume := registry_resume w c s answer
      dsimp only
      generalize w.resume c s answer = w' at hresume ⊢
      cases hresume with
      | started requestId body accepted status h => exact .started c _ _ _ status hs h
      | joined challengeId body accepted status h => exact .joined c _ _ _ status hs h
      | completed challengeId body after answer h => exact .completed c _ _ _ answer hs h
      | other s answer h => exact .same _ (by simp) h
  | resend c =>
    refine .same _ (by simp) ?_
    change (w.resend c).registry = _
    unfold resend
    split <;> rfl
  | accept c status =>
    refine .same _ (by simp) ?_
    change (w.accept c status).registry = _
    unfold accept
    split <;> rfl
  | close c => exact .closed c (registry_cleanup w c)
  | unresponsive c =>
    exact .same _ (by simp) (registry_updateClient_eq w c (fun c => { c with isOpen := false }) rfl)
  | challengeFinish challengeId =>
    exact .finished challengeId (registry_handleChallengeFinish w challengeId)
  | serverStatus allow => exact .same _ (by simp) rfl

end World

end Blert.Socket

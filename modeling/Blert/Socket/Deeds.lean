import Blert.Socket.Server

/-!
What a server does for its clients, step by step.

Requests to the challenge server and writes to stage streams act on a challenge. Which of them a
step makes depends on the message or the wait it goes on from, and it makes them while the client
is what it was before the step.
-/

namespace Blert.Socket

def Effect.Acts : Effect → Prop
  | .request _ | .write _ _ => True
  | .status _ _ | .reply _ => False

/-- What a message makes the server do at once that acts on a challenge. -/
inductive World.DoesReceive (w : World) (c : ClientRef) : ServerMessage → Effect → Prop
  | rejoin (challengeId : String) (username : String) (spectator : Bool) (body : JoinBody)
      (hother : (w.client c).getActiveChallengeId ≠ some challengeId) :
      DoesReceive w c (.challengeStateConfirmation challengeId (some ⟨true, username, spectator⟩))
        (.request (.join challengeId body))
  | leave (challengeId : String) (username : String) (spectator : Bool) (body : FinishBody) :
      DoesReceive w c (.challengeStateConfirmation challengeId (some ⟨false, username, spectator⟩))
        (.request (.finish challengeId body))
  | complete (requestId : ℕ) (challengeId : String) (request : ChallengeEndRequest)
      (body : FinishBody) (hvalid : (w.client c).validated = true) (hid : challengeId ≠ "") :
      DoesReceive w c (.challengeEndRequest requestId challengeId (some request))
        (.request (.finish challengeId body))
  | update (challengeId : String) (update : ChallengeUpdate) (body : UpdateBody)
      (hvalid : (w.client c).validated = true)
      (hactive : (w.client c).getActiveChallengeId = some challengeId) :
      DoesReceive w c (.challengeUpdate challengeId (some update))
        (.request (.update challengeId body))

/-- What the end of a wait makes the server do that acts on a challenge. -/
inductive DoesResume : Suspended → Answer → Effect → Prop
  | start (requestId : ℕ) (request : ChallengeStartRequest) (name : String) (body : StartBody)
      (h : World.startable request = true) :
      DoesResume (.lookingUpStarter requestId request) (.username (some name))
        (.request (.start body))
  | stageEnd (challengeId : String) (update : ChallengeUpdate) (stage : StageUpdate)
      (attempt : Option ℕ) (result : Option (Bool × Bool)) (record : StreamRecord) :
      DoesResume (.checkingStageEnd challengeId update stage attempt) (.stageEnd result)
        (.write ⟨challengeId, stage.stage, attempt⟩ record)
  | update (challengeId : String) (update : ChallengeUpdate) (stage : StageUpdate)
      (attempt : Option ℕ) (result : Option (Bool × Bool)) (body : UpdateBody) :
      DoesResume (.checkingStageEnd challengeId update stage attempt) (.stageEnd result)
        (.request (.update challengeId body))
  | updateWritten (challengeId : String) (update : ChallengeUpdate) (body : UpdateBody) :
      DoesResume (.writingStageEnd challengeId update) .done (.request (.update challengeId body))
  | events (challengeId : String) (entries : List StageEntry) (flags : List Bool) (stage : ℕ)
      (attempt : Option ℕ) (record : StreamRecord) (h : false ∈ flags) :
      DoesResume (.checkingProcessed challengeId entries) (.processed (some flags))
        (.write ⟨challengeId, stage, attempt⟩ record)

/-- A stretch of a client's handler. What it does that acts on a challenge is described, and done
while the client is what it was. It leaves the other clients alone, and this one its session. -/
structure Turn (G : Effect → Prop) (c : ClientRef) (w w' : World) : Prop where
  log : ∃ deeds : List Deed, w'.log = w.log ++ deeds.map .did ∧ ∀ deed ∈ deeds,
    deed.effect.Acts → deed = ⟨c, deed.effect, (w.client c).validated,
      (w.client c).getActiveChallengeId⟩ ∧ G deed.effect
  client : ∀ d, d ≠ c → w'.client d = w.client d
  handler : ∀ d, d ≠ c → w'.handler d = w.handler d
  session : (w'.client c).session = (w.client c).session

namespace Turn

variable {G : Effect → Prop} {c : ClientRef} {w w' w'' : World}

lemma rfl : Turn G c w w :=
  ⟨⟨[], by simp, by simp⟩, fun _ _ => Eq.refl _, fun _ _ => Eq.refl _, Eq.refl _⟩

lemma trans (h : Turn G c w w') (h' : Turn G c w' w'')
    (hvalid : (w'.client c).validated = (w.client c).validated)
    (hactive : (w'.client c).getActiveChallengeId = (w.client c).getActiveChallengeId) :
    Turn G c w w'' := by
  obtain ⟨deeds, hlog, hdeeds⟩ := h.log
  obtain ⟨deeds', hlog', hdeeds'⟩ := h'.log
  refine ⟨⟨deeds ++ deeds', ?_, fun deed hd ha => ?_⟩, fun d hd => ?_, fun d hd => ?_, ?_⟩
  · rw [hlog', hlog, List.map_append, List.append_assoc]
  · rcases List.mem_append.mp hd with hd | hd
    · exact hdeeds deed hd ha
    · rw [← hvalid, ← hactive]
      exact hdeeds' deed hd ha
  · rw [h'.client d hd, h.client d hd]
  · rw [h'.handler d hd, h.handler d hd]
  · rw [h'.session, h.session]

lemma andThen (h : Turn G c w w') (h' : Turn (fun _ => False) c w' w'') : Turn G c w w'' := by
  obtain ⟨deeds, hlog, hdeeds⟩ := h.log
  obtain ⟨deeds', hlog', hdeeds'⟩ := h'.log
  refine ⟨⟨deeds ++ deeds', ?_, fun deed hd ha => ?_⟩, fun d hd => ?_, fun d hd => ?_, ?_⟩
  · rw [hlog', hlog, List.map_append, List.append_assoc]
  · rcases List.mem_append.mp hd with hd | hd
    · exact hdeeds deed hd ha
    · exact (hdeeds' deed hd ha).2.elim
  · rw [h'.client d hd, h.client d hd]
  · rw [h'.handler d hd, h.handler d hd]
  · rw [h'.session, h.session]

lemma emit {e : Effect} (he : e.Acts → G e) : Turn G c w (w.emit c e) := by
  refine ⟨⟨[⟨c, e, _, _⟩], Eq.refl _, fun deed hd ha => ?_⟩, fun _ _ => Eq.refl _,
    fun _ _ => Eq.refl _, Eq.refl _⟩
  have hdeed := List.mem_singleton.mp hd
  subst hdeed
  exact ⟨Eq.refl _, he ha⟩

lemma sendMessage (reply : Reply) : Turn G c w (w.sendMessage c reply) := by
  unfold World.sendMessage
  split_ifs
  · exact emit False.elim
  · exact rfl

lemma suspend (s : Option Suspended) : Turn G c w (w.suspend c s) :=
  ⟨⟨[], by simp [World.suspend], by simp⟩, fun _ _ => Eq.refl _,
    fun d hd => Function.update_of_ne hd _ _, Eq.refl _⟩

lemma updateClient {f : Client → Client} (hf : (f (w.client c)).session = (w.client c).session) :
    Turn G c w (w.updateClient c f) :=
  ⟨⟨[], by simp [World.updateClient], by simp⟩, fun d hd => Function.update_of_ne hd _ _,
    fun _ _ => Eq.refl _, by simp [World.updateClient, hf]⟩

lemma removeClientFromChallenge : Turn G c w (w.removeClientFromChallenge c) := by
  unfold World.removeClientFromChallenge
  split
  · exact rfl
  · split_ifs
    · exact rfl
    · split
      · exact rfl
      · exact ⟨⟨[], by simp [World.updateClient], by simp⟩,
          fun d hd => Function.update_of_ne hd _ _, fun _ _ => Eq.refl _,
          by simp [World.updateClient, Client.clearActiveChallenge]⟩

lemma addClientToChallenge (challengeId : String) :
    Turn G c w (w.addClientToChallenge c challengeId) :=
  ⟨⟨[], by simp [World.addClientToChallenge], by simp⟩, fun _ _ => Eq.refl _,
    fun _ _ => Eq.refl _, Eq.refl _⟩

lemma updateClientStatus (status : ClientStatus) :
    Turn G c w (w.updateClientStatus c status) := by
  unfold World.updateClientStatus
  dsimp only
  split_ifs
  · exact removeClientFromChallenge.andThen (emit False.elim)
  · exact emit False.elim

lemma reply (reply : Reply) (s : Option Suspended) :
    Turn G c w ((w.sendMessage c reply).suspend c s) :=
  (sendMessage reply).andThen (suspend s)

lemma request {r : Request} (hr : G (.request r)) (s : Suspended) :
    Turn G c w (w.request c r s) :=
  (emit fun _ => hr).andThen (suspend _)

end Turn

/-! ### Handlers -/

namespace World

variable (w : World) (c : ClientRef)

lemma updateChallenge_turn {G : Effect → Prop} (challengeId : String) (update : ChallengeUpdate)
    (hG : ∀ body, G (.request (.update challengeId body))) :
    Turn G c w (w.updateChallenge c challengeId update) := by
  unfold updateChallenge
  split
  · split_ifs
    · exact .suspend _
    · exact .request (hG _) _
  · exact .request (hG _) _

lemma handleGameStateUpdate_turn {G : Effect → Prop} (gameState : GameState) :
    Turn G c w (w.handleGameStateUpdate c gameState) := by
  unfold handleGameStateUpdate
  split
  · split <;> exact .suspend _
  · dsimp only
    split_ifs
    · exact (Turn.updateClient (Eq.refl _)).andThen
        ((Turn.updateClientStatus _).andThen (.suspend _))
    · exact (Turn.updateClient (Eq.refl _)).andThen (.suspend _)
  · exact (Turn.updateClient (Eq.refl _)).andThen (.suspend _)

lemma handleMessage_turn (message : ServerMessage) :
    Turn (w.DoesReceive c message) c w (w.handleMessage c message) := by
  unfold handleMessage
  split
  · exact .suspend _
  · exact w.handleGameStateUpdate_turn c _
  · rename_i challengeId confirmation
    obtain ⟨isValid, username, spectator⟩ := confirmation
    unfold handleConfirmation
    cases isValid with
    | true =>
      rw [if_pos (Eq.refl _)]
      split_ifs with hother
      · exact .request (.rejoin challengeId username spectator _ hother) _
      · exact .suspend _
    | false => exact .request (.leave challengeId username spectator _) _
  · unfold handleChallengeStart
    split_ifs
    · exact .reply _ _
    · exact .suspend _
    · exact .suspend _
  · rename_i requestId challengeId request
    unfold handleChallengeEnd
    split_ifs with hvalid hid
    · exact .suspend _
    · exact .request (.complete requestId challengeId request _ hvalid hid) _
    · exact .suspend _
  · rename_i challengeId update
    unfold handleChallengeUpdate
    split_ifs with hvalid hid hactive
    · exact .suspend _
    · exact w.updateChallenge_turn c challengeId update fun body =>
        .update challengeId update body hvalid (not_not.mp hactive).symm
    · exact .suspend _
    · exact .suspend _
  · dsimp only
    split_ifs <;> exact .suspend _
  · exact .suspend _

lemma writeEntry_turn {G : Effect → Prop} (challengeId : String) (entry : StageEntry)
    (hG : ∀ record, G (.write ⟨challengeId, entry.stage, entry.attempt⟩ record)) :
    Turn G c w (w.writeEntry c challengeId entry) ∧
      ((w.writeEntry c challengeId entry).client c).validated = (w.client c).validated ∧
      ((w.writeEntry c challengeId entry).client c).getActiveChallengeId =
        (w.client c).getActiveChallengeId := by
  unfold writeEntry
  dsimp only
  split_ifs
  · exact ⟨.emit fun _ => hG _, Eq.refl _, Eq.refl _⟩
  · have hupdate : ∀ client : Client, ∀ key, (client.recordMetadataWritten key).session =
        client.session ∧ (client.recordMetadataWritten key).validated = client.validated := by
      intro client key
      unfold Client.recordMetadataWritten
      split <;> exact ⟨Eq.refl _, Eq.refl _⟩
    have hvalid : ∀ w' : World, ∀ key, ((w'.updateClient c (·.recordMetadataWritten key)).client
        c).validated = (w'.client c).validated ∧ ((w'.updateClient c
        (·.recordMetadataWritten key)).client c).getActiveChallengeId =
        (w'.client c).getActiveChallengeId := by
      intro w' key
      simp [updateClient, (hupdate _ key).2]
    refine ⟨Turn.trans (Turn.trans (Turn.emit fun _ => hG _)
      (Turn.updateClient (hupdate _ _).1) (Eq.refl _) (Eq.refl _)) (Turn.emit fun _ => hG _)
      (hvalid _ _).1 (hvalid _ _).2, (hvalid _ _).1, (hvalid _ _).2⟩

lemma resumeEvents_turn {G : Effect → Prop} (challengeId : String) (entries : List StageEntry)
    (processed : List Bool) (hG : false ∈ processed → ∀ stage attempt record,
      G (.write ⟨challengeId, stage, attempt⟩ record)) :
    Turn G c w (w.resumeEvents c challengeId entries processed) := by
  unfold resumeEvents
  dsimp only
  split_ifs with hnone
  · exact .suspend _
  · have hmem : false ∈ processed := by
      obtain ⟨entry, hentry⟩ := List.exists_mem_of_ne_nil _ hnone
      obtain ⟨⟨_, flag⟩, hflag, -⟩ := List.mem_map.mp hentry
      obtain ⟨hzip, hfalse⟩ := List.mem_filter.mp hflag
      obtain rfl : flag = false := by simpa using hfalse
      exact (List.of_mem_zip hzip).2
    replace hG := hG hmem
    refine Turn.andThen ?_ (.suspend _)
    generalize List.map Prod.fst _ = entries
    induction entries generalizing w with
    | nil => exact .rfl
    | cons entry entries ih =>
      obtain ⟨hturn, hvalid, hactive⟩ := w.writeEntry_turn c challengeId entry (hG _ _)
      exact hturn.trans (ih _) hvalid hactive

lemma session_setStageAttempt (client : Client) (stage : ℕ) (attempt : Option ℕ) :
    (client.setStageAttempt stage attempt).session = client.session ∧
      (client.setStageAttempt stage attempt).validated = client.validated := by
  unfold Client.setStageAttempt
  split
  · exact ⟨Eq.refl _, Eq.refl _⟩
  · split_ifs <;> exact ⟨Eq.refl _, Eq.refl _⟩

lemma enterChallenge_turn {G : Effect → Prop} (status : ChallengeStatusResponse) :
    Turn G c w (w.enterChallenge c status) :=
  .updateClient (session_setStageAttempt _ _ _).1

lemma started_turn {G : Effect → Prop} (requestId : ℕ) (status : ChallengeStatusResponse) :
    Turn G c w (w.started c requestId status) :=
  Turn.removeClientFromChallenge.andThen <| (Turn.addClientToChallenge _).andThen <|
    (enterChallenge_turn _ c status).andThen <| .reply _ _

lemma completed_turn {G : Effect → Prop} (challengeId : String) (after : AfterCompletion) :
    Turn G c w (w.completed c challengeId after) := by
  cases after <;> exact Turn.removeClientFromChallenge.andThen (.reply _ _)

lemma identified_turn {G : Effect → Prop} (username storedUsername : String) (isValid : Bool) :
    Turn G c w (w.identified c username storedUsername isValid) := by
  unfold identified
  dsimp only
  split_ifs
  · exact (Turn.updateClient (Eq.refl _)).andThen (.suspend _)
  · exact (Turn.updateClient (Eq.refl _)).andThen (.reply _ _)

lemma resumeLogin_turn {G : Effect → Prop} (rsn : String)
    (challenge : Option (String × ChallengeInfo)) :
    Turn G c w (w.resumeLogin c rsn challenge) := by
  have hask : Turn G c w (w.requestChallengeStateConfirmation c rsn challenge) := by
    cases challenge with
    | none => exact .rfl
    | some challenge => exact .sendMessage _
  unfold resumeLogin
  dsimp only
  split_ifs
  · exact hask.andThen ((Turn.updateClientStatus _).andThen (.suspend _))
  · exact hask.andThen (.suspend _)

lemma resume_turn (s : Suspended) (answer : Answer) :
    Turn (DoesResume s answer) c w (w.resume c s answer) := by
  unfold resume
  split
  · exact .reply _ _
  · exact .reply _ _
  · unfold resumeStart
    split_ifs with hstart
    · exact .request (.start _ _ _ _ hstart) _
    · exact .reply _ _
  · exact w.started_turn c _ _
  · exact .reply _ _
  · exact (w.enterChallenge_turn c _).andThen (.suspend _)
  · exact w.completed_turn c _ _
  · unfold resumeStageEnd
    split_ifs
    · exact (Turn.emit fun _ => .stageEnd _ _ _ _ _ _).andThen (.suspend _)
    · exact .request (.update _ _ _ _ _ _) _
  · exact .request (.updateWritten _ _ _) _
  · exact (Turn.updateClient (session_setStageAttempt _ _ _).1).andThen (.suspend _)
  · exact .suspend _
  · exact w.resumeEvents_turn c _ _ _ fun h _ _ _ => .events _ _ _ _ _ _ h
  · exact .reply _ _
  · exact (Turn.updateClient (Eq.refl _)).andThen (.suspend _)
  · exact w.identified_turn c _ _ _
  · exact w.resumeLogin_turn c _ _
  · exact (Turn.updateClient (Eq.refl _)).andThen (.suspend _)
  · exact .suspend _

/-! ### Finished challenges -/

lemma client_endRecording (challengeId : String) (d : ClientRef) :
    (w.endRecording challengeId c).client d =
      if d = c then (w.client c).clearActiveChallenge else w.client d := by
  have hsend : (w.sendMessage c (.challengeRecordingEnded challengeId)).client = w.client := by
    unfold sendMessage
    split_ifs <;> exact Eq.refl _
  unfold endRecording updateClient
  rw [hsend]
  exact Function.update_apply _ _ _ _

lemma log_endRecording (challengeId : String) :
    ∃ deeds : List Deed, (w.endRecording challengeId c).log = w.log ++ deeds.map .did ∧
      (∀ deed ∈ deeds, ¬ deed.effect.Acts) ∧ ((w.client c).isOpen = true → ∃ deed ∈ deeds,
        deed.client = c ∧ deed.effect = .reply (.challengeRecordingEnded challengeId)) := by
  by_cases hopen : (w.client c).isOpen = true
  · refine ⟨[⟨c, .reply (.challengeRecordingEnded challengeId), (w.client c).validated,
      (w.client c).getActiveChallengeId⟩], ?_, ?_,
      fun _ => ⟨_, List.mem_singleton.mpr (Eq.refl _), Eq.refl _, Eq.refl _⟩⟩
    · simp only [endRecording, sendMessage, if_pos hopen]
      rfl
    · simp [Effect.Acts]
  · refine ⟨[], ?_, by simp, fun h => absurd h hopen⟩
    simp only [endRecording, sendMessage, if_neg hopen, List.map_nil, List.append_nil]
    rfl

lemma log_endRecordings (challengeId : String) (clients : List ClientRef) :
    ∃ deeds : List Deed,
      (clients.foldl (endRecording challengeId) w).log = w.log ++ deeds.map .did ∧
      (∀ deed ∈ deeds, ¬ deed.effect.Acts) ∧
      ∀ c ∈ clients, (w.client c).isOpen = true → ∃ deed ∈ deeds,
        deed.client = c ∧ deed.effect = .reply (.challengeRecordingEnded challengeId) := by
  induction clients generalizing w with
  | nil => exact ⟨[], by simp, by simp, by simp⟩
  | cons d clients ih =>
    obtain ⟨deeds, hlog, hacts, htold⟩ := w.log_endRecording d challengeId
    obtain ⟨deeds', hlogs, hacts', htolds⟩ := ih (w.endRecording challengeId d)
    refine ⟨deeds ++ deeds', ?_, fun deed hd => ?_, fun c hc hopen => ?_⟩
    · rw [List.foldl_cons, hlogs, hlog, List.map_append, List.append_assoc]
    · exact (List.mem_append.mp hd).elim (hacts deed) (hacts' deed)
    · rcases List.mem_cons.mp hc with rfl | hc
      · obtain ⟨deed, hmem, hdeed⟩ := htold hopen
        exact ⟨deed, List.mem_append_left _ hmem, hdeed⟩
      · have hopen' : ((w.endRecording challengeId d).client c).isOpen = true := by
          rw [client_endRecording]
          split_ifs with hd
          · exact hd ▸ hopen
          · exact hopen
        obtain ⟨deed, hmem, hdeed⟩ := htolds c hc hopen'
        exact ⟨deed, List.mem_append_right _ hmem, hdeed⟩

lemma client_endRecordings (challengeId : String) (clients : List ClientRef) (d : ClientRef) :
    ((clients.foldl (endRecording challengeId) w).client d =
      if d ∈ clients then (w.client d).clearActiveChallenge else w.client d) ∧
    (clients.foldl (endRecording challengeId) w).handler = w.handler := by
  induction clients generalizing w with
  | nil => simp
  | cons c clients ih =>
    obtain ⟨hclient, hhandler⟩ := ih (w.endRecording challengeId c)
    have hsame : (w.endRecording challengeId c).handler = w.handler := by
      unfold endRecording sendMessage
      split_ifs <;> rfl
    refine ⟨?_, hhandler.trans hsame⟩
    rw [List.foldl_cons, hclient, client_endRecording]
    by_cases hd : d = c
    · subst hd
      by_cases hmem : d ∈ clients <;> simp [hmem, Client.clearActiveChallenge]
    · simp [hd]

lemma client_handleChallengeFinish (challengeId : String) (d : ClientRef) :
    ((w.handleChallengeFinish challengeId).client d = w.client d ∨
      (w.handleChallengeFinish challengeId).client d = (w.client d).clearActiveChallenge) ∧
    (w.handleChallengeFinish challengeId).handler = w.handler := by
  unfold handleChallengeFinish
  split
  · exact ⟨Or.inl (Eq.refl _), Eq.refl _⟩
  · obtain ⟨hclient, hhandler⟩ := w.client_endRecordings challengeId
      (List.filter (fun c => (w.client c).getActiveChallengeId = some challengeId) _) d
    refine ⟨?_, hhandler⟩
    change World.client (List.foldl _ _ _) d = _ ∨ World.client (List.foldl _ _ _) d = _
    rw [hclient]
    split_ifs
    · exact Or.inr (Eq.refl _)
    · exact Or.inl (Eq.refl _)

lemma log_handleChallengeFinish (challengeId : String) :
    ∃ deeds : List Deed, (w.handleChallengeFinish challengeId).log = w.log ++ deeds.map .did ∧
      ∀ deed ∈ deeds, ¬ deed.effect.Acts := by
  unfold handleChallengeFinish
  split
  · exact ⟨[], by simp, by simp⟩
  · obtain ⟨deeds, hlog, hacts, -⟩ := w.log_endRecordings challengeId
      (List.filter (fun c => (w.client c).getActiveChallengeId = some challengeId) _)
    exact ⟨deeds, hlog, hacts⟩

/-! ### Closed sockets -/

lemma log_removeClientFromChallenge : (w.removeClientFromChallenge c).log = w.log := by
  unfold removeClientFromChallenge
  split
  · rfl
  · split_ifs
    · rfl
    · split <;> rfl

lemma handler_removeClientFromChallenge :
    (w.removeClientFromChallenge c).handler = w.handler := by
  unfold removeClientFromChallenge
  split
  · rfl
  · split_ifs
    · rfl
    · split <;> rfl

lemma log_closeClient : ∃ deeds : List Deed, (w.closeClient c).log = w.log ++ deeds.map .did ∧
    (∀ deed ∈ deeds, ¬ deed.effect.Acts) ∧
    ((w.client c).validated = true ∨ (w.client c).getActiveChallengeId.isSome = true →
      ∃ deed ∈ deeds, deed.client = c ∧ deed.effect = .status .disconnected (w.requester c)) := by
  unfold closeClient
  split_ifs with h
  · refine ⟨[⟨c, .status .disconnected (w.requester c),
      ((w.removeClientFromChallenge c).client c).validated,
      ((w.removeClientFromChallenge c).client c).getActiveChallengeId⟩], ?_, ?_,
      fun _ => ⟨_, List.mem_singleton.mpr (Eq.refl _), Eq.refl _, Eq.refl _⟩⟩
    · change World.log (updateClientStatus w c .disconnected) = _
      unfold updateClientStatus
      simp only [if_pos, emit, log_removeClientFromChallenge]
      rfl
    · simp [Effect.Acts]
  · refine ⟨[], by simp, by simp, fun hknown => absurd ?_ h⟩
    simpa using hknown

lemma cleanup_turn :
    (∃ deeds : List Deed, (w.cleanup c).log = w.log ++ deeds.map .did ∧
      (∀ deed ∈ deeds, ¬ deed.effect.Acts) ∧
      ((w.client c).validated = true ∨ (w.client c).getActiveChallengeId.isSome = true →
        ∃ deed ∈ deeds, deed.client = c ∧ deed.effect = .status .disconnected (w.requester c))) ∧
    (∀ d, d ≠ c → (w.cleanup c).client d = w.client d) ∧ (w.cleanup c).handler = w.handler ∧
    ((w.cleanup c).client c).session = none ∧
    ((w.cleanup c).client c).getActiveChallengeId = none := by
  have hturn : Turn (fun _ => True) c w ((w.updateClient c fun c =>
      { c with isOpen := false }).closeClient c) := by
    refine (Turn.updateClient (f := fun c => { c with isOpen := false }) (Eq.refl _)).andThen ?_
    unfold closeClient
    split_ifs
    · exact (Turn.updateClientStatus _).andThen
        (Turn.updateClient (f := fun c => { c with validated := false }) (Eq.refl _))
    · exact .rfl
  refine ⟨?_, fun d hd => ?_, ?_, ?_, ?_⟩
  · obtain ⟨deeds, hlog, hacts, hknown⟩ :=
      (w.updateClient c fun c => { c with isOpen := false }).log_closeClient c
    refine ⟨deeds, hlog, hacts, fun h => ?_⟩
    obtain ⟨deed, hmem, hclient, heffect⟩ :=
      hknown (by rw [client_updateClient_self]; exact h)
    refine ⟨deed, hmem, hclient, heffect.trans ?_⟩
    simp [requester, Client.getSessionToken]
  · unfold cleanup
    rw [client_updateClient_of_ne _ hd]
    exact hturn.client d hd
  · change World.handler (closeClient _ _) = _
    unfold closeClient
    split_ifs
    · change World.handler (updateClientStatus _ _ _) = _
      unfold updateClientStatus
      simp only [if_pos]
      exact handler_removeClientFromChallenge _ _
    · rfl
  · unfold cleanup
    rw [client_updateClient_self]
  · unfold cleanup
    rw [client_updateClient_self]
    rfl

/-! ### Steps -/

/-- What a step does for a client that acts on a challenge. -/
inductive Does (w : World) : Act → ClientRef → Effect → Prop
  | receive (c : ClientRef) (message : ServerMessage) (e : Effect)
      (h : w.DoesReceive c message e) : Does w (.receive c message) c e
  | resume (c : ClientRef) (s : Suspended) (answer : Answer) (e : Effect)
      (hs : w.handler c = some s) (h : DoesResume s answer e) : Does w (.resume c answer) c e
  | resend (c : ClientRef) (s : Suspended) (r : Request) (hs : w.handler c = some s)
      (h : s.request = some r) : Does w (.resend c) c (.request r)

structure Logs (w : World) (act : Act) (es : List LogEntry) : Prop where
  accepted : ∀ c challengeId, .accepted c challengeId ∈ es → ∃ status, act = .accept c status
  did : ∀ deed, .did deed ∈ es → deed.effect.Acts →
    deed = ⟨deed.client, deed.effect, (w.client deed.client).validated,
      (w.client deed.client).getActiveChallengeId⟩ ∧ w.Does act deed.client deed.effect

variable {w c}

lemma Logs.of_turn {act : Act} {G : Effect → Prop} (hG : ∀ e, G e → w.Does act c e) {w' : World}
    (h : Turn G c w w') : ∃ es, w'.log = w.log ++ es ∧ w.Logs act es := by
  obtain ⟨deeds, hlog, hdeeds⟩ := h.log
  refine ⟨_, hlog, fun _ _ hmem => ?_, fun deed hmem hacts => ?_⟩
  · obtain ⟨_, _, h⟩ := List.mem_map.mp hmem
    cases h
  · obtain ⟨deed', hmem, h⟩ := List.mem_map.mp hmem
    cases h
    obtain ⟨heq, hg⟩ := hdeeds deed hmem hacts
    have hclient : deed.client = c := congrArg Deed.client heq
    exact ⟨hclient ▸ heq, hclient ▸ hG _ hg⟩

lemma Logs.of_idle {act : Act} {deeds : List Deed} (h : ∀ deed ∈ deeds, ¬ deed.effect.Acts) :
    w.Logs act (deeds.map .did) := by
  refine ⟨fun _ _ hmem => ?_, fun deed hmem hacts => ?_⟩
  · obtain ⟨_, _, h⟩ := List.mem_map.mp hmem
    cases h
  · obtain ⟨deed', hmem, h'⟩ := List.mem_map.mp hmem
    cases h'
    exact absurd hacts (h deed hmem)

lemma Logs.nil (act : Act) : w.Logs act [] :=
  Logs.of_idle fun deed (hmem : deed ∈ ([] : List Deed)) => absurd hmem List.not_mem_nil

/-- **A step only adds to the log**, and does what its message or wait makes it do. -/
theorem log_next (w : World) (act : Act) :
    ∃ es, (server.next w act).log = w.log ++ es ∧ w.Logs act es := by
  cases act with
  | receive c message =>
    exact Logs.of_turn (fun e h => .receive c message e h) (w.handleMessage_turn c message)
  | resume c answer =>
    change ∃ es, (w.resumeHandler c answer).log = _ ∧ _
    unfold resumeHandler
    cases hs : w.handler c with
    | none => exact ⟨[], (List.append_nil _).symm, .nil _⟩
    | some s => exact Logs.of_turn (fun e h => .resume c s answer e hs h) (w.resume_turn c s answer)
  | resend c =>
    change ∃ es, (w.resend c).log = _ ∧ _
    unfold resend
    cases hr : (w.handler c).bind Suspended.request with
    | none => exact ⟨[], (List.append_nil _).symm, .nil _⟩
    | some r =>
      obtain ⟨s, hs, hr⟩ := Option.bind_eq_some_iff.mp hr
      exact Logs.of_turn (G := fun e => e = .request r) (fun e he => he ▸ .resend c s r hs hr)
        (.emit fun _ => Eq.refl _)
  | accept c status =>
    change ∃ es, (w.accept c status).log = _ ∧ _
    unfold accept
    cases (w.handler c).bind (Suspended.accept status) with
    | none => exact ⟨[], (List.append_nil _).symm, .nil _⟩
    | some s =>
      refine ⟨[.accepted c status.uuid], Eq.refl _, fun d u hmem => ?_, fun deed hmem => ?_⟩
      · cases List.mem_singleton.mp hmem
        exact ⟨status, Eq.refl _⟩
      · cases List.mem_singleton.mp hmem
  | close c =>
    obtain ⟨deeds, hlog, hacts, -⟩ := (w.cleanup_turn c).1
    exact ⟨_, hlog, .of_idle hacts⟩
  | unresponsive c => exact ⟨[], (List.append_nil _).symm, .nil _⟩
  | challengeFinish challengeId =>
    obtain ⟨deeds, hlog, hacts⟩ := w.log_handleChallengeFinish challengeId
    exact ⟨_, hlog, .of_idle hacts⟩
  | serverStatus allow => exact ⟨[], (List.append_nil _).symm, .nil _⟩

lemma session_next (w : World) (act : Act) (c : ClientRef) :
    ((server.next w act).client c).session =
      if act = .close c then none else (w.client c).session := by
  have hturn : ∀ {G : Effect → Prop} {d : ClientRef} {w' : World}, Turn G d w w' →
      (w'.client c).session = (w.client c).session := by
    intro G d w' h
    by_cases hd : c = d
    · exact hd ▸ h.session
    · rw [h.client c hd]
  cases act with
  | receive d message => exact hturn (w.handleMessage_turn d message)
  | resume d answer =>
    change ((w.resumeHandler d answer).client c).session = _
    unfold resumeHandler
    split
    · exact hturn (w.resume_turn d _ answer)
    · rfl
  | resend d =>
    change ((w.resend d).client c).session = _
    unfold resend
    split <;> rfl
  | accept d status =>
    change ((w.accept d status).client c).session = _
    unfold accept
    split <;> rfl
  | close d =>
    change ((w.cleanup d).client c).session = _
    obtain ⟨-, hothers, -, hself, -⟩ := w.cleanup_turn d
    by_cases hd : c = d
    · subst hd
      rw [hself, if_pos (Eq.refl _)]
    · rw [hothers c hd, if_neg fun h => hd (Act.close.inj h).symm]
  | unresponsive d =>
    exact hturn (G := fun _ => True)
      (Turn.updateClient (f := fun c => { c with isOpen := false }) (Eq.refl _))
  | challengeFinish challengeId =>
    change ((w.handleChallengeFinish challengeId).client c).session = _
    rcases (w.client_handleChallengeFinish challengeId c).1 with h | h <;> rw [h] <;> rfl
  | serverStatus allow => rfl

end World

end Blert.Socket

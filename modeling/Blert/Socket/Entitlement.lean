import Blert.Socket.Disconnect

/-!
Who acts on a challenge.

A request or a write is made for a client that is validated and, unless the client only enters a
challenge by it, in that challenge. Some messages are not checked for this, and a check does not
last: sockets close and challenges finish while a handler waits.
-/

namespace Blert.Socket

/-- What was done on a challenge was done for a validated client that was in it. -/
def Deed.Entitled (deed : Deed) : Prop :=
  match deed.effect with
  | .request (.start _) | .request (.join _ _) => deed.validated = true
  | .request (.update challengeId _) | .request (.finish challengeId _) =>
    deed.validated = true ∧ deed.activeChallengeId = some challengeId
  | .write key _ => deed.validated = true ∧ deed.activeChallengeId = some key.uuid
  | .status _ _ | .reply _ => True

namespace World

variable (w : World) (c : ClientRef)

/-- A client is still there: its socket has not closed, and its challenge has not been taken. -/
def Present : Prop := ¬ w.Closed c ∧ (w.client c).getActiveChallengeId.isSome = true

instance : Decidable (w.Present c) := inferInstanceAs (Decidable (_ ∧ _))

/-- A message names its client's challenge if it acts on one, and its client is validated. -/
def Speaks : ServerMessage → Prop
  | .challengeStateConfirmation challengeId (some confirmation) =>
    if confirmation.isValid then
      (w.client c).getActiveChallengeId ≠ some challengeId → (w.client c).validated = true
    else (w.client c).validated = true ∧ (w.client c).getActiveChallengeId = some challengeId
  | .challengeEndRequest _ challengeId (some _) | .eventStream challengeId _ =>
    (w.client c).validated = true → challengeId ≠ "" →
      (w.client c).getActiveChallengeId = some challengeId
  | _ => True

instance (message : ServerMessage) : Decidable (w.Speaks c message) := by
  unfold Speaks
  split
  · split_ifs <;> infer_instance
  all_goals infer_instance

/-- A client is still there when the end of a wait makes its handler act. -/
def Stays : Suspended → Answer → Prop
  | .lookingUpStarter _ request, .username (some _) => startable request = true → ¬ w.Closed c
  | .checkingStageEnd _ _ _ _, .stageEnd _ | .writingStageEnd _ _, .done => w.Present c
  | .checkingProcessed _ _, .processed (some flags) => false ∈ flags → w.Present c
  | _, _ => True

instance (s : Suspended) (answer : Answer) : Decidable (w.Stays c s answer) := by
  induction s using Suspended.casesOn
  case lookingUpStarter =>
    induction answer using Answer.casesOn
    case username username =>
      induction username using Option.casesOn <;> (unfold Stays; infer_instance)
    all_goals (unfold Stays; infer_instance)
  case checkingProcessed =>
    induction answer using Answer.casesOn
    case processed flags =>
      induction flags using Option.casesOn <;> (unfold Stays; infer_instance)
    all_goals (unfold Stays; infer_instance)
  all_goals induction answer using Answer.casesOn <;> (unfold Stays; infer_instance)

/-- A client is still there when its request is sent again. -/
def Repeats : Suspended → Prop
  | .starting _ _ _ | .joining _ _ _ => ¬ w.Closed c
  | .updating _ _ | .completing _ _ _ => w.Present c
  | _ => True

instance (s : Suspended) : Decidable (w.Repeats c s) := by
  induction s using Suspended.casesOn <;> (unfold Repeats; infer_instance)

/-- The messages of clients speak for their own challenges, and clients stay until their handlers
have acted. -/
def ActsAsMember : Act → Prop
  | .receive c message => w.Speaks c message
  | .resume c answer => ∀ s ∈ w.handler c, w.Stays c s answer
  | .resend c => ∀ s ∈ w.handler c, w.Repeats c s
  | _ => True

instance (act : Act) : Decidable (w.ActsAsMember act) := by
  induction act using Act.casesOn <;> (unfold ActsAsMember; infer_instance)

/-- What was checked of a client whose handler waits holds as long as it is there. -/
def Vouched : Suspended → Prop
  | .lookingUpStarter _ _ | .starting _ _ _ | .joining _ _ _ =>
    ¬ w.Closed c → (w.client c).validated = true
  | .completing challengeId _ _ | .checkingStageEnd challengeId _ _ _
  | .writingStageEnd challengeId _ | .updating challengeId _ | .checkingChallenge challengeId _
  | .checkingProcessed challengeId _ =>
    ¬ w.Closed c → (w.client c).validated = true ∧
      ∀ u ∈ (w.client c).getActiveChallengeId, u = challengeId
  | _ => True

variable {w c}

lemma Present.entitled {challengeId : String} (hpresent : w.Present c)
    (h : ¬ w.Closed c → (w.client c).validated = true ∧
      ∀ u ∈ (w.client c).getActiveChallengeId, u = challengeId) :
    (w.client c).validated = true ∧ (w.client c).getActiveChallengeId = some challengeId := by
  obtain ⟨hvalid, hactive⟩ := h hpresent.1
  obtain ⟨u, hu⟩ := Option.isSome_iff_exists.mp hpresent.2
  exact ⟨hvalid, hactive u hu ▸ hu⟩

lemma Does.entitled {act : Act} {e : Effect} (h : w.Does act c e)
    (hvouched : ∀ s ∈ w.handler c, w.Vouched c s) (hact : w.ActsAsMember act) :
    Deed.Entitled ⟨c, e, (w.client c).validated, (w.client c).getActiveChallengeId⟩ := by
  cases h with
  | receive c message e h =>
    cases h with
    | rejoin challengeId username spectator body hother =>
      have hspeaks : w.Speaks c
        (.challengeStateConfirmation challengeId (some ⟨true, username, spectator⟩)) := hact
      rw [Speaks, if_pos rfl] at hspeaks
      exact hspeaks hother
    | leave challengeId username spectator body => exact hact
    | complete requestId challengeId request body hvalid hid => exact ⟨hvalid, hact hvalid hid⟩
    | update challengeId update body hvalid hactive => exact ⟨hvalid, hactive⟩
  | resume c s answer e hs h =>
    have hv := hvouched s hs
    have hstays := hact s hs
    cases h with
    | start requestId request name body h => exact hv (hstays h)
    | stageEnd challengeId update stage attempt result record => exact hstays.entitled hv
    | update challengeId update stage attempt result body => exact hstays.entitled hv
    | updateWritten challengeId update body => exact hstays.entitled hv
    | events challengeId entries flags stage attempt record h => exact (hstays h).entitled hv
  | resend c s r hs h =>
    have hv := hvouched s hs
    have hrepeats := hact s hs
    cases s <;> cases h
    · exact hv hrepeats
    · exact hv hrepeats
    · exact hrepeats.entitled hv
    · exact hrepeats.entitled hv

/-! ### What was checked -/

lemma Vouched.congr {w w' : World} {s : Suspended} (h : w'.client c = w.client c)
    (hv : w.Vouched c s) : w'.Vouched c s := by
  unfold Vouched Closed at *
  rw [h]
  exact hv

lemma Vouched.less {w w' : World} {s : Suspended} (hclosed : ¬ w'.Closed c → ¬ w.Closed c ∧
      (w'.client c).validated = (w.client c).validated)
    (hactive : ∀ u ∈ (w'.client c).getActiveChallengeId, u ∈ (w.client c).getActiveChallengeId)
    (hv : w.Vouched c s) : w'.Vouched c s := by
  have hcaller (hv : ¬ w.Closed c → (w.client c).validated = true) (hopen : ¬ w'.Closed c) :
      (w'.client c).validated = true := by
    obtain ⟨hopen, hvalid⟩ := hclosed hopen
    exact hvalid ▸ hv hopen
  have hmember {challengeId : String} (hv : ¬ w.Closed c → (w.client c).validated = true ∧
      ∀ u ∈ (w.client c).getActiveChallengeId, u = challengeId) (hopen : ¬ w'.Closed c) :
      (w'.client c).validated = true ∧
        ∀ u ∈ (w'.client c).getActiveChallengeId, u = challengeId :=
    ⟨hcaller (fun h => (hv h).1) hopen, fun u hu => (hv (hclosed hopen).1).2 u (hactive u hu)⟩
  unfold Vouched at *
  split at hv <;> first | exact hcaller hv | exact hmember hv | trivial

/-- The handler of a client waits where what was checked still holds. -/
def Waits (w : World) (c : ClientRef) : Prop := ∀ s ∈ w.handler c, w.Vouched c s

lemma Waits.of_suspend {w : World} {s : Suspended} (h : w.Vouched c s) :
    (w.suspend c (some s)).Waits c := by
  intro s' hs'
  obtain rfl : s = s' := by simpa [suspend] using hs'
  exact h.congr rfl

lemma Waits.finish (w : World) : (w.finish c).Waits c := by
  intro s hs
  simp [World.finish, suspend] at hs

lemma Waits.request {w : World} {r : Request} {s : Suspended} (h : w.Vouched c s) :
    (w.request c r s).Waits c :=
  Waits.of_suspend (h.congr rfl)

lemma waits_updateChallenge {w : World} {challengeId : String} (update : ChallengeUpdate)
    (hvalid : (w.client c).validated = true)
    (hactive : (w.client c).getActiveChallengeId = some challengeId) :
    (w.updateChallenge c challengeId update).Waits c := by
  have hid : ∀ u ∈ (w.client c).getActiveChallengeId, u = challengeId := fun u hu => by
    rw [hactive] at hu
    exact (Option.some.inj hu).symm
  unfold updateChallenge
  split
  · split_ifs
    · exact .of_suspend fun _ => ⟨hvalid, hid⟩
    · exact .request fun _ => ⟨hvalid, hid⟩
  · exact .request fun _ => ⟨hvalid, hid⟩

lemma waits_handleMessage {w : World} {message : ServerMessage} (h : w.Speaks c message) :
    (w.handleMessage c message).Waits c := by
  have hself : ∀ {challengeId}, (w.client c).getActiveChallengeId = some challengeId →
      ∀ u ∈ (w.client c).getActiveChallengeId, u = challengeId := fun hactive u hu => by
    rw [hactive] at hu
    exact (Option.some.inj hu).symm
  unfold handleMessage
  split
  · exact .of_suspend trivial
  · unfold handleGameStateUpdate
    split
    · split
      · exact .of_suspend trivial
      · exact .finish w
    · dsimp only
      split_ifs
      · exact .of_suspend trivial
      · exact .finish _
    · exact .finish _
  · rename_i challengeId confirmation
    unfold handleConfirmation
    unfold Speaks at h
    dsimp only at h
    split_ifs at h ⊢ with hvalid hother
    · exact .request fun _ => h hother
    · exact .finish w
    · exact .request fun _ => ⟨h.1, hself h.2⟩
  · unfold handleChallengeStart
    split_ifs with hvalid
    · exact .finish _
    · exact .of_suspend fun _ => hvalid
    · exact .finish w
  · unfold handleChallengeEnd
    split_ifs with hvalid hid
    · exact .finish w
    · exact .request fun _ => ⟨hvalid, hself (h hvalid hid)⟩
    · exact .finish w
  · rename_i challengeId update
    unfold handleChallengeUpdate
    split_ifs with hvalid hid hactive
    · exact .finish w
    · exact waits_updateChallenge update hvalid (not_not.mp hactive).symm
    · exact .finish w
    · exact .finish w
  · dsimp only
    split_ifs with hvalid hid
    · exact .finish w
    · exact .of_suspend fun _ => ⟨hvalid, hself (h hvalid hid)⟩
    · exact .finish w
  · exact .finish w

lemma waits_resume {w : World} {s : Suspended} (hs : w.Vouched c s) (answer : Answer) :
    (w.resume c s answer).Waits c := by
  unfold resume
  split
  · exact .finish _
  · exact .finish _
  · unfold resumeStart
    split_ifs
    · exact .request hs
    · exact .finish _
  · exact .finish _
  · exact .finish _
  · exact .finish _
  · unfold completed
    dsimp only
    split <;> exact .finish _
  · unfold resumeStageEnd
    split_ifs
    · exact .of_suspend (hs.congr rfl)
    · exact .request hs
  · exact .request hs
  · exact .finish _
  · exact .of_suspend hs
  · unfold resumeEvents
    dsimp only
    split_ifs
    · exact .finish w
    · exact .of_suspend trivial
  · exact .finish _
  · exact .of_suspend trivial
  · unfold identified
    dsimp only
    split_ifs
    · exact .of_suspend trivial
    · exact .finish _
  · unfold resumeLogin
    dsimp only
    split_ifs
    · exact .of_suspend trivial
    · exact .finish _
  · exact .finish _
  · exact .finish w

lemma Vouched.accept {w : World} {s s' : Suspended} {status : ChallengeStatusResponse}
    (hs : s.accept status = some s') (hv : w.Vouched c s) : w.Vouched c s' := by
  unfold Suspended.accept at hs
  split at hs
  · cases hs
    exact hv
  · split_ifs at hs
    cases hs
    exact hv
  · cases hs

lemma Waits.congr {w w' : World} (hclient : w'.client c = w.client c)
    (hhandler : w'.handler c = w.handler c) (h : w.Waits c) : w'.Waits c :=
  fun s hs => (h s (hhandler ▸ hs)).congr hclient

lemma Waits.of_turn {G : Effect → Prop} {w w' : World} {d : ClientRef} (h : Turn G d w w')
    (hself : w'.Waits d) (hwaits : ∀ c, w.Waits c) (c : ClientRef) : w'.Waits c := by
  by_cases hc : c = d
  · exact hc ▸ hself
  · exact (hwaits c).congr (h.client c hc) (h.handler c hc)

lemma waits_next {w : World} (h : ∀ c, w.Waits c) (act : Act) (hact : w.ActsAsMember act) :
    ∀ c, (server.next w act).Waits c := by
  cases act with
  | receive d message =>
    exact .of_turn (w.handleMessage_turn d message) (waits_handleMessage hact) h
  | resume d answer =>
    change ∀ c, (w.resumeHandler d answer).Waits c
    unfold resumeHandler
    cases hs : w.handler d with
    | none => exact h
    | some s => exact .of_turn (w.resume_turn d s answer) (waits_resume (h d s hs) answer) h
  | resend d =>
    change ∀ c, (w.resend d).Waits c
    unfold resend
    split
    · exact fun c => (h c).congr rfl rfl
    · exact h
  | accept d status =>
    change ∀ c, (w.accept d status).Waits c
    unfold accept
    cases hs : (w.handler d).bind (Suspended.accept status) with
    | none => exact h
    | some s' =>
      obtain ⟨s, hs, hs'⟩ := Option.bind_eq_some_iff.mp hs
      dsimp only
      intro c
      by_cases hc : c = d
      · subst hc
        exact (Waits.of_suspend ((h c s hs).accept hs')).congr rfl rfl
      · exact Waits.congr (w := w) rfl (w.handler_suspend_of_ne hc (some s')) (h c)
  | close d =>
    obtain ⟨-, hothers, hhandler, hsession, hactive⟩ := w.cleanup_turn d
    intro c
    by_cases hc : c = d
    · subst hc
      refine fun s hs => (h c s (hhandler ▸ hs)).less (fun hopen => absurd hsession hopen) ?_
      intro u hu
      change u ∈ ((w.cleanup c).client c).getActiveChallengeId at hu
      rw [hactive] at hu
      cases hu
    · exact (h c).congr (hothers c hc) (congrFun hhandler c)
  | unresponsive d =>
    intro c s hs
    have hv := h c s hs
    change (w.updateClient d fun c => { c with isOpen := false }).Vouched c s
    by_cases hc : c = d
    · subst hc
      refine hv.less (fun hopen => ⟨?_, ?_⟩) fun u hu => ?_
      · simpa [Closed] using hopen
      · simp
      · simpa [Client.getActiveChallengeId] using hu
    · exact hv.congr (client_updateClient_of_ne w hc _)
  | challengeFinish challengeId =>
    intro c s hs
    obtain ⟨hclient, hhandler⟩ := w.client_handleChallengeFinish challengeId c
    have hv := h c s (hhandler ▸ hs)
    change (w.handleChallengeFinish challengeId).Vouched c s
    rcases hclient with hclient | hclient
    · exact hv.congr hclient
    · refine hv.less (fun hopen => ?_) fun u hu => ?_
      · unfold Closed at hopen
        rw [hclient] at hopen
        exact ⟨hopen, by rw [hclient]; rfl⟩
      · rw [hclient] at hu
        cases hu
  | serverStatus allow => exact fun c => (h c).congr rfl rfl

end World

/-! ### Runs -/

/-- **Only validated members act on a challenge as long as messages name their clients' own
challenges and clients stay until their handlers have acted.** -/
theorem deeds_entitled {w : World}
    (h : server.Reachable World.Initial World.ActsAsMember w) :
    ∀ deed, .did deed ∈ w.log → deed.Entitled := by
  have hinv : (∀ c, w.Waits c) ∧ ∀ deed, .did deed ∈ w.log → deed.Entitled := by
    refine h.invariant (I := fun w => (∀ c, w.Waits c) ∧
      ∀ deed, LogEntry.did deed ∈ w.log → deed.Entitled) (fun w hw => ⟨fun c s hs => ?_, ?_⟩)
      fun w act hw _ hact => ⟨World.waits_next hw.1 act hact, fun deed hmem => ?_⟩
    · rw [hw.handler c] at hs
      cases hs
    · simp [hw.log]
    · obtain ⟨es, hes, hlogs⟩ := World.log_next w act
      rw [hes] at hmem
      rcases List.mem_append.mp hmem with hmem | hmem
      · exact hw.2 deed hmem
      · by_cases hacts : deed.effect.Acts
        · obtain ⟨heq, hdoes⟩ := hlogs.did deed hmem hacts
          rw [heq]
          exact hdoes.entitled (hw.1 deed.client) hact
        · obtain ⟨client, effect, validated, active⟩ := deed
          cases effect with
          | request _ | write _ _ => exact absurd trivial hacts
          | status _ _ | reply _ => trivial
  exact hinv.2

/-- A client that logs in, starts a challenge and sends events of it. -/
def playingActs : List Act :=
  startingActs ++ [.receive 0 (.eventStream "raid" [⟨10, 1, ""⟩]),
    .resume 0 (.challengeExists true), .resume 0 (.processed (some [false])), .resume 0 .done]

theorem playing_entitled :
    (∃ record active, .did ⟨0, .write ⟨"raid", 10, none⟩ record, true, active⟩ ∈
      (server.run connectedWorld playingActs).log) ∧
    ∀ deed, .did deed ∈ (server.run connectedWorld playingActs).log → deed.Entitled := by
  have hinit : server.Reachable World.Initial World.ActsAsMember connectedWorld :=
    .init connectedWorld_initial
  refine ⟨⟨.stageEvents 0 [⟨10, 1, ""⟩], some "raid", by decide⟩,
    deeds_entitled (hinit.run (by decide))⟩

/-- A client that is not validated says that it has left a challenge, which it never was in. -/
theorem stranger_finishes :
    ∃ w, server.Reachable World.Initial (fun _ _ => True) w ∧
      ∃ deed, .did deed ∈ w.log ∧ ¬ deed.Entitled := by
  have hinit : server.Reachable World.Initial (fun _ _ => True) connectedWorld :=
    .init connectedWorld_initial
  refine ⟨server.run connectedWorld
    [.receive 0 (.challengeStateConfirmation "raid" (some ⟨false, "player", false⟩))],
    hinit.run (by decide), ⟨0, .request (.finish "raid" ⟨⟨0, 0, toString 0⟩, none, true⟩), false,
      none⟩, by decide, fun h => ?_⟩
  cases h.1

end Blert.Socket

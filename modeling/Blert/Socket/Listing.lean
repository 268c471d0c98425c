import Blert.Socket.Deeds
import Blert.Socket.Registry

/-!
The lists of clients by challenge.

A client that starts a challenge is listed under it, and leaving, dropping out and finishing take
it off again. A client that takes up a challenge again has it as its active one but is not listed.
Without such clients the lists are exact.
-/

namespace Blert.Socket

namespace Registry

variable {r : Registry}

structure Exact (r : Registry) : Prop where
  listed : ∀ c challengeId, c ∈ r.listed challengeId ↔ r.active c = some challengeId
  nodup : ∀ challengeId, (r.listed challengeId).Nodup
  named : ∀ c, r.active c ≠ some ""

lemma listed_setList (r : Registry) (challengeId : String) (clients : Option (List ClientRef))
    (u : String) : (r.setList challengeId clients).listed u =
      if u = challengeId then clients.getD [] else r.listed u := by
  simp only [listed, setList, Function.update_apply]
  split_ifs <;> rfl

lemma remaining_eq {clients : List ClientRef} (hnodup : clients.Nodup) {c : ClientRef}
    (hc : c ∈ clients) :
    (if clients.length = 1 then none else some (clients.filter (· ≠ c))).getD [] =
      clients.filter (· ≠ c) := by
  split_ifs with h
  · obtain ⟨d, rfl⟩ := List.length_eq_one_iff.mp h
    obtain rfl := List.mem_singleton.mp hc
    simp
  · rfl

namespace Exact

/-- **A client that leaves is taken off its list and no other.** -/
theorem leave_eq (h : r.Exact) (c : ClientRef) :
    (r.leave c).active = Function.update r.active c none ∧
      ∀ u, (r.leave c).listed u = (r.listed u).filter (· ≠ c) := by
  unfold Registry.leave
  cases hactive : r.active c with
  | none =>
    refine ⟨(Function.update_eq_self_iff.mpr hactive.symm).symm, fun u => ?_⟩
    refine (List.filter_eq_self.mpr fun d hd => decide_eq_true ?_).symm
    rintro rfl
    have := (h.listed d u).mp hd
    rw [hactive] at this
    cases this
  | some challengeId =>
    have hne : challengeId ≠ "" := fun he => h.named c (he ▸ hactive)
    have hc := (h.listed c challengeId).mpr hactive
    cases hlist : r.lists challengeId with
    | none =>
      rw [Registry.listed, hlist] at hc
      cases hc
    | some clients =>
      have hclients : r.listed challengeId = clients := by rw [Registry.listed, hlist]; rfl
      rw [hclients] at hc
      simp only [if_neg hne, hlist]
      refine ⟨rfl, fun u => ?_⟩
      change (r.setList challengeId _).listed u = _
      rw [listed_setList, remaining_eq (hclients ▸ h.nodup challengeId) hc]
      split_ifs with hu
      · rw [hu, hclients]
      · refine (List.filter_eq_self.mpr fun d hd => decide_eq_true ?_).symm
        rintro rfl
        have := (h.listed d u).mp hd
        rw [hactive] at this
        exact hu (Option.some.inj this).symm

lemma leave (h : r.Exact) (c : ClientRef) : (r.leave c).Exact := by
  obtain ⟨hactive, hlisted⟩ := h.leave_eq c
  refine ⟨fun d u => ?_, fun u => ?_, fun d => ?_⟩
  · rw [hlisted, hactive, List.mem_filter, h.listed]
    by_cases hd : d = c
    · simp [hd]
    · simp [hd]
  · rw [hlisted]
    exact (h.nodup u).filter _
  · rw [hactive]
    by_cases hd : d = c
    · simp [hd]
    · rw [Function.update_of_ne hd]
      exact h.named d

lemma drop (h : r.Exact) (c : ClientRef) : (r.drop c).Exact := by
  have hnone : none = (r.leave c).active c := by rw [(h.leave_eq c).1, Function.update_self]
  have hdrop : r.drop c = r.leave c :=
    congrArg (Registry.mk · (r.leave c).lists) (Function.update_eq_self_iff.mpr hnone)
  rw [hdrop]
  exact h.leave c

lemma enter (h : r.Exact) (c : ClientRef) {challengeId : String} (hne : challengeId ≠ "") :
    (r.enter c challengeId).Exact := by
  have hl := h.leave c
  have hnone : (r.leave c).active c = none := by rw [(h.leave_eq c).1, Function.update_self]
  have hlisted : ∀ u, (r.enter c challengeId).listed u =
      if u = challengeId then (r.leave c).listed challengeId ++ [c] else (r.leave c).listed u :=
    fun u => listed_setList _ _ _ u
  have hactive : (r.enter c challengeId).active =
      Function.update (r.leave c).active c (some challengeId) := rfl
  have hnot : ∀ u, c ∉ (r.leave c).listed u := fun u hc => by
    rw [hl.listed, hnone] at hc
    cases hc
  refine ⟨fun d u => ?_, fun u => ?_, fun d => ?_⟩
  · rw [hlisted, hactive]
    by_cases hd : d = c
    · subst hd
      by_cases hu : u = challengeId
      · simp [hu]
      · simp [hu, hnot u, Ne.symm hu]
    · rw [Function.update_of_ne hd, ← hl.listed]
      by_cases hu : u = challengeId
      · simp [hu, hd]
      · simp [hu]
  · rw [hlisted]
    split_ifs
    · refine (hl.nodup challengeId).append (List.nodup_singleton c) fun d hd hd' => ?_
      rw [List.mem_singleton.mp hd'] at hd
      exact hnot challengeId hd
    · exact hl.nodup u
  · rw [hactive]
    by_cases hd : d = c
    · subst hd
      simpa using hne
    · rw [Function.update_of_ne hd]
      exact hl.named d

lemma finish_active (h : r.Exact) (challengeId : String) (c : ClientRef) :
    (r.finish challengeId).active c =
      if r.active c = some challengeId then none else r.active c := by
  change (if c ∈ r.listed challengeId ∧ r.active c = some challengeId then none else r.active c) = _
  simp only [h.listed, and_self]

lemma finish (h : r.Exact) (challengeId : String) : (r.finish challengeId).Exact := by
  have hlisted : ∀ u, (r.finish challengeId).listed u =
      if u = challengeId then [] else r.listed u := by
    intro u
    simp only [Registry.listed, Registry.finish, Function.update_apply]
    split_ifs <;> rfl
  refine ⟨fun d u => ?_, fun u => ?_, fun d => ?_⟩
  · rw [hlisted, h.finish_active]
    by_cases hu : u = challengeId
    · subst hu
      by_cases hd : r.active d = some u <;> simp [hd]
    · by_cases hd : r.active d = some challengeId
      · simp [hu, hd, h.listed, Ne.symm hu]
      · simp [hu, hd, h.listed]
  · rw [hlisted]
    split_ifs
    · exact List.nodup_nil
    · exact h.nodup u
  · rw [h.finish_active]
    split_ifs
    · simp
    · exact h.named d

end Exact

end Registry

/-! ### The lists of a server -/

/-- A client's own request to rejoin a challenge is in flight. -/
def World.Rejoining (w : World) (c : ClientRef) : Prop :=
  match w.handler c with
  | some (.joining _ _ _) => True
  | _ => False

instance (w : World) (c : ClientRef) : Decidable (w.Rejoining c) := by
  unfold World.Rejoining
  generalize w.handler c = handler
  induction handler using Option.casesOn with
  | none => infer_instance
  | some s => induction s using Suspended.casesOn <;> infer_instance

/-- A client's own request to start or rejoin a challenge is in flight. -/
def World.Entering (w : World) (c : ClientRef) : Prop :=
  match w.handler c with
  | some (.starting _ _ _) | some (.joining _ _ _) => True
  | _ => False

instance (w : World) (c : ClientRef) : Decidable (w.Entering c) := by
  unfold World.Entering
  generalize w.handler c = handler
  induction handler using Option.casesOn with
  | none => infer_instance
  | some s => induction s using Suspended.casesOn <;> infer_instance

/-- A step in which a client completes a challenge or disconnects. -/
def World.Leaving (w : World) (c : ClientRef) : Act → Prop
  | .resume d _ =>
    d = c ∧ ∃ challengeId body after, w.handler c = some (.completing challengeId body after)
  | .close d => d = c
  | _ => False

/-- Between two states of a server a client is told that recording of a challenge has ended. -/
def World.Told (w w' : World) (c : ClientRef) (challengeId : String) : Prop :=
  ∃ deed, deed.client = c ∧ deed.effect = .reply (.challengeRecordingEnded challengeId) ∧
    .did deed ∈ w'.log.drop w.log.length

/-- What the registry is for. A client whose socket is not open cannot be told anything. -/
structure World.RegistryExact (w : World) : Prop where
  listed : ∀ c challengeId, ¬ w.Entering c →
    (c ∈ w.listed challengeId ↔ (w.client c).getActiveChallengeId = some challengeId)
  finish : ∀ c challengeId, (w.client c).getActiveChallengeId = some challengeId →
    ((w.client c).isOpen = true →
      w.Told (server.next w (.challengeFinish challengeId)) c challengeId) ∧
    ((server.next w (.challengeFinish challengeId)).client c).getActiveChallengeId = none
  others : ∀ c act, w.Leaving c act → ∀ d, d ≠ c → ∀ challengeId,
    (d ∈ (server.next w act).listed challengeId ↔ d ∈ w.listed challengeId)
  completed : ∀ c challengeId body after answer,
    w.handler c = some (.completing challengeId body after) →
    ((server.next w (.resume c answer)).client c).getActiveChallengeId = none

/-- No client is let back into a challenge that it says it is still in. -/
def NoRejoin (w : World) : Act → Prop
  | .resume c (.accepted _) => ¬ w.Rejoining c
  | _ => True

instance (w : World) (act : Act) : Decidable (NoRejoin w act) := by
  unfold NoRejoin
  split <;> infer_instance

/-! ### Telling clients -/

lemma told_finish {w : World} {c : ClientRef} {challengeId : String} (hc : c ∈ w.listed challengeId)
    (hactive : (w.client c).getActiveChallengeId = some challengeId)
    (hopen : (w.client c).isOpen = true) :
    w.Told (server.next w (.challengeFinish challengeId)) c challengeId := by
  unfold World.listed at hc
  change w.Told (w.handleChallengeFinish challengeId) c challengeId
  unfold World.handleChallengeFinish
  cases hlist : w.clientsByChallenge challengeId with
  | none =>
    rw [hlist] at hc
    cases hc
  | some clients =>
    rw [hlist] at hc
    obtain ⟨deeds, hlog, -, htold⟩ := w.log_endRecordings challengeId
      (clients.filter fun c => (w.client c).getActiveChallengeId = some challengeId)
    obtain ⟨deed, hmem, hclient, heffect⟩ :=
      htold c (List.mem_filter.mpr ⟨hc, decide_eq_true hactive⟩) hopen
    refine ⟨deed, hclient, heffect, ?_⟩
    change _ ∈ List.drop _ (World.log (List.foldl _ _ _))
    rw [hlog, List.drop_left]
    exact List.mem_map_of_mem hmem

/-! ### Runs -/

lemma exact_init {w : World} (h : w.Initial) : w.registry.Exact := by
  have hactive : ∀ c, w.registry.active c = none := fun c => by
    simp [World.registry, Client.getActiveChallengeId, (h.client c).2.2.1]
  have hlisted : ∀ u, w.registry.listed u = [] := fun u => by
    simp [Registry.listed, World.registry, h.clientsByChallenge]
  refine ⟨fun c u => ?_, fun u => ?_, fun c => ?_⟩
  · simp [hactive, hlisted]
  · simp [hlisted]
  · simp [hactive]

lemma exact_next {w : World} (h : w.registry.Exact) (act : Act) (hact : NoRejoin w act) :
    (server.next w act).registry.Exact := by
  have hnext := World.registry_next w act
  generalize (server.next w act).registry = r at hnext ⊢
  cases hnext with
  | same act hopen heq => exact heq ▸ h
  | started c requestId body accepted status hs heq => exact heq ▸ h.enter c status.named
  | joined c challengeId body accepted status hs heq =>
    exact absurd (by simp [World.Rejoining, hs]) hact
  | completed c challengeId body after answer hs heq => exact heq ▸ h.leave c
  | closed c heq => exact heq ▸ h.drop c
  | finished challengeId heq => exact heq ▸ h.finish challengeId

lemma reachable_exact {w : World} (h : server.Reachable World.Initial NoRejoin w) :
    w.registry.Exact :=
  h.invariant (I := fun w => w.registry.Exact) (fun _ => exact_init)
    fun _ act hw _ hact => exact_next hw act hact

lemma registry_completing {w : World} {c : ClientRef} {challengeId : String} {body : FinishBody}
    {after : AfterCompletion} (hs : w.handler c = some (.completing challengeId body after))
    (answer : Answer) : (server.next w (.resume c answer)).registry = w.registry.leave c := by
  change (w.resumeHandler c answer).registry = _
  unfold World.resumeHandler
  rw [hs]
  exact World.registry_completed w c challengeId after

/-- **The client registry is exact as long as no client rejoins.** Whatever clients start,
complete and update, however sockets close and challenges finish in between, each client is listed
under its active challenge and no other. -/
theorem registry_exact {w : World} (h : server.Reachable World.Initial NoRejoin w) :
    w.RegistryExact := by
  have hexact := reachable_exact h
  have hleave : ∀ c d, d ≠ c → ∀ u, (d ∈ (w.registry.leave c).listed u ↔ d ∈ w.listed u) := by
    intro c d hd u
    rw [(hexact.leave_eq c).2, List.mem_filter]
    simp [hd, Registry.listed, World.registry, World.listed]
  refine ⟨fun c u _ => hexact.listed c u, fun c u hactive => ⟨fun hopen => ?_, ?_⟩, ?_, ?_⟩
  · exact told_finish ((hexact.listed c u).mpr hactive) hactive hopen
  · change (w.handleChallengeFinish u).registry.active c = none
    rw [World.registry_handleChallengeFinish, hexact.finish_active]
    exact if_pos hactive
  · intro c act hact d hd u
    change d ∈ (server.next w act).registry.listed u ↔ _
    cases act with
    | resume c' answer =>
      obtain ⟨rfl, challengeId, body, after, hs⟩ := hact
      rw [registry_completing hs]
      exact hleave c' d hd u
    | close c' =>
      obtain rfl : c' = c := hact
      change d ∈ (w.cleanup c').registry.listed u ↔ _
      rw [World.registry_cleanup]
      exact hleave c' d hd u
    | _ => exact hact.elim
  · intro c challengeId body after answer hs
    change (server.next w (.resume c answer)).registry.active c = none
    rw [registry_completing hs, (hexact.leave_eq c).1, Function.update_self]

/-! ### A client that starts, and one that rejoins -/

/-- Clients that have connected and done nothing yet. -/
def connectedWorld : World where
  client c :=
    { userId := c, keyId := c, pluginVersion := "", runeLiteVersion := ""
      session := some { id := c, token := toString c }, activeChallenge := none, isOpen := true
      loggedInRsn := none, validated := false }
  handler _ := none
  clientsByChallenge _ := none
  allowStartingChallenges := true
  log := []

lemma connectedWorld_initial : connectedWorld.Initial :=
  ⟨fun _ => ⟨rfl, rfl, rfl, rfl⟩, fun _ _ h => congrArg Session.id (Option.some.inj h),
    fun _ => rfl, fun _ => rfl, rfl⟩

def raidStatus : ChallengeStatusResponse :=
  { uuid := "raid", named := by decide, mode := .tobRegular, stage := 10, stageAttempt := none }

def loginActs : List Act :=
  [.receive 0 (.gameState (some ⟨.loggedIn, some "player"⟩)), .resume 0 (.username (some "player")),
    .resume 0 (.identity true), .resume 0 (.currentChallenge none), .resume 0 .done]

def startRequest : ServerMessage :=
  .challengeStartRequest 1 (some ⟨.tob, .tobRegular, ["player"], 10, false⟩)

/-- A client logs in and starts a challenge. -/
def startingActs : List Act :=
  loginActs ++ [.receive 0 startRequest, .resume 0 (.username (some "player")),
    .accept 0 raidStatus, .resume 0 (.accepted raidStatus)]

theorem started_registry_exact :
    (server.run connectedWorld startingActs).listed "raid" = [0] ∧
      (server.run connectedWorld startingActs).RegistryExact :=
  ⟨by decide, registry_exact ((TransitionSystem.Reachable.init connectedWorld_initial).run
    (by decide))⟩

/-- A client confirms that it still is in a challenge, and is let in again. -/
def rejoiningActs : List Act :=
  [.receive 0 (.challengeStateConfirmation "raid" (some ⟨true, "player", false⟩)),
    .accept 0 raidStatus, .resume 0 (.accepted raidStatus)]

/-- A client that has rejoined a challenge is not listed under it. -/
theorem rejoined_client_unlisted :
    ∃ w, server.Reachable World.Initial (fun _ _ => True) w ∧ ¬ w.RegistryExact := by
  refine ⟨server.run connectedWorld rejoiningActs,
    (TransitionSystem.Reachable.init connectedWorld_initial).run (by decide), fun h => ?_⟩
  have hlisted := (h.listed 0 "raid" (by decide)).mpr (by decide)
  revert hlisted
  decide

end Blert.Socket

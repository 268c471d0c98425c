import Blert.Socket.Listing

/-!
Clients whose sockets close.

A client that closes leaves its challenge, and its disconnect is reported after everything that let
it into one. This fails when the challenge server lets it in while it closes: its handler then goes
on to enter the challenge, which nothing leaves any more.
-/

namespace Blert.Socket

namespace Registry

variable {r : Registry}

structure Covered (r : Registry) : Prop where
  active : ∀ c challengeId, c ∈ r.listed challengeId → r.active c = some challengeId
  named : ∀ c, r.active c ≠ some ""

lemma active_leave (r : Registry) (c d : ClientRef) :
    (r.leave c).active d = r.active d ∨ d = c ∧ (r.leave c).active d = none := by
  unfold leave
  split
  · exact Or.inl rfl
  · split_ifs
    · exact Or.inl rfl
    · split
      · exact Or.inl rfl
      · by_cases hd : d = c
        · exact Or.inr ⟨hd, by simp [setActive, hd]⟩
        · exact Or.inl (Function.update_of_ne hd _ _)

lemma Covered.mem_leave (h : r.Covered) {c d : ClientRef} {u : String}
    (hd : d ∈ (r.leave c).listed u) : d ∈ r.listed u ∧ d ≠ c := by
  have hnot : ∀ v, r.active c ≠ some v → c ∉ r.listed v := fun v hv hc => hv (h.active c v hc)
  unfold leave at hd
  split at hd
  · rename_i hactive
    exact ⟨hd, fun hc => hnot u (by simp [hactive]) (hc ▸ hd)⟩
  · rename_i v hactive
    split_ifs at hd with hempty
    · exact absurd (hempty ▸ hactive) (h.named c)
    · have hne : u ≠ v → c ∉ r.listed u := fun hu => hnot u (by simpa [hactive] using Ne.symm hu)
      split at hd
      · rename_i hlist
        refine ⟨hd, fun hc => ?_⟩
        by_cases hu : u = v
        · subst hu
          simp [listed, hlist] at hd
        · exact hne hu (hc ▸ hd)
      · rename_i clients hlist
        change d ∈ (r.setList v _).listed u at hd
        rw [listed_setList] at hd
        by_cases hu : u = v
        · subst hu
          rw [if_pos rfl] at hd
          have hmem : d ∈ clients.filter (· ≠ c) := by
            split_ifs at hd
            · cases hd
            · exact hd
          obtain ⟨hmem, hdc⟩ := List.mem_filter.mp hmem
          exact ⟨by simpa [listed, hlist] using hmem, by simpa using hdc⟩
        · rw [if_neg hu] at hd
          exact ⟨hd, fun hc => hne hu (hc ▸ hd)⟩

namespace Covered

lemma leave (h : r.Covered) (c : ClientRef) : (r.leave c).Covered := by
  refine ⟨fun d u hd => ?_, fun d => ?_⟩
  · obtain ⟨hmem, hne⟩ := h.mem_leave hd
    rcases r.active_leave c d with heq | ⟨hdc, -⟩
    · exact heq.trans (h.active d u hmem)
    · exact absurd hdc hne
  · rcases r.active_leave c d with heq | ⟨-, heq⟩
    · exact heq ▸ h.named d
    · simp [heq]

lemma setActive (h : r.Covered) {c : ClientRef} {challengeId : Option String}
    (hne : challengeId ≠ some "") (hc : ∀ u, c ∉ r.listed u) :
    (r.setActive c challengeId).Covered := by
  refine ⟨fun d u hd => ?_, fun d => ?_⟩
  · have hdc : d ≠ c := fun hdc => hc u (hdc ▸ hd)
    exact (Function.update_of_ne hdc _ _).trans (h.active d u hd)
  · by_cases hdc : d = c
    · subst hdc
      simpa [Registry.setActive] using hne
    · simpa [Registry.setActive, hdc] using h.named d

lemma drop (h : r.Covered) (c : ClientRef) : (r.drop c).Covered :=
  (h.leave c).setActive (by simp) fun _ hc => (h.mem_leave hc).2 rfl

lemma enter (h : r.Covered) (c : ClientRef) {challengeId : String} (hne : challengeId ≠ "") :
    (r.enter c challengeId).Covered := by
  have hset : ((r.leave c).setActive c (some challengeId)).Covered :=
    (h.leave c).setActive (by simpa using hne) fun _ hc => (h.mem_leave hc).2 rfl
  refine ⟨fun d u hd => ?_, hset.named⟩
  change d ∈ ((r.leave c).setList challengeId _).listed u at hd
  rw [listed_setList] at hd
  split_ifs at hd with hu
  · subst hu
    rcases List.mem_append.mp hd with hd | hd
    · exact hset.active d u hd
    · rw [List.mem_singleton.mp hd]
      exact Function.update_self _ _ _
  · exact hset.active d u hd

lemma finish (h : r.Covered) (challengeId : String) : (r.finish challengeId).Covered := by
  refine ⟨fun d u hd => ?_, fun d => ?_⟩
  · have hmem : u ≠ challengeId ∧ d ∈ r.listed u := by
      simp only [Registry.listed, Registry.finish, Function.update_apply] at hd ⊢
      split_ifs at hd with hu
      · cases hd
      · exact ⟨hu, hd⟩
    have hactive := h.active d u hmem.2
    change (if _ then none else r.active d) = _
    rw [if_neg, hactive]
    rintro ⟨-, hd'⟩
    rw [hactive] at hd'
    exact hmem.1 (Option.some.inj hd')
  · change (if _ then none else r.active d) ≠ _
    split_ifs
    · simp
    · exact h.named d

end Covered

end Registry

/-! ### Closed clients -/

def World.Closed (w : World) (c : ClientRef) : Prop := (w.client c).session = none

instance (w : World) (c : ClientRef) : Decidable (w.Closed c) :=
  inferInstanceAs (Decidable (_ = _))

/-- A disconnect of a client's session is reported. -/
def LogEntry.Disconnects (c : ClientRef) (token : String) (e : LogEntry) : Prop :=
  ∃ deed requester, e = .did deed ∧ deed.client = c ∧
    deed.effect = .status .disconnected requester ∧ requester.sessionToken = token

/-- What a server keeps to about clients whose sockets have closed, since it was in some state. -/
structure World.DisconnectsLast (w₀ w : World) : Prop where
  reported : ∀ c, w.Closed c → ∀ before challengeId after,
    w.log = before ++ .accepted c challengeId :: after →
    ∃ e ∈ after, e.Disconnects c (w₀.client c).getSessionToken
  released : ∀ c, w.Closed c → ¬ w.Entering c →
    (w.client c).getActiveChallengeId = none ∧ ∀ challengeId, c ∉ w.listed challengeId

def LogEntry.acceptedClient : LogEntry → Option ClientRef
  | .accepted c _ => some c
  | .did _ => none

/-- No client is let into a challenge when its socket has closed. One that rejoins is listed under
no challenge, and one that closes is validated or in a challenge, unless it never was in one. -/
def EntersOpen (w : World) : Act → Prop
  | .accept c _ => ¬ w.Closed c
  | .resume c (.accepted _) => w.Entering c → ¬ w.Closed c ∧
      (w.Rejoining c → ∀ u ∈ (w.client c).getActiveChallengeId, c ∉ w.listed u)
  | .close c => w.Closed c ∨ (w.client c).validated = true ∨
      (w.client c).getActiveChallengeId.isSome = true ∨ ∀ e ∈ w.log, e.acceptedClient ≠ some c
  | _ => True

instance (w : World) (act : Act) : Decidable (EntersOpen w act) := by
  induction act using Act.casesOn
  case resume c answer =>
    induction answer using Answer.casesOn <;> (unfold EntersOpen; infer_instance)
  all_goals (unfold EntersOpen; infer_instance)

/-- What holds of a server whose steps meet the condition. -/
structure Settled (w₀ w : World) : Prop where
  covered : w.registry.Covered
  session : ∀ c, w.Closed c ∨ (w.client c).session = (w₀.client c).session
  left : ∀ c, w.Closed c → w.registry.active c = none
  reported : ∀ c, w.Closed c → ∀ before challengeId after,
    w.log = before ++ .accepted c challengeId :: after →
    ∃ e ∈ after, e.Disconnects c (w₀.client c).getSessionToken

lemma settled_init {w₀ : World} (h : w₀.Initial) : Settled w₀ w₀ := by
  refine ⟨⟨fun c u hc => ?_, fun c => ?_⟩, fun c => Or.inr rfl, fun c hc => ?_, fun c hc => ?_⟩
  · simp [Registry.listed, World.registry, h.clientsByChallenge] at hc
  · simp [World.registry, Client.getActiveChallengeId, (h.client c).2.2.1]
  · simp [World.registry, Client.getActiveChallengeId, (h.client c).2.2.1]
  · intro before u after hlog
    rw [h.log] at hlog
    simp at hlog

lemma Settled.registry_next {w₀ w : World} (h : Settled w₀ w) (act : Act)
    (hact : EntersOpen w act) :
    (server.next w act).registry.Covered ∧
      ∀ c, (server.next w act).Closed c → (server.next w act).registry.active c = none := by
  have hstay : ∀ c d, w.registry.active c = none → (w.registry.leave d).active c = none := by
    intro c d hc
    rcases w.registry.active_leave d c with heq | ⟨-, heq⟩
    · exact heq.trans hc
    · exact heq
  have hclosed : ∀ c, (server.next w act).Closed c → act = .close c ∨ w.Closed c := by
    intro c hc
    unfold World.Closed at hc
    rw [World.session_next] at hc
    split_ifs at hc with he
    · exact Or.inl he
    · exact Or.inr hc
  have hnext := World.registry_next w act
  generalize (server.next w act).registry = r at hnext ⊢
  cases hnext with
  | same act hopen heq =>
    subst heq
    exact ⟨h.covered, fun c hc => h.left c ((hclosed c hc).resolve_left (hopen c))⟩
  | started c requestId body accepted status hs heq =>
    subst heq
    have hopen := (hact (by simp [World.Entering, hs])).1
    refine ⟨h.covered.enter c status.named, fun d hd => ?_⟩
    have hd := (hclosed d hd).resolve_left (by simp)
    have hne : d ≠ c := fun he => hopen (he ▸ hd)
    exact (Function.update_of_ne hne _ _).trans (hstay d c (h.left d hd))
  | joined c challengeId body accepted status hs heq =>
    subst heq
    obtain ⟨hopen, hfree⟩ := hact (by simp [World.Entering, hs])
    have hunlisted : ∀ u, c ∉ w.registry.listed u := fun u hc =>
      hfree (by simp [World.Rejoining, hs]) u (h.covered.active c u hc) hc
    refine ⟨h.covered.setActive (by simpa using status.named) hunlisted, fun d hd => ?_⟩
    have hd := (hclosed d hd).resolve_left (by simp)
    have hne : d ≠ c := fun he => hopen (he ▸ hd)
    exact (Function.update_of_ne hne _ _).trans (h.left d hd)
  | completed c challengeId body after answer hs heq =>
    subst heq
    refine ⟨h.covered.leave c, fun d hd => hstay d c (h.left d ?_)⟩
    exact (hclosed d hd).resolve_left (by simp)
  | closed c heq =>
    subst heq
    refine ⟨h.covered.drop c, fun d hd => ?_⟩
    rcases hclosed d hd with he | hd
    · cases he
      exact Function.update_self _ _ _
    · by_cases hdc : d = c
      · subst hdc
        exact Function.update_self _ _ _
      · exact (Function.update_of_ne hdc _ _).trans (hstay d c (h.left d hd))
  | finished challengeId heq =>
    subst heq
    refine ⟨h.covered.finish challengeId, fun d hd => ?_⟩
    have hd := (hclosed d hd).resolve_left (by simp)
    change (if _ then none else w.registry.active d) = none
    rw [h.left d hd, ite_self]

lemma split_of_append {log es before after : List LogEntry} {e : LogEntry} (he : e ∉ es)
    (h : log ++ es = before ++ e :: after) :
    ∃ mid, log = before ++ e :: mid ∧ after = mid ++ es := by
  rcases List.append_eq_append_iff.mp h with ⟨mid, rfl, hmid⟩ | ⟨mid, hlog, hmid⟩
  · exact absurd (by rw [hmid]; simp) he
  · cases mid with
    | nil =>
      rw [List.nil_append] at hmid
      exact absurd (hmid ▸ List.mem_cons_self) he
    | cons e' mid =>
      obtain ⟨rfl, hafter⟩ := List.cons.inj hmid
      exact ⟨mid, hlog, hafter⟩

lemma disconnects_close {w : World} {c : ClientRef} (hact : EntersOpen w (.close c))
    (hopen : ¬ w.Closed c) {before mid : List LogEntry} {u : String}
    (hlog : w.log = before ++ .accepted c u :: mid) {es : List LogEntry}
    (hes : (server.next w (.close c)).log = w.log ++ es) :
    ∃ e ∈ es, e.Disconnects c (w.client c).getSessionToken := by
  obtain ⟨deeds, hdeeds, -, hknown⟩ := (w.cleanup_turn c).1
  obtain rfl : deeds.map .did = es := List.append_cancel_left (hdeeds.symm.trans hes)
  have hin : (w.client c).validated = true ∨ (w.client c).getActiveChallengeId.isSome = true := by
    rcases hact with h | h | h | h
    · exact absurd h hopen
    · exact Or.inl h
    · exact Or.inr h
    · exact absurd rfl (h (.accepted c u) (by rw [hlog]; simp))
  obtain ⟨deed, hmem, hclient, heffect⟩ := hknown hin
  exact ⟨_, List.mem_map_of_mem hmem, deed, _, rfl, hclient, heffect, rfl⟩

lemma settled_next {w₀ w : World} (h : Settled w₀ w) (act : Act) (hact : EntersOpen w act) :
    Settled w₀ (server.next w act) := by
  obtain ⟨hcovered, hleft⟩ := h.registry_next act hact
  have hsession : ∀ c, (server.next w act).Closed c ∨
      ((server.next w act).client c).session = (w₀.client c).session := by
    intro c
    unfold World.Closed
    rw [World.session_next]
    split_ifs
    · exact Or.inl rfl
    · exact h.session c
  refine ⟨hcovered, hsession, hleft, fun c hc before u after hlog => ?_⟩
  obtain ⟨es, hes, hadded⟩ := World.log_next w act
  have hclosed : act = .close c ∨ w.Closed c := by
    unfold World.Closed at hc
    rw [World.session_next] at hc
    split_ifs at hc with he
    · exact Or.inl he
    · exact Or.inr hc
  -- Nothing lets the client in once it is closed, nor does closing it.
  have hnew : .accepted c u ∉ es := by
    intro hmem
    obtain ⟨status, rfl⟩ := hadded.accepted c u hmem
    exact hact (hclosed.resolve_left (by simp))
  rw [hes] at hlog
  obtain ⟨mid, hmid, rfl⟩ := split_of_append hnew hlog
  by_cases hbefore : w.Closed c
  · obtain ⟨e, he, hdisconnects⟩ := h.reported c hbefore before u mid hmid
    exact ⟨e, List.mem_append_left _ he, hdisconnects⟩
  · obtain rfl := hclosed.resolve_right hbefore
    obtain ⟨e, he, hdisconnects⟩ := disconnects_close hact hbefore hmid hes
    refine ⟨e, List.mem_append_right _ he, ?_⟩
    have htoken : (w.client c).getSessionToken = (w₀.client c).getSessionToken := by
      unfold Client.getSessionToken
      rw [(h.session c).resolve_left hbefore]
    exact htoken ▸ hdisconnects

/-- **A disconnect is reported last as long as clients enter challenges while their sockets are
open.** However requests, responses and closing sockets interleave, a closed client has been
reported after all that let it in, and is in no challenge. -/
theorem disconnect_reported_last {w₀ w : World} (h₀ : w₀.Initial)
    (h : server.Reachable (· = w₀) EntersOpen w) : w₀.DisconnectsLast w := by
  have hsettled : Settled w₀ w := h.invariant (I := Settled w₀)
    (fun w (hw : w = w₀) => hw.symm ▸ settled_init h₀)
    fun _ act hw _ hact => settled_next hw act hact
  refine ⟨hsettled.reported, fun c hc _ => ⟨hsettled.left c hc, fun u hmem => ?_⟩⟩
  have hactive := hsettled.covered.active c u hmem
  rw [hsettled.left c hc] at hactive
  cases hactive

/-- A client logs in, starts a challenge and closes. -/
theorem started_disconnect_reported_last :
    (server.run connectedWorld (startingActs ++ [.close 0])).Closed 0 ∧
      connectedWorld.DisconnectsLast (server.run connectedWorld (startingActs ++ [.close 0])) := by
  have hinit : server.Reachable (· = connectedWorld) EntersOpen connectedWorld := .init rfl
  exact ⟨by decide, disconnect_reported_last connectedWorld_initial (hinit.run (by decide))⟩

/-! ### A client that closes while it is let in -/

/-- A socket closes while a request to start a challenge is in flight. -/
def closingActs : List Act :=
  loginActs ++ [.receive 0 startRequest, .resume 0 (.username (some "player")), .close 0,
    .accept 0 raidStatus, .resume 0 (.accepted raidStatus)]

/-- The client of a closed socket ends up in the challenge that it had asked for. -/
theorem closing_client_enters :
    ∃ w, server.Reachable (· = connectedWorld) (fun _ _ => True) w ∧
      ¬ connectedWorld.DisconnectsLast w := by
  have hinit : server.Reachable (· = connectedWorld) (fun _ _ => True) connectedWorld := .init rfl
  refine ⟨server.run connectedWorld closingActs, hinit.run (by decide), fun h => ?_⟩
  have hactive := (h.released 0 (by decide) (by decide)).1
  revert hactive
  decide

end Blert.Socket

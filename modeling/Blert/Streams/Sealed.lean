import Blert.Lifecycle.Sealing
import Blert.Streams.World

/-!
What the actors do to the streams of stages.

The stages an actor has queued for processing are those it has sealed, and a task is only spawned
by a later command than the seal. No script adds to a stream or unseals a stage, but that the
keys of a deleted challenge expire.
-/

namespace Blert.Streams

open Blert.Lifecycle Blert.Redis

/-! ### The stages that are queued for processing -/

section Queue

variable {s : ChallengeState} {stage : StageAttempt}

def queued (s : ChallengeState) : List StageAttempt := s.processing.jobs.filterMap stageOf

lemma mem_queued : stage ∈ queued s ↔ ∃ t ∈ s.processing.jobs, stageOf t = some stage :=
  List.mem_filterMap

lemma mem_jobs_apply {e : JournalEntry} {t : Trigger} (h : t ∈ (apply s e).processing.jobs) :
    t ∈ s.processing.jobs ∨ eventTrigger s e = some t ∨ t.isFinish = true := by
  rcases List.mem_append.mp h with h | h
  · refine Or.inl ?_
    have hevent : t ∈ (applyEvent (moveCursor s e) e).processing.completed := by
      rw [apply_processing, queueFinish_processing] at h
      split_ifs at h
      · rwa [Processing.push_completed] at h
      · exact h
    obtain ⟨t', info, -, -, hp⟩ | ⟨-, ⟨-, hp⟩ | ⟨seq, -, hp⟩ | ⟨seq, result, -, hp⟩⟩ :=
      applyEvent_processing (moveCursor s e) e
    · rw [hp, Processing.push_completed] at hevent
      exact List.mem_append_left _ hevent
    · rw [hp] at hevent
      exact List.mem_append_left _ hevent
    · have hjobs : t ∈ (s.processing.start seq e.time).jobs :=
        List.mem_append_left _ (hp ▸ hevent)
      rwa [Processing.start_jobs] at hjobs
    · have hjobs : t ∈ (s.processing.finish s.challengeType e.time result).jobs :=
        List.mem_append_left _ (hp ▸ hevent)
      rwa [Processing.finish_jobs] at hjobs
  · rcases apply_outstanding h with h | h
    · exact Or.inl (List.mem_append_right _ h)
    · exact Or.inr h

lemma sealedBy_cons (e : JournalEntry) (batch : List JournalEntry) :
    sealedBy (e :: batch) = sealedBy [e] ++ sealedBy batch :=
  List.filterMap_append (l := [e])

lemma stageOf_ne_of_isFinish {t : Trigger} (h : t.isFinish = true) :
    stageOf t ≠ some stage := by
  cases t <;> cases h
  exact Option.some_ne_none _ ∘ Eq.symm

lemma sealedStage_of_trigger {e : JournalEntry} {t : Trigger} (ht : eventTrigger s e = some t)
    (hstage : stageOf t = some stage) : sealedStage e.event = some stage := by
  unfold eventTrigger at ht
  cases he : e.event with
  | stageSealed =>
    rw [he] at ht
    cases ht
    exact hstage
  | clientJoined | stageStarted =>
    rw [he] at ht
    obtain ⟨-, ht⟩ := Option.ite_none_left_eq_some.mp ht
    cases ht
    cases hstage
  | challengeCreated | modeChanged =>
    rw [he] at ht
    cases ht
    cases hstage
  | _ =>
    rw [he] at ht
    cases ht

lemma mem_queued_apply {e : JournalEntry} (h : stage ∈ queued (apply s e)) :
    stage ∈ queued s ∨ stage ∈ sealedBy [e] := by
  obtain ⟨t, ht, hstage⟩ := mem_queued.1 h
  rcases mem_jobs_apply ht with ht | ht | ht
  · exact Or.inl (mem_queued.2 ⟨t, ht, hstage⟩)
  · refine Or.inr ?_
    exact List.mem_filterMap.mpr ⟨e, List.mem_singleton_self e, sealedStage_of_trigger ht hstage⟩
  · exact absurd hstage (stageOf_ne_of_isFinish ht)

lemma mem_queued_fold {batch : List JournalEntry} (h : stage ∈ queued (batch.foldl apply s)) :
    stage ∈ queued s ∨ stage ∈ sealedBy batch := by
  induction batch generalizing s with
  | nil => exact Or.inl h
  | cons e batch ih =>
    rw [sealedBy_cons]
    rcases ih h with h | h
    · exact (mem_queued_apply h).imp_right (List.mem_append_left _)
    · exact Or.inr (List.mem_append_right _ h)

lemma mem_completedSince {before : ChallengeState} (h : stage ∈ completedSince before s) :
    stage ∈ queued s := by
  obtain ⟨t, ht, hstage⟩ := List.mem_filterMap.mp h
  exact mem_queued.2 ⟨t, List.mem_append_left _ (List.mem_of_mem_drop ht), hstage⟩

lemma started_notMem_update (u : Update) (seq : JournalSeq) :
    .processingStarted seq ∉ Lifecycle.update s u := by
  have hmode : .processingStarted seq ∉ modeEvents s u := by
    unfold modeEvents
    grind
  have hparty : .processingStarted seq ∉ partyEvents s u := by
    unfold partyEvents
    grind
  have hfinished : ∀ id c p, .processingStarted seq ∉ reportFinished s id c p := by
    intro id c p
    unfold reportFinished
    split_ifs <;> simp
  have hstarted : ∀ id c p, .processingStarted seq ∉ reportStarted s id c p := by
    intro id c p
    unfold reportStarted
    grind
  unfold Lifecycle.update
  grind

lemma decide_of_started {config : LifecycleConfig} {cmd : Command} {seq : JournalSeq}
    (h : .processingStarted seq ∈ Lifecycle.decide s config cmd) :
    Lifecycle.decide s config cmd = [.processingStarted seq] := by
  unfold Lifecycle.decide at h ⊢
  split_ifs at h ⊢
  · cases cmd with
    | deadlineFired d => grind [deadlineFired, terminate, sealOpenStage, unreachable]
    | processed report => grind [processed]
    | _ => cases h
  · cases cmd with
    | update u => exact absurd h (started_notMem_update u seq)
    | deadlineFired d => grind [deadlineFired, terminate, sealOpenStage, unreachable]
    | processed report => grind [processed]
    | _ => grind [create, join, finish, clientStatus, clientMovedOn, sealOpenStage]

lemma mem_spawnedBy {config : LifecycleConfig} {cmd : Command} {seq : JournalSeq}
    {time : Timestamp} {cause : Cause}
    (h : stage ∈ spawnedBy s (stamp seq time cause (Lifecycle.decide s config cmd))) :
    stage ∈ queued s := by
  by_cases hstarted : ∃ k, .processingStarted k ∈ Lifecycle.decide s config cmd
  · obtain ⟨k, hk⟩ := hstarted
    rw [decide_of_started hk] at h
    simp only [stamp_cons, stamp_nil, spawnedBy, List.append_nil, Option.mem_toList] at h
    obtain ⟨run, hrun, hstage⟩ := Option.bind_eq_some_iff.mp h
    have hout : run.trigger ∈
        (apply s ⟨seq, time, cause, .processingStarted k⟩).processing.outstanding := by
      rw [Processing.outstanding_of_some hrun]
      exact List.mem_cons_self
    rcases apply_outstanding hout with hout | htrig | hfin
    · exact mem_queued.2 ⟨_, List.mem_append_right _ hout, hstage⟩
    · cases htrig
    · exact absurd hstage (stageOf_ne_of_isFinish hfin)
  · have hnone : ∀ (es : List LifecycleEvent) (seq : JournalSeq) (s : ChallengeState),
        (∀ k, .processingStarted k ∉ es) → spawnedBy s (stamp seq time cause es) = [] := by
      intro es
      induction es with
      | nil => exact fun _ _ _ => rfl
      | cons e es ih =>
        intro seq s hes
        simp only [stamp_cons, spawnedBy]
        rw [ih _ _ fun k hk => hes k (List.mem_cons_of_mem _ hk), List.append_nil]
        cases e with
        | processingStarted k => exact absurd List.mem_cons_self (hes k)
        | _ => rfl
    rw [hnone _ _ _ fun k hk => hstarted ⟨k, hk⟩] at h
    cases h

end Queue

/-! ### What a step leaves of the streams -/

/-- A stage attempt that takes no further writes: it is sealed, or its challenge is deleted. -/
def SealedIn (s : Store) (key : StreamKey) : Prop :=
  key.2 ∈ s.processed key.1 ∨ key.1 ∈ s.expiring

lemma fenced_true {s s' : Store} {uuid : Uuid} {epoch : Epoch} {writes : Store → Store}
    (h : fenced uuid epoch writes s = (true, s')) : s' = writes s := by
  unfold fenced at h
  split_ifs at h
  · exact (Prod.ext_iff.mp h).2.symm
  · cases h

/-- A step of the store that adds to no stream and unseals none. -/
structure Tidies (s s' : Store) : Prop where
  sealed : ∀ key, SealedIn s key → SealedIn s' key
  events : ∀ key : StreamKey, s'.events key.1 key.2 = s.events key.1 key.2 ∨
    s'.events key.1 key.2 = []
  streams : ∀ uuid, s'.streams uuid ⊆ s.streams uuid
  expiring : s.expiring ⊆ s'.expiring

namespace Tidies

variable {s s' s'' : Store} {uuid : Uuid}

lemma of_eq (hevents : s'.events = s.events) (hstreams : s'.streams = s.streams)
    (hprocessed : s'.processed = s.processed) (hexpiring : s'.expiring = s.expiring) :
    Tidies s s' where
  sealed key h := by
    unfold SealedIn
    rwa [hprocessed, hexpiring]
  events key := Or.inl (by rw [hevents])
  streams uuid := by rw [hstreams]
  expiring := by rw [hexpiring]

lemma rfl : Tidies s s := of_eq (Eq.refl _) (Eq.refl _) (Eq.refl _) (Eq.refl _)

lemma trans (h : Tidies s s') (h' : Tidies s' s'') : Tidies s s'' where
  sealed key hkey := h'.sealed key (h.sealed key hkey)
  events key := by
    rcases h'.events key with heq | heq
    · rw [heq]
      exact h.events key
    · exact Or.inr heq
  streams uuid := (h'.streams uuid).trans (h.streams uuid)
  expiring := h.expiring.trans h'.expiring

lemma fenced {epoch : Epoch} {writes : Store → Store} (h : Tidies s (writes s)) :
    Tidies s (fenced uuid epoch writes s).2 := by
  unfold Redis.fenced
  split_ifs
  · exact h
  · exact rfl

lemma xadd (s : Store) (now : Timestamp) (uuid : Uuid) (cmd : Command) :
    Tidies s (s.xadd now uuid cmd).2 := of_eq (Eq.refl _) (Eq.refl _) (Eq.refl _) (Eq.refl _)

lemma setRoute (s : Store) (key : RoutingKey) (uuid : Uuid) : Tidies s (s.setRoute key uuid) :=
  of_eq (Eq.refl _) (Eq.refl _) (Eq.refl _) (Eq.refl _)

lemma leavePrevious (s : Store) (args : StartArgs) (now : Timestamp) (target : Uuid) :
    Tidies s (leavePrevious args now s target) := by
  unfold Redis.leavePrevious
  split
  · split_ifs
    · exact xadd _ _ _ _
    · exact rfl
  · exact rfl

lemma setRoutes (s : Store) (keys : List RoutingKey) (uuid : Uuid) :
    Tidies s (keys.foldl (fun s key => s.setRoute key uuid) s) := by
  induction keys generalizing s with
  | nil => exact rfl
  | cons key keys ih =>
    exact (setRoute s key uuid).trans (ih (s.setRoute key uuid))

lemma START (s : Store) (args : StartArgs) (now : Timestamp) :
    Tidies s (START args now s).2 := by
  have hcreate : Tidies s (startCreate args now s).2 := by
    unfold startCreate
    refine .trans ?_ (xadd _ _ _ _)
    refine .trans ?_ (setRoutes _ _ _)
    refine .trans ?_ (setRoute _ _ _)
    exact (leavePrevious s args now args.uuid).trans
      (of_eq (Eq.refl _) (Eq.refl _) (Eq.refl _) (Eq.refl _))
  unfold Redis.START
  split
  · split_ifs
    · exact ((leavePrevious s args now _).trans (setRoute _ _ _)).trans (xadd _ _ _ _)
    · exact hcreate
  · exact hcreate

lemma DELETE (s : Store) (uuid session : Uuid) (epoch : Epoch) (routes : Finset RoutingKey) :
    Tidies s (DELETE uuid epoch session routes s).2 := by
  refine fenced ⟨fun key h => h.imp_right fun h => Finset.mem_insert_of_mem h, fun key => ?_,
    fun u => ?_, Finset.subset_insert _ _⟩
  · by_cases hu : key.1 = uuid
    · subst hu
      simp only [Function.update_self]
      split_ifs
      · exact Or.inr (Eq.refl _)
      · exact Or.inl (Eq.refl _)
    · exact Or.inl (by simp only [Function.update_of_ne hu]; exact Eq.refl _)
  · by_cases hu : u = uuid
    · subst hu
      simp
    · simp only [Function.update_of_ne hu]
      exact subset_rfl

lemma SEAL {s' : Store} {epoch : Epoch} {stages : List StageAttempt}
    (h : SEAL uuid epoch stages s = (true, s')) :
    Tidies s s' ∧ ∀ stage ∈ stages, SealedIn s' (uuid, stage) := by
  rw [fenced_true h]
  have hmem : ∀ u, s.processed u ⊆ Function.update s.processed uuid
      (s.processed uuid ∪ stages.toFinset) u := by
    intro u
    by_cases hu : u = uuid
    · subst hu
      simp
    · simp [Function.update_of_ne hu]
  refine ⟨⟨fun key hkey => hkey.imp_left fun h => hmem _ h, fun _ => Or.inl (Eq.refl _),
    fun _ => subset_rfl, subset_rfl⟩, fun stage hstage => Or.inl ?_⟩
  simp [hstage]

lemma REMOVE_STREAM {s' : Store} {epoch : Epoch} {stage : StageAttempt}
    (h : REMOVE_STREAM uuid epoch stage s = (true, s')) :
    Tidies s s' ∧ s'.events uuid stage = [] := by
  rw [fenced_true h]
  refine ⟨⟨fun _ h => h, fun key => ?_, fun u => ?_, subset_rfl⟩, by simp⟩
  · by_cases hu : key.1 = uuid
    · by_cases hs : key.2 = stage
      · exact Or.inr (by simp [hu, hs])
      · exact Or.inl (by simp [hu, Function.update_of_ne hs])
    · exact Or.inl (by simp [Function.update_of_ne hu])
  · by_cases hu : u = uuid
    · subst hu
      simpa using Finset.erase_subset _ _
    · simp [Function.update_of_ne hu]

lemma step (text : KeyText) (config : LifecycleConfig) (w : Redis.World) (action : Action) :
    Tidies w.store (w.step text config action).store := by
  cases action with
  | start identity now deadline uuid create =>
    have h := START w.store (Store.startArgs text identity deadline uuid create) now
    simp only [Redis.World.step, Store.start]
    cases hs : Redis.START (Store.startArgs text identity deadline uuid create) now w.store with
    | mk reply store =>
      rw [hs] at h
      cases reply <;> exact h
  | rejoin now uuid join =>
    simp only [Redis.World.step, Store.rejoin, REJOIN]
    split_ifs
    · exact rfl
    · exact rfl
    · exact rfl
    · exact (setRoute _ _ _).trans (xadd _ _ _ _)
  | send now uuid cmd h =>
    simp only [Redis.World.step, Store.send, SEND]
    split_ifs
    · exact rfl
    · exact xadd _ _ _ _
  | sendToCurrentChallenge now client cmd h =>
    simp only [Redis.World.step, Store.sendToCurrentChallenge, CLIENT_SEND]
    split
    · exact rfl
    · split_ifs
      · exact rfl
      · exact xadd _ _ _ _
  | consume | deadline | report => exact rfl
  | project uuid cursor =>
    simp only [Redis.World.step]
    split
    · exact fenced (of_eq (Eq.refl _) (Eq.refl _) (Eq.refl _) (Eq.refl _))
    · exact rfl
  | delete uuid =>
    simp only [Redis.World.step]
    split
    · rename_i h _
      have hdel := DELETE w.store uuid h.actor.state.sessionUuid Epoch.initial
        (Store.routes text h.actor.state)
      split <;> rename_i hs <;> rw [Store.delete] at hs <;> rw [hs] at hdel <;> exact hdel
    · exact rfl
  | expireState uuid =>
    simp only [Redis.World.step, expireState]
    split_ifs
    · exact of_eq (Eq.refl _) (Eq.refl _) (Eq.refl _) (Eq.refl _)
    · exact rfl
  | expireStreams uuid =>
    simp only [Redis.World.step, expireStreams]
    split_ifs with h
    · refine ⟨fun key hkey => ?_, fun _ => Or.inl (Eq.refl _), fun _ => subset_rfl, subset_rfl⟩
      by_cases hu : key.1 = uuid
      · exact Or.inr (hu ▸ h)
      · exact hkey.imp_left fun hmem => by simpa only [Function.update_of_ne hu] using hmem
    · exact rfl

end Tidies

lemma handling_some {w : Redis.World} {action : Action} {uuid : Uuid} {h : Redis.Host}
    {input : Input} (hin : handling w action = some (uuid, h, input)) :
    actorOf action = some uuid ∧ w.hosts uuid = some h := by
  cases action with
  | consume u time =>
    obtain ⟨h₀, hh, hin⟩ := Option.bind_eq_some_iff.mp hin
    obtain ⟨envelope, -, hin⟩ := Option.bind_eq_some_iff.mp hin
    split_ifs at hin
    obtain ⟨rfl, rfl, -⟩ := Option.some.inj hin
    exact ⟨rfl, hh⟩
  | deadline u time fired | report u time processed =>
    obtain ⟨h₀, hh, heq⟩ := Option.map_eq_some_iff.mp hin
    obtain ⟨rfl, rfl, -⟩ := heq
    exact ⟨rfl, hh⟩
  | _ => cases hin

/-- The actor of a challenge after a step is as before, new, or has handled what it was given. -/
def Steps (config : LifecycleConfig) (w : Redis.World) (action : Action) (uuid : Uuid)
    (h' : Redis.Host) : Prop :=
  (∃ h, w.hosts uuid = some h ∧ h'.actor = h.actor) ∨ h'.actor = .new uuid config ∨
    ∃ h input, handling w action = some (uuid, h, input) ∧
      h'.actor = h.actor.handleCommand config input

lemma steps_of_host {config : LifecycleConfig} {w : Redis.World} {action : Action} {uuid : Uuid}
    {h' : Redis.Host} (h : w.hosts uuid = some h') : Steps config w action uuid h' :=
  Or.inl ⟨h', h, rfl⟩

lemma steps_updateHost {config : LifecycleConfig} {w : Redis.World} {action : Action}
    {uuid u : Uuid} {h' : Redis.Host} {f : Redis.Host → Redis.Host}
    (hf : ∀ h, w.hosts u = some h → (f h).actor = h.actor ∨ ∃ input,
      handling w action = some (u, h, input) ∧
        (f h).actor = h.actor.handleCommand config input)
    (hhost : (w.updateHost u f).hosts uuid = some h') : Steps config w action uuid h' := by
  by_cases hu : uuid = u
  · subst hu
    simp only [Redis.World.updateHost, Function.update_self] at hhost
    obtain ⟨h₀, hh, rfl⟩ := Option.map_eq_some_iff.mp hhost
    rcases hf h₀ hh with heq | ⟨input, hin, heq⟩
    · exact Or.inl ⟨h₀, hh, heq⟩
    · exact Or.inr (Or.inr ⟨h₀, input, hin, heq⟩)
  · simp only [Redis.World.updateHost, Function.update_of_ne hu] at hhost
    exact steps_of_host hhost

lemma hosts_step {text : KeyText} {config : LifecycleConfig} {w : Redis.World} {action : Action}
    {uuid : Uuid} {h' : Redis.Host} (h : (w.step text config action).hosts uuid = some h') :
    Steps config w action uuid h' := by
  cases action with
  | start identity now deadline u create =>
    simp only [Redis.World.step] at h
    split at h
    · by_cases hu : uuid = u
      · subst hu
        simp only [Function.update_self, Option.some.injEq] at h
        exact Or.inr (Or.inl (by rw [← h]; rfl))
      · simp only [Function.update_of_ne hu] at h
        exact steps_of_host h
    · exact steps_of_host h
  | consume u time =>
    refine steps_updateHost (fun h₀ hh => ?_) h
    unfold Redis.Host.consume
    cases henv : (w.store.inbox u).entries[h₀.read]? with
    | none => exact Or.inl rfl
    | some envelope =>
      dsimp only
      split_ifs with hm
      · exact Or.inr ⟨_, by simp [handling, hh, henv, hm], rfl⟩
      · exact Or.inl rfl
  | deadline u time fired =>
    exact steps_updateHost (fun h₀ hh => Or.inr ⟨_, by simp [handling, hh], rfl⟩) h
  | report u time processed =>
    exact steps_updateHost (fun h₀ hh => Or.inr ⟨_, by simp [handling, hh], rfl⟩) h
  | project u cursor =>
    simp only [Redis.World.step] at h
    split at h <;> exact steps_of_host h
  | delete u =>
    simp only [Redis.World.step] at h
    split at h
    · split at h
      · by_cases hu : uuid = u
        · subst hu
          simp at h
        · simp only [Function.update_of_ne hu] at h
          exact steps_of_host h
      · exact steps_of_host h
    · exact steps_of_host h
  | _ => exact steps_of_host h

lemma step_of_deletes {text : KeyText} (config : LifecycleConfig) {w : World} {action : Action}
    {uuid : Uuid} (h : w.deletes text action = some uuid) :
    let after := (w.base.step text config action).store
    uuid ∈ after.expiring ∧ after.streams uuid = ∅ ∧
      ∀ stage ∈ w.base.store.streams uuid, after.events uuid stage = [] := by
  cases action with
  | delete u =>
    obtain ⟨host, hhost, hdel⟩ := Option.bind_eq_some_iff.mp h
    split_ifs at hdel with hheld
    obtain rfl := Option.some.inj hdel
    have hstore : (w.base.step text config (.delete u)).store =
        (w.base.store.delete text u Epoch.initial host.actor.state).2 := by
      simp only [Redis.World.step, hhost]
      split <;> rename_i hs <;> rw [hs]
    rw [hstore]
    unfold Store.delete Redis.DELETE fenced at hheld ⊢
    split_ifs at hheld ⊢
    refine ⟨Finset.mem_insert_self _ _, Function.update_self _ _ _, fun stage hstage => ?_⟩
    simp only [Function.update_self]
    exact if_pos hstage
  | _ => cases h

end Blert.Streams

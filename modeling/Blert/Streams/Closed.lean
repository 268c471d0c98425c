import Blert.Redis.Routing
import Blert.Streams.Sealed

/-!
A processed stage's stream stays closed.

What a task reads, and what is removed, is sealed in the store or belongs to a deleted challenge.
A write to such a stream is then all that can open it again. The socket servers check for this
before they write, but not when they write.
-/

namespace Blert.Streams

open Blert.Lifecycle Blert.Redis

variable {text : KeyText} {config : LifecycleConfig} {toRecord : ClientStageStream → String}
  {w : World}

def Deed.Removes : Deed → StreamKey → Prop
  | .removed key', key => key' = key
  | .deleted uuid streams, key => uuid = key.1 ∧ key.2 ∈ streams
  | _, _ => False

/-- Nothing is added to a stream after it was read, and no stream and no set of streams exists
again once it has been removed. -/
structure World.StaysClosed (w : World) : Prop where
  read : w.log.Pairwise fun earlier later => ∀ key, earlier = .read key → later ≠ .added key
  stream : ∀ d ∈ w.log, ∀ key : StreamKey, d.Removes key → w.base.store.events key.1 key.2 = []
  set : ∀ uuid streams, .deleted uuid streams ∈ w.log → w.base.store.streams uuid = ∅

/-! ### The condition -/

/-- What a handler checked before still holds as it writes: the stages it writes to are not
sealed, and the challenge is not deleted. -/
def Handler.Current (s : Store) : Handler → Prop
  | .writing uuid writes =>
    uuid ∉ s.expiring ∧ ∀ write ∈ writes, write.attempt ∉ s.processed uuid
  | _ => True

instance (s : Store) (h : Handler) : Decidable (h.Current s) := by
  unfold Handler.Current
  split <;> infer_instance

def ChecksHold (w : World) : Act → Prop
  | .resume i => ∀ h ∈ w.handlers i, h.Current w.base.store
  | _ => True

instance (w : World) (act : Act) : Decidable (ChecksHold w act) := by
  induction act using Act.casesOn <;> (unfold ChecksHold; infer_instance)

/-! ### The invariant -/

abbrev World.Sealed (w : World) (key : StreamKey) : Prop := SealedIn w.base.store key

namespace World

/-- Deeds that a step has done by a state, none of which adds to a stream. -/
structure Done (w : World) (ds : List Deed) : Prop where
  added : ∀ d ∈ ds, ∀ key, d ≠ .added key
  sealed : ∀ d ∈ ds, ∀ key, d = .read key ∨ d.Removes key → w.Sealed key
  stream : ∀ d ∈ ds, ∀ key : StreamKey, d.Removes key → w.base.store.events key.1 key.2 = []
  deleted : ∀ uuid streams, .deleted uuid streams ∈ ds →
    uuid ∈ w.base.store.expiring ∧ w.base.store.streams uuid = ∅

lemma done_nil : w.Done [] := by
  constructor <;> simp

lemma done_read {key : StreamKey} (h : w.Sealed key) : w.Done [.read key] where
  added := by simp
  sealed d hd k hk := by
    obtain rfl := List.mem_singleton.mp hd
    rcases hk with hk | hk
    · exact Deed.read.inj hk ▸ h
    · exact hk.elim
  stream := by simp [Deed.Removes]
  deleted := by simp

lemma StaysClosed.of_tidies {w' : World} {ds : List Deed} (h : w.StaysClosed)
    (ht : Tidies w.base.store w'.base.store) (hlog : w'.log = w.log ++ ds) (hds : w'.Done ds) :
    w'.StaysClosed where
  read := by
    rw [hlog, List.pairwise_append]
    refine ⟨h.read, ?_, fun d _ d' hd' key _ => hds.added d' hd' key⟩
    exact List.pairwise_of_forall_mem_list fun d _ d' hd' key _ => hds.added d' hd' key
  stream d hd key hrem := by
    rw [hlog] at hd
    rcases List.mem_append.mp hd with hd | hd
    · rcases ht.events key with heq | heq
      · rw [heq]
        exact h.stream d hd key hrem
      · exact heq
    · exact hds.stream d hd key hrem
  set uuid streams hd := by
    rw [hlog] at hd
    rcases List.mem_append.mp hd with hd | hd
    · exact Finset.subset_empty.mp ((h.set uuid streams hd) ▸ ht.streams uuid)
    · exact (hds.deleted uuid streams hd).2

/-- The actors have put off no seal that a task or a removal needs. -/
structure Prepared (w : World) : Prop where
  queued : ∀ uuid h, w.base.hosts uuid = some h → ∀ stage ∈ Streams.queued h.actor.state,
    w.Sealed (uuid, stage) ∨ stage ∈ w.sealing uuid
  removing : ∀ uuid, ∀ stage ∈ w.removing uuid, w.Sealed (uuid, stage) ∨ stage ∈ w.sealing uuid
  tasks : ∀ key ∈ w.tasks, w.Sealed key

/-- What is queued or to be removed is sealed or about to be, and what a task reads, what has
been read and what has been removed is sealed. -/
structure Inv (w : World) : Prop where
  prepared : w.Prepared
  gone : ∀ d ∈ w.log, ∀ key, d = .read key ∨ d.Removes key → w.Sealed key
  deleted : ∀ uuid streams, .deleted uuid streams ∈ w.log → uuid ∈ w.base.store.expiring
  closed : w.StaysClosed

lemma inv_init (h : w.Initial) : w.Inv := by
  have hlog : w.log = [] := h.log
  refine ⟨⟨fun uuid host hh => ?_, fun uuid stage hs => ?_, fun key hk => ?_⟩, ?_, ?_, ?_, ?_, ?_⟩
  · rw [h.base] at hh
    cases hh
  · rw [h.removing] at hs
    cases hs
  · rw [h.tasks] at hk
    cases hk
  all_goals simp [hlog]

lemma Inv.of_tidies {w' : World} {ds : List Deed} (hi : w.Inv)
    (ht : Tidies w.base.store w'.base.store) (hlog : w'.log = w.log ++ ds) (hds : w'.Done ds)
    (hprepared : w'.Prepared) : w'.Inv where
  prepared := hprepared
  gone d hd key hk := by
    rw [hlog] at hd
    rcases List.mem_append.mp hd with hd | hd
    · exact ht.sealed key (hi.gone d hd key hk)
    · exact hds.sealed d hd key hk
  deleted uuid streams hd := by
    rw [hlog] at hd
    rcases List.mem_append.mp hd with hd | hd
    · exact ht.expiring (hi.deleted uuid streams hd)
    · exact (hds.deleted uuid streams hd).1
  closed := hi.closed.of_tidies ht hlog hds

lemma Prepared.of_same {w' : World} (hp : w.Prepared)
    (hsealed : ∀ key, w.Sealed key → w'.Sealed key) (hhosts : w'.base.hosts = w.base.hosts)
    (hsealing : w'.sealing = w.sealing) (hremoving : w'.removing = w.removing)
    (htasks : w'.tasks = w.tasks) : w'.Prepared where
  queued uuid h hh stage hs := by
    rw [hhosts] at hh
    rw [hsealing]
    exact (hp.queued uuid h hh stage hs).imp_left (hsealed _)
  removing uuid stage hs := by
    rw [hremoving] at hs
    rw [hsealing]
    exact (hp.removing uuid stage hs).imp_left (hsealed _)
  tasks key hk := hsealed key (hp.tasks key (htasks ▸ hk))

/-! ### The handlers -/

lemma addToStreams_sealed (toRecord : ClientStageStream → String) (uuid : Uuid)
    (writes : List Write) (s : Store) :
    let after := writes.foldl (addToStream toRecord uuid) s
    after.processed = s.processed ∧ after.expiring = s.expiring := by
  induction writes generalizing s with
  | nil => exact ⟨rfl, rfl⟩
  | cons write writes ih => exact ih (addToStream toRecord uuid s write)

lemma addToStreams_frame (toRecord : ClientStageStream → String) (uuid : Uuid)
    (writes : List Write) (s : Store) :
    let after := writes.foldl (addToStream toRecord uuid) s
    (∀ key : StreamKey, (∀ write ∈ writes, key ≠ (uuid, write.attempt)) →
      after.events key.1 key.2 = s.events key.1 key.2) ∧
    ∀ u, u ≠ uuid → after.streams u = s.streams u := by
  induction writes generalizing s with
  | nil => exact ⟨fun _ _ => rfl, fun _ _ => rfl⟩
  | cons write writes ih =>
    obtain ⟨hevents, hstreams⟩ := ih (addToStream toRecord uuid s write)
    refine ⟨fun key hkey => ?_, fun u hu => ?_⟩
    · refine (hevents key fun w hw => hkey w (List.mem_cons_of_mem _ hw)).trans ?_
      have hne := hkey write List.mem_cons_self
      unfold addToStream
      by_cases hu : key.1 = uuid
      · have hstage : key.2 ≠ write.attempt := fun h => hne (Prod.ext hu h)
        simp only [hu, Function.update_self, Function.update_of_ne hstage]
      · simp only [Function.update_of_ne hu]
    · exact (hstreams u hu).trans (Function.update_of_ne hu _ _)

lemma inv_write {i : ℕ} {uuid : Uuid} {writes : List Write} (hi : w.Inv)
    (hcurrent : (Handler.writing uuid writes).Current w.base.store) :
    (w.resume toRecord i (.writing uuid writes)).Inv := by
  obtain ⟨hprocessed, hexpiring⟩ := addToStreams_sealed toRecord uuid writes w.base.store
  obtain ⟨hevents, hstreams⟩ := addToStreams_frame toRecord uuid writes w.base.store
  have hopen : ∀ write ∈ writes, ¬ w.Sealed (uuid, write.attempt) := fun write hw hs =>
    hs.elim (hcurrent.2 write hw) hcurrent.1
  have hsealed : ∀ key, w.Sealed key →
      (w.resume toRecord i (.writing uuid writes)).Sealed key := by
    intro key hkey
    simp only [Sealed, SealedIn, resume, setStore, hprocessed, hexpiring]
    exact hkey
  have hlog : ∀ d ∈ w.log ++ writes.map (fun write => Deed.added (uuid, write.attempt)),
      d ∈ w.log ∨ ∃ write ∈ writes, d = .added (uuid, write.attempt) := by
    intro d hd
    refine (List.mem_append.mp hd).imp_right fun hd => ?_
    obtain ⟨write, hw, rfl⟩ := List.mem_map.mp hd
    exact ⟨write, hw, rfl⟩
  refine ⟨hi.prepared.of_same hsealed rfl rfl rfl rfl, fun d hd key hk => ?_,
    fun u streams hd => ?_, ⟨?_, fun d hd key hrem => ?_, fun u streams hd => ?_⟩⟩
  · rcases hlog d hd with hd | ⟨write, -, rfl⟩
    · exact hsealed key (hi.gone d hd key hk)
    · rcases hk with hk | hk
      · cases hk
      · exact hk.elim
  · rcases hlog _ hd with hd | ⟨write, -, hw⟩
    · simpa only [resume, setStore, hexpiring] using hi.deleted u streams hd
    · cases hw
  · change List.Pairwise _ (w.log ++ _)
    refine List.pairwise_append.mpr ⟨hi.closed.read, ?_, fun d hd d' hd' key hkey => ?_⟩
    · refine List.pairwise_of_forall_mem_list fun d hd d' _ key hkey => ?_
      obtain ⟨write, -, rfl⟩ := List.mem_map.mp hd
      cases hkey
    · obtain ⟨write, hw, rfl⟩ := List.mem_map.mp hd'
      rintro ⟨⟩
      exact hopen write hw (hi.gone d hd _ (Or.inl hkey))
  · rcases hlog d hd with hd | ⟨write, -, rfl⟩
    · refine (hevents key fun write hw heq => ?_).trans (hi.closed.stream d hd key hrem)
      subst heq
      exact hopen write hw (hi.gone d hd _ (Or.inr hrem))
    · exact hrem.elim
  · rcases hlog _ hd with hd | ⟨write, -, hw⟩
    · refine (hstreams u fun hu => ?_).trans (hi.closed.set u streams hd)
      exact hcurrent.1 (hu ▸ hi.deleted u streams hd)
    · cases hw

lemma inv_idle {w' : World} (hi : w.Inv) (hbase : w'.base = w.base) (hlog : w'.log = w.log)
    (hsealing : w'.sealing = w.sealing) (hremoving : w'.removing = w.removing)
    (htasks : w'.tasks = w.tasks) : w'.Inv := by
  have hsealed : ∀ key, w.Sealed key → w'.Sealed key := fun key h => by
    unfold Sealed
    rwa [hbase]
  have hlog' : w'.log = w.log ++ [] := by rw [hlog, List.append_nil]
  exact hi.of_tidies (by rw [hbase]; exact Tidies.rfl) hlog' done_nil
    (hi.prepared.of_same hsealed (by rw [hbase]) hsealing hremoving htasks)

lemma inv_resume {i : ℕ} (hi : w.Inv) (hmeets : ChecksHold w (.resume i)) :
    (w.resumeHandler toRecord i).Inv := by
  unfold resumeHandler
  cases hh : w.handlers i with
  | none => exact hi
  | some h =>
    cases h with
    | writing uuid writes => exact inv_write hi (hmeets _ hh)
    | checkingChallenge client uuid events =>
      simp only [resume]
      split_ifs <;> exact inv_idle hi rfl rfl rfl rfl rfl
    | _ => exact inv_idle hi rfl rfl rfl rfl rfl

/-! ### The actors -/

lemma inv_stop {uuid : Uuid} (hi : w.Inv) : (w.stop uuid).Inv := by
  have hlog : (w.stop uuid).log = w.log ++ [] := (List.append_nil _).symm
  refine hi.of_tidies Tidies.rfl hlog done_nil ⟨fun u h hh stage hs => ?_, fun u stage hs => ?_,
    hi.prepared.tasks⟩
  · by_cases hu : u = uuid
    · subst hu
      simp [stop] at hh
    · simp only [stop, Function.update_of_ne hu] at hh ⊢
      exact hi.prepared.queued u h hh stage hs
  · by_cases hu : u = uuid
    · subst hu
      simp [stop] at hs
    · simp only [stop, Function.update_of_ne hu] at hs ⊢
      exact hi.prepared.removing u stage hs

lemma inv_sealStages {uuid : Uuid} (hi : w.Inv) : (w.sealStages uuid).Inv := by
  unfold sealStages
  cases hseal : SEAL uuid Epoch.initial (w.sealing uuid) w.base.store with
  | mk held store =>
    cases held with
    | false => exact inv_stop hi
    | true =>
      obtain ⟨htidies, hsealed⟩ := Tidies.SEAL hseal
      -- What was about to be sealed now is.
      have hsettled : ∀ u stage, w.Sealed (u, stage) ∨ stage ∈ w.sealing u →
          SealedIn store (u, stage) ∨ stage ∈ Function.update w.sealing uuid [] u := by
        rintro u stage (h | h)
        · exact Or.inl (htidies.sealed _ h)
        · by_cases hu : u = uuid
          · subst hu
            exact Or.inl (hsealed stage h)
          · exact Or.inr (by rwa [Function.update_of_ne hu])
      refine hi.of_tidies htidies (List.append_nil _).symm done_nil
        ⟨fun u h hh stage hs => hsettled u stage (hi.prepared.queued u h hh stage hs),
          fun u stage hs => hsettled u stage (hi.prepared.removing u stage hs),
          fun key hk => htidies.sealed key (hi.prepared.tasks key hk)⟩

lemma inv_remove {uuid : Uuid} (hi : w.Inv) (hsealing : w.sealing uuid = []) :
    (w.removeStageStream uuid).Inv := by
  unfold removeStageStream
  cases hrem : w.removing uuid with
  | nil => exact hi
  | cons stage rest =>
    have hstage : w.Sealed (uuid, stage) := by
      have h := hi.prepared.removing uuid stage (by rw [hrem]; exact List.mem_cons_self)
      rw [hsealing] at h
      exact h.resolve_right (by simp)
    have hrest : ∀ u, ∀ s ∈ Function.update w.removing uuid rest u, s ∈ w.removing u := by
      intro u s hs
      by_cases hu : u = uuid
      · subst hu
        rw [Function.update_self] at hs
        rw [hrem]
        exact List.mem_cons_of_mem _ hs
      · rwa [Function.update_of_ne hu] at hs
    dsimp only
    cases hremove : REMOVE_STREAM uuid Epoch.initial stage w.base.store with
    | mk held store =>
      cases held with
      | false =>
        exact hi.of_tidies Tidies.rfl (List.append_nil _).symm done_nil
          ⟨hi.prepared.queued, fun u s hs => hi.prepared.removing u s (hrest u s hs),
            hi.prepared.tasks⟩
      | true =>
        obtain ⟨htidies, hgone⟩ := Tidies.REMOVE_STREAM hremove
        refine hi.of_tidies htidies rfl ⟨by simp, fun d hd key hk => ?_, fun d hd key hk => ?_,
          by simp⟩ ⟨fun u h hh s hs => ?_, fun u s hs => ?_, fun key hk => ?_⟩
        · obtain rfl := List.mem_singleton.mp hd
          rcases hk with hk | hk
          · cases hk
          · exact hk ▸ htidies.sealed _ hstage
        · obtain rfl := List.mem_singleton.mp hd
          exact hk ▸ hgone
        · exact (hi.prepared.queued u h hh s hs).imp_left (htidies.sealed _)
        · exact (hi.prepared.removing u s (hrest u s hs)).imp_left (htidies.sealed _)
        · exact htidies.sealed key (hi.prepared.tasks key hk)

lemma Prepared.sealed {uuid : Uuid} {h : Redis.Host} (hp : w.Prepared)
    (hh : w.base.hosts uuid = some h) (hready : w.sealing uuid = []) :
    ∀ stage ∈ Streams.queued h.actor.state, w.Sealed (uuid, stage) := fun stage hs =>
  (hp.queued uuid h hh stage hs).resolve_right (by simp [hready])

lemma queued_handleCommand {h : Redis.Host} {input : Input} {stage : StageAttempt}
    (hs : stage ∈ Streams.queued (h.actor.handleCommand config input).state) :
    stage ∈ Streams.queued h.actor.state ∨ stage ∈ sealedBy (h.actor.batch config input) :=
  mem_queued_fold hs

lemma prepared_step {action : Action} (hp : w.Prepared) (henabled : w.Enabled (.base action)) :
    (w.takeStep text config action).Prepared := by
  have htidies : Tidies w.base.store (w.base.step text config action).store :=
    Tidies.step text config w.base action
  unfold takeStep
  cases hin : handling w.base action with
  | none =>
    simp only [afterCommand, hin]
    refine ⟨fun u h' hh' stage hs => ?_, fun u stage hs => ?_, fun key hk => ?_⟩
    · rcases hosts_step hh' with ⟨h, hh, hsame⟩ | hnew | ⟨h, input, hin', -⟩
      · rw [hsame] at hs
        exact (hp.queued u h hh stage hs).imp_left (htidies.sealed _)
      · rw [hnew] at hs
        cases hs
      · rw [hin] at hin'
        cases hin'
    · exact (hp.removing u stage hs).imp_left (htidies.sealed _)
    · exact htidies.sealed key (hp.tasks key hk)
  | some given =>
    obtain ⟨uuid, h, input⟩ := given
    obtain ⟨hactor, hh⟩ := handling_some hin
    have hready : w.Ready (some uuid) := hactor ▸ henabled
    have hqueued : ∀ stage ∈ Streams.queued h.actor.state, w.Sealed (uuid, stage) :=
      hp.sealed hh hready.1
    -- What the command has queued is sealed, or what it is to seal.
    have hafter : ∀ stage ∈ Streams.queued (h.actor.handleCommand config input).state,
        SealedIn (w.base.step text config action).store (uuid, stage) ∨
          stage ∈ sealedBy (h.actor.batch config input) := fun stage hs =>
      (queued_handleCommand hs).imp_left fun hs => htidies.sealed _ (hqueued stage hs)
    simp only [afterCommand, hin]
    refine ⟨fun u h' hh' stage hs => ?_, fun u stage hs => ?_, fun key hk => ?_⟩
    · by_cases hu : u = uuid
      · subst hu
        simp only [Function.update_self]
        rcases hosts_step hh' with ⟨h₀, hh₀, hsame⟩ | hnew | ⟨h₀, input₀, hin', hact⟩
        · rw [hh] at hh₀
          cases hh₀
          rw [hsame] at hs
          exact Or.inl (htidies.sealed _ (hqueued stage hs))
        · rw [hnew] at hs
          cases hs
        · rw [hin] at hin'
          cases hin'
          rw [hact] at hs
          exact hafter stage hs
      · simp only [Function.update_of_ne hu]
        rcases hosts_step hh' with ⟨h₀, hh₀, hsame⟩ | hnew | ⟨h₀, input₀, hin', -⟩
        · rw [hsame] at hs
          exact (hp.queued u h₀ hh₀ stage hs).imp_left (htidies.sealed _)
        · rw [hnew] at hs
          cases hs
        · rw [hin] at hin'
          cases hin'
          exact absurd rfl hu
    · by_cases hu : u = uuid
      · subst hu
        simp only [Function.update_self] at hs ⊢
        exact hafter stage (mem_completedSince hs)
      · simp only [Function.update_of_ne hu] at hs ⊢
        exact (hp.removing u stage hs).imp_left (htidies.sealed _)
    · rcases List.mem_append.mp hk with hk | hk
      · exact htidies.sealed key (hp.tasks key hk)
      · obtain ⟨stage, hs, rfl⟩ := List.mem_map.mp hk
        exact htidies.sealed _ (hqueued stage (mem_spawnedBy hs))

lemma inv_step {action : Action} (hi : w.Inv) (henabled : w.Enabled (.base action)) :
    (w.takeStep text config action).Inv := by
  have hdone : (w.takeStep text config action).Done ((w.deletes text action).map fun uuid =>
      Deed.deleted uuid (w.base.store.streams uuid)).toList := by
    cases hdel : w.deletes text action with
    | none => exact done_nil
    | some uuid =>
      obtain ⟨hexpiring, hset, hstreams⟩ := step_of_deletes config hdel
      refine ⟨by simp, fun d hd key hk => ?_, fun d hd key hk => ?_, fun u streams hd => ?_⟩
      all_goals cases List.mem_singleton.mp hd
      · rcases hk with hk | hk
        · cases hk
        · exact Or.inr (hk.1 ▸ hexpiring)
      · exact hk.1 ▸ hstreams key.2 hk.2
      · exact ⟨hexpiring, hset⟩
  exact hi.of_tidies (Tidies.step text config w.base action) rfl hdone
    (prepared_step hi.prepared henabled)

lemma inv_next {act : Act} (hi : w.Inv) (henabled : w.Enabled act) (hmeets : ChecksHold w act) :
    (w.next text config toRecord act).Inv := by
  cases act with
  | resume i => exact inv_resume hi hmeets
  | base action => exact inv_step hi henabled
  | sealStages uuid => exact inv_sealStages hi
  | removeStream uuid => exact inv_remove hi henabled.1
  | stop uuid => exact inv_stop hi
  | read key =>
    have hkey := hi.prepared.tasks key henabled
    exact hi.of_tidies Tidies.rfl rfl (done_read hkey)
      (hi.prepared.of_same (fun _ h => h) rfl rfl rfl rfl)
  | _ => exact inv_idle hi rfl rfl rfl rfl rfl

end World

/-! ### A room that is recorded, processed and removed -/

def plainRecord : ClientStageStream → String
  | .clientMetadata _ _ _ _ => "metadata"
  | .stageEvents _ events => " ".intercalate (events.map Event.bytes)
  | .stageEnd _ _ => "end"

/-- Clients that have made a challenge their active one. -/
def recorderWorld : World where
  base := .init
  clients _ := ⟨1, 1, "", "", some ⟨∅, ∅⟩⟩
  handlers _ := none
  sealing _ := []
  removing _ := []
  tasks := []
  log := []

lemma recorderWorld_initial : recorderWorld.Initial :=
  ⟨rfl, fun _ => rfl, fun _ => rfl, fun _ => rfl, rfl, rfl⟩

def maidenReport (status : StageStatus) : Command :=
  .update { userId := 1, clientId := 1, sessionToken := "t", mode := none,
            stage := some { stage := Stage.tobMaiden, status }, party := none }

/-- A challenge is created and published, its first room is started, and what is queued by then
is processed. -/
def maidenStarts : List Act :=
  [.base (.start "first" 1 100 7 soloRequest), .base (.consume 7 1),
    .base (.project 7 (toLex (1, 0))), .base (.send 2 7 (maidenReport .started) rfl),
    .base (.consume 7 2), .base (.deadline 7 3 ⟨.processingDue, 1⟩),
    .base (.report 7 4 ⟨0, 1, .ok .none⟩), .base (.deadline 7 5 ⟨.processingDue, 4⟩),
    .base (.report 7 6 ⟨1, 1, .ok .none⟩)]

/-- The checks of a batch of events, after which it can be written. -/
def batchChecked (bytes : String) : List Act :=
  [.processEvents 0 0 7 [⟨Stage.tobMaiden, bytes⟩], .resume 0, .resume 0]

/-- The room ends, its stream is sealed, read and removed. -/
def maidenProcessed : List Act :=
  [.base (.send 3 7 (maidenReport .completed) rfl), .base (.consume 7 7), .sealStages 7,
    .base (.deadline 7 8 ⟨.processingDue, 7⟩), .read (7, (Stage.tobMaiden, none)),
    .base (.report 7 9 ⟨9, 1, .ok (.stage .completed 5)⟩), .removeStream 7]

/-- **A stream stays closed while the checks of its writers hold.** In every run in which no
stage is sealed and no challenge is deleted between a writer's check and its write, or before
the check of a stage that was never sealed, nothing is added to a stream that was read, and no
stream and no set of streams exists again once it was removed. -/
theorem stays_closed (h : (system text config toRecord).Reachable World.Initial ChecksHold w) :
    w.StaysClosed :=
  (h.invariant (I := World.Inv) (fun _ => World.inv_init) fun _ _ hi he hm =>
    World.inv_next hi he hm).closed

/-- A batch that is written before the room is sealed is processed with it. -/
theorem maiden_stays_closed :
    ((system plainText soloConfig plainRecord).run recorderWorld
      (maidenStarts ++ batchChecked "spawn" ++ [.resume 0] ++ maidenProcessed)).StaysClosed :=
  stays_closed ((TransitionSystem.Reachable.init recorderWorld_initial).run (by decide))

/-- A batch that was checked before the room was sealed is written after its stream was removed,
which brings the stream back. -/
theorem late_batch_reopens :
    ∃ w, (system plainText soloConfig plainRecord).Reachable World.Initial (fun _ _ => True) w ∧
      ¬ w.StaysClosed := by
  refine ⟨(system plainText soloConfig plainRecord).run recorderWorld
      (maidenStarts ++ batchChecked "spawn" ++ [.resume 0] ++ batchChecked "late" ++
        maidenProcessed ++ [.resume 0]),
    (TransitionSystem.Reachable.init recorderWorld_initial).run (by decide), fun h => ?_⟩
  have hgone := h.stream (.removed (7, (Stage.tobMaiden, none))) (by decide) _ rfl
  revert hgone
  decide

end Blert.Streams

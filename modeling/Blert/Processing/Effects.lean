import Blert.Processing.Pipeline

/-!
What the parts of a processing run write.

No part of a run changes which id a challenge has, except the run that creates the challenge and
the one that deletes it.
-/

namespace Blert.Processing

open Lifecycle ReadCommitted Fallible

variable {σ Custom Own : Type}

/-- A challenge's row is there, with an id. -/
def HasId (uuid : Uuid) (id : ℕ) (db : Database Custom Own) : Prop :=
  (db.challenges.get uuid).map Challenge.id = some id

def Gone (uuid : Uuid) (db : Database Custom Own) : Prop := db.challenges.get uuid = none

namespace Change

def KeepsId (id : ℕ) : Change Custom Own → Prop
  | .challenge _ (some row) => row.id = id
  | .challenge _ none => False
  | _ => True

def In (tables : List Table) (c : Change Custom Own) : Prop := c.table ∈ tables

def TakesOut : Change Custom Own → Prop
  | .challenge _ (some _) => False
  | _ => True

lemma KeepsId.safe {uuid : Uuid} {id : ℕ} {c : Change Custom Own} (h : c.KeepsId id) :
    Storage.Safe (HasId uuid id : Database Custom Own → Prop) c := by
  intro db hdb
  cases c with
  | challenge k row =>
    cases row with
    | none => exact h.elim
    | some row =>
      change ((db.challenges.assign k (some row)).get uuid).map Challenge.id = some id
      rw [InsertionMap.get_assign]
      split_ifs
      · exact congrArg some h
      · exact hdb
  | _ => exact hdb

lemma TakesOut.safe {uuid : Uuid} {c : Change Custom Own} (h : c.TakesOut) :
    Storage.Safe (Gone uuid : Database Custom Own → Prop) c := by
  intro db hdb
  cases c with
  | challenge k row =>
    cases row with
    | some row => exact h.elim
    | none =>
      change (db.challenges.assign k none).get uuid = none
      rw [InsertionMap.get_assign]
      split_ifs
      · rfl
      · exact hdb
  | _ => exact hdb

lemma In.mono {tables tables' : List Table} (hsub : tables ⊆ tables') {c : Change Custom Own}
    (h : c.In tables) : c.In tables' := hsub h

lemma In.keepsId {tables : List Table} (htables : .challenges ∉ tables) {id : ℕ}
    {c : Change Custom Own} (h : c.In tables) : c.KeepsId id := by
  cases c with
  | challenge => exact absurd h htables
  | _ => trivial

lemma IsOwn.mem {c : Change Custom Own} (h : c.IsOwn) : c.In [.processorRows] := by
  cases c with
  | processorRow => exact List.mem_singleton_self _
  | _ => exact h.elim

lemma IsFinishing.mem {c : Change Custom Own} (h : c.IsFinishing) :
    c.In [.processorRows, .challengeSplits, .personalBestHistory] := by
  cases c with
  | processorRow => exact List.mem_cons_self
  | challengeSplit | personalBest => simp [In, table]
  | _ => exact h.elim

end Change

open Change

lemma HasId.exec {α : Type} {uuid : Uuid} {id : ℕ} {db : Database Custom Own}
    (hid : HasId uuid id db) {p : Sql Custom Own α} (hp : p.Writes (KeepsId id)) {a : α}
    {cs : List (Change Custom Own)} (h : p.exec db = .ok (a, cs)) :
    HasId uuid id (applyAll cs db) :=
  applyAll_safe (fun c hc => (hp.exec h c hc).safe) hid

lemma writes_keepsId {α : Type} {tables : List Table} {p : Sql Custom Own α}
    (h : p.Writes (In tables)) (htables : .challenges ∉ tables) {id : ℕ} :
    p.Writes (KeepsId id) :=
  h.mono fun _ => In.keepsId htables

lemma writes_within {α : Type} {tables tables' : List Table} {p : Sql Custom Own α}
    (h : p.Writes (In tables)) (hsub : tables ⊆ tables') : p.Writes (In tables') :=
  h.mono fun _ => In.mono hsub

/-! ### Frames -/

def Table.Holds {β : Type} (t : Table) (part : Database Custom Own → β) : Prop :=
  ∀ (c : Change Custom Own) (db : Database Custom Own), c.table ≠ t →
    part (Storage.apply c db) = part db

lemma holds_challenges :
    Table.challenges.Holds fun db : Database Custom Own => db.challenges := by
  intro c db h
  cases c <;> first | rfl | exact absurd rfl h

lemma holds_challengePlayers :
    Table.challengePlayers.Holds fun db : Database Custom Own => db.challengePlayers := by
  intro c db h
  cases c <;> first | rfl | exact absurd rfl h

lemma holds_sessions : Table.sessions.Holds fun db : Database Custom Own => db.sessions := by
  intro c db h
  cases c <;> first | rfl | exact absurd rfl h

lemma holds_processingState :
    Table.processingState.Holds fun db : Database Custom Own => db.processingState := by
  intro c db h
  cases c <;> first | rfl | exact absurd rfl h

lemma holds_processorRows :
    Table.processorRows.Holds fun db : Database Custom Own => db.processorRows := by
  intro c db h
  cases c <;> first | rfl | exact absurd rfl h

lemma applyAll_frame {β : Type} {t : Table} {part : Database Custom Own → β} (hpart : t.Holds part)
    {tables : List Table} (ht : t ∉ tables) {cs : List (Change Custom Own)}
    (h : ∀ c ∈ cs, c.In tables) (db : Database Custom Own) : part (applyAll cs db) = part db :=
  applyAll_safe (K := fun db' => part db' = part db)
    (fun c hc db' hdb' => (hpart c db' fun heq => ht (heq ▸ h c hc)).trans hdb') rfl

lemma exec_frame {α β : Type} {t : Table} {part : Database Custom Own → β} (hpart : t.Holds part)
    {tables : List Table} {p : Sql Custom Own α} (hp : p.Writes (In tables)) (ht : t ∉ tables)
    {db : Database Custom Own} {a : α} {cs : List (Change Custom Own)}
    (h : p.exec db = .ok (a, cs)) : part (applyAll cs db) = part db :=
  applyAll_frame hpart ht (hp.exec h) db

/-! ### Challenge rows -/

lemma updateChallenge_keepsId {db : Database Custom Own} {id : ℕ}
    {f : Challenge → Except Failure Challenge} (hf : ∀ r r', f r = .ok r' → r'.id = r.id)
    {u : Unit} {cs : List (Change Custom Own)} (h : db.updateChallenge id f = .ok (u, cs)) :
    ∀ c ∈ cs, c.KeepsId id := by
  obtain ⟨cs', hm, h⟩ := bind_eq_ok.1 h
  cases h
  intro c hc
  obtain ⟨e, he, hec⟩ := mem_mapM_ok hm hc
  obtain ⟨row, hrow, hec⟩ := bind_eq_ok.1 hec
  cases hec
  have hid : e.2.id = id := by simpa using (List.mem_filter.mp he).2
  exact (hf _ _ hrow).trans hid

lemma mem_challengesById {db : Database Custom Own} {uuid : Uuid} {id : ℕ}
    (h : HasId uuid id db) : ∃ row, row.id = id ∧ db.challenges.get uuid = some row ∧
      (uuid, row) ∈ db.challengesById id := by
  obtain ⟨row, hrow, hid⟩ := Option.map_eq_some_iff.mp h
  exact ⟨row, hid, hrow, List.mem_filter.mpr
    ⟨InsertionMap.get_eq_some.mp hrow, decide_eq_true hid⟩⟩

lemma writes_updateChallenge {id : ℕ} {f : Challenge → Except Failure Challenge}
    (hf : ∀ r r', f r = .ok r' → r'.id = r.id) :
    (.write fun db => db.updateChallenge id f : Sql Custom Own Unit).Writes (KeepsId id) :=
  Program.writes_write fun _ _ _ hrun => updateChallenge_keepsId hf hrun

lemma in_updateChallenge {id : ℕ} {f : Challenge → Except Failure Challenge} :
    (.write fun db => db.updateChallenge id f : Sql Custom Own Unit).Writes (In [.challenges]) := by
  refine Program.writes_write fun db u cs hrun c hc => ?_
  obtain ⟨cs', hm, hrun⟩ := bind_eq_ok.1 hrun
  cases hrun
  obtain ⟨e, -, hec⟩ := mem_mapM_ok hm hc
  obtain ⟨row, -, hec⟩ := bind_eq_ok.1 hec
  cases hec
  exact List.mem_singleton_self _

/-! ### Writers -/

section Writers

variable (txn : Transaction Custom) (inputs : Inputs σ)

lemma writes_updateSession (f : Session → Session) (sessionId : ℕ) :
    (.write fun db => .ok ((), db.updateSession sessionId f) :
      Sql Custom Own Unit).Writes (In [.sessions]) := by
  refine Program.writes_write fun db _ cs hrun c hc => ?_
  cases hrun
  unfold Database.updateSession at hc
  split at hc
  · obtain rfl := List.mem_singleton.mp hc
    exact List.mem_singleton_self _
  · cases hc

lemma writes_updateEndTime (endTime : ℕ) :
    (updateEndTime txn endTime : Sql Custom Own Unit).Writes (In [.sessions]) :=
  (Program.writes_lift _).bind fun _ => writes_updateSession _ _

lemma writes_updateSessionMode (mode : ChallengeMode) :
    (updateSessionMode txn mode : Sql Custom Own Unit).Writes (In [.sessions]) :=
  (Program.writes_lift _).bind fun _ => writes_updateSession _ _

lemma writes_updatePlayers (stage : Stage) (ctx : StageContext)
    (players : List StoredPlayerInfo) :
    (updatePlayers txn stage ctx players :
      Sql Custom Own Unit).Writes (In [.challengePlayers]) := by
  refine Program.writes_forEach (fun _ => Program.writes_write fun db _ cs hrun c hc => ?_) _
  cases hrun
  obtain ⟨e, -, rfl⟩ := List.mem_map.mp hc
  exact List.mem_singleton_self _

lemma writes_updatePlayerStats (now : ℕ) (data : List PlayerData)
    (players : List StoredPlayerInfo) :
    (updatePlayerStats now data players : Sql Custom Own Unit).Writes (In [.playerStats]) := by
  refine Program.writes_forEach (fun _ => (Program.writes_read _).bind fun _ =>
    Program.writes_write fun db _ cs hrun c hc => ?_) _
  cases hrun
  obtain rfl := List.mem_singleton.mp hc
  exact List.mem_singleton_self _

lemma writes_writeSplits (ids : Ids) (info : ChallengeInfo) (splits : List SavedSplit) :
    (writeSplits ids txn info splits : Sql Custom Own _).Writes (In [.challengeSplits]) := by
  unfold writeSplits
  split_ifs
  · trivial
  · refine Program.writes_write fun db _ cs hrun c hc => ?_
    obtain ⟨_, -, hrun⟩ := bind_eq_ok.1 hrun
    dsimp only at hrun
    split at hrun
    · cases hrun
      obtain ⟨e, -, rfl⟩ := List.mem_map.mp hc
      exact List.mem_singleton_self _
    · cases hrun

lemma writes_updatePersonalBests (ids : Ids) (now : ℕ) (info : ChallengeInfo)
    (players : List StoredPlayerInfo) (splits : List InsertedSplit) :
    (updatePersonalBests ids now info players splits :
      Sql Custom Own Unit).Writes (In [.personalBestHistory]) := by
  unfold updatePersonalBests
  dsimp only
  split_ifs
  · trivial
  · refine (Program.writes_read _).bind fun current => ?_
    split_ifs
    · trivial
    · refine Program.writes_write fun db _ cs hrun c hc => ?_
      split at hrun
      · cases hrun
        obtain ⟨e, -, rfl⟩ := List.mem_map.mp hc
        exact List.mem_singleton_self _
      · cases hrun

lemma writes_saveSplits (ids : Ids) (now : ℕ) (info : ChallengeInfo) (splits : List SavedSplit)
    (players : List StoredPlayerInfo) :
    (saveSplits ids now txn info splits players :
      Sql Custom Own Unit).Writes (In [.challengeSplits, .personalBestHistory]) :=
  (writes_within (writes_writeSplits txn ids info splits) (by decide)).bind fun _ =>
    writes_within (writes_updatePersonalBests ids now info players _) (by decide)

lemma writes_writeQueryableEvents (ids : Ids) (info : ChallengeInfo) (output : InterpretOutput)
    (players : List StoredPlayerInfo) :
    (writeQueryableEvents ids txn info output players :
      Sql Custom Own Unit).Writes (In [.queryableEvents]) := by
  unfold writeQueryableEvents
  dsimp only
  split_ifs
  · trivial
  · refine Program.writes_write fun db _ cs hrun c hc => ?_
    obtain ⟨_, -, hrun⟩ := bind_eq_ok.1 hrun
    split at hrun
    · cases hrun
      obtain ⟨e, -, rfl⟩ := List.mem_map.mp hc
      exact List.mem_singleton_self _
    · cases hrun

lemma writes_updateChallengeRow (ticks : ChallengeTicks) (newDeaths : ℕ) :
    (updateChallengeRow txn ticks newDeaths :
      Sql Custom Own Unit).Writes (KeepsId txn.challengeId) := by
  refine writes_updateChallenge fun r r' h => ?_
  obtain ⟨_, -, h⟩ := bind_eq_ok.1 h
  cases h
  rfl

lemma writes_loadDatabaseState (info : ChallengeInfo) :
    (loadDatabaseState txn info : Sql Custom Own _).Writes (In []) :=
  (Program.writes_read _).bind fun _ => (Program.writes_read _).bind fun _ => trivial

lemma writes_addRecorder (userId : UserId) (recordingType : RecordingType) :
    (addRecorder txn userId recordingType :
      Sql Custom Own Unit).Writes (In [.recordedChallenges]) := by
  refine Program.writes_write fun db _ cs hrun c hc => ?_
  obtain ⟨_, -, hrun⟩ := bind_eq_ok.1 hrun
  cases hrun
  obtain rfl := List.mem_singleton.mp hc
  exact List.mem_singleton_self _

lemma writes_updateStage (stage : Stage) :
    (updateStage txn stage : Sql Custom Own Unit).Writes (KeepsId txn.challengeId) :=
  writes_updateChallenge (by rintro r _ ⟨⟩; rfl)

lemma writes_updateMode (mode : ChallengeMode) :
    (updateMode txn mode : Sql Custom Own Unit).Writes (KeepsId txn.challengeId) :=
  (writes_updateChallenge (by rintro r _ ⟨⟩; rfl)).bind fun _ =>
    writes_keepsId (writes_updateSessionMode txn mode) (by decide)

lemma writes_finalizeChallengeRow (finishTime finalTicks : ℕ) (fullRecording : Bool) :
    (finalizeChallengeRow inputs txn finishTime finalTicks fullRecording :
      Sql Custom Own Unit).Writes (KeepsId txn.challengeId) :=
  writes_updateChallenge (by rintro r _ ⟨⟩; rfl)

lemma writes_answer {α : Type} (r : Except ProcessingError α) :
    (answer r : Sql Custom Own α).Writes (In []) :=
  Program.writes_lift _

lemma writes_startPlayerChallenge (env : Environment σ Custom Own) (orb : ℕ)
    (username : String) :
    (startPlayerChallenge env inputs orb username : Sql Custom Own ℕ).Writes (In [.players]) := by
  refine Program.writes_write fun db _ cs hrun c hc => ?_
  dsimp only at hrun
  split at hrun
  · cases hrun
    obtain rfl := List.mem_singleton.mp hc
    exact List.mem_singleton_self _
  · split_ifs at hrun
    cases hrun
    obtain rfl := List.mem_singleton.mp hc
    exact List.mem_singleton_self _

lemma writes_insertChallengePlayer (env : Environment σ Custom Own) (challengeId orb : ℕ)
    (username : String) :
    (insertChallengePlayer env inputs challengeId orb username :
      Sql Custom Own Unit).Writes (In [.players, .challengePlayers]) := by
  refine (writes_within (writes_startPlayerChallenge inputs env orb username) (by decide)).bind
    fun playerId => Program.writes_write fun db _ cs hrun c hc => ?_
  obtain ⟨_, -, hrun⟩ := bind_eq_ok.1 hrun
  cases hrun
  obtain rfl := List.mem_singleton.mp hc
  exact List.mem_cons_of_mem _ List.mem_cons_self

end Writers

/-! ### Runs -/

section Runs

variable (env : Environment σ Custom Own) (inputs : Inputs σ) (txn : Transaction Custom)

lemma writes_finishRecorded (stored : StoredState Custom) (finishTime : ℕ) (p : σ) :
    (finishRecorded env inputs txn stored finishTime p).Writes (KeepsId txn.challengeId) :=
  (writes_finalizeChallengeRow txn inputs finishTime _ _).bind fun _ =>
  (writes_keepsId (writes_updateEndTime txn finishTime) (by decide)).bind fun _ =>
  (writes_keepsId ((env.processor.onFinish_own p txn stored _ _).mono
    fun _ => IsFinishing.mem) (by decide)).bind fun _ =>
  (writes_keepsId (writes_saveSplits txn _ _ _ _ _) (by decide)).bind fun _ =>
  writes_keepsId (writes_updatePlayerStats _ _ _) (by decide)

lemma writes_persist (stored : StoredState Custom) (output : InterpretOutput) (p : σ) :
    (persist env inputs txn stored output p).Writes (KeepsId txn.challengeId) :=
  (writes_keepsId ((env.processor.onStageFinished_own p txn _ stored _ _ _).mono
    fun _ => IsOwn.mem) (by decide)).bind fun _ =>
  (writes_keepsId (writes_saveSplits txn _ _ _ _ _) (by decide)).bind fun _ =>
  (writes_keepsId (writes_updatePlayers txn _ _ _) (by decide)).bind fun _ =>
  (writes_keepsId (writes_updatePlayerStats _ _ _) (by decide)).bind fun _ =>
  (writes_keepsId (writes_writeQueryableEvents txn _ _ _ _) (by decide)).bind fun _ =>
  (writes_updateChallengeRow txn _ _).bind fun _ =>
  (writes_keepsId (writes_answer _) (by decide)).bind fun _ =>
  (writes_keepsId (writes_answer _) (by decide)).bind fun _ => trivial

lemma writes_processStage : (processStage env inputs txn).Writes (KeepsId txn.challengeId) := by
  refine (writes_keepsId (writes_answer _) (by decide)).bind fun interpret =>
    (writes_keepsId (writes_loadDatabaseState txn _) (by decide)).bind fun stored =>
    (writes_keepsId (writes_answer _) (by decide)).bind fun p => ?_
  cases p with
  | none => trivial
  | some p =>
    dsimp only
    split
    · trivial
    · exact (writes_persist env inputs txn stored _ _).bind fun _ => trivial

end Runs

/-! ### Stages -/

section Stages

variable {env : Environment σ Custom Own} {inputs : Inputs σ} {txn : Transaction Custom}
  {db : Database Custom Own} {cs : List (Change Custom Own)}

lemma exec_answer {α : Type} {r : Except ProcessingError α} {a : α}
    (h : (answer r : Sql Custom Own α).exec db = .ok (a, cs)) : r = .ok a ∧ cs = [] := by
  obtain ⟨hr, rfl⟩ := Program.exec_lift_ok.mp h
  cases r with
  | error e => cases hr
  | ok b =>
    cases hr
    exact ⟨rfl, rfl⟩

lemma exec_loadDatabaseState_customData {info : ChallengeInfo} {stored : StoredState Custom}
    (h : (loadDatabaseState txn info).exec db = .ok (stored, cs)) :
    stored.customData = txn.customData ∧ cs = [] := by
  unfold loadDatabaseState at h
  simp only [Program.exec_bind_ok] at h
  obtain ⟨_, cs₁, _, h₁, ⟨_, cs₂, cs₃, h₂, h₃, rfl⟩, rfl⟩ := h
  obtain ⟨-, rfl⟩ := Program.exec_read_ok.mp h₁
  obtain ⟨-, rfl⟩ := Program.exec_read_ok.mp h₂
  obtain ⟨rfl, rfl⟩ := Program.exec_pure_ok.mp h₃
  exact ⟨rfl, rfl⟩

/-- What a stage's results are written to, but for the tables of the challenge type. -/
def stageTables : List Table :=
  [.challengeSplits, .personalBestHistory, .challengePlayers, .playerStats, .queryableEvents,
    .challenges]

lemma exec_persist {stored : StoredState Custom} {output : InterpretOutput} {p : σ}
    {a : ProcessingPayload × σ}
    (h : (persist env inputs txn stored output p).exec db = .ok (a, cs)) :
    a.1 = .stage output.events.status output.events.lastTick ∧
      ∃ ctx ticks own rest, (env.processor.onStageFinished p txn inputs.prices stored output.ctx
          inputs.info.stage output.events).exec db = .ok ((a.2, ctx, ticks), own) ∧
        (∀ c ∈ rest, c.In stageTables) ∧ cs = own ++ rest := by
  unfold persist at h
  rw [Program.exec_bind_ok] at h
  obtain ⟨⟨p', ctx, ticks⟩, own, rest, h₁, h, rfl⟩ := h
  have hrest : a = (.stage output.events.status output.events.lastTick, p') := by
    simp only [Program.exec_bind_ok] at h
    obtain ⟨_, _, _, -, ⟨_, _, _, -, ⟨_, _, _, -, ⟨_, _, _, -, ⟨_, _, _, -, ⟨_, _, _, -,
      ⟨_, _, _, -, h, -⟩, -⟩, -⟩, -⟩, -⟩, -⟩, -⟩ := h
    exact (Program.exec_pure_ok.mp h).1
  subst hrest
  refine ⟨rfl, ctx, ticks, own, rest, h₁, Program.Writes.exec ?_ h, rfl⟩
  exact (writes_within (writes_saveSplits txn _ _ _ _ _) (by decide)).bind fun _ =>
    (writes_within (writes_updatePlayers txn _ _ _) (by decide)).bind fun _ =>
    (writes_within (writes_updatePlayerStats _ _ _) (by decide)).bind fun _ =>
    (writes_within (writes_writeQueryableEvents txn _ _ _ _) (by decide)).bind fun _ =>
    (writes_within in_updateChallenge (by decide)).bind fun _ =>
    (writes_within (writes_answer _) (by decide)).bind fun _ =>
    (writes_within (writes_answer _) (by decide)).bind fun _ => trivial

lemma exec_processStage {a : ProcessingPayload × Option Custom}
    (h : (processStage env inputs txn).exec db = .ok (a, cs)) :
    ∃ interpret stored, inputs.recorded = .ok interpret ∧
      (loadDatabaseState txn inputs.info).exec db = .ok (stored, []) ∧
      ((a = (.none, none) ∧ cs = []) ∨
        ∃ p, env.processorFor inputs.info txn.customData = .ok (some p) ∧
          ((∃ p', interpret p = (none, p') ∧ a = (.none, env.processor.customData p') ∧ cs = []) ∨
            ∃ output p' payload p'', interpret p = (some output, p') ∧
              (persist env inputs txn stored output p').exec db = .ok ((payload, p''), cs) ∧
              a = (payload, env.processor.customData p''))) := by
  unfold processStage at h
  simp only [Program.exec_bind_ok] at h
  obtain ⟨interpret, cs₁, _, h₁, ⟨stored, cs₂, _, h₂, ⟨p, cs₃, cs₄, h₃, h₄, rfl⟩, rfl⟩, rfl⟩ := h
  obtain ⟨hrecorded, rfl⟩ := exec_answer h₁
  obtain ⟨hcustom, rfl⟩ := exec_loadDatabaseState_customData h₂
  obtain ⟨hprocessor, rfl⟩ := exec_answer h₃
  rw [hcustom] at hprocessor
  simp only [applyAll_nil, List.nil_append] at h₂ h₄ ⊢
  refine ⟨interpret, stored, hrecorded, h₂, ?_⟩
  cases p with
  | none =>
    obtain ⟨rfl, rfl⟩ := Program.exec_pure_ok.mp h₄
    exact .inl ⟨rfl, rfl⟩
  | some p =>
    refine .inr ⟨p, hprocessor, ?_⟩
    dsimp only at h₄
    split at h₄
    · next p' hinterpret =>
      obtain ⟨rfl, rfl⟩ := Program.exec_pure_ok.mp h₄
      exact .inl ⟨p', hinterpret, rfl, rfl⟩
    · next output p' hinterpret =>
      obtain ⟨⟨payload, p''⟩, cs₅, cs₆, h₅, h₆, rfl⟩ := Program.exec_bind_ok.mp h₄
      obtain ⟨rfl, rfl⟩ := Program.exec_pure_ok.mp h₆
      rw [List.append_nil]
      exact .inr ⟨output, p', payload, p'', hinterpret, h₅, rfl⟩

end Stages

/-! ### Deletion -/

lemma gone_of_takesOut {uuid : Uuid} {cs : List (Change Custom Own)} (h : ∀ c ∈ cs, c.TakesOut)
    (hmem : .challenge uuid none ∈ cs) (db : Database Custom Own) :
    Gone uuid (applyAll cs db) := by
  obtain ⟨l, r, rfl⟩ := List.append_of_mem hmem
  rw [applyAll_append, applyAll_cons]
  refine applyAll_safe (fun c hc => (h c (by simp [hc])).safe) ?_
  change ((applyAll l db).challenges.assign uuid none).get uuid = none
  rw [InsertionMap.get_assign, if_pos rfl]

lemma deleteChallenge_takesOut (db : Database Custom Own) (id : ℕ) :
    ∀ c ∈ db.deleteChallenge id, c.TakesOut := by
  intro c hc
  simp only [Database.deleteChallenge, Database.dependents, List.mem_append, List.mem_map] at hc
  rcases hc with ⟨_, -, rfl⟩ | ((((((⟨_, -, rfl⟩ | ⟨_, -, rfl⟩) | ⟨_, -, rfl⟩) | ⟨_, -, rfl⟩) |
    ⟨_, -, rfl⟩) | ⟨_, -, rfl⟩) | ⟨_, -, rfl⟩) <;> trivial

lemma dropRecording_takesOut (db : Database Custom Own) (ids : List ℕ) :
    ∀ c ∈ ids.flatMap (dropRecording db), c.TakesOut := by
  intro c hc
  obtain ⟨id, -, hc⟩ := List.mem_flatMap.mp hc
  unfold dropRecording at hc
  split at hc
  · obtain rfl := List.mem_singleton.mp hc
    trivial
  · cases hc

lemma exec_deleteEmptyChallenge {inputs : Inputs σ} {txn txn' : Transaction Custom}
    {players : List StoredPlayerInfo} {finishTime : ℕ} {uuid : Uuid} {db : Database Custom Own}
    {cs : List (Change Custom Own)} (hid : HasId uuid txn.challengeId db)
    (h : (deleteEmptyChallenge inputs txn players finishTime).exec db = .ok (txn', cs)) :
    txn' = { txn with deleted := true } ∧ Gone uuid (applyAll cs db) := by
  unfold deleteEmptyChallenge at h
  simp only [Program.exec_bind_ok] at h
  obtain ⟨_, cs₁, _, h₁, ⟨_, cs₂, _, h₂, ⟨_, cs₃, _, h₃, ⟨_, cs₄, _, h₄, ⟨rfl, rfl⟩, rfl⟩, rfl⟩,
    rfl⟩, rfl⟩ := h
  have hid₁ := hid.exec (writes_keepsId (writes_updateEndTime txn finishTime) (by decide)) h₁
  cases Program.exec_write_ok.mp h₂
  obtain ⟨-, rfl⟩ := Program.exec_lift_ok.mp h₃
  cases Program.exec_write_ok.mp h₄
  refine ⟨rfl, ?_⟩
  obtain ⟨row, -, -, hmem⟩ := mem_challengesById hid₁
  have hgone := gone_of_takesOut (deleteChallenge_takesOut _ txn.challengeId)
    (List.mem_append_left _ (List.mem_map.mpr ⟨_, hmem, rfl⟩)) (applyAll cs₁ db)
  simp only [applyAll_append, applyAll_nil]
  exact applyAll_safe (fun c hc => (dropRecording_takesOut _ _ c hc).safe) hgone

lemma exec_finish {env : Environment σ Custom Own} {inputs : Inputs σ}
    {txn txn' : Transaction Custom} {uuid : Uuid} {db : Database Custom Own}
    {cs : List (Change Custom Own)} (hid : HasId uuid txn.challengeId db)
    (h : (finish env inputs txn).exec db = .ok (txn', cs)) :
    (txn' = txn ∧ HasId uuid txn.challengeId (applyAll cs db)) ∨
      (txn' = { txn with deleted := true } ∧ Gone uuid (applyAll cs db)) := by
  unfold finish at h
  rw [Program.exec_bind_ok] at h
  obtain ⟨stored, cs₁, cs₂, h₁, h, rfl⟩ := h
  have hid₁ := hid.exec (writes_keepsId (writes_loadDatabaseState txn inputs.info) (by decide)) h₁
  rw [applyAll_append]
  cases hfin : inputs.info.finishedUnixMs with
  | none => simp only [hfin] at h; cases h
  | some finishTime =>
    simp only [hfin] at h
    split_ifs at h with hempty
    · exact Or.inr (exec_deleteEmptyChallenge hid₁ h)
    · left
      rw [Program.exec_bind_ok] at h
      obtain ⟨p, cs₃, cs₄, h₃, h, rfl⟩ := h
      obtain ⟨-, rfl⟩ := Program.exec_lift_ok.mp h₃
      rw [applyAll_nil] at h
      cases p with
      | none =>
        simp only [Program.exec_bind_ok] at h
        obtain ⟨_, cs₅, _, h₅, ⟨_, cs₆, _, h₆, ⟨rfl, rfl⟩, rfl⟩, rfl⟩ := h
        refine ⟨rfl, ?_⟩
        have hid₅ := hid₁.exec (writes_finalizeChallengeRow txn inputs finishTime _ _) h₅
        simpa only [List.nil_append, List.append_nil, applyAll_append] using
          hid₅.exec (writes_keepsId (writes_updateEndTime txn finishTime) (by decide)) h₆
      | some p =>
        rw [Program.exec_bind_ok] at h
        obtain ⟨_, cs₅, _, h₅, ⟨rfl, rfl⟩, rfl⟩ := h
        refine ⟨rfl, ?_⟩
        simpa only [List.nil_append, List.append_nil] using
          hid₁.exec (writes_finishRecorded env inputs txn stored finishTime p) h₅

/-! ### Creation -/

def Change.SparesChallenges : Change Custom Own → Prop
  | .challenge _ _ => False
  | _ => True

lemma Change.SparesChallenges.safe {P : InsertionMap Uuid Challenge → Prop}
    {c : Change Custom Own} (h : c.SparesChallenges) :
    Storage.Safe (fun db : Database Custom Own => P db.challenges) c := by
  intro db hdb
  cases c with
  | challenge => exact h.elim
  | _ => exact hdb

lemma Change.In.sparesChallenges {tables : List Table} (htables : .challenges ∉ tables)
    {c : Change Custom Own} (h : c.In tables) : c.SparesChallenges := by
  cases c with
  | challenge => exact absurd h htables
  | _ => trivial

lemma writes_finalizeSession (sessionId : ℕ) (endTime : Option ℕ) :
    (finalizeSession sessionId endTime : Sql Custom Own _).Writes (In [.sessions]) := by
  refine (Program.writes_read _).bind fun rows => ?_
  split
  · refine Program.writes_write fun db _ cs hrun c hc => ?_
    cases hrun
    split_ifs at hc
    · obtain rfl := List.mem_singleton.mp hc
      exact List.mem_singleton_self _
    · cases hc
  · refine Program.writes_write fun db _ cs hrun c hc => ?_
    cases hrun
    unfold Database.updateSession at hc
    split at hc
    · obtain rfl := List.mem_singleton.mp hc
      exact List.mem_singleton_self _
    · cases hc

lemma writes_closeStale (startTime : ℕ) (stale : List ℕ) :
    (closeStale startTime stale : Sql Custom Own _).Writes (In [.sessions]) := by
  cases stale with
  | nil => trivial
  | cons id _ => exact (writes_finalizeSession id _).bind fun _ => trivial

lemma writes_insertSession (ids : Ids) (info : ChallengeInfo) (hash : String) (startTime : ℕ) :
    (insertSession ids info hash startTime : Sql Custom Own _).Writes (In [.sessions]) := by
  refine Program.writes_write fun db _ cs hrun c hc => ?_
  split_ifs at hrun
  cases hrun
  obtain rfl := List.mem_singleton.mp hc
  exact List.mem_singleton_self _

lemma writes_resolveSession (naming : Naming) (ids : Ids) (info : ChallengeInfo)
    (startTime : ℕ) :
    (resolveSession naming ids info startTime : Sql Custom Own _).Writes (In [.sessions]) := by
  refine (Program.writes_read _).bind fun active => ?_
  cases active with
  | some id => trivial
  | none =>
    refine (Program.writes_write fun db _ cs hrun c hc => ?_).bind fun stale =>
      (writes_closeStale startTime stale).bind fun _ => writes_insertSession ids info _ startTime
    cases hrun
    obtain ⟨e, -, rfl⟩ := List.mem_map.mp hc
    exact List.mem_singleton_self _

def Change.IsCursor : Change Custom Own → Prop
  | .processingState _ _ => True
  | _ => False

lemma Change.IsCursor.keepsId {id : ℕ} {c : Change Custom Own} (h : c.IsCursor) :
    c.KeepsId id := by
  cases c <;> trivial

lemma writes_commit (txn : Transaction Custom) (payload : ProcessingPayload)
    (customData : Option Custom) :
    (commit txn payload customData : Sql Custom Own Unit).Writes IsCursor := by
  unfold commit
  split_ifs
  · trivial
  · refine Program.writes_write fun db _ cs hrun c hc => ?_
    obtain ⟨_, -, hrun⟩ := bind_eq_ok.1 hrun
    cases hrun
    obtain rfl := List.mem_singleton.mp hc
    trivial

lemma exec_create {env : Environment σ Custom Own} {inputs : Inputs σ}
    {txn txn' : Transaction Custom} {customData : Option Custom} {db : Database Custom Own}
    {cs : List (Change Custom Own)}
    (h : (create env inputs txn).exec db = .ok ((txn', customData), cs)) :
    txn' = { txn with challengeId := inputs.ids.challenge } ∧
      HasId inputs.info.uuid inputs.ids.challenge (applyAll cs db) := by
  unfold create insertChallenge at h
  simp only [Program.exec_bind_ok] at h
  obtain ⟨_, _, cs₂, ⟨sessionId, cs₁, _, h₁, ⟨_, cs₃, _, h₃, ⟨_, cs₄, _, h₄, ⟨rfl, rfl⟩, rfl⟩,
    rfl⟩, rfl⟩, ⟨p, cs₅, cs₆, h₅, h₆, rfl⟩, rfl⟩ := h
  have hid₃ : HasId inputs.info.uuid inputs.ids.challenge
      (applyAll cs₃ (applyAll cs₁ db)) := by
    have hrun := Program.exec_write_ok.mp h₃
    split_ifs at hrun
    cases hrun
    change ((InsertionMap.assign _ _ (some _)).get _).map Challenge.id = _
    rw [InsertionMap.get_assign, if_pos rfl]
    rfl
  have hid₄ := hid₃.exec (writes_keepsId (Program.writes_forEach (fun (username, orb) =>
    writes_insertChallengePlayer inputs env inputs.ids.challenge orb username) _) (by decide)) h₄
  obtain ⟨-, rfl⟩ := Program.exec_lift_ok.mp h₅
  simp only [applyAll_append, applyAll_nil] at h₆ ⊢
  cases p with
  | none =>
    obtain ⟨h₆, rfl⟩ := Program.exec_pure_ok.mp h₆
    cases h₆
    exact ⟨rfl, hid₄⟩
  | some p =>
    simp only [Program.exec_bind_ok] at h₆
    obtain ⟨p', cs₇, _, h₇, ⟨_, cs₈, _, h₈, h₉, rfl⟩, rfl⟩ := h₆
    obtain ⟨h₉, rfl⟩ := Program.exec_pure_ok.mp h₉
    cases h₉
    obtain ⟨-, rfl⟩ := Program.exec_lift_ok.mp h₈
    refine ⟨rfl, ?_⟩
    simpa only [applyAll_append, applyAll_nil, List.append_nil] using
      hid₄.exec (writes_keepsId ((env.processor.onCreate_own p _).mono
        fun _ => IsOwn.mem) (by decide)) h₇

end Blert.Processing

import Blert.Processing.Runs

/-!
Sessions of a party.

A party plays its challenges of a type in sessions, of which it has one at a time. A session is
active until it is finalized, which happens once it has expired, or when the party's next session
is created before that.
-/

namespace Blert.Processing

open Lifecycle ReadCommitted Fallible

variable {σ Custom Own : Type}

/-! ### Finalization -/

def finalizeRow (session : Uuid) : Sql Custom Own (Option FinalizationOutcome) := do
  -- the row is locked, without a change
  let row ← .write fun db =>
    let row := db.sessions.entries.find? (·.2.uuid = session)
    .ok (row.map Prod.fst, row.toList.map fun e => .session e.1 (some e.2))
  match row with
  | none => return none
  | some id => do
    let outcome ← finalizeSession id none
    return some outcome

/-- What is done to sessions: attempts at processing challenges, and the finalization of sessions
that have expired. -/
inductive Action (σ : Type)
  | attempt (a : Attempt σ)
  | finalize (session : Uuid)

def Action.run (action : Action σ) (env : Environment σ Custom Own) (db : Database Custom Own) :
    Except Failure (List (Change Custom Own)) :=
  match action with
  | .attempt a => (a.run env db).map Prod.snd
  | .finalize session => ((finalizeRow session).exec db).map Prod.snd

/-! ### Standing -/

/-- Whose session it is, and whether it is active. -/
def Session.standing (s : Session) : Uuid × ChallengeType × String × SessionStatus :=
  (s.uuid, s.challengeType, s.partyHash, s.status)

/-- All sessions are as they were, but for their times, modes and scales. -/
def SessionsKept (db db' : Database Custom Own) : Prop :=
  ∀ id, (db'.sessions.get id).map Session.standing = (db.sessions.get id).map Session.standing

lemma SessionsKept.refl (db : Database Custom Own) : SessionsKept db db := fun _ => rfl

lemma SessionsKept.trans (db db' db'' : Database Custom Own) (h : SessionsKept db db')
    (h' : SessionsKept db' db'') : SessionsKept db db'' :=
  fun id => (h' id).trans (h id)

lemma SessionsKept.of_eq {db db' : Database Custom Own} (h : db'.sessions = db.sessions) :
    SessionsKept db db' := fun id => by rw [h]

lemma keeps_of_writes {α : Type} {tables : List Table} {p : Sql Custom Own α}
    (hp : p.Writes (Change.In tables)) (h : .sessions ∉ tables) : p.Keeps SessionsKept :=
  fun _ _ _ hexec => .of_eq (exec_frame holds_sessions hp h hexec)

lemma get_updateSession (db : Database Custom Own) (sessionId : ℕ) (f : Session → Session)
    (id : ℕ) : (applyAll (db.updateSession sessionId f) db).sessions.get id =
      if id = sessionId then (db.sessions.get id).map f else db.sessions.get id := by
  unfold Database.updateSession
  cases hget : db.sessions.get sessionId with
  | none =>
    split_ifs with hid
    · rw [applyAll_nil, hid, hget, Option.map_none]
    · rfl
  | some s =>
    change (db.sessions.set sessionId (f s)).get id = _
    rw [InsertionMap.get_set]
    split_ifs with hid
    · rw [hid, hget, Option.map_some]
    · rfl

lemma keeps_updateSession (f : Session → Session) (hf : ∀ s, (f s).standing = s.standing)
    (sessionId : ℕ) :
    (.write fun db => .ok ((), db.updateSession sessionId f) :
      Sql Custom Own Unit).Keeps SessionsKept := by
  refine Program.keeps_write fun db u cs h id => ?_
  cases h
  rw [get_updateSession]
  split_ifs
  · cases db.sessions.get id with
    | none => rfl
    | some s => exact congrArg some (hf s)
  · rfl

section Keeps

variable (env : Environment σ Custom Own) (inputs : Inputs σ) (txn : Transaction Custom)

lemma keeps_updateEndTime (endTime : ℕ) :
    (updateEndTime txn endTime : Sql Custom Own Unit).Keeps SessionsKept :=
  (Program.keeps_lift .refl _).bind .trans fun _ =>
    keeps_updateSession _ (by intro s; rfl) _

lemma keeps_updateSessionMode (mode : ChallengeMode) :
    (updateSessionMode txn mode : Sql Custom Own Unit).Keeps SessionsKept :=
  (Program.keeps_lift .refl _).bind .trans fun _ =>
    keeps_updateSession _ (by intro s; rfl) _

lemma keeps_answer {α : Type} (r : Except ProcessingError α) :
    (answer r : Sql Custom Own α).Keeps SessionsKept :=
  Program.keeps_lift .refl _

lemma sessionsKept_deleteChallenge (db : Database Custom Own) (id : ℕ) :
    SessionsKept db (applyAll (db.deleteChallenge id) db) := by
  have hin : ∀ c ∈ db.deleteChallenge id, c.In [.challenges, .processingState, .challengePlayers,
      .recordedChallenges, .challengeSplits, .personalBestHistory, .queryableEvents,
      .processorRows] := by
    intro c hc
    simp only [Database.deleteChallenge, Database.dependents, List.mem_append, List.mem_map] at hc
    rcases hc with ⟨_, -, rfl⟩ | ((((((⟨_, -, rfl⟩ | ⟨_, -, rfl⟩) | ⟨_, -, rfl⟩) | ⟨_, -, rfl⟩) |
      ⟨_, -, rfl⟩) | ⟨_, -, rfl⟩) | ⟨_, -, rfl⟩) <;> simp [Change.In, Change.table]
  exact .of_eq (applyAll_frame holds_sessions (by decide) hin db)

lemma in_dropRecording (db : Database Custom Own) (ids : List ℕ) :
    ∀ c ∈ ids.flatMap (dropRecording db), c.In [.players] := by
  intro c hc
  obtain ⟨id, -, hc⟩ := List.mem_flatMap.mp hc
  unfold dropRecording at hc
  split at hc
  · obtain rfl := List.mem_singleton.mp hc
    exact List.mem_singleton_self _
  · cases hc

lemma keeps_deleteEmptyChallenge (players : List StoredPlayerInfo) (finishTime : ℕ) :
    (deleteEmptyChallenge inputs txn players finishTime :
      Sql Custom Own _).Keeps SessionsKept := by
  refine (keeps_updateEndTime txn finishTime).bind .trans fun _ =>
    (Program.keeps_write fun db _ cs h => ?_).bind .trans fun _ =>
    (keeps_answer _).bind .trans fun _ =>
    (Program.keeps_write fun db _ cs h => ?_).bind .trans fun _ => Program.keeps_pure .refl _
  · cases h
    exact sessionsKept_deleteChallenge db _
  · cases h
    exact .of_eq (applyAll_frame holds_sessions (by decide) (in_dropRecording db _) db)

lemma keeps_finishRecorded (stored : StoredState Custom) (finishTime : ℕ) (p : σ) :
    (finishRecorded env inputs txn stored finishTime p).Keeps SessionsKept :=
  (keeps_of_writes in_updateChallenge (by decide)).bind .trans fun _ =>
  (keeps_updateEndTime txn finishTime).bind .trans fun _ =>
  (keeps_of_writes ((env.processor.onFinish_own p txn stored _ _).mono
    fun _ => Change.IsFinishing.mem) (by decide)).bind .trans fun _ =>
  (keeps_of_writes (writes_saveSplits txn _ _ _ _ _) (by decide)).bind .trans fun _ =>
  keeps_of_writes (writes_updatePlayerStats _ _ _) (by decide)

lemma keeps_finish : (finish env inputs txn).Keeps SessionsKept := by
  unfold finish
  refine (keeps_of_writes (writes_loadDatabaseState txn _) (by decide)).bind .trans
    fun stored => ?_
  split
  · exact Program.keeps_fail _
  · split_ifs
    · exact keeps_deleteEmptyChallenge inputs txn _ _
    · refine (keeps_answer _).bind .trans fun p => ?_
      cases p with
      | none =>
        exact (keeps_of_writes in_updateChallenge (by decide)).bind .trans fun _ =>
          (keeps_updateEndTime txn _).bind .trans fun _ => Program.keeps_pure .refl _
      | some p =>
        exact (keeps_finishRecorded env inputs txn stored _ p).bind .trans fun _ =>
          Program.keeps_pure .refl _

lemma keeps_commit (payload : ProcessingPayload) (customData : Option Custom) :
    (commit txn payload customData : Sql Custom Own Unit).Keeps SessionsKept :=
  fun db _ _ h => .of_eq (applyAll_frame holds_sessions (by decide) (frame_commit h) db)

lemma keeps_perform (hcreate : ∀ seq, txn.trigger ≠ .create seq) :
    (perform env inputs txn).Keeps SessionsKept := by
  unfold perform
  split
  · next seq htrigger => exact absurd htrigger (hcreate seq)
  · exact (keeps_of_writes (writes_addRecorder txn _ _) (by decide)).bind .trans fun _ =>
      Program.keeps_pure .refl _
  · exact (keeps_of_writes in_updateChallenge (by decide)).bind .trans fun _ =>
      Program.keeps_pure .refl _
  · exact ((keeps_of_writes in_updateChallenge (by decide)).bind .trans fun _ =>
      keeps_updateSessionMode txn _).bind .trans fun _ => Program.keeps_pure .refl _
  · exact (keeps_finish env inputs txn).bind .trans fun _ => Program.keeps_pure .refl _
  · exact Program.Keeps.bind .trans (fun db _ _ h => .of_eq
      (applyAll_frame holds_sessions (by decide) (in_processStage h) db)) fun _ =>
      Program.keeps_pure .refl _

end Keeps

/-! ### Closing -/

/-- What the finalization of a session does to the sessions: it closes the session, or deletes it
if it has no challenge. -/
structure Closes (sessionId : ℕ) (db db' : Database Custom Own) : Prop where
  challenges : db'.challenges = db.challenges
  others : ∀ id, id ≠ sessionId → db'.sessions.get id = db.sessions.get id
  closed : ∀ s', db'.sessions.get sessionId = some s' →
    s'.status ≠ .active ∧ ∃ s, db.sessions.get sessionId = some s ∧ s'.uuid = s.uuid ∧
      s'.challengeType = s.challengeType ∧ s'.partyHash = s.partyHash
  deleted : ∀ s, db.sessions.get sessionId = some s → db'.sessions.get sessionId = none →
    ∀ c ∈ db.challenges.values, c.sessionId ≠ some sessionId

lemma closes_finalizeSession {sessionId : ℕ} {endTime : Option ℕ} {db : Database Custom Own}
    {outcome : FinalizationOutcome} {cs : List (Change Custom Own)}
    (h : (finalizeSession sessionId endTime).exec db = .ok (outcome, cs)) :
    Closes sessionId db (applyAll cs db) := by
  have hchallenges := exec_frame holds_challenges (writes_finalizeSession sessionId endTime)
    (by decide) h
  unfold finalizeSession at h
  obtain ⟨rows, cs₁, cs₂, h₁, h₂, rfl⟩ := Program.exec_bind_ok.mp h
  obtain ⟨hrows, rfl⟩ := Program.exec_read_ok.mp h₁
  cases hrows
  rw [List.nil_append] at hchallenges ⊢
  rw [applyAll_nil] at h₂
  by_cases hempty : (db.challenges.values.filter (·.sessionId = some sessionId)).isEmpty
  · rw [if_pos hempty] at h₂
    have hnone : ∀ c ∈ db.challenges.values, c.sessionId ≠ some sessionId := by
      intro c hc hsession
      have hmem : c ∈ db.challenges.values.filter (·.sessionId = some sessionId) :=
        List.mem_filter.mpr ⟨hc, decide_eq_true hsession⟩
      rw [List.isEmpty_iff.mp hempty] at hmem
      cases hmem
    cases Program.exec_write_ok.mp h₂
    have hget : ∀ id, (applyAll (if db.sessions.has sessionId then
        [.session sessionId none] else [] : List (Change Custom Own)) db).sessions.get id =
          if id = sessionId then none else db.sessions.get id := by
      intro id
      split_ifs with hhas hid hid
      · change (db.sessions.assign sessionId none).get id = _
        rw [InsertionMap.get_assign, if_pos hid]
      · change (db.sessions.assign sessionId none).get id = _
        rw [InsertionMap.get_assign, if_neg hid]
      · rw [hid]
        exact Option.not_isSome_iff_eq_none.mp hhas
      · rfl
    refine ⟨hchallenges, fun id hid => ?_, fun s' hs' => ?_, fun s _ _ => hnone⟩
    · rw [hget, if_neg hid]
    · rw [hget, if_pos rfl] at hs'
      cases hs'
  · rw [if_neg hempty] at h₂
    cases Program.exec_write_ok.mp h₂
    refine ⟨hchallenges, fun id hid => ?_, fun s' hs' => ?_, fun s hs hs' => ?_⟩
    · rw [get_updateSession, if_neg hid]
    · rw [get_updateSession, if_pos rfl] at hs'
      obtain ⟨s, hs, rfl⟩ := Option.map_eq_some_iff.mp hs'
      refine ⟨?_, s, hs, rfl, rfl, rfl⟩
      dsimp only
      split_ifs <;> decide
    · rw [get_updateSession, if_pos rfl, hs] at hs'
      cases hs'

/-! ### Opening -/

/-- The sessions of a challenge's party that have no end time. -/
def openSessions (naming : Naming) (info : ChallengeInfo) (db : Database Custom Own) : List ℕ :=
  (db.sessions.entries.filter fun e => e.2.challengeType = info.challengeType ∧
    e.2.partyHash = naming.partyHash info.party ∧ e.2.endTime = none).map Prod.fst

def ClosesFirst : List ℕ → Database Custom Own → Database Custom Own → Prop
  | [], db, closed => closed = db
  | id :: _, db, closed => Closes id db closed

/-- What the creation of a challenge does to the sessions if it opens one: the first that has no
end time is closed, and a new one is there. -/
structure Opens (naming : Naming) (ids : Ids) (info : ChallengeInfo)
    (db db' : Database Custom Own) : Prop where
  fresh : ∀ s ∈ db.sessions.values, s.uuid ≠ info.sessionUuid
  closes : ∃ closed : Database Custom Own,
    ClosesFirst (openSessions naming info db) db closed ∧
    closed.sessions.get ids.session = none ∧
    ∃ s : Session, s.uuid = info.sessionUuid ∧ s.challengeType = info.challengeType ∧
      s.partyHash = naming.partyHash info.party ∧
      db'.sessions = closed.sessions.set ids.session s

lemma applyAll_lock (db : Database Custom Own) {rows : List (ℕ × Session)}
    (h : ∀ e ∈ rows, db.sessions.get e.1 = some e.2) :
    applyAll (rows.map fun e => (.session e.1 (some e.2) : Change Custom Own)) db = db := by
  refine Program.applyAll_of_forall fun c hc => ?_
  obtain ⟨e, he, rfl⟩ := List.mem_map.mp hc
  change { db with sessions := db.sessions.set e.1 e.2 } = db
  rw [InsertionMap.set_of_get (h e he)]

lemma closesFirst_closeStale {startTime : ℕ} {stale : List ℕ} {db : Database Custom Own}
    {u : Unit} {cs : List (Change Custom Own)}
    (h : (closeStale startTime stale).exec db = .ok (u, cs)) :
    ClosesFirst stale db (applyAll cs db) := by
  cases stale with
  | nil =>
    obtain ⟨-, rfl⟩ := Program.exec_pure_ok.mp h
    rfl
  | cons id rest =>
    obtain ⟨outcome, cs₁, cs₂, h₁, h₂, rfl⟩ := Program.exec_bind_ok.mp h
    obtain ⟨-, rfl⟩ := Program.exec_pure_ok.mp h₂
    rw [List.append_nil]
    exact closes_finalizeSession h₁

lemma exec_insertSession {ids : Ids} {info : ChallengeInfo} {hash : String} {startTime : ℕ}
    {db : Database Custom Own} {sessionId : ℕ} {cs : List (Change Custom Own)}
    (h : (insertSession ids info hash startTime).exec db = .ok (sessionId, cs)) :
    db.sessions.get ids.session = none ∧
      ∃ s : Session, s.uuid = info.sessionUuid ∧ s.challengeType = info.challengeType ∧
        s.partyHash = hash ∧ (applyAll cs db).sessions = db.sessions.set ids.session s := by
  have hrun := Program.exec_write_ok.mp h
  split_ifs at hrun with huuid hopen hid
  cases hrun
  exact ⟨Option.not_isSome_iff_eq_none.mp hid, _, rfl, rfl, rfl, rfl⟩

lemma exec_resolveSession {naming : Naming} {ids : Ids} {info : ChallengeInfo} {startTime : ℕ}
    {db : Database Custom Own} {sessionId : ℕ} {cs : List (Change Custom Own)}
    (h : (resolveSession naming ids info startTime).exec db = .ok (sessionId, cs)) :
    (cs = [] ∧ ∃ s ∈ db.sessions.values, s.uuid = info.sessionUuid) ∨
      Opens naming ids info db (applyAll cs db) := by
  unfold resolveSession at h
  obtain ⟨active, cs₁, cs₂, h₁, h₂, rfl⟩ := Program.exec_bind_ok.mp h
  obtain ⟨hactive, rfl⟩ := Program.exec_read_ok.mp h₁
  cases hactive
  rw [applyAll_nil] at h₂
  rw [List.nil_append]
  cases hfind : db.sessions.entries.find? (·.2.uuid = info.sessionUuid) with
  | some e =>
    rw [hfind] at h₂
    obtain ⟨-, rfl⟩ := Program.exec_pure_ok.mp h₂
    refine .inl ⟨rfl, e.2, List.mem_map.mpr ⟨e, List.mem_of_find?_eq_some hfind, rfl⟩, ?_⟩
    simpa using List.find?_some hfind
  | none =>
    rw [hfind] at h₂
    simp only [Option.map_none, Program.exec_bind_ok] at h₂
    obtain ⟨stale, cs₃, cs₄, h₃, ⟨_, cs₅, cs₆, h₅, h₆, rfl⟩, rfl⟩ := h₂
    have hrows := Program.exec_write_ok.mp h₃
    rw [Except.ok.injEq, Prod.mk.injEq] at hrows
    obtain ⟨rfl, rfl⟩ := hrows
    have hlock := applyAll_lock db fun (e : ℕ × Session)
        (he : e ∈ db.sessions.entries.filter fun e =>
          e.2.challengeType = info.challengeType ∧ e.2.partyHash = naming.partyHash info.party ∧
            e.2.endTime = none) =>
      InsertionMap.get_eq_some.mpr (List.mem_filter.mp he).1
    rw [hlock] at h₅ h₆
    rw [applyAll_append, hlock, applyAll_append]
    obtain ⟨hnone, s, huuid, htype, hhash, hset⟩ := exec_insertSession h₆
    refine .inr ⟨fun s hs heq => ?_, applyAll cs₅ db, ?_, hnone, s, huuid, htype, hhash, hset⟩
    · obtain ⟨e, he, rfl⟩ := List.mem_map.mp hs
      exact absurd (decide_eq_true heq) (List.find?_eq_none.mp hfind e he)
    · exact closesFirst_closeStale h₅

lemma Opens.of_sessions {naming : Naming} {ids : Ids} {info : ChallengeInfo}
    {db db' db'' : Database Custom Own} (h : Opens naming ids info db db')
    (heq : db''.sessions = db'.sessions) : Opens naming ids info db db'' := by
  obtain ⟨hfresh, closed, hcloses, hnone, s, huuid, htype, hhash, hset⟩ := h
  exact ⟨hfresh, closed, hcloses, hnone, s, huuid, htype, hhash, heq.trans hset⟩

lemma in_insertChallengeRow (inputs : Inputs σ) (sessionId : ℕ) :
    (insertChallengeRow inputs sessionId :
      Sql Custom Own Unit).Writes (Change.In [.challenges]) := by
  refine Program.writes_write fun db _ cs hrun c hc => ?_
  split_ifs at hrun
  cases hrun
  obtain rfl := List.mem_singleton.mp hc
  exact List.mem_singleton_self _

lemma exec_create_sessions {env : Environment σ Custom Own} {inputs : Inputs σ}
    {txn txn' : Transaction Custom} {customData : Option Custom} {db : Database Custom Own}
    {cs : List (Change Custom Own)}
    (h : (create env inputs txn).exec db = .ok ((txn', customData), cs)) :
    SessionsKept db (applyAll cs db) ∨
      Opens env.naming inputs.ids inputs.info db (applyAll cs db) := by
  unfold create insertChallenge at h
  simp only [Program.exec_bind_ok] at h
  obtain ⟨_, _, cs₂, ⟨sessionId, cs₁, _, h₁, ⟨_, cs₃, _, h₃, ⟨_, cs₄, _, h₄, ⟨rfl, rfl⟩, rfl⟩,
    rfl⟩, rfl⟩, ⟨p, cs₅, cs₆, h₅, h₆, rfl⟩, rfl⟩ := h
  simp only [applyAll_append, applyAll_nil] at h₆ ⊢
  have hrow := exec_frame holds_sessions (in_insertChallengeRow inputs sessionId) (by decide) h₃
  have hplayers := exec_frame holds_sessions (Program.writes_forEach (fun (username, orb) =>
    writes_insertChallengePlayer inputs env inputs.ids.challenge orb username) _) (by decide) h₄
  obtain ⟨-, rfl⟩ := Program.exec_lift_ok.mp h₅
  have hsessions : (applyAll cs₆ (applyAll cs₄ (applyAll cs₃ (applyAll cs₁ db)))).sessions =
      (applyAll cs₁ db).sessions := by
    refine Eq.trans ?_ (hplayers.trans hrow)
    cases p with
    | none =>
      obtain ⟨-, rfl⟩ := Program.exec_pure_ok.mp h₆
      rfl
    | some p =>
      simp only [Program.exec_bind_ok] at h₆
      obtain ⟨p', cs₇, _, h₇, ⟨_, cs₈, _, h₈, h₉, rfl⟩, rfl⟩ := h₆
      obtain ⟨-, rfl⟩ := Program.exec_pure_ok.mp h₉
      obtain ⟨-, rfl⟩ := Program.exec_lift_ok.mp h₈
      rw [List.append_nil, List.append_nil]
      exact exec_frame holds_sessions ((env.processor.onCreate_own p _).mono
        fun _ => Change.IsOwn.mem) (by decide) h₇
  rcases exec_resolveSession h₁ with ⟨rfl, -⟩ | hopens
  · exact .inl (.of_eq hsessions)
  · exact .inr (hopens.of_sessions hsessions)

/-! ### Actions -/

def Action.created : Action σ → Option (Inputs σ)
  | .attempt ⟨.create _, inputs⟩ => some inputs
  | _ => none

lemma exec_perform_create {env : Environment σ Custom Own} {inputs : Inputs σ}
    {txn txn' : Transaction Custom} {payload : ProcessingPayload} {customData : Option Custom}
    {db : Database Custom Own} {cs : List (Change Custom Own)} {seq : JournalSeq}
    (hcreate : txn.trigger = .create seq)
    (h : (perform env inputs txn).exec db = .ok ((txn', payload, customData), cs)) :
    Gone inputs.info.uuid db ∧ (SessionsKept db (applyAll cs db) ∨
      Opens env.naming inputs.ids inputs.info db (applyAll cs db)) := by
  unfold perform at h
  rw [hcreate] at h
  obtain ⟨⟨txn₁, customData₁⟩, cs₁, cs₂, h₁, h₂, rfl⟩ := Program.exec_bind_ok.mp h
  obtain ⟨-, rfl⟩ := Program.exec_pure_ok.mp h₂
  rw [List.append_nil]
  refine ⟨?_, exec_create_sessions h₁⟩
  by_contra hrow
  exact (inserts_create txn).not_exec (Option.isSome_iff_ne_none.mpr hrow) h₁

lemma exec_finalizeRow {session : Uuid} {outcome : Option FinalizationOutcome}
    {db : Database Custom Own} {cs : List (Change Custom Own)}
    (h : (finalizeRow session).exec db = .ok (outcome, cs)) :
    applyAll cs db = db ∨ ∃ id, Closes id db (applyAll cs db) := by
  unfold finalizeRow at h
  obtain ⟨row, cs₁, cs₂, h₁, h₂, rfl⟩ := Program.exec_bind_ok.mp h
  have hrow := Program.exec_write_ok.mp h₁
  rw [Except.ok.injEq, Prod.mk.injEq] at hrow
  obtain ⟨rfl, rfl⟩ := hrow
  have hlock := applyAll_lock db fun (e : ℕ × Session)
      (he : e ∈ (db.sessions.entries.find? (·.2.uuid = session)).toList) =>
    InsertionMap.get_eq_some.mpr (List.mem_of_find?_eq_some (Option.mem_toList.mp he))
  rw [hlock] at h₂
  rw [applyAll_append, hlock]
  cases hfind : db.sessions.entries.find? (·.2.uuid = session) with
  | none =>
    rw [hfind] at h₂
    obtain ⟨-, rfl⟩ := Program.exec_pure_ok.mp h₂
    exact .inl rfl
  | some e =>
    rw [hfind] at h₂
    obtain ⟨outcome, cs₃, cs₄, h₃, h₄, rfl⟩ := Program.exec_bind_ok.mp h₂
    obtain ⟨-, rfl⟩ := Program.exec_pure_ok.mp h₄
    rw [List.append_nil]
    exact .inr ⟨e.1, closes_finalizeSession h₃⟩

/-- What an action does to the sessions: it leaves them, closes one, or opens one for the challenge
it creates. -/
lemma Action.run_cases {action : Action σ} {env : Environment σ Custom Own}
    {db : Database Custom Own} {cs : List (Change Custom Own)} (h : action.run env db = .ok cs) :
    SessionsKept db (applyAll cs db) ∨ (∃ id, Closes id db (applyAll cs db)) ∨
      ∃ inputs ∈ action.created, Gone inputs.info.uuid db ∧
        Opens env.naming inputs.ids inputs.info db (applyAll cs db) := by
  cases action with
  | finalize session =>
    obtain ⟨⟨outcome, cs⟩, hrow, rfl⟩ := map_eq_ok.1 h
    rcases exec_finalizeRow hrow with hsame | hcloses
    · exact .inl (.of_eq (congrArg Database.sessions hsame))
    · exact .inr (.inl hcloses)
  | attempt a =>
    obtain ⟨⟨reply, cs⟩, hrun, rfl⟩ := map_eq_ok.1 h
    rcases a.run_cases hrun with ⟨-, -, -, rfl⟩ | ⟨payload, -, opens, performs, commits⟩
    · exact .inl (.refl db)
    · rename_i txn txn' customData performed committed u
      have hkept := keeps_commit txn' payload customData _ _ _ commits
      dsimp only
      rw [applyAll_append]
      by_cases hcreate : ∃ seq, a.trigger = .create seq
      · obtain ⟨seq, hseq⟩ := hcreate
        obtain ⟨trigger, inputs⟩ := a
        obtain rfl : trigger = .create seq := hseq
        have htrigger := (startTransaction_pass opens).1
        obtain ⟨hgone, h | h⟩ := exec_perform_create htrigger performs
        · exact .inl (h.trans _ _ _ hkept)
        · exact .inr (.inr ⟨inputs, rfl, hgone, h.of_sessions
            (applyAll_frame holds_sessions (by decide) (frame_commit commits) _)⟩)
      · refine .inl (SessionsKept.trans _ _ _ ?_ hkept)
        refine keeps_perform env a.inputs txn (fun seq heq => hcreate ⟨seq, ?_⟩) _ _ _ performs
        rw [← heq, (startTransaction_pass opens).1]

/-! ### One active session -/

def Session.OfParty (naming : Naming) (info : ChallengeInfo) (s : Session) : Prop :=
  s.challengeType = info.challengeType ∧ s.partyHash = naming.partyHash info.party

/-- No party has two active sessions of a type. -/
def OneActive (db : Database Custom Own) : Prop :=
  ∀ id id' s s', db.sessions.get id = some s → db.sessions.get id' = some s' →
    s.status = .active → s'.status = .active → s.challengeType = s'.challengeType →
    s.partyHash = s'.partyHash → id = id'

/-- Neither the challenge nor its session is there. -/
def Absent (info : ChallengeInfo) (db : Database Custom Own) : Prop :=
  Gone info.uuid db ∧ ∀ s ∈ db.sessions.values, s.uuid ≠ info.sessionUuid

/-- The creation of a challenge has resolved to a new session. -/
def ResolvesAnew (info : ChallengeInfo) (db db' : Database Custom Own) : Prop :=
  (∀ s ∈ db.sessions.values, s.uuid ≠ info.sessionUuid) ∧
    ∃ s ∈ db'.sessions.values, s.uuid = info.sessionUuid

/-- Every session that a challenge's party had is finalized, or deleted. -/
def Superseded (naming : Naming) (info : ChallengeInfo) (db db' : Database Custom Own) : Prop :=
  ∀ id s, db.sessions.get id = some s → s.OfParty naming info →
    ∀ s', db'.sessions.get id = some s' → s'.uuid = s.uuid → s'.status ≠ .active

/-- Sessions that are deleted have no challenge. -/
def DeletesEmpty (db db' : Database Custom Own) : Prop :=
  ∀ id s, db.sessions.get id = some s →
    (∀ s', db'.sessions.get id = some s' → s'.uuid ≠ s.uuid) →
    ∀ c ∈ db.challenges.values, c.sessionId ≠ some id

/-- Of the party's sessions only the first that has no end time may be active. -/
def Marked (naming : Naming) (info : ChallengeInfo) (db : Database Custom Own) : Prop :=
  ∀ id s, db.sessions.get id = some s → s.OfParty naming info → s.status = .active →
    (openSessions naming info db).head? = some id

/-- If the action creates a challenge in a new session, the party's active session is found by its
missing end time. -/
def FindsActive (env : Environment σ Custom Own) (action : Action σ) (db : Database Custom Own) :
    Prop :=
  ∀ inputs ∈ action.created, Absent inputs.info db → Marked env.naming inputs.info db

/-- Actions one after the other, each allowed where it is done. -/
inductive Actions (env : Environment σ Custom Own)
    (Allowed : Action σ → Database Custom Own → Prop) (start : Database Custom Own) :
    Database Custom Own → Prop
  | start : Actions env Allowed start start
  | step {db : Database Custom Own} {action : Action σ} {cs : List (Change Custom Own)}
      (before : Actions env Allowed start db) (run : action.run env db = .ok cs)
      (allowed : Allowed action db) : Actions env Allowed start (applyAll cs db)

lemma ClosesFirst.get {ids : List ℕ} {db closed : Database Custom Own}
    (h : ClosesFirst ids db closed) {id : ℕ} (hid : ids.head? ≠ some id) :
    closed.sessions.get id = db.sessions.get id := by
  cases ids with
  | nil => rw [h]
  | cons first rest =>
    refine h.others id ?_
    rintro rfl
    exact hid rfl

section Opens

variable {naming : Naming} {ids : Ids} {info : ChallengeInfo} {db db' : Database Custom Own}

lemma Opens.get (h : Opens naming ids info db db') {id : ℕ} {s : Session}
    (hs : db.sessions.get id = some s) (hid : (openSessions naming info db).head? ≠ some id) :
    db'.sessions.get id = some s := by
  obtain ⟨-, closed, hcloses, hnone, new, -, -, -, hset⟩ := h
  rw [← hcloses.get hid] at hs
  rw [hset, InsertionMap.get_set, if_neg, hs]
  rintro rfl
  rw [hs] at hnone
  cases hnone

lemma Opens.active (h : Opens naming ids info db db') {id : ℕ} {s' : Session}
    (hs' : db'.sessions.get id = some s') (hactive : s'.status = .active) :
    (id = ids.session ∧ s'.uuid = info.sessionUuid ∧ s'.OfParty naming info) ∨
      (db.sessions.get id = some s' ∧ (openSessions naming info db).head? ≠ some id) := by
  obtain ⟨-, closed, hcloses, hnone, new, huuid, htype, hhash, hset⟩ := h
  rw [hset, InsertionMap.get_set] at hs'
  split_ifs at hs' with hid
  · cases hs'
    exact .inl ⟨hid, huuid, htype, hhash⟩
  · have hfirst : (openSessions naming info db).head? ≠ some id := by
      intro hhead
      cases hopen : openSessions naming info db with
      | nil =>
        rw [hopen] at hhead
        cases hhead
      | cons first rest =>
        rw [hopen] at hhead hcloses
        cases hhead
        exact (hcloses.closed s' hs').1 hactive
    rw [hcloses.get hfirst] at hs'
    exact .inr ⟨hs', hfirst⟩

lemma mem_sessions {id : ℕ} {s : Session} (h : db.sessions.get id = some s) :
    s ∈ db.sessions.values :=
  List.mem_map.mpr ⟨(id, s), InsertionMap.get_eq_some.mp h, rfl⟩

/-- The creation of a session supersedes the party's sessions exactly if none but the first without
an end time is active. -/
lemma Opens.superseded_iff (h : Opens naming ids info db db') :
    Superseded naming info db db' ↔ Marked naming info db := by
  constructor
  · intro hsup id s hs hparty hactive
    by_contra hid
    exact hsup id s hs hparty s (h.get hs hid) rfl hactive
  · intro hmarked id s hs hparty s' hs' huuid hactive
    rcases h.active hs' hactive with ⟨-, hnew, -⟩ | ⟨hsame, hid⟩
    · exact h.fresh s (mem_sessions hs) (huuid.symm.trans hnew)
    · rw [hs] at hsame
      cases hsame
      exact hid (hmarked id s hs hparty hactive)

lemma Opens.oneActive (h : Opens naming ids info db db') (hmarked : Marked naming info db)
    (hone : OneActive db) : OneActive db' := by
  have hother : ∀ {id s}, db.sessions.get id = some s → s.status = .active →
      (openSessions naming info db).head? ≠ some id → ¬ s.OfParty naming info :=
    fun hs hactive hid hparty => hid (hmarked _ _ hs hparty hactive)
  intro id id' s s' hs hs' hactive hactive' htype hhash
  rcases h.active hs hactive with ⟨rfl, -, hparty⟩ | ⟨hold, hid⟩ <;>
    rcases h.active hs' hactive' with ⟨rfl, -, hparty'⟩ | ⟨hold', hid'⟩
  · rfl
  · exact absurd ⟨htype.symm.trans hparty.1, hhash.symm.trans hparty.2⟩
      (hother hold' hactive' hid')
  · exact absurd ⟨htype.trans hparty'.1, hhash.trans hparty'.2⟩ (hother hold hactive hid)
  · exact hone id id' s s' hold hold' hactive hactive' htype hhash

lemma Opens.deletesEmpty (h : Opens naming ids info db db') : DeletesEmpty db db' := by
  intro id s hs hdeleted
  by_cases hid : (openSessions naming info db).head? = some id
  · obtain ⟨-, closed, hcloses, hnone, new, -, -, -, hset⟩ := h
    cases hopen : openSessions naming info db with
    | nil =>
      rw [hopen] at hid
      cases hid
    | cons first rest =>
      rw [hopen] at hid hcloses
      cases hid
      refine hcloses.deleted s hs ?_
      by_contra hsome
      obtain ⟨s', hs'⟩ := Option.ne_none_iff_exists'.mp hsome
      obtain ⟨-, s₀, hs₀, huuid, -⟩ := hcloses.closed s' hs'
      rw [hs] at hs₀
      cases hs₀
      refine hdeleted s' ?_ huuid
      rw [hset, InsertionMap.get_set, if_neg, hs']
      rintro rfl
      exact hsome hnone
  · exact absurd rfl (hdeleted s (h.get hs hid))

end Opens

lemma SessionsKept.get {db db' : Database Custom Own} (h : SessionsKept db db') {id : ℕ}
    {s' : Session} (hs' : db'.sessions.get id = some s') :
    ∃ s, db.sessions.get id = some s ∧ s.standing = s'.standing := by
  have hid := h id
  rw [hs', Option.map_some] at hid
  exact Option.map_eq_some_iff.mp hid.symm

lemma SessionsKept.deletesEmpty {db db' : Database Custom Own} (h : SessionsKept db db') :
    DeletesEmpty db db' := by
  intro id s hs hdeleted
  have hid := h id
  rw [hs, Option.map_some] at hid
  obtain ⟨s', hs', hstanding⟩ := Option.map_eq_some_iff.mp hid
  exact absurd (congrArg Prod.fst hstanding) (hdeleted s' hs')

lemma Closes.deletesEmpty {sessionId : ℕ} {db db' : Database Custom Own}
    (h : Closes sessionId db db') : DeletesEmpty db db' := by
  intro id s hs hdeleted
  by_cases hid : id = sessionId
  · subst hid
    refine h.deleted s hs ?_
    by_contra hsome
    obtain ⟨s', hs'⟩ := Option.ne_none_iff_exists'.mp hsome
    obtain ⟨-, s₀, hs₀, huuid, -⟩ := h.closed s' hs'
    rw [hs] at hs₀
    cases hs₀
    exact hdeleted s' hs' huuid
  · exact absurd rfl (hdeleted s ((h.others id hid).trans hs))

lemma OneActive.of_active {db db' : Database Custom Own} (hone : OneActive db)
    (h : ∀ id s', db'.sessions.get id = some s' → s'.status = .active →
      ∃ s, db.sessions.get id = some s ∧ s.standing = s'.standing) : OneActive db' := by
  intro id id' s s' hs hs' hactive hactive' htype hhash
  obtain ⟨s₀, hs₀, hstanding⟩ := h id s hs hactive
  obtain ⟨s₁, hs₁, hstanding'⟩ := h id' s' hs' hactive'
  simp only [Session.standing, Prod.mk.injEq] at hstanding hstanding'
  obtain ⟨-, htype₀, hhash₀, hstatus₀⟩ := hstanding
  obtain ⟨-, htype₁, hhash₁, hstatus₁⟩ := hstanding'
  exact hone id id' s₀ s₁ hs₀ hs₁ (hstatus₀.trans hactive) (hstatus₁.trans hactive')
    (htype₀.trans (htype.trans htype₁.symm)) (hhash₀.trans (hhash.trans hhash₁.symm))

section Run

variable {env : Environment σ Custom Own} {start db : Database Custom Own} {action : Action σ}
  {cs : List (Change Custom Own)}

lemma Action.deletesEmpty (h : action.run env db = .ok cs) : DeletesEmpty db (applyAll cs db) := by
  rcases action.run_cases h with hkept | ⟨id, hcloses⟩ | ⟨inputs, -, -, hopens⟩
  · exact hkept.deletesEmpty
  · exact hcloses.deletesEmpty
  · exact hopens.deletesEmpty

lemma Action.oneActive (h : action.run env db = .ok cs) (hfinds : FindsActive env action db)
    (hone : OneActive db) : OneActive (applyAll cs db) := by
  rcases action.run_cases h with hkept | ⟨id, hcloses⟩ | ⟨inputs, hinputs, hgone, hopens⟩
  · exact hone.of_active fun id s' hs' _ => hkept.get hs'
  · refine hone.of_active fun id' s' hs' hactive => ⟨s', ?_, rfl⟩
    rw [← hcloses.others id' ?_, hs']
    rintro rfl
    exact (hcloses.closed s' hs').1 hactive
  · exact hopens.oneActive (hfinds inputs hinputs ⟨hgone, hopens.fresh⟩) hone

lemma Actions.oneActive (h : Actions env (FindsActive env) start db) (hone : OneActive start) :
    OneActive db := by
  induction h with
  | start => exact hone
  | step _ run allowed ih => exact Action.oneActive run allowed ih

lemma Action.opens (h : action.run env db = .ok cs) {inputs : Inputs σ}
    (hinputs : inputs ∈ action.created) (hnew : ResolvesAnew inputs.info db (applyAll cs db)) :
    Opens env.naming inputs.ids inputs.info db (applyAll cs db) := by
  obtain ⟨hfresh, new, hmem, huuid⟩ := hnew
  obtain ⟨⟨id', _⟩, hentry, rfl⟩ := List.mem_map.mp hmem
  have hget := InsertionMap.get_eq_some.mpr hentry
  rcases action.run_cases h with hkept | ⟨id, hcloses⟩ | ⟨inputs', hinputs', -, hopens⟩
  · obtain ⟨s, hs, hstanding⟩ := hkept.get hget
    exact absurd ((congrArg Prod.fst hstanding).trans huuid) (hfresh s (mem_sessions hs))
  · by_cases hid : id' = id
    · subst hid
      obtain ⟨-, s, hs, hsame, -⟩ := hcloses.closed _ hget
      exact absurd (hsame.symm.trans huuid) (hfresh s (mem_sessions hs))
    · rw [hcloses.others id' hid] at hget
      exact absurd huuid (hfresh _ (mem_sessions hget))
  · rw [Option.mem_unique hinputs hinputs']
    exact hopens

/-- While every new session is created where the party's active one has no end time, a party has
one active session; and a new session supersedes the others exactly there. -/
theorem party_has_one_active_session (h : Actions env (FindsActive env) start db)
    (hone : OneActive start) :
    OneActive db ∧ ∀ (action : Action σ) cs, action.run env db = .ok cs →
      DeletesEmpty db (applyAll cs db) ∧
      ∀ inputs ∈ action.created, ResolvesAnew inputs.info db (applyAll cs db) →
        (Superseded env.naming inputs.info db (applyAll cs db) ↔
          Marked env.naming inputs.info db) :=
  ⟨h.oneActive hone, fun _ _ hrun => ⟨Action.deletesEmpty hrun, fun _ hinputs hnew =>
    (Action.opens hrun hinputs hnew).superseded_iff⟩⟩

end Run

/-! ### A session that stays active -/

section Stale

def emptyDatabase : Database Unit Unit := ⟨∅, ∅, ∅, ∅, ∅, ∅, ∅, ∅, ∅, ∅, ∅⟩

/-- The next challenge of the player, in a session of its own. -/
def nextInputs : Inputs Unit :=
  { emptyInputs with
    info := { emptyInputs.info with uuid := 9, sessionUuid := 10 }
    ids := ⟨6, by decide, 7, fun _ => 10, id, id, id⟩ }

/-- The creation of a challenge, and its end before anything is recorded of it. -/
def endedEarly : List (Action Unit) :=
  [.attempt ⟨.create 1, emptyInputs⟩, .attempt ⟨.finish 2, emptyInputs⟩]

def afterActions (env : Environment σ Custom Own) :
    List (Action σ) → Database Custom Own → Option (Database Custom Own)
  | [], db => some db
  | action :: rest, db =>
    match action.run env db with
    | .ok cs => afterActions env rest (applyAll cs db)
    | .error _ => none

lemma actions_of_after {env : Environment σ Custom Own} {start db db' : Database Custom Own}
    {actions : List (Action σ)} (h : Actions env (fun _ _ => True) start db)
    (hafter : afterActions env actions db = some db') :
    Actions env (fun _ _ => True) start db' := by
  induction actions generalizing db with
  | nil =>
    cases hafter
    exact h
  | cons action rest ih =>
    unfold afterActions at hafter
    split at hafter
    · next cs hrun => exact ih (.step h hrun trivial) hafter
    · cases hafter

/-- The session of the challenge that ended early. -/
def staleSession : Session :=
  ⟨8, .colosseum, .noMode, 1, "WWWWWWWWWWWQ", 1000, some 5000, .active⟩

def nextSession : Session :=
  ⟨10, .colosseum, .noMode, 1, "WWWWWWWWWWWQ", 1000, none, .active⟩

lemma stale_run : (afterActions plainEnvironment endedEarly emptyDatabase).any fun db =>
    db.sessions.entries = [(6, staleSession)] ∧
      (afterActions plainEnvironment [.attempt ⟨.create 1, nextInputs⟩] db).any fun db' =>
        db'.sessions.entries = [(6, staleSession), (7, nextSession)] := by
  decide +kernel

/-- The end time that the challenge's end has put hides its session from the next creation. -/
theorem stale_session_stays_active : ∃ db cs,
    Actions plainEnvironment (fun _ _ => True) emptyDatabase db ∧
      (Action.attempt ⟨.create 1, nextInputs⟩).run plainEnvironment db = .ok cs ∧
      ResolvesAnew nextInputs.info db (applyAll cs db) ∧
      ¬ Superseded plainEnvironment.naming nextInputs.info db (applyAll cs db) ∧
      ¬ OneActive (applyAll cs db) := by
  obtain ⟨db, hdb, hrun⟩ := (Option.any_eq_true _ _).mp stale_run
  obtain ⟨hentries, hrun⟩ := of_decide_eq_true hrun
  obtain ⟨db', hdb', hentries'⟩ := (Option.any_eq_true _ _).mp hrun
  replace hentries' := of_decide_eq_true hentries'
  unfold afterActions at hdb'
  split at hdb'
  · next cs hcs =>
    cases hdb'
    have hstale : db.sessions.get 6 = some staleSession :=
      InsertionMap.get_eq_some.mpr (hentries ▸ List.mem_cons_self)
    have hstale' : (applyAll cs db).sessions.get 6 = some staleSession :=
      InsertionMap.get_eq_some.mpr (hentries' ▸ List.mem_cons_self)
    have hnext' : (applyAll cs db).sessions.get 7 = some nextSession :=
      InsertionMap.get_eq_some.mpr (hentries' ▸ List.mem_cons_of_mem _ List.mem_cons_self)
    refine ⟨db, cs, actions_of_after .start hdb, hcs, ⟨fun s hs => ?_, nextSession,
      mem_sessions hnext', rfl⟩, fun hsup => ?_, fun hone => ?_⟩
    · rw [InsertionMap.values, hentries] at hs
      obtain rfl := List.mem_singleton.mp hs
      decide
    · exact hsup 6 staleSession hstale ⟨rfl, by decide +kernel⟩ staleSession hstale' rfl rfl
    · exact absurd (hone 6 7 _ _ hstale' hnext' rfl rfl rfl rfl) (by decide)
  · cases hdb'

lemma next_run : (afterActions plainEnvironment [.attempt ⟨.create 1, emptyInputs⟩]
    emptyDatabase).any fun db =>
      db.sessions.entries = [(6, { staleSession with endTime := none })] ∧
        (afterActions plainEnvironment [.attempt ⟨.create 1, nextInputs⟩] db).any fun db' =>
          nextSession ∈ db'.sessions.values := by
  decide +kernel

/-- A challenge that goes on while the next is created in another session. -/
theorem party_has_one_active_session_ongoing : ∃ db db' : Database Unit Unit,
    afterActions plainEnvironment [.attempt ⟨.create 1, emptyInputs⟩] emptyDatabase = some db ∧
      afterActions plainEnvironment [.attempt ⟨.create 1, nextInputs⟩] db = some db' ∧
      OneActive db ∧ Superseded plainEnvironment.naming nextInputs.info db db' := by
  obtain ⟨db, hdb, hrun⟩ := (Option.any_eq_true _ _).mp next_run
  obtain ⟨hentries, hrun⟩ := of_decide_eq_true hrun
  obtain ⟨db', hdb', hnext⟩ := (Option.any_eq_true _ _).mp hrun
  have hmem := of_decide_eq_true hnext
  refine ⟨db, db', hdb, hdb', ?_⟩
  unfold afterActions at hdb hdb'
  split at hdb
  · next cs hcs =>
    split at hdb'
    · next cs' hcs' =>
      cases hdb
      cases hdb'
      have hfirst : FindsActive plainEnvironment (.attempt ⟨.create 1, emptyInputs⟩)
          emptyDatabase := by
        rintro inputs - - id s hs
        cases hs
      have hone : OneActive emptyDatabase := by
        rintro id id' s s' hs
        cases hs
      obtain ⟨hactive, hstep⟩ :=
        party_has_one_active_session (.step .start hcs hfirst) hone
      refine ⟨hactive, ((hstep _ _ hcs').2 nextInputs rfl ⟨fun s hs => ?_, nextSession, hmem,
        rfl⟩).mpr ?_⟩
      · rw [InsertionMap.values, hentries] at hs
        obtain rfl := List.mem_singleton.mp hs
        decide
      · intro id s hs _ _
        have hmem := InsertionMap.get_eq_some.mp hs
        rw [hentries] at hmem
        obtain ⟨rfl, rfl⟩ := Prod.mk.inj (List.mem_singleton.mp hmem)
        unfold openSessions
        rw [hentries]
        decide +kernel
    · cases hdb'
  · cases hdb

end Stale

end Blert.Processing

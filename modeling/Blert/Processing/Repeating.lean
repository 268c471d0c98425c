import Blert.Processing.Effects

/-!
Steps that can be repeated.

Recording a user, a stage or a mode sets what it sets whatever was there, so that doing it again
changes nothing.
-/

namespace Blert.Processing

open Lifecycle ReadCommitted Fallible Change

variable {σ Custom Own : Type}

/-! ### Updating a challenge again -/

/-- Updating the challenges with an id would change none of them. -/
def Updated (id : ℕ) (f : Challenge → Except Failure Challenge) (db : Database Custom Own) :
    Prop :=
  ∀ k row, db.challenges.get k = some row → row.id = id → f row = .ok row

lemma get_applyAll {cs : List (Change Custom Own)} {db : Database Custom Own} {k : Uuid}
    {row : Challenge} (h : (applyAll cs db).challenges.get k = some row) :
    .challenge k (some row) ∈ cs ∨
      db.challenges.get k = some row ∧ ∀ r, .challenge k r ∉ cs := by
  induction cs generalizing db with
  | nil => exact Or.inr ⟨h, fun r => by rintro ⟨⟩⟩
  | cons c cs ih =>
    rw [applyAll_cons] at h
    rcases ih h with hmem | ⟨hget, hnone⟩
    · exact Or.inl (List.mem_cons_of_mem c hmem)
    · cases c with
      | challenge k' row' =>
        change (db.challenges.assign k' row').get k = some row at hget
        rw [InsertionMap.get_assign] at hget
        split_ifs at hget with hk
        · subst hk
          rw [hget]
          exact Or.inl List.mem_cons_self
        · refine Or.inr ⟨hget, fun r hr => ?_⟩
          rcases List.mem_cons.mp hr with heq | hr
          · cases heq
            exact hk rfl
          · exact hnone r hr
      | _ =>
        refine Or.inr ⟨hget, fun r hr => ?_⟩
        rcases List.mem_cons.mp hr with heq | hr
        · cases heq
        · exact hnone r hr

lemma updated_of_updateChallenge {db : Database Custom Own} {id : ℕ}
    {f : Challenge → Except Failure Challenge} (hf : ∀ r r', f r = .ok r' → f r' = .ok r')
    {u : Unit} {cs : List (Change Custom Own)} (h : db.updateChallenge id f = .ok (u, cs)) :
    Updated id f (applyAll cs db) := by
  obtain ⟨cs', hm, h⟩ := bind_eq_ok.1 h
  cases h
  intro k row hget hid
  rcases get_applyAll hget with hmem | ⟨hget, hnone⟩
  · obtain ⟨e, -, he⟩ := mem_mapM_ok hm hmem
    obtain ⟨row', hrow, he⟩ := bind_eq_ok.1 he
    cases he
    exact hf _ _ hrow
  · have he : (k, row) ∈ db.challengesById id :=
      List.mem_filter.mpr ⟨InsertionMap.get_eq_some.mp hget, decide_eq_true hid⟩
    obtain ⟨c, hc, hfc⟩ := mapM_ok_of_mem hm he
    obtain ⟨row', -, hfc⟩ := bind_eq_ok.1 hfc
    cases hfc
    exact absurd hc (hnone _)

lemma quiet_updateChallenge {db : Database Custom Own} {id : ℕ}
    {f : Challenge → Except Failure Challenge} (h : Updated id f db) :
    (.write fun db => db.updateChallenge id f : Sql Custom Own Unit).Quiet db := by
  refine Program.quiet_write fun u cs hrun c hc => ?_
  obtain ⟨cs', hm, hrun⟩ := bind_eq_ok.1 hrun
  cases hrun
  obtain ⟨e, he, hec⟩ := mem_mapM_ok hm hc
  obtain ⟨row, hrow, hec⟩ := bind_eq_ok.1 hec
  cases hec
  obtain ⟨hmem, hid⟩ := List.mem_filter.mp he
  have hget := InsertionMap.get_eq_some.mpr hmem
  rw [h e.1 e.2 hget (by simpa using hid)] at hrow
  cases hrow
  change { db with challenges := db.challenges.set e.1 e.2 } = db
  rw [InsertionMap.set_of_get hget]

lemma locks_updateChallenge {db : Database Custom Own} {id : ℕ}
    {f : Challenge → Except Failure Challenge} {u : Unit} {cs : List (Change Custom Own)}
    (h : db.updateChallenge id f = .ok (u, cs)) (hid : db.challengesById id ≠ []) :
    locksOf (Database Custom Own) cs ≠ [] := by
  obtain ⟨cs', hm, h⟩ := bind_eq_ok.1 h
  cases h
  obtain ⟨e, he⟩ := List.exists_mem_of_ne_nil _ hid
  obtain ⟨c, hc, hfc⟩ := mapM_ok_of_mem hm he
  obtain ⟨row, -, hfc⟩ := bind_eq_ok.1 hfc
  cases hfc
  exact List.ne_nil_of_mem (List.mem_flatMap.mpr ⟨_, hc, List.mem_singleton.mpr rfl⟩)

/-! ### The other tables -/

lemma quiet_updateSession {db : Database Custom Own} {id : ℕ} {f : Session → Session}
    (h : ∀ s, db.sessions.get id = some s → f s = s) :
    (.write fun db => .ok ((), db.updateSession id f) : Sql Custom Own Unit).Quiet db := by
  refine Program.quiet_write fun u cs hrun c hc => ?_
  cases hrun
  unfold Database.updateSession at hc
  split at hc
  · rename_i s hs
    obtain rfl := List.mem_singleton.mp hc
    change { db with sessions := db.sessions.set id (f s) } = db
    rw [h s hs, InsertionMap.set_of_get hs]
  · cases hc

def SessionInMode (txn : Transaction Custom) (mode : ChallengeMode) (db : Database Custom Own) :
    Prop :=
  ∀ id s, txn.sessionId = some id → db.sessions.get id = some s → s.challengeMode = mode

lemma quiet_updateSessionMode {db : Database Custom Own} {txn : Transaction Custom}
    {mode : ChallengeMode} (h : SessionInMode txn mode db) :
    (updateSessionMode txn mode : Sql Custom Own Unit).Quiet db := by
  unfold updateSessionMode Transaction.session
  cases hid : txn.sessionId with
  | none => rintro u cs ⟨⟩
  | some id =>
    exact quiet_updateSession fun s hs => by rw [← h id s hid hs]

lemma exec_updateSessionMode {db : Database Custom Own} {txn : Transaction Custom}
    {mode : ChallengeMode} {u : Unit} {cs : List (Change Custom Own)}
    (h : (updateSessionMode txn mode).exec db = .ok (u, cs)) :
    (∀ c ∈ cs, c.SparesChallenges) ∧ SessionInMode txn mode (applyAll cs db) := by
  unfold updateSessionMode Transaction.session at h
  rw [Program.exec_bind_ok] at h
  obtain ⟨id, _, cs', h₁, h₂, rfl⟩ := h
  obtain ⟨h₁, rfl⟩ := Program.exec_lift_ok.mp h₁
  rw [applyAll_nil, Program.exec_write_ok] at h₂
  cases h₂
  rw [List.nil_append]
  unfold Database.updateSession
  cases hget : db.sessions.get id with
  | none =>
    refine ⟨by rintro c ⟨⟩, fun id' s hid' hs => ?_⟩
    rw [hid'] at h₁
    cases h₁
    rw [applyAll_nil, hget] at hs
    cases hs
  | some s =>
    refine ⟨fun c hc => ?_, fun id' s' hid' hs' => ?_⟩
    · obtain rfl := List.mem_singleton.mp hc
      trivial
    · rw [hid'] at h₁
      cases h₁
      change (db.sessions.assign id (some _)).get id = some s' at hs'
      rw [InsertionMap.get_assign, if_pos rfl] at hs'
      cases hs'
      rfl

def IsRecorded (key : ℕ × UserId) (recordingType : RecordingType) (db : Database Custom Own) :
    Prop :=
  ∃ t, db.recordedChallenges.get key = some t ∧ RecordingType.greatest t recordingType = t

lemma quiet_addRecorder {db : Database Custom Own} {txn : Transaction Custom} {userId : UserId}
    {recordingType : RecordingType}
    (h : IsRecorded (txn.challengeId, userId) recordingType db) :
    (addRecorder txn userId recordingType : Sql Custom Own Unit).Quiet db := by
  obtain ⟨t, hget, hgreatest⟩ := h
  refine Program.quiet_write fun u cs hrun c hc => ?_
  obtain ⟨_, -, hrun⟩ := bind_eq_ok.1 hrun
  simp only [hget, hgreatest] at hrun
  cases hrun
  obtain rfl := List.mem_singleton.mp hc
  change { db with recordedChallenges := db.recordedChallenges.set _ t } = db
  rw [InsertionMap.set_of_get hget]

lemma isRecorded_of_addRecorder {db : Database Custom Own} {txn : Transaction Custom}
    {userId : UserId} {recordingType : RecordingType} {u : Unit} {cs : List (Change Custom Own)}
    (h : (addRecorder txn userId recordingType).exec db = .ok (u, cs)) :
    IsRecorded (txn.challengeId, userId) recordingType (applyAll cs db) := by
  unfold addRecorder at h
  rw [Program.exec_write_ok] at h
  obtain ⟨_, -, h⟩ := bind_eq_ok.1 h
  cases h
  refine ⟨_, (InsertionMap.get_assign _ _ _ _).trans (if_pos rfl), ?_⟩
  split
  · rename_i t _
    cases t <;> cases recordingType <;> rfl
  · cases recordingType <;> rfl

/-- The cursor stands where committing without an outcome would put it. -/
def Committed (txn : Transaction Custom) (db : Database Custom Own) : Prop :=
  ∃ cursor, db.processingState.get txn.challengeId = some cursor ∧
    advanceCursor txn.trigger .none none (some cursor) = cursor

lemma quiet_commit {db : Database Custom Own} {txn : Transaction Custom} (h : Committed txn db) :
    (commit txn .none none : Sql Custom Own Unit).Quiet db := by
  obtain ⟨cursor, hget, hsame⟩ := h
  unfold commit
  split_ifs
  · exact Program.quiet_pure () db
  · refine Program.quiet_write fun u cs hrun c hc => ?_
    obtain ⟨_, -, hrun⟩ := bind_eq_ok.1 hrun
    rw [hget, hsame] at hrun
    cases hrun
    obtain rfl := List.mem_singleton.mp hc
    change { db with processingState := db.processingState.set _ cursor } = db
    rw [InsertionMap.set_of_get hget]

lemma committed_of_commit {db : Database Custom Own} {txn : Transaction Custom}
    (hdel : txn.deleted = false) {u : Unit} {cs : List (Change Custom Own)}
    (h : (commit txn .none none).exec db = .ok (u, cs)) : Committed txn (applyAll cs db) := by
  unfold commit at h
  rw [if_neg (by simp [hdel]), Program.exec_write_ok] at h
  obtain ⟨_, -, h⟩ := bind_eq_ok.1 h
  cases h
  refine ⟨_, (InsertionMap.get_assign _ _ _ _).trans (if_pos rfl), ?_⟩
  unfold advanceCursor
  split_ifs <;> rfl

end Blert.Processing

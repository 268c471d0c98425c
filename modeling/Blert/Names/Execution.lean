import Blert.Names.Historic

/-!
What the execution of a plan does to the records.

An eviction gives some of the target's participations to a zombie, and a consolidation gives those
of the sources to the target. The recordings of every record change by what is counted of it.
-/

namespace Blert.Names

open Lifecycle Processing Fallible

variable {Custom Own : Type} {naming : Naming} {db db' : Accounts Custom Own}

/-! ### Recordings -/

def addAll (n : ℕ → ℤ) (players : InsertionMap ℕ Player) : InsertionMap ℕ Player :=
  players.mapValues fun id p => { p with totalRecordings := p.totalRecordings + n id }

lemma addAll_addAll (m n : ℕ → ℤ) (players : InsertionMap ℕ Player) :
    addAll n (addAll m players) = addAll (fun id => m id + n id) players := by
  unfold addAll
  rw [InsertionMap.mapValues_mapValues]
  simp only [add_assoc]

lemma addAll_zero {n : ℕ → ℤ} (h : ∀ id, n id = 0) (players : InsertionMap ℕ Player) :
    addAll n players = players :=
  InsertionMap.mapValues_self fun id p _ => by rw [h, add_zero]

lemma players_addRecordings (db : Accounts Custom Own) (playerId : ℕ) (n : ℤ) :
    (db.addRecordings playerId n).players =
      addAll (fun id => if id = playerId then n else 0) db.players := by
  refine (InsertionMap.modify_eq_mapValues _ _ _).trans
    (InsertionMap.mapValues_congr fun id p _ => ?_)
  dsimp only
  split_ifs
  · rfl
  · rw [add_zero]

lemma records_addRecordings (db : Accounts Custom Own) (playerId : ℕ) (n : ℤ) :
    records (db.addRecordings playerId n) =
      (addAll (fun id => if id = playerId then n else 0) db.players, db.challenges,
        db.challengePlayers, db.challengeSplits) := by
  rw [← players_addRecordings]
  rfl

/-! ### Participations -/

def giveTo (targetId : ℕ) (moves : ℕ → ℕ → Bool) (rows : InsertionMap (ℕ × ℕ) ChallengePlayer) :
    InsertionMap (ℕ × ℕ) ChallengePlayer :=
  rows.mapValues fun key row =>
    if moves row.playerId key.1 then { row with playerId := targetId } else row

/-- Whether a participation of a player in a challenge is taken from a source. -/
def movedBy (sources : List SourcePlayer) (playerId challengeId : ℕ) : Bool :=
  sources.any fun s => s.playerId = playerId ∧ challengeId ∈ s.challengeIds

/-- The challenges of the sources, with the records that lose them. -/
def sourcePairs (sources : List SourcePlayer) : List (ℕ × ℕ) :=
  sources.flatMap fun s => s.challengeIds.map (s.playerId, ·)

lemma length_sourcePairs (sources : List SourcePlayer) :
    (sourcePairs sources).length = (sources.flatMap (·.challengeIds)).length := by
  simp [sourcePairs, List.length_flatMap]

lemma giveTo_false {targetId : ℕ} {moves : ℕ → ℕ → Bool} (h : ∀ p c, moves p c = false)
    (rows : InsertionMap (ℕ × ℕ) ChallengePlayer) : giveTo targetId moves rows = rows :=
  InsertionMap.mapValues_self fun key row _ => by simp [h]

lemma records_moveParticipations (db : Accounts Custom Own) (targetId sourceId : ℕ)
    (challengeIds : List ℕ) :
    records (db.moveParticipations targetId sourceId challengeIds) =
      (db.players, db.challenges,
        giveTo targetId (fun p c => p = sourceId ∧ c ∈ challengeIds) db.challengePlayers,
        db.challengeSplits) := by
  simp only [records, Accounts.moveParticipations, giveTo, decide_eq_true_eq]

lemma giveTo_giveTo_source {targetId : ℕ} {source : SourcePlayer} {sources : List SourcePlayer}
    (h : ∀ s ∈ sources, s.playerId ≠ targetId) (rows : InsertionMap (ℕ × ℕ) ChallengePlayer) :
    giveTo targetId (movedBy sources)
        (giveTo targetId (fun p c => p = source.playerId ∧ c ∈ source.challengeIds) rows) =
      giveTo targetId (movedBy (source :: sources)) rows := by
  have hstays : ∀ c, movedBy sources targetId c = false := by
    intro c
    refine List.any_eq_false.mpr fun s hs => ?_
    simp [h s hs]
  unfold giveTo
  rw [InsertionMap.mapValues_mapValues]
  refine InsertionMap.mapValues_congr fun key row _ => ?_
  have hcons : movedBy (source :: sources) row.playerId key.1 =
      (decide (source.playerId = row.playerId ∧ key.1 ∈ source.challengeIds) ||
        movedBy sources row.playerId key.1) := List.any_cons
  rw [hcons]
  by_cases hsource : row.playerId = source.playerId ∧ key.1 ∈ source.challengeIds
  · simp [hsource, hstays]
  · have hsource' : ¬ (source.playerId = row.playerId ∧ key.1 ∈ source.challengeIds) :=
      fun h => hsource ⟨h.1.symm, h.2⟩
    simp [hsource, hsource']

/-! ### Steps -/

section Steps

variable {targetId n : ℕ}

lemma records_moveChallenges {sourceId : ℕ} {challengeIds : List ℕ}
    (h : (moveChallenges targetId sourceId challengeIds).run db = .ok (n, db')) :
    records db' = (db.players, db.challenges,
      giveTo targetId (fun p c => p = sourceId ∧ c ∈ challengeIds) db.challengePlayers,
      db.challengeSplits) := by
  cases h
  exact records_moveParticipations db targetId sourceId challengeIds

lemma records_moveSource {windows : List NameWindow} {source : SourcePlayer}
    (h : (moveSource windows targetId source).run db = .ok (n, db')) :
    records db' = (db.players, db.challenges,
      giveTo targetId (fun p c => p = source.playerId ∧ c ∈ source.challengeIds)
        db.challengePlayers, db.challengeSplits) := by
  unfold moveSource at h
  split at h
  · cases h
  · obtain ⟨_, _, hmove, h⟩ := run_bind_ok.1 h
    obtain ⟨_, _, hstats, h⟩ := run_bind_ok.1 h
    obtain ⟨_, _, hkeys, h⟩ := run_bind_ok.1 h
    cases h
    exact (frames_updateApiKeys _ _ _ _ _ _ _ hkeys).trans
      ((frames_updatePlayerStats _ _ _ _ _ _ _ hstats).trans (records_moveChallenges hmove))

lemma records_moveSources {windows : List NameWindow} {sources : List SourcePlayer}
    (hsources : ∀ s ∈ sources, s.playerId ≠ targetId)
    (h : (sumM (moveSource windows targetId) sources).run db = .ok (n, db')) :
    records db' = (db.players, db.challenges,
      giveTo targetId (movedBy sources) db.challengePlayers, db.challengeSplits) := by
  induction sources generalizing db n with
  | nil =>
    cases h
    exact congrArg (db'.players, db'.challenges, ·, db'.challengeSplits)
      (giveTo_false (fun _ _ => rfl) _).symm
  | cons source sources ih =>
    obtain ⟨_, db₁, hsource, h⟩ := run_bind_ok.1 h
    obtain ⟨_, _, hrest, h⟩ := run_bind_ok.1 h
    cases h
    have hlater := fun s hs => hsources s (List.mem_cons_of_mem source hs)
    have hfirst := records_moveSource hsource
    rw [records, Prod.mk.injEq, Prod.mk.injEq, Prod.mk.injEq] at hfirst
    rw [ih hlater hrest, hfirst.1, hfirst.2.1, hfirst.2.2.1, hfirst.2.2.2,
      giveTo_giveTo_source hlater]

lemma frames_sumM {α : Type} {f : α → Tx Custom Own ℕ} (h : ∀ x, Frames records (f x))
    (xs : List α) : Frames records (sumM f xs) := by
  induction xs with
  | nil => exact frames_pure 0
  | cons x xs ih => exact (h x).bind fun _ => ih.bind fun _ => frames_pure _

lemma frames_recompute (playerId : ℕ) (challengeIds : List ℕ) :
    Frames records (@recompute Custom Own playerId challengeIds) :=
  frames_get_bind fun s => frames_recomputePbHistoryFrom playerId
    (distinctAccurateSplitTypes s challengeIds) (leastChallenge challengeIds) s

lemma frames_moveForeignStats (zombieId targetId : ℕ) (currentName : String)
    (windows : List NameWindow) :
    Frames records (@moveForeignStats Custom Own zombieId targetId currentName
      windows) := by
  induction windows with
  | nil => exact frames_pure 0
  | cons window windows ih =>
    have hrest := fun moved : ℕ => ih.bind fun rest => frames_pure (moved + rest)
    unfold moveForeignStats
    dsimp only
    split_ifs
    · exact (frames_pure 0).bind hrest
    · exact (frames_updatePlayerStats _ _ _ _).bind hrest

lemma records_discountSources {sources : List (ℕ × List ℕ)} {u : Unit}
    (h : (discountSources sources).run db = .ok (u, db')) :
    records db' = (addAll (fun id => -((sources.flatMap fun e => e.2.map (e.1, ·)).countP
      (·.1 = id) : ℤ)) db.players, db.challenges, db.challengePlayers, db.challengeSplits) := by
  induction sources generalizing db with
  | nil =>
    cases h
    exact congrArg (·, _) (addAll_zero (fun _ => rfl) _).symm
  | cons e sources ih =>
    obtain ⟨_, db₁, hfirst, h⟩ := run_bind_ok.1 h
    cases hfirst
    have hplayers : ∀ id, ((e.2.map (e.1, ·)).countP (·.1 = id) : ℤ) =
        if id = e.1 then (e.2.length : ℤ) else 0 := by
      intro id
      rw [List.countP_map]
      split_ifs with hid
      · simp [Function.comp_def, hid]
      · simp [Function.comp_def, Ne.symm hid]
    rw [ih h, players_addRecordings, addAll_addAll]
    refine congrArg (·, _) (congrArg (addAll · _) (funext fun id => ?_))
    rw [List.flatMap_cons, List.countP_append, Nat.cast_add, hplayers]
    split_ifs <;> ring

end Steps

/-! ### Plans -/

section Plans

variable {plan : MigrationPlan} {targetId n : ℕ}

def withTarget (naming : Naming) (players : InsertionMap ℕ Player) :
    TargetPlayer → InsertionMap ℕ Player
  | .use _ => players
  | .create currentName =>
    players.set (freshId players) ⟨currentName, naming.normalizeRsn currentName, 0⟩

def TargetPlayer.idIn (players : InsertionMap ℕ Player) : TargetPlayer → ℕ
  | .use playerId => playerId
  | .create _ => freshId players

def withZombie (naming : Naming) (evicted : List ℕ) (targetId : ℕ)
    (players : InsertionMap ℕ Player) : InsertionMap ℕ Player :=
  match evicted, players.get targetId with
  | _ :: _, some target =>
    players.set (freshId players) ⟨zombieName target.username,
      naming.normalizeRsn (zombieName target.username), evicted.length⟩
  | _, _ => players

lemma run_insertPlayer {username : String} {totalRecordings : ℤ} {id : ℕ}
    (h : (insertPlayer naming username totalRecordings).run db = .ok (id, db')) :
    id = freshId db.players ∧ records db' =
      (db.players.set (freshId db.players)
        ⟨username, naming.normalizeRsn username, totalRecordings⟩, db.challenges,
        db.challengePlayers, db.challengeSplits) := by
  obtain ⟨_, _, hget, h⟩ := run_bind_ok.1 h
  cases hget
  dsimp only at h
  split_ifs at h
  · cases h
  · cases h
    exact ⟨rfl, rfl⟩

lemma run_resolveOrCreateTargetId {target : TargetPlayer}
    (h : (resolveOrCreateTargetId naming target).run db = .ok (targetId, db')) :
    targetId = target.idIn db.players ∧ records db' =
      (withTarget naming db.players target, db.challenges, db.challengePlayers,
        db.challengeSplits) := by
  cases target with
  | use playerId =>
    cases h
    exact ⟨rfl, rfl⟩
  | create currentName => exact run_insertPlayer h

lemma records_evictTargetHistory
    (h : (evictTargetHistory naming plan targetId).run db = .ok (n, db')) :
    records db' =
        (addAll (fun id => if id = targetId then -(plan.evictedTargetChallengeIds.length : ℤ) else 0)
          (withZombie naming plan.evictedTargetChallengeIds targetId db.players), db.challenges,
        giveTo (freshId db.players)
          (fun p c => p = targetId ∧ c ∈ plan.evictedTargetChallengeIds) db.challengePlayers,
        db.challengeSplits) ∧
      (plan.evictedTargetChallengeIds ≠ [] → ∃ p, db.players.get targetId = some p) := by
  unfold evictTargetHistory at h
  split_ifs at h with hkeys hnone
  · cases h
  · cases h
    rw [hnone, giveTo_false fun _ _ => by simp, addAll_zero fun _ => by simp]
    exact ⟨rfl, fun hne => absurd rfl hne⟩
  · obtain ⟨_, _, hget, h⟩ := run_bind_ok.1 h
    cases hget
    split at h
    · cases h
    · rename_i target htarget
      obtain ⟨zombieId, db₁, hinsert, h⟩ := run_bind_ok.1 h
      obtain ⟨_, db₂, hmove, h⟩ := run_bind_ok.1 h
      obtain ⟨_, db₃, hstats, h⟩ := run_bind_ok.1 h
      obtain ⟨_, db₄, htargetBests, h⟩ := run_bind_ok.1 h
      obtain ⟨_, db₅, hzombieBests, h⟩ := run_bind_ok.1 h
      cases h
      refine ⟨?_, fun _ => ⟨target, htarget⟩⟩
      obtain ⟨rfl, hfirst⟩ := run_insertPlayer hinsert
      have hrest : records db₅ = records db₂ :=
        (frames_recompute _ _ _ _ _ hzombieBests).trans
          ((frames_recompute _ _ _ _ _ htargetBests).trans
            (frames_moveForeignStats _ _ _ _ _ _ _ hstats))
      have hzombie : withZombie naming plan.evictedTargetChallengeIds targetId db.players =
          db.players.set (freshId db.players) ⟨zombieName target.username,
            naming.normalizeRsn (zombieName target.username),
            plan.evictedTargetChallengeIds.length⟩ := by
        unfold withZombie
        rw [htarget]
        cases hevicted : plan.evictedTargetChallengeIds with
        | nil => exact absurd hevicted hnone
        | cons => rfl
      rw [records_moveChallenges hmove] at hrest
      simp only [records, Prod.mk.injEq] at hfirst hrest
      rw [records_addRecordings, hrest.1, hrest.2.1, hrest.2.2.1, hrest.2.2.2, hfirst.1, hfirst.2.1,
        hfirst.2.2.1, hfirst.2.2.2, hzombie]

lemma records_consolidateSources (hsources : ∀ s ∈ plan.sourcePlayers, s.playerId ≠ targetId)
    (h : (consolidateSources plan targetId).run db = .ok (n, db')) :
    records db' =
      (addAll (fun id => (if id = targetId then ((sourcePairs plan.sourcePlayers).length : ℤ) else 0) -
          (sourcePairs plan.sourcePlayers).countP (·.1 = id)) db.players, db.challenges,
        giveTo targetId (movedBy plan.sourcePlayers) db.challengePlayers, db.challengeSplits) := by
  unfold consolidateSources at h
  dsimp only at h
  split_ifs at h with hnone
  · cases h
    have hpairs : sourcePairs plan.sourcePlayers = [] := by
      rw [← List.length_eq_zero_iff, length_sourcePairs, hnone, List.length_nil]
    have hmoves : ∀ p c, movedBy plan.sourcePlayers p c = false := by
      intro p c
      refine List.any_eq_false.mpr fun s hs => ?_
      simp [List.flatMap_eq_nil_iff.mp hnone s hs]
    rw [hpairs, giveTo_false hmoves, addAll_zero fun _ => by simp]
    rfl
  · obtain ⟨_, db₁, hmoves, h⟩ := run_bind_ok.1 h
    obtain ⟨_, db₂, htarget, h⟩ := run_bind_ok.1 h
    obtain ⟨_, db₃, hbests, h⟩ := run_bind_ok.1 h
    obtain ⟨_, db₄, hadd, h⟩ := run_bind_ok.1 h
    obtain ⟨_, db₅, hdiscount, h⟩ := run_bind_ok.1 h
    cases h
    cases hadd
    have hrest : records db₃ = records db₁ :=
      (frames_sumM (fun e : ℕ × List ℕ => frames_recompute e.1 e.2) _ _ _ _ hbests).trans
        (frames_recompute _ _ _ _ _ htarget)
    rw [records_moveSources hsources hmoves] at hrest
    simp only [records, Prod.mk.injEq] at hrest
    have hcount : ∀ id, ((idsBySource plan.sourcePlayers).entries.flatMap fun e =>
        e.2.map (e.1, ·)).countP (·.1 = id) = (sourcePairs plan.sourcePlayers).countP (·.1 = id) :=
      fun id => (InsertionMap.perm_pushAll _).countP_eq _
    rw [records_discountSources hdiscount, players_addRecordings, addAll_addAll, hrest.1]
    simp only [hcount, length_sourcePairs, sub_eq_add_neg, Accounts.addRecordings, hrest]

lemma records_applyPlan (h : (applyPlan naming plan).run db = .ok ((targetId, n), db'))
    (hsources : ∀ s ∈ plan.sourcePlayers, s.playerId ≠ plan.target.idIn db.players) :
    targetId = plan.target.idIn db.players ∧
      (plan.evictedTargetChallengeIds ≠ [] →
        ∃ p, (withTarget naming db.players plan.target).get targetId = some p) ∧
      records db' =
        (addAll (fun id => (if id = targetId then ((sourcePairs plan.sourcePlayers).length : ℤ) -
            plan.evictedTargetChallengeIds.length else 0) -
            (sourcePairs plan.sourcePlayers).countP (·.1 = id))
          (withZombie naming plan.evictedTargetChallengeIds targetId
            (withTarget naming db.players plan.target)), db.challenges,
        giveTo targetId (movedBy plan.sourcePlayers)
          (giveTo (freshId (withTarget naming db.players plan.target))
            (fun p c => p = targetId ∧ c ∈ plan.evictedTargetChallengeIds) db.challengePlayers),
        db.challengeSplits) := by
  obtain ⟨_, db₁, htarget, h⟩ := run_bind_ok.1 h
  obtain ⟨evicted, db₂, hevict, h⟩ := run_bind_ok.1 h
  obtain ⟨_, db₃, hreassign, h⟩ := run_bind_ok.1 h
  obtain ⟨moved, db₄, hconsolidate, h⟩ := run_bind_ok.1 h
  cases h
  cases hreassign
  obtain ⟨hid, hfirst⟩ := run_resolveOrCreateTargetId htarget
  obtain ⟨hsecond, hfound⟩ := records_evictTargetHistory hevict
  simp only [records, Prod.mk.injEq] at hfirst hsecond
  rw [hfirst.1] at hsecond hfound
  refine ⟨hid, hfound, ?_⟩
  rw [← hid] at hsources
  rw [records_consolidateSources hsources hconsolidate, hsecond.1, hsecond.2.1, hsecond.2.2.1,
    hsecond.2.2.2, hfirst.2.1, hfirst.2.2.1, hfirst.2.2.2, addAll_addAll]
  refine congrArg (·, _) (congrArg (addAll · _) (funext fun id => ?_))
  split_ifs <;> ring

end Plans

end Blert.Names

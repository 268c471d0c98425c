import Blert.Names.Standard

/-!
Which name changes lose recorded challenges.

A standard name change keeps every participation unless the record that has the new name has some
and the player that takes the name has none. Then the record is deleted with what it has recorded.
-/

namespace Blert.Names

open Lifecycle Processing Fallible

variable {Custom Own : Type} {naming : Naming}

/-- A challenge started after all that a player took part in. -/
def IsLater (db : Accounts Custom Own) (playerId challengeId : ℕ) : Prop :=
  ∀ t ∈ db.startTimes challengeId, ∀ e ∈ db.startedParticipations playerId, e.2 < t

instance (db : Accounts Custom Own) (playerId challengeId : ℕ) :
    Decidable (IsLater db playerId challengeId) := by
  unfold IsLater; infer_instance

def newPlayer (naming : Naming) (db : Accounts Custom Own) (nameChange : NameChangeQueryResult) :
    Option ℕ :=
  if naming.normalizeRsn nameChange.oldName = naming.normalizeRsn nameChange.newName then none
  else playerNamed db (naming.normalizeRsn nameChange.newName)

/-- Every participation is still there, with the renamed player if it is the new player's and later
than the renamed player's last challenge, and recordings are counted as participations change. -/
structure LosesNothing (db db' : Accounts Custom Own) (playerId : ℕ) (newPlayer : Option ℕ) :
    Prop where
  moved : ∀ key row, db.challengePlayers.get key = some row → newPlayer = some row.playerId →
    IsLater db playerId key.1 →
      db'.challengePlayers.get key = some { row with playerId := playerId }
  stays : ∀ key row, db.challengePlayers.get key = some row →
    ¬ (newPlayer = some row.playerId ∧ IsLater db playerId key.1) →
      db'.challengePlayers.get key = some row
  counted : ∀ id p p', db.players.get id = some p → db'.players.get id = some p' →
    p'.totalRecordings - p.totalRecordings =
      (db'.participations id).length - (db.participations id).length

/-! ### Participations -/

lemma length_filter_move (targetId sourceId id : ℕ) (challengeIds : List ℕ)
    (l : List ((ℕ × ℕ) × ChallengePlayer)) :
    (((l.map fun e => (e.1,
      if e.2.playerId = sourceId ∧ e.1.1 ∈ challengeIds then { e.2 with playerId := targetId }
      else e.2)).filter (·.2.playerId = id)).length : ℤ) =
      (l.filter (·.2.playerId = id)).length +
        (if id = targetId then 1 else 0) *
          ((l.filter (·.2.playerId = sourceId)).countP (·.1.1 ∈ challengeIds)) -
        (if id = sourceId then 1 else 0) *
          ((l.filter (·.2.playerId = sourceId)).countP (·.1.1 ∈ challengeIds)) := by
  induction l with
  | nil => simp
  | cons e l ih =>
    simp only [List.map_cons, List.filter_cons]
    grind

lemma length_moveParticipations (db : Accounts Custom Own) (targetId sourceId id : ℕ)
    (challengeIds : List ℕ) :
    (((db.moveParticipations targetId sourceId challengeIds).participations id).length : ℤ) =
      (db.participations id).length +
        (if id = targetId then 1 else 0) *
          ((db.participations sourceId).countP (·.1.1 ∈ challengeIds)) -
        (if id = sourceId then 1 else 0) *
          ((db.participations sourceId).countP (·.1.1 ∈ challengeIds)) :=
  length_filter_move targetId sourceId id challengeIds db.challengePlayers.entries

/-- The challenges of a player that started after a time, one for each participation. -/
def challengesAfter (db : Accounts Custom Own) (playerId : ℕ) (updateFrom : ℤ) : List ℕ :=
  ((db.startedParticipations playerId).filter (updateFrom < ·.2)).map (·.1.1.1)

section After

variable {db : Accounts Custom Own} {playerId : ℕ}

lemma mem_challengesAfter (hdb : db.Referential) {key : ℕ × ℕ} {row : ChallengePlayer}
    (hget : db.challengePlayers.get key = some row) (hrow : row.playerId = playerId)
    (updateFrom : ℤ) : key.1 ∈ challengesAfter db playerId updateFrom ↔
      ∀ t ∈ db.startTimes key.1, updateFrom < t := by
  obtain ⟨t, ht⟩ := hdb.startTimes hget
  simp only [challengesAfter, List.mem_map, List.mem_filter, mem_startedParticipations,
    decide_eq_true_eq]
  rw [ht]
  constructor
  · rintro ⟨e, ⟨⟨_, he⟩, hlater⟩, hkey⟩ t' ht'
    rw [hkey, ht] at he
    rw [List.mem_singleton.mp ht', ← List.mem_singleton.mp he]
    exact hlater
  · intro hlater
    refine ⟨((key, row), t), ⟨⟨mem_participations.2 ⟨hget, hrow⟩, ?_⟩, hlater t ?_⟩, rfl⟩
    · rw [ht]
      exact List.mem_singleton.mpr rfl
    · exact List.mem_singleton.mpr rfl

lemma length_challengesAfter (hdb : db.Referential) (updateFrom : ℤ) :
    (challengesAfter db playerId updateFrom).length =
      (db.participations playerId).countP (·.1.1 ∈ challengesAfter db playerId updateFrom) := by
  have hcount : ∀ l : List ((ℕ × ℕ) × ChallengePlayer), (∀ e ∈ l, ∃ t, db.startTimes e.1.1 = [t]) →
      ((l.flatMap fun e => (db.startTimes e.1.1).map (e, ·)).filter (updateFrom < ·.2)).length =
        l.countP fun e => (db.startTimes e.1.1).all (updateFrom < ·) := by
    intro l hl
    induction l with
    | nil => rfl
    | cons e l ih =>
      obtain ⟨t, ht⟩ := hl e List.mem_cons_self
      rw [List.flatMap_cons, List.filter_append, List.length_append,
        ih fun e he => hl e (List.mem_cons_of_mem _ he), List.countP_cons, ht]
      by_cases hlater : updateFrom < t
      · simp [hlater, Nat.add_comm]
      · simp [hlater]
  have hone : ∀ e ∈ db.participations playerId, ∃ t, db.startTimes e.1.1 = [t] :=
    fun e he => hdb.startTimes (mem_participations.1 he).1
  rw [challengesAfter, List.length_map]
  refine (hcount _ hone).trans (List.countP_congr fun e he => ?_)
  obtain ⟨hget, hrow⟩ := mem_participations.1 he
  have hmem := mem_challengesAfter hdb hget hrow updateFrom
  rw [decide_eq_true_eq, List.all_eq_true]
  rw [challengesAfter] at hmem
  rw [hmem]
  simp

lemma isLater_iff {updateFrom : ℤ}
    (hlast : ((db.startedParticipations playerId).map (·.2)).max? = some updateFrom)
    (challengeId : ℕ) :
    IsLater db playerId challengeId ↔ ∀ t ∈ db.startTimes challengeId, updateFrom < t := by
  obtain ⟨hmem, hle⟩ := List.max?_eq_some_iff.mp hlast
  obtain ⟨e, he, rfl⟩ := List.mem_map.mp hmem
  refine forall₂_congr fun t _ => ⟨fun h => h e he, fun h e' he' => ?_⟩
  exact (hle _ (List.mem_map.mpr ⟨e', he', rfl⟩)).trans_lt h

end After

/-! ### Steps -/

section Steps

variable {db db' : Accounts Custom Own}

lemma records_migrateFrom {playerId newPlayerId : ℕ} {updateFrom : ℤ} {result : ℕ × ℕ × Bool}
    (h : (migrateFrom playerId newPlayerId updateFrom).run db = .ok (result, db')) :
    records db' = records (db.moveParticipations playerId newPlayerId
        (challengesAfter db newPlayerId updateFrom)) ∧
      result.2 = ((challengesAfter db newPlayerId updateFrom).length,
        (db.startedParticipations newPlayerId).any (·.2 ≤ updateFrom)) := by
  obtain ⟨_, _, hget, h⟩ := run_bind_ok.1 h
  cases hget
  obtain ⟨_, _, hset, h⟩ := run_bind_ok.1 h
  cases hset
  obtain ⟨_, _, hkeys, h⟩ := run_bind_ok.1 h
  obtain ⟨_, _, hbests, h⟩ := run_bind_ok.1 h
  obtain ⟨_, _, hstats, h⟩ := run_bind_ok.1 h
  cases h
  refine ⟨?_, rfl⟩
  exact (frames_updatePlayerStats _ _ _ _ _ _ _ hstats).trans
    ((frames_updatePersonalBestHistory _ _ _ _ _ _ hbests).trans
      (frames_updateApiKeys _ _ _ _ _ _ _ hkeys))

lemma run_renamePlayer {id : ℕ} {username : String} {added : ℤ} {u : Unit}
    (h : (renamePlayer naming id username added).run db = .ok (u, db')) :
    db' = { db with
      players := db.players.modify id fun p =>
        { p with
          username := username
          normalizedUsername := naming.normalizeRsn username
          totalRecordings := p.totalRecordings + added } } := by
  obtain ⟨_, _, hget, h⟩ := run_bind_ok.1 h
  cases hget
  dsimp only at h
  split_ifs at h
  · cases h
  · cases h
    rfl

/-- What holds once the new player's record has been merged, before the recordings of the challenges
that have moved are counted for the player. -/
structure Absorbed (db db' : Accounts Custom Own) (playerId challengesUpdated : ℕ)
    (newPlayer : Option ℕ) : Prop where
  moved : ∀ key row, db.challengePlayers.get key = some row → newPlayer = some row.playerId →
    IsLater db playerId key.1 →
      db'.challengePlayers.get key = some { row with playerId := playerId }
  stays : ∀ key row, db.challengePlayers.get key = some row →
    ¬ (newPlayer = some row.playerId ∧ IsLater db playerId key.1) →
      db'.challengePlayers.get key = some row
  counted : ∀ id p p', db.players.get id = some p → db'.players.get id = some p' →
    p'.totalRecordings - p.totalRecordings + (if id = playerId then (challengesUpdated : ℤ) else 0) =
      (db'.participations id).length - (db.participations id).length

lemma Absorbed.refl (db : Accounts Custom Own) (playerId : ℕ) :
    Absorbed db db playerId 0 none := by
  refine ⟨nofun, fun _ _ hget _ => hget, fun id p p' hp hp' => ?_⟩
  cases hp.symm.trans hp'
  simp

variable {playerId newPlayerId : ℕ} {updateFrom : ℤ}

lemma get_moveParticipations (db : Accounts Custom Own) (targetId sourceId : ℕ)
    (challengeIds : List ℕ) (key : ℕ × ℕ) :
    (db.moveParticipations targetId sourceId challengeIds).challengePlayers.get key =
      (db.challengePlayers.get key).map fun row =>
        if row.playerId = sourceId ∧ key.1 ∈ challengeIds then { row with playerId := targetId }
        else row :=
  InsertionMap.get_mapValues _ _ _

lemma absorbed_zombie (hdb : db.Referential)
    (hlast : ((db.startedParticipations playerId).map (·.2)).max? = some updateFrom)
    {db₁ : Accounts Custom Own} (hrecords : records db₁ = records (db.moveParticipations playerId
      newPlayerId (challengesAfter db newPlayerId updateFrom)))
    (f : Player → Player) (hf : ∀ p, (f p).totalRecordings =
      p.totalRecordings + -((challengesAfter db newPlayerId updateFrom).length : ℤ))
    (hrows : db'.challengePlayers = db₁.challengePlayers)
    (hplayers : db'.players = db₁.players.modify newPlayerId f) :
    Absorbed db db' playerId (challengesAfter db newPlayerId updateFrom).length
      (some newPlayerId) := by
  simp only [records, Prod.mk.injEq] at hrecords
  obtain ⟨hp, -, hr, -⟩ := hrecords
  have hget : ∀ key row, db.challengePlayers.get key = some row →
      db'.challengePlayers.get key = some (if row.playerId = newPlayerId ∧
        key.1 ∈ challengesAfter db newPlayerId updateFrom then { row with playerId := playerId }
      else row) := by
    intro key row hrow
    rw [hrows, hr, get_moveParticipations, hrow, Option.map_some]
  refine ⟨fun key row hrow hnew hlater => ?_, fun key row hrow hnot => ?_,
    fun id p p' hid hid' => ?_⟩
  · have hsame := (Option.some.inj hnew).symm
    have hmem := (mem_challengesAfter hdb hrow hsame updateFrom).mpr
      ((isLater_iff hlast key.1).mp hlater)
    rw [hget key row hrow, if_pos ⟨hsame, hmem⟩]
  · rw [hget key row hrow, if_neg]
    rintro ⟨hsame, hmem⟩
    exact hnot ⟨congrArg some hsame.symm, (isLater_iff hlast key.1).mpr
      ((mem_challengesAfter hdb hrow hsame updateFrom).mp hmem)⟩
  · have hlength : ((db'.participations id).length : ℤ) =
        ((db.moveParticipations playerId newPlayerId
          (challengesAfter db newPlayerId updateFrom)).participations id).length := by
      rw [Accounts.participations, Accounts.participations, hrows, hr]
    rw [hlength, length_moveParticipations, ← length_challengesAfter hdb]
    rw [hplayers, hp, InsertionMap.get_modify] at hid'
    have hold : (db.moveParticipations playerId newPlayerId
      (challengesAfter db newPlayerId updateFrom)).players.get id = some p := hid
    rw [hold] at hid'
    split_ifs at hid' with hnew
    · rw [Option.map_some, Option.some.injEq] at hid'
      rw [← hid', hf, if_pos hnew]
      split_ifs <;> ring
    · cases hid'
      rw [if_neg hnew]
      split_ifs <;> ring

lemma absorbed_delete {db₁ : Accounts Custom Own} {challengesUpdated : ℕ}
    {new : Option ℕ} (h : ∀ key row, db.challengePlayers.get key = some row →
      ∃ row', db₁.challengePlayers.get key = some row' ∧ row'.playerId ≠ newPlayerId ∧
        row' = if new = some row.playerId ∧ IsLater db playerId key.1 then
          { row with playerId := playerId } else row)
    (hplayers : db₁.players = db.players)
    (hlength : ∀ id, id ≠ newPlayerId → ((db₁.participations id).length : ℤ) =
      (db.participations id).length + if id = playerId then (challengesUpdated : ℤ) else 0) :
    Absorbed db (db₁.deletePlayer newPlayerId) playerId challengesUpdated new := by
  have hget : ∀ key row, db.challengePlayers.get key = some row →
      (db₁.deletePlayer newPlayerId).challengePlayers.get key =
        some (if new = some row.playerId ∧ IsLater db playerId key.1 then
          { row with playerId := playerId } else row) := by
    intro key row hrow
    obtain ⟨row', hrow', hne, rfl⟩ := h key row hrow
    refine (InsertionMap.get_filter _ _ _).trans ?_
    rw [hrow', Option.filter_some, if_pos (by simpa using hne)]
  refine ⟨fun key row hrow hnew hlater => ?_, fun key row hrow hnot => ?_,
    fun id p p' hid hid' => ?_⟩
  · rw [hget key row hrow, if_pos ⟨hnew, hlater⟩]
  · rw [hget key row hrow, if_neg hnot]
  · have herase : (db₁.players.erase newPlayerId).get id = some p' := hid'
    rw [InsertionMap.get_erase, hplayers, hid] at herase
    split_ifs at herase with hnew
    cases herase
    have hsame : (db₁.deletePlayer newPlayerId).participations id = db₁.participations id := by
      change (db₁.challengePlayers.entries.filter _).filter _ = _
      rw [List.filter_filter]
      refine List.filter_congr fun e _ => ?_
      by_cases he : e.2.playerId = id
      · simp [he, hnew]
      · simp [he]
    rw [hsame, hlength id hnew]
    ring

lemma absorbed_later (hdb : db.Referential)
    (hlast : ((db.startedParticipations playerId).map (·.2)).max? = some updateFrom)
    (hnone : (db.startedParticipations newPlayerId).any (·.2 ≤ updateFrom) = false)
    {db₁ : Accounts Custom Own} (hrecords : records db₁ = records (db.moveParticipations playerId
      newPlayerId (challengesAfter db newPlayerId updateFrom))) :
    Absorbed db (db₁.deletePlayer newPlayerId) playerId
      (challengesAfter db newPlayerId updateFrom).length (some newPlayerId) := by
  simp only [records, Prod.mk.injEq] at hrecords
  obtain ⟨hp, -, hr, -⟩ := hrecords
  have hlater : ∀ e ∈ db.startedParticipations newPlayerId, updateFrom < e.2 := by
    intro e he
    have hle := List.any_eq_false.mp hnone e he
    simpa using hle
  have hne : playerId ≠ newPlayerId := by
    rintro rfl
    obtain ⟨e, he, hlast⟩ := List.mem_map.mp (List.max?_eq_some_iff.mp hlast).1
    exact (hlater e he).ne' hlast
  refine absorbed_delete (fun key row hrow => ?_) hp fun id hid => ?_
  · rw [hr, get_moveParticipations, hrow]
    refine ⟨_, rfl, ?_⟩
    dsimp only
    by_cases hsame : row.playerId = newPlayerId
    · have hmem := (mem_challengesAfter hdb hrow hsame updateFrom).mpr fun t ht =>
        hlater ((key, row), t) (mem_startedParticipations.2
          ⟨mem_participations.2 ⟨hrow, hsame⟩, ht⟩)
      have hnew := (isLater_iff hlast key.1).mpr
        ((mem_challengesAfter hdb hrow hsame updateFrom).mp hmem)
      rw [if_pos ⟨hsame, hmem⟩, if_pos ⟨congrArg some hsame.symm, hnew⟩]
      exact ⟨hne, rfl⟩
    · rw [if_neg fun h => hsame h.1, if_neg fun h => hsame (Option.some.inj h.1).symm]
      exact ⟨hsame, rfl⟩
  · have hlength : ((db₁.participations id).length : ℤ) =
        ((db.moveParticipations playerId newPlayerId
          (challengesAfter db newPlayerId updateFrom)).participations id).length := by
      rw [Accounts.participations, Accounts.participations, hr]
    rw [hlength, length_moveParticipations, ← length_challengesAfter hdb, if_neg hid]
    split_ifs <;> ring

lemma participations_eq_nil (hdb : db.Referential)
    (hlast : ((db.startedParticipations playerId).map (·.2)).max? = none) :
    db.participations playerId = [] := by
  rw [List.max?_eq_none_iff, List.map_eq_nil_iff] at hlast
  refine List.eq_nil_iff_forall_not_mem.mpr fun e he => ?_
  obtain ⟨t, ht⟩ := hdb.startTimes (mem_participations.1 he).1
  have hmem : (e, t) ∈ db.startedParticipations playerId :=
    mem_startedParticipations.2 ⟨he, ht ▸ List.mem_singleton.mpr rfl⟩
  rw [hlast] at hmem
  cases hmem

lemma absorbed_empty (hnone : db.participations newPlayerId = []) :
    Absorbed db (db.deletePlayer newPlayerId) playerId 0 (some newPlayerId) := by
  refine absorbed_delete (fun key row hrow => ?_) rfl fun id _ => by simp
  have hne : row.playerId ≠ newPlayerId := by
    intro hsame
    have hmem : (key, row) ∈ db.participations newPlayerId :=
      mem_participations.2 ⟨hrow, hsame⟩
    rw [hnone] at hmem
    cases hmem
  exact ⟨row, hrow, hne, by rw [if_neg fun h => hne (Option.some.inj h.1).symm]⟩

/-- Merging the record that has the new name keeps every participation, if the player has a
challenge or the record has none. -/
lemma absorbed_absorbNewPlayer (hdb : db.Referential) {newName : String}
    (hnew : ∀ n, playerNamed db (naming.normalizeRsn newName) = some n →
      db.participations n ≠ [] → db.participations playerId ≠ [])
    {result : ℕ × ℕ × Option ℕ}
    (h : (absorbNewPlayer naming playerId newName).run db = .ok (result, db')) :
    Absorbed db db' playerId result.2.1 (playerNamed db (naming.normalizeRsn newName)) := by
  obtain ⟨_, _, hget, h⟩ := run_bind_ok.1 h
  cases hget
  split at h
  · rename_i newPlayerId hnamed
    rw [hnamed]
    obtain ⟨_, _, hget, h⟩ := run_bind_ok.1 h
    cases hget
    split at h
    · rename_i updateFrom hlast
      obtain ⟨⟨migrated, k, existed⟩, db₁, hmigrate, h⟩ := run_bind_ok.1 h
      obtain ⟨hrecords, hresult⟩ := records_migrateFrom hmigrate
      obtain ⟨rfl, hexisted⟩ := Prod.mk.inj hresult
      obtain ⟨deleted, db₂, hretire, h⟩ := run_bind_ok.1 h
      cases h
      unfold retireNewPlayer at hretire
      split_ifs at hretire with hbefore
      · obtain ⟨_, db₃, hrename, hretire⟩ := run_bind_ok.1 hretire
        cases hretire
        rw [run_renamePlayer hrename]
        exact absorbed_zombie hdb hlast hrecords _ (fun _ => rfl) rfl rfl
      · cases hretire
        exact absorbed_later hdb hlast (hexisted ▸ Bool.eq_false_iff.mpr hbefore) hrecords
    · rename_i hlast
      obtain ⟨deleted, db₂, hretire, h⟩ := run_bind_ok.1 h
      cases h
      cases hretire
      refine absorbed_empty ?_
      by_contra hne
      exact hnew newPlayerId hnamed hne (participations_eq_nil hdb hlast)
  · rename_i hnamed
    cases h
    rw [hnamed]
    exact Absorbed.refl db playerId

lemma absorbNewPlayer_loses (hnone : db.participations playerId = []) {newName : String}
    (hnamed : playerNamed db (naming.normalizeRsn newName) = some newPlayerId)
    {result : ℕ × ℕ × Option ℕ}
    (h : (absorbNewPlayer naming playerId newName).run db = .ok (result, db'))
    {key : ℕ × ℕ} {row : ChallengePlayer} (hget : db.challengePlayers.get key = some row)
    (hrow : row.playerId = newPlayerId) : db'.challengePlayers.get key = none := by
  have hlast : ((db.startedParticipations playerId).map (·.2)).max? = none := by
    rw [Accounts.startedParticipations, hnone]
    rfl
  obtain ⟨_, _, hread, h⟩ := run_bind_ok.1 h
  cases hread
  rw [hnamed] at h
  obtain ⟨_, _, hread, h⟩ := run_bind_ok.1 h
  cases hread
  rw [hlast] at h
  obtain ⟨deleted, db₂, hretire, h⟩ := run_bind_ok.1 h
  cases h
  cases hretire
  refine (InsertionMap.get_filter _ _ _).trans ?_
  rw [hget, Option.filter_some, if_neg (by simpa using hrow)]

lemma frames_setExperience (id : ℕ) (experience : PlayerExperience) :
    Frames records (@setExperience Custom Own id experience) :=
  frames_modify fun _ => rfl

lemma frames_acceptNameChange (id : ℕ) (now : ℤ) (migratedDocuments : ℕ) :
    Frames records (@acceptNameChange Custom Own id now migratedDocuments) :=
  frames_modify fun _ => rfl

lemma frames_finish (nameChange : NameChangeQueryResult) (now : ℤ) (migratedDocuments : ℕ)
    (deletedPlayerId : Option ℕ) :
    Frames records (do
      acceptNameChange nameChange.id now migratedDocuments
      match deletedPlayerId with
      | some deletedPlayerId =>
        return some (.merged deletedPlayerId nameChange.playerId nameChange.oldName
          nameChange.newName)
      | none => return some (.renamed nameChange.playerId nameChange.oldName nameChange.newName) :
        Tx Custom Own (Option NameChangeUpdate)) := by
  refine (frames_acceptNameChange _ _ _).bind fun _ => ?_
  cases deletedPlayerId <;> exact frames_pure _

lemma run_takeName {answers : Answers} {nameChange : NameChangeQueryResult}
    {experience : Option PlayerExperience} {update : Option NameChangeUpdate}
    (h : (takeName naming answers nameChange experience).run db = .ok (update, db')) :
    ∃ result db₁, (absorbNewPlayer naming nameChange.playerId nameChange.newName).run db =
        .ok (result, db₁) ∧
      db'.challengePlayers = db₁.challengePlayers ∧
      ∃ f : Player → Player, db'.players = db₁.players.modify nameChange.playerId f ∧
        ∀ p, (f p).totalRecordings = p.totalRecordings + (result.2.1 : ℤ) := by
  obtain ⟨⟨migrated, k, deleted⟩, db₁, habsorb, h⟩ := run_bind_ok.1 h
  refine ⟨_, db₁, habsorb, ?_⟩
  dsimp only at h
  split_ifs at h with hactive
  · cases h
  obtain ⟨_, db₂, hrename, h⟩ := run_bind_ok.1 h
  have hrest : records db' = records db₂ := by
    cases experience with
    | none => exact frames_finish nameChange answers.now migrated deleted db₂ update db' h
    | some experience =>
      exact (frames_setExperience _ _).bind
        (fun _ => frames_finish nameChange answers.now migrated deleted) db₂ update db' h
  rw [run_renamePlayer hrename] at hrest
  simp only [records, Prod.mk.injEq] at hrest
  exact ⟨hrest.2.2.1, _, hrest.1, fun _ => rfl⟩

lemma losesNothing_takeName (hdb : db.Referential) {answers : Answers}
    {nameChange : NameChangeQueryResult} {experience : Option PlayerExperience}
    {update : Option NameChangeUpdate}
    (h : (takeName naming answers nameChange experience).run db = .ok (update, db')) :
    LosesNothing db db' nameChange.playerId
        (playerNamed db (naming.normalizeRsn nameChange.newName)) ↔
      ∀ n, playerNamed db (naming.normalizeRsn nameChange.newName) = some n →
        db.participations n ≠ [] → db.participations nameChange.playerId ≠ [] := by
  obtain ⟨result, db₁, habsorb, hrows, f, hplayers, hf⟩ := run_takeName h
  constructor
  · intro hloses newPlayerId hnamed hsome hnone
    obtain ⟨⟨key, row⟩, hmem⟩ := List.exists_mem_of_ne_nil _ hsome
    obtain ⟨hget, hrow⟩ := mem_participations.1 hmem
    have hlater : IsLater db nameChange.playerId key.1 := by
      intro t _ e he
      rw [Accounts.startedParticipations, hnone] at he
      cases he
    have hmoved := hloses.moved key row hget (hnamed.trans (congrArg some hrow.symm)) hlater
    rw [hrows, absorbNewPlayer_loses hnone hnamed habsorb hget hrow] at hmoved
    cases hmoved
  · intro hnew
    obtain ⟨hmoved, hstays, hcounted⟩ := absorbed_absorbNewPlayer hdb hnew habsorb
    refine ⟨fun key row hrow hn hl => hrows ▸ hmoved key row hrow hn hl,
      fun key row hrow hnot => hrows ▸ hstays key row hrow hnot, fun id p p' hid hid' => ?_⟩
    have hlength : db'.participations id = db₁.participations id := by
      rw [Accounts.participations, Accounts.participations, hrows]
    rw [hplayers, InsertionMap.get_modify] at hid'
    rw [hlength]
    split_ifs at hid' with hsame
    · obtain ⟨p₁, hp₁, rfl⟩ := Option.map_eq_some_iff.mp hid'
      rw [← hcounted id p p₁ hid hp₁, hf, if_pos hsame]
      ring
    · rw [← hcounted id p p' hid hid', if_neg hsame, add_zero]

lemma losesNothing_changeDisplayName {nameChange : NameChangeQueryResult} {now : ℤ}
    {update : Option NameChangeUpdate}
    (h : (changeDisplayName nameChange now).run db = .ok (update, db')) :
    LosesNothing db db' nameChange.playerId none := by
  cases h
  refine ⟨nofun, fun _ _ hget _ => hget, fun id p p' hid hid' => ?_⟩
  change (db.players.modify _ _).get id = some p' at hid'
  rw [InsertionMap.get_modify, hid] at hid'
  split_ifs at hid' <;> cases hid' <;> exact (sub_self _).trans (sub_self _).symm

end Steps

/-- **What a standard name change loses**: after a name change is accepted every participation is
still there, with the player it belongs to, and recordings are counted as participations change, if
and only if the player has a recorded challenge or the record that had the new name has none. -/
theorem name_change_loses_nothing_iff {db db' : Accounts Custom Own} (hdb : db.Referential)
    {answers : Answers} {changeId : ℕ} {nameChange : NameChangeQueryResult}
    (hchange : findNameChange db changeId = some nameChange) {update : NameChangeUpdate}
    (h : (processNameChange naming answers changeId).run db = .ok (some update, db')) :
    LosesNothing db db' nameChange.playerId (newPlayer naming db nameChange) ↔
      ∀ n, newPlayer naming db nameChange = some n → db.participations n ≠ [] →
        db.participations nameChange.playerId ≠ [] := by
  obtain ⟨_, _, hget, h⟩ := run_bind_ok.1 h
  cases hget
  rw [hchange] at h
  dsimp only at h
  split_ifs at h
  · cases h
  unfold processStandardNameChange at h
  unfold newPlayer
  split_ifs at h ⊢ with hdisplay hactive
  · exact iff_of_true (losesNothing_changeDisplayName h) nofun
  · cases h
  · split at h
    · cases h
    · dsimp only at h
      split_ifs at h
      · cases h
      · exact losesNothing_takeName hdb h

def plainNaming : Naming := ⟨id, id⟩

def startedChallenge (id startTime : ℕ) (h : 0 < id) : Challenge :=
  ⟨id, h, none, .tob, .tobRegular, 1, .tobMaiden, .completed, startTime, some (startTime + 1), 100,
    none, 0, false⟩

/-- Two players, of which the second one has recorded a challenge, and a name change of the first
one to the second one's name. The first one may have recorded an earlier challenge. -/
def twoPlayers (earlier : Bool) : Accounts Unit Unit where
  challenges := ((∅ : InsertionMap Uuid Challenge).set 1 (startedChallenge 1 10 (by decide))).set
    2 (startedChallenge 2 20 (by decide))
  processingState := ∅
  challengePlayers :=
    (if earlier then (∅ : InsertionMap (ℕ × ℕ) ChallengePlayer).set (1, 0) ⟨1, "old", .unknown, []⟩
      else ∅).set (2, 0) ⟨2, "new", .unknown, []⟩
  recordedChallenges := ∅
  challengeSplits := ∅
  personalBestHistory := ∅
  queryableEvents := ∅
  sessions := ∅
  players := ((∅ : InsertionMap ℕ Player).set 1 ⟨"old", "old", if earlier then 1 else 0⟩).set 2
    ⟨"new", "new", 1⟩
  playerStats := ∅
  processorRows := ∅
  experience := ∅
  apiKeys := ∅
  nameChanges := (∅ : InsertionMap ℕ NameChange).set 1
    ⟨"old", "new", some 1, .pending, .standard, false, 30, none, false, none, 0⟩

/-- The old name is not on the hiscores, and the new one is. -/
def changedName : Answers := ⟨false, false, some (none, some fun _ => 0), 40⟩

/-- The change of the first player's name to the second one's. -/
def nameTaken : NameChangeQueryResult :=
  ⟨1, "old", "new", 1, false, .standard, fun _ => 0⟩

lemma run_changedName (earlier : Bool) : ∃ db', (processNameChange plainNaming changedName 1).run
    (twoPlayers earlier) = .ok (some (.merged 2 1 "old" "new"), db') := by
  have hrun : ((processNameChange plainNaming changedName 1).run
      (twoPlayers earlier)).toOption.map (·.1) = some (some (.merged 2 1 "old" "new")) := by
    cases earlier <;> decide +kernel
  cases hresult : (processNameChange plainNaming changedName 1).run (twoPlayers earlier) with
  | error e =>
    rw [hresult] at hrun
    cases hrun
  | ok result =>
    rw [hresult] at hrun
    exact ⟨result.2, congrArg Except.ok (Prod.ext (Option.some.inj hrun) rfl)⟩

lemma twoPlayers_referential (earlier : Bool) : (twoPlayers earlier).Referential := by
  intro key row hget
  have hmem := InsertionMap.get_eq_some.mp hget
  cases earlier with
  | false =>
    cases List.mem_singleton.mp hmem
    exact ⟨_, rfl⟩
  | true =>
    rcases List.mem_cons.mp hmem with heq | hmem
    · cases heq
      exact ⟨_, rfl⟩
    · cases List.mem_singleton.mp hmem
      exact ⟨_, rfl⟩

/-- A player with an earlier challenge takes over the later one of the record it is merged with. -/
theorem name_change_keeps_later_challenge :
    ∃ db', (processNameChange plainNaming changedName 1).run (twoPlayers true) =
        .ok (some (.merged 2 1 "old" "new"), db') ∧
      LosesNothing (twoPlayers true) db' 1 (newPlayer plainNaming (twoPlayers true) nameTaken) := by
  obtain ⟨db', hrun⟩ := run_changedName true
  have hchange : findNameChange (twoPlayers true) 1 = some nameTaken := rfl
  refine ⟨db', hrun, (name_change_loses_nothing_iff (twoPlayers_referential true) hchange
    hrun).mpr fun n _ _ => ?_⟩
  decide

/-- A player without a challenge is merged with a record that has one, which is lost. -/
theorem name_change_loses_challenge :
    ∃ db', (twoPlayers false).Referential ∧
      findNameChange (twoPlayers false) 1 = some nameTaken ∧
      (processNameChange plainNaming changedName 1).run (twoPlayers false) =
        .ok (some (.merged 2 1 "old" "new"), db') ∧
      ¬ LosesNothing (twoPlayers false) db' 1
        (newPlayer plainNaming (twoPlayers false) nameTaken) := by
  obtain ⟨db', hrun⟩ := run_changedName false
  refine ⟨db', twoPlayers_referential false, rfl, hrun, fun hloses => ?_⟩
  have hnone : ((processNameChange plainNaming changedName 1).run
      (twoPlayers false)).toOption.map (·.2.challengePlayers.get (2, 0)) = some none := by
    decide +kernel
  rw [hrun] at hnone
  have hmoved := hloses.moved (2, 0) ⟨2, "new", .unknown, []⟩ rfl (by decide +kernel) nofun
  cases (Option.some.inj hnone).symm.trans hmoved

end Blert.Names

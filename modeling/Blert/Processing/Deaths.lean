import Blert.Processing.Repeating

/-!
Deaths over the stages of a challenge.

The row of a challenge holds a total of deaths, and the row of each of its players the stages that
they died in. A stage adds all its deaths to the total, and itself to the list of each player who
is among them.
-/

namespace Blert.Processing

open Lifecycle ReadCommitted Fallible

variable {σ Custom Own : Type}

/-! ### Tallies -/

def Database.playersOf (db : Database Custom Own) (id : ℕ) : List ChallengePlayer :=
  (db.challengePlayers.entries.filter (·.1.1 = id)).map Prod.snd

def stageDeaths (players : List ChallengePlayer) : ℕ :=
  (players.map fun p => p.stageDeaths.length).sum

/-- A challenge's total of deaths is the number of stage deaths recorded over its players. -/
def DeathsAgree (id : ℕ) (db : Database Custom Own) : Prop :=
  ∀ e ∈ db.challengesById id, e.2.totalDeaths = stageDeaths (db.playersOf id)

/-- The players of a challenge, the stage deaths recorded over them, and the challenge's total. -/
structure Tally (id : ℕ) (playerIds : List ℕ) (recorded total : ℕ) (db : Database Custom Own) :
    Prop where
  players : (db.playersOf id).map ChallengePlayer.playerId = playerIds
  recorded : stageDeaths (db.playersOf id) = recorded
  total : ∀ e ∈ db.challengesById id, e.2.totalDeaths = total

lemma Tally.agree {id n : ℕ} {playerIds : List ℕ} {db : Database Custom Own}
    (h : Tally id playerIds n n db) : DeathsAgree id db :=
  fun e he => (h.total e he).trans h.recorded.symm

lemma DeathsAgree.tally {id : ℕ} {db : Database Custom Own} (h : DeathsAgree id db) :
    Tally id ((db.playersOf id).map ChallengePlayer.playerId) (stageDeaths (db.playersOf id))
      (stageDeaths (db.playersOf id)) db :=
  ⟨rfl, rfl, h⟩

variable {id recorded total : ℕ} {playerIds : List ℕ} {db : Database Custom Own}

lemma Tally.exec {α : Type} (h : Tally id playerIds recorded total db) {tables : List Table}
    {p : Sql Custom Own α} (hp : p.Writes (Change.In tables))
    (hchallenges : .challenges ∉ tables) (hplayers : .challengePlayers ∉ tables) {a : α}
    {cs : List (Change Custom Own)} (hexec : p.exec db = .ok (a, cs)) :
    Tally id playerIds recorded total (applyAll cs db) := by
  have hc : (applyAll cs db).challenges = db.challenges :=
    exec_frame holds_challenges hp hchallenges hexec
  have hp : (applyAll cs db).challengePlayers = db.challengePlayers :=
    exec_frame holds_challengePlayers hp hplayers hexec
  obtain ⟨h₁, h₂, h₃⟩ := h
  unfold Database.playersOf at h₁ h₂
  unfold Database.challengesById at h₃
  refine ⟨?_, ?_, ?_⟩
  · unfold Database.playersOf
    rwa [hp]
  · unfold Database.playersOf
    rwa [hp]
  · unfold Database.challengesById
    rwa [hc]

/-! ### Players -/

lemma applyAll_challengePlayers (l : List ((ℕ × ℕ) × ChallengePlayer))
    (db : Database Custom Own) :
    applyAll (l.map fun e => (.challengePlayer e.1 (some e.2) : Change Custom Own)) db =
      { db with challengePlayers := db.challengePlayers.setAll l } := by
  induction l generalizing db with
  | nil => rfl
  | cons e l ih =>
    rw [List.map_cons, applyAll_cons, ih]
    rfl

lemma applyAll_update (db : Database Custom Own) (id playerId : ℕ)
    (f : ChallengePlayer → ChallengePlayer) :
    applyAll ((db.challengePlayers.entries.filter fun e =>
      e.1.1 = id ∧ e.2.playerId = playerId).map fun e =>
        (.challengePlayer e.1 (some (f e.2)) : Change Custom Own)) db =
      { db with challengePlayers := db.challengePlayers.mapValues fun k row =>
          if k.1 = id ∧ row.playerId = playerId then f row else row } := by
  have hset := InsertionMap.setAll_filter db.challengePlayers
    (fun k row => decide (k.1 = id ∧ row.playerId = playerId)) fun _ row => f row
  have hall := applyAll_challengePlayers (((db.challengePlayers.entries.filter fun e =>
    e.1.1 = id ∧ e.2.playerId = playerId)).map fun e => (e.1, f e.2)) db
  rw [List.map_map, hset] at hall
  simp only [decide_eq_true_eq] at hall
  exact hall

lemma playersOf_update (db : Database Custom Own) (id playerId : ℕ)
    (f : ChallengePlayer → ChallengePlayer) :
    { db with challengePlayers := db.challengePlayers.mapValues fun k row =>
        if k.1 = id ∧ row.playerId = playerId then f row else row }.playersOf id =
      (db.playersOf id).map fun row => if row.playerId = playerId then f row else row := by
  unfold Database.playersOf InsertionMap.mapValues
  dsimp only
  rw [List.filter_map, List.map_map, List.map_map]
  refine List.map_congr_left fun e he => ?_
  have hid : e.1.1 = id := by simpa using (List.mem_filter.mp he).2
  simp [hid]

lemma stageDeaths_update (players : List ChallengePlayer) (died : List Stage)
    (gear : PrimaryMeleeGear) (playerId : ℕ) :
    stageDeaths (players.map fun row => if row.playerId = playerId then
      { row with stageDeaths := row.stageDeaths ++ died, primaryGear := gear } else row) =
      stageDeaths players +
        died.length * (players.map ChallengePlayer.playerId).count playerId := by
  induction players with
  | nil => simp [stageDeaths]
  | cons row players ih =>
    simp only [stageDeaths, List.map_cons, List.sum_cons, List.count_cons, beq_iff_eq] at ih ⊢
    rw [ih]
    split_ifs with hrow
    · simp only [List.length_append]
      ring
    · ring

lemma playerIds_update (players : List ChallengePlayer) (died : List Stage)
    (gear : PrimaryMeleeGear) (playerId : ℕ) :
    (players.map fun row => if row.playerId = playerId then
      { row with stageDeaths := row.stageDeaths ++ died, primaryGear := gear } else row).map
      ChallengePlayer.playerId = players.map ChallengePlayer.playerId := by
  rw [List.map_map]
  refine List.map_congr_left fun row _ => ?_
  rw [Function.comp_apply]
  split_ifs <;> rfl

/-- The members of a party that are among the deaths. -/
def deadMembers (deaths : List ℕ) (size : ℕ) : ℕ := (List.range size).countP (· ∈ deaths)

lemma deadMembers_eq_length {deaths : List ℕ} {size : ℕ} (h : ∀ i ∈ deaths, i < size) :
    deadMembers deaths size = deaths.length ↔ deaths.Nodup := by
  have hperm : ((List.range size).filter (· ∈ deaths)).Perm deaths.dedup := by
    refine (List.perm_ext_iff_of_nodup (List.nodup_range.filter _) deaths.nodup_dedup).mpr
      fun i => ?_
    rw [List.mem_filter, List.mem_range, List.mem_dedup, decide_eq_true_iff]
    exact and_iff_right_of_imp (h i)
  unfold deadMembers
  rw [List.countP_eq_length_filter, hperm.length_eq]
  constructor
  · intro hlen
    rw [← (List.dedup_sublist deaths).eq_of_length hlen]
    exact deaths.nodup_dedup
  · intro hnodup
    rw [hnodup.dedup]

lemma sum_filterMap {α β : Type} {deaths : List ℕ} {update : α × ℕ → Option (List Stage × β)}
    (hsome : ∀ e u, update e = some u → u.1.length = if e.2 ∈ deaths then 1 else 0)
    (hnone : ∀ e, update e = none → e.2 ∉ deaths) (indexed : List (α × ℕ)) :
    ((indexed.filterMap update).map fun u => u.1.length).sum =
      (indexed.map Prod.snd).countP (· ∈ deaths) := by
  induction indexed with
  | nil => rfl
  | cons e indexed ih =>
    rw [List.map_cons, List.countP_cons, ← ih]
    cases hupdate : update e with
    | none => simp [hupdate, hnone e hupdate]
    | some u =>
      rw [List.filterMap_cons_some hupdate, List.map_cons, List.sum_cons, hsome e u hupdate,
        add_comm]
      simp

lemma sum_playerUpdates (stage : Stage) (ctx : StageContext) (players : List StoredPlayerInfo) :
    ((playerUpdates stage ctx players).map fun u => u.1.length).sum =
      deadMembers ctx.deaths players.length := by
  unfold playerUpdates deadMembers
  rw [sum_filterMap, List.zipIdx_map_snd, List.range_eq_range']
  · rintro ⟨row, index⟩ u hu
    dsimp only at hu ⊢
    split_ifs at hu ⊢ <;> cases Option.some.inj hu <;> rfl
  · rintro ⟨row, index⟩ hu hdead
    simp [hdead] at hu

lemma mem_playerUpdates {stage : Stage} {ctx : StageContext} {players : List StoredPlayerInfo}
    {u : List Stage × PrimaryMeleeGear × ℕ} (h : u ∈ playerUpdates stage ctx players) :
    u.2.2 ∈ players.map StoredPlayerInfo.id := by
  unfold playerUpdates at h
  obtain ⟨⟨player, index⟩, hmem, h⟩ := List.mem_filterMap.mp h
  dsimp only at h
  split_ifs at h <;> cases Option.some.inj h
  all_goals exact List.mem_map.mpr ⟨player, (List.mem_zipIdx' hmem).2 ▸ List.getElem_mem _, rfl⟩

lemma Tally.updatePlayers {txn : Transaction Custom} {stage : Stage} {ctx : StageContext}
    {players : List StoredPlayerInfo} {u : Unit} {cs : List (Change Custom Own)}
    (h : Tally txn.challengeId playerIds recorded total db) (hunique : playerIds.Nodup)
    (hplayers : ∀ p ∈ players, p.id ∈ playerIds)
    (hexec : (updatePlayers txn stage ctx players).exec db = .ok (u, cs)) :
    Tally txn.challengeId playerIds (recorded + deadMembers ctx.deaths players.length) total
      (applyAll cs db) := by
  have hall := Program.exec_forEach_inv (P := fun done db' =>
    Tally txn.challengeId playerIds
      (recorded + (done.map fun u : List Stage × PrimaryMeleeGear × ℕ => u.1.length).sum) total db')
    ?_ (show Tally txn.challengeId playerIds (recorded + (([] :
      List (List Stage × PrimaryMeleeGear × ℕ)).map fun u => u.1.length).sum) total db from h) hexec
  · rw [List.nil_append, sum_playerUpdates] at hall
    exact hall
  · rintro done ⟨died, gear, playerId⟩ hmem db₁ cs₁ h₁ hexec₁
    cases Program.exec_write_ok.mp hexec₁
    have hplayer : playerId ∈ playerIds := by
      obtain ⟨p, hp, rfl⟩ := List.mem_map.mp (mem_playerUpdates hmem)
      exact hplayers p hp
    have hof := playersOf_update db₁ txn.challengeId playerId fun row =>
      { row with stageDeaths := row.stageDeaths ++ died, primaryGear := gear }
    rw [applyAll_update db₁ txn.challengeId playerId fun row =>
      { row with stageDeaths := row.stageDeaths ++ died, primaryGear := gear }]
    refine ⟨?_, ?_, h₁.total⟩
    · rw [hof, playerIds_update, h₁.players]
    · rw [hof, stageDeaths_update, h₁.recorded, h₁.players,
        List.count_eq_one_of_mem hunique hplayer]
      simp [add_assoc]

lemma Tally.updateChallengeRow {txn : Transaction Custom} {ticks : ChallengeTicks}
    {newDeaths : ℕ} {u : Unit} {cs : List (Change Custom Own)}
    (h : Tally txn.challengeId playerIds recorded total db)
    (hexec : (updateChallengeRow txn ticks newDeaths).exec db = .ok (u, cs)) :
    Tally txn.challengeId playerIds recorded (total + newDeaths) (applyAll cs db) := by
  have hrun := Program.exec_write_ok.mp hexec
  obtain ⟨cs', hm, hrun⟩ := bind_eq_ok.1 hrun
  cases hrun
  have hrows : ∀ c ∈ cs, ∃ e ∈ db.challengesById txn.challengeId, ∃ row,
      row.totalDeaths = e.2.totalDeaths + newDeaths ∧ c = .challenge e.1 (some row) := by
    intro c hc
    obtain ⟨e, he, hec⟩ := mem_mapM_ok hm hc
    obtain ⟨row, hrow, hec⟩ := bind_eq_ok.1 hec
    obtain ⟨challengeTicks, -, hrow⟩ := bind_eq_ok.1 hrow
    cases hrow
    cases hec
    exact ⟨e, he, _, rfl, rfl⟩
  have hplayers : (applyAll cs db).challengePlayers = db.challengePlayers := by
    refine @applyAll_frame _ _ _ _ _ holds_challengePlayers [.challenges] (by decide) _
      (fun c hc => ?_) db
    obtain ⟨e, -, row, -, rfl⟩ := hrows c hc
    exact List.mem_singleton_self _
  refine ⟨?_, ?_, fun e he => ?_⟩
  · unfold Database.playersOf
    rw [hplayers]
    exact h.players
  · unfold Database.playersOf
    rw [hplayers]
    exact h.recorded
  · obtain ⟨hmem, hid⟩ := List.mem_filter.mp he
    have hid := of_decide_eq_true hid
    rcases get_applyAll (InsertionMap.get_eq_some.mpr hmem) with hput | ⟨hget, hnone⟩
    · obtain ⟨e', he', row, hrow, heq⟩ := hrows _ hput
      rw [Option.some.inj (Change.challenge.inj heq).2, hrow, h.total e' he']
    · have hold : (e.1, e.2) ∈ db.challengesById txn.challengeId :=
        List.mem_filter.mpr ⟨InsertionMap.get_eq_some.mp hget, decide_eq_true hid⟩
      obtain ⟨c, hc, hfc⟩ := mapM_ok_of_mem hm hold
      obtain ⟨row, -, hfc⟩ := bind_eq_ok.1 hfc
      cases hfc
      exact absurd hc (hnone _)

/-! ### Stages -/

/-- The end of a stage leaves the deaths as they are. -/
def ChallengeProcessor.KeepsDeaths (processor : ChallengeProcessor σ Custom Own) : Prop :=
  ∀ p txn prices stored ctx stage events db p' ctx' ticks cs,
    (processor.onStageFinished p txn prices stored ctx stage events).exec db =
      .ok ((p', ctx', ticks), cs) → ctx'.deaths = ctx.deaths

variable {env : Environment σ Custom Own} {inputs : Inputs σ} {txn : Transaction Custom}

lemma Tally.persist (hkeeps : env.processor.KeepsDeaths) {stored : StoredState Custom}
    {output : InterpretOutput} {p : σ} {a : ProcessingPayload × σ} {cs : List (Change Custom Own)}
    (h : Tally txn.challengeId playerIds recorded total db) (hunique : playerIds.Nodup)
    (hplayers : ∀ p ∈ stored.players, p.id ∈ playerIds)
    (hexec : (persist env inputs txn stored output p).exec db = .ok (a, cs)) :
    Tally txn.challengeId playerIds
      (recorded + deadMembers output.ctx.deaths stored.players.length)
      (total + output.ctx.deaths.length) (applyAll cs db) := by
  unfold Processing.persist at hexec
  simp only [Program.exec_bind_ok] at hexec
  obtain ⟨⟨p', ctx, ticks⟩, cs₁, _, h₁, ⟨_, cs₂, _, h₂, ⟨_, cs₃, _, h₃, ⟨_, cs₄, _, h₄, ⟨_, cs₅, _,
    h₅, ⟨_, cs₆, _, h₆, ⟨_, cs₇, _, h₇, ⟨_, cs₈, _, h₈, h₉, rfl⟩, rfl⟩, rfl⟩, rfl⟩, rfl⟩, rfl⟩,
    rfl⟩, rfl⟩ := hexec
  have hdeaths : ctx.deaths = output.ctx.deaths := hkeeps _ _ _ _ _ _ _ _ _ _ _ _ h₁
  have t₁ := h.exec ((env.processor.onStageFinished_own _ _ _ _ _ _ _).mono
    fun _ => Change.IsOwn.mem) (by decide) (by decide) h₁
  have t₂ := t₁.exec (writes_saveSplits _ _ _ _ _ _) (by decide) (by decide) h₂
  have t₃ := t₂.updatePlayers hunique hplayers h₃
  have t₄ := t₃.exec (writes_updatePlayerStats _ _ _) (by decide) (by decide) h₄
  have t₅ := t₄.exec (writes_writeQueryableEvents _ _ _ _ _) (by decide) (by decide) h₅
  have t₆ := t₅.updateChallengeRow h₆
  have t₇ := t₆.exec (writes_answer _) (by decide) (by decide) h₇
  have t₈ := t₇.exec (writes_answer _) (by decide) (by decide) h₈
  obtain ⟨-, rfl⟩ := Program.exec_pure_ok.mp h₉
  rw [hdeaths] at t₈
  simpa only [applyAll_append, List.append_nil] using t₈

/-! ### Runs -/

/-- A run of stage processing: its transaction, what it is told, and the party positions that the
deaths among its merged events name. Deaths outside the party are ignored. -/
structure StageRun (σ Custom : Type) where
  txn : Transaction Custom
  inputs : Inputs σ
  deaths : List ℕ
  tracked : ∀ interpret p output p', inputs.recorded = .ok interpret →
    interpret p = (some output, p') →
    output.ctx.deaths = deaths.filter (· < inputs.info.party.length)

/-- No member of the party dies twice in the stage. -/
def StageRun.DieOnce (run : StageRun σ Custom) : Prop :=
  (run.deaths.filter (· < run.inputs.info.party.length)).Nodup

/-- What runs of stage processing of a challenge make of a database, one after the other. -/
inductive Ran (env : Environment σ Custom Own) (id : ℕ) :
    Database Custom Own → List (StageRun σ Custom) → Database Custom Own → Prop
  | none {start} : Ran env id start [] start
  | next {start run runs finish a cs} (challenge : run.txn.challengeId = id)
      (exec : (processStage env run.inputs run.txn).exec start = .ok (a, cs))
      (rest : Ran env id (applyAll cs start) runs finish) : Ran env id start (run :: runs) finish

lemma exec_loadDatabaseState {info : ChallengeInfo} {stored : StoredState Custom}
    {cs : List (Change Custom Own)}
    (h : (loadDatabaseState txn info).exec db = .ok (stored, cs)) :
    cs = [] ∧ stored.players.length = info.party.length ∧
      (stored.players.map StoredPlayerInfo.id).Perm
        ((db.playersOf txn.challengeId).map ChallengePlayer.playerId) := by
  unfold loadDatabaseState at h
  simp only [Program.exec_bind_ok] at h
  obtain ⟨players, cs₁, _, h₁, ⟨ticks, cs₂, cs₃, h₂, h₃, rfl⟩, rfl⟩ := h
  obtain ⟨hrows, rfl⟩ := Program.exec_read_ok.mp h₁
  obtain ⟨-, rfl⟩ := Program.exec_read_ok.mp h₂
  obtain ⟨rfl, rfl⟩ := Program.exec_pure_ok.mp h₃
  split_ifs at hrows with hlen
  cases hrows
  refine ⟨rfl, ?_, ?_⟩
  · rw [List.length_map]
    exact not_not.mp hlen
  · rw [List.map_map]
    unfold playerRows Database.playersOf
    exact ((List.perm_insertionSort _ _).map Prod.snd).map ChallengePlayer.playerId

/-- What a run adds to the tally: to the total the deaths of members of the party, to the stage
deaths the members that have died. -/
lemma Tally.processStage (hkeeps : env.processor.KeepsDeaths) {deaths : List ℕ}
    (htracked : ∀ interpret p output p', inputs.recorded = .ok interpret →
      interpret p = (some output, p') →
      output.ctx.deaths = deaths.filter (· < inputs.info.party.length))
    {a : ProcessingPayload × Option Custom} {cs : List (Change Custom Own)}
    (h : Tally txn.challengeId playerIds recorded total db) (hunique : playerIds.Nodup)
    (hexec : (processStage env inputs txn).exec db = .ok (a, cs)) :
    Tally txn.challengeId playerIds recorded total (applyAll cs db) ∨
      Tally txn.challengeId playerIds
        (recorded + deadMembers (deaths.filter (· < inputs.info.party.length))
          inputs.info.party.length)
        (total + (deaths.filter (· < inputs.info.party.length)).length) (applyAll cs db) := by
  obtain ⟨interpret, stored, hrecorded, hload, ⟨-, rfl⟩ | ⟨p, -, ⟨p', -, -, rfl⟩ |
    ⟨output, p', payload, p'', hinterpret, hpersists, -⟩⟩⟩ := exec_processStage hexec
  · exact .inl h
  · exact .inl h
  · obtain ⟨-, hlen, hperm⟩ := exec_loadDatabaseState hload
    have hplayers : ∀ p ∈ stored.players, p.id ∈ playerIds := by
      intro p hp
      rw [← h.players]
      exact hperm.mem_iff.mp (List.mem_map_of_mem hp)
    have hpersist := h.persist hkeeps hunique hplayers hpersists
    rw [hlen, htracked interpret p output p' hrecorded hinterpret] at hpersist
    exact .inr hpersist

lemma Ran.agree (hkeeps : env.processor.KeepsDeaths) {start finish : Database Custom Own}
    {runs : List (StageRun σ Custom)} (hran : Ran env id start runs finish)
    (hunique : ((start.playersOf id).map ChallengePlayer.playerId).Nodup)
    (hstart : DeathsAgree id start) (hruns : ∀ run ∈ runs, run.DieOnce) :
    DeathsAgree id finish := by
  suffices htally : ∀ {playerIds : List ℕ} {n : ℕ}, playerIds.Nodup → Tally id playerIds n n start →
      ∃ m, Tally id playerIds m m finish by
    obtain ⟨m, hm⟩ := htally hunique hstart.tally
    exact hm.agree
  clear hunique hstart
  induction hran with
  | none => exact fun _ h => ⟨_, h⟩
  | @next start run runs finish a cs challenge exec rest ih =>
    intro playerIds n hunique h
    subst challenge
    have hrest : ∀ run' ∈ runs, run'.DieOnce :=
      fun run' hrun' => hruns run' (List.mem_cons_of_mem _ hrun')
    have honce := hruns run List.mem_cons_self
    have hdead := (deadMembers_eq_length fun i hi =>
      of_decide_eq_true (List.mem_filter.mp hi).2).mpr honce
    rcases h.processStage hkeeps run.tracked hunique exec with hsame | hmore
    · exact ih hrest hunique hsame
    · rw [hdead] at hmore
      exact ih hrest hunique hmore

end Blert.Processing

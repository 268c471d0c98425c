import Blert.Colosseum.ChallengeServer
import Blert.Colosseum.Handicaps

/-!
Handicaps over the waves of a challenge.

Each wave goes on from the data stored at the end of the one before, and stores the list of all
handicaps again. What is stored tells the choices of the waves so far exactly.
-/

namespace Blert.Colosseum

open Lifecycle Checked Fallible ReadCommitted
open Processing (Attempt Database Gone HasId Inputs MergedEvents Naming Runs StageContext
  Transaction perform startTransaction)

/-- What is stored of handicaps tells the choices of some waves. -/
structure Exact (waves : List (List ℕ)) (written handicaps recorded : List ℕ) : Prop where
  /-- Each base handicap is written as often as it was chosen. -/
  written : ∀ base, written.count base = waves.flatten.count base
  /-- Each is stored once, at the level of its last choice. -/
  once : (handicaps.map (· % handicapLevelIncrement)).Nodup
  stored : ∀ handicap, handicap ∈ handicaps ↔ ∃ base ∈ waves.flatten,
    handicap = leveled base (waves.flatten.count base - 1)
  /-- Each wave has recorded its last choice, at the level it had when chosen. -/
  recorded : recorded = recordedHandicaps [] waves

lemma nodup_packed {choices : List ℕ} (hknown : ∀ b ∈ choices, b < numHandicaps) :
    ((packed choices).map (· % handicapLevelIncrement)).Nodup := by
  unfold packed
  rw [List.map_map]
  have hself : (firstChoices choices).map ((· % handicapLevelIncrement) ∘ fun base =>
      leveled base (choices.count base - 1)) = firstChoices choices := by
    refine (List.map_congr_left fun b hb => ?_).trans (List.map_id _)
    have hlt := hknown b (mem_firstChoices.1 hb)
    unfold leveled handicapLevelIncrement
    unfold numHandicaps at hlt
    simp only [Function.comp_apply, id_eq]
    omega
  rw [hself]
  exact nodup_firstChoices choices

lemma exact_packed {waves : List (List ℕ)} {recorded : List ℕ}
    (hknown : ∀ b ∈ waves.flatten, b < numHandicaps)
    (hrecorded : recorded = recordedHandicaps [] waves) :
    Exact waves (repeatedHandicaps (packed waves.flatten)) (packed waves.flatten) recorded where
  written := count_repeatedHandicaps hknown
  once := nodup_packed hknown
  stored _ := mem_packed
  recorded := hrecorded

/-! ### The challenge server -/

namespace ChallengeServer

def Wave.handicaps (wave : Wave) : List ℕ := wave.choices.map fun choice => (choice.handicap : ℕ)

lemma known_handicaps (wave : Wave) : ∀ b ∈ wave.handicaps, b < numHandicaps := by
  intro b hb
  obtain ⟨choice, -, rfl⟩ := List.mem_map.mp hb
  exact choice.handicap.isLt

lemma known_flatten (waves : List Wave) :
    ∀ b ∈ (waves.map Wave.handicaps).flatten, b < numHandicaps := by
  intro b hb
  obtain ⟨choices, hchoices, hb⟩ := List.mem_flatten.mp hb
  obtain ⟨wave, -, rfl⟩ := List.mem_map.mp hchoices
  exact known_handicaps wave b hb

/-- The data of the challenge server that keep the choices made. -/
structure Keeps (choices : List ℕ) (data : CustomData) : Prop where
  levels : ∀ base, data.handicapLevels base = choices.count (base : ℕ)
  handicaps : data.colosseumData.handicaps = packed choices

variable {choices : List ℕ} {p : ColosseumProcessor}

lemma upgraded_eq (base selected : ℕ) (handicaps : List ℕ) :
    (match handicaps.findIdx? fun handicap : ℕ =>
        (handicap : ℤ) = (selected : ℤ) - handicapLevelIncrement with
      | some index => handicaps.modify index (· + handicapLevelIncrement)
      | none => handicaps ++ [base]) = upgraded base selected handicaps := by
  have hsame : (fun handicap : ℕ => decide ((handicap : ℤ) =
      (selected : ℤ) - handicapLevelIncrement)) =
      fun handicap => decide (handicap + handicapLevelIncrement = selected) := by
    funext handicap
    exact decide_eq_decide.mpr (by unfold handicapLevelIncrement; omega)
  unfold upgraded
  rw [hsame]
  cases hfind : handicaps.findIdx? fun handicap =>
      handicap + handicapLevelIncrement = selected with
  | none => rfl
  | some index =>
    obtain ⟨hlt, hbelow, -⟩ := List.findIdx?_eq_some_iff_getElem.mp hfind
    dsimp only
    rw [List.modify_eq_set_getElem?, List.getElem?_eq_getElem hlt]
    simp only [Option.map_eq_map, Option.map_some, Option.getD_some]
    rw [of_decide_eq_true hbelow]

lemma keeps_processChallengeEvent (h : Keeps choices p.toCustomData)
    (hknown : ∀ b ∈ choices, b < numHandicaps) (event : HandicapChoice) :
    Keeps (choices ++ [(event.handicap : ℕ)]) (processChallengeEvent p event).toCustomData ∧
      (processChallengeEvent p event).selectedHandicap =
        some (leveled event.handicap (choices.count (event.handicap : ℕ))) ∧
      (processChallengeEvent p event).colosseumData.waves = p.colosseumData.waves := by
  have hselected : levelHandicap p.handicapLevels event.handicap =
      leveled event.handicap (choices.count (event.handicap : ℕ)) := by
    unfold levelHandicap leveled
    rw [h.levels, mul_comm]
  refine ⟨⟨fun b => ?_, ?_⟩, congrArg some hselected, rfl⟩
  · change Function.update p.handicapLevels event.handicap _ b = _
    by_cases hb : b = event.handicap
    · rw [hb, Function.update_self, h.levels]
      simp [List.count_append]
    · have hne : (event.handicap : ℕ) ≠ b := fun heq => hb (Fin.ext heq.symm)
      rw [Function.update_of_ne hb, h.levels]
      simp [List.count_append, hne]
  · rw [← upgraded_packed event.handicap.isLt hknown, ← upgraded_eq, ← h.handicaps, ← hselected]
    rfl

lemma keeps_foldl (h : Keeps choices p.toCustomData) (hknown : ∀ b ∈ choices, b < numHandicaps)
    (events : List HandicapChoice) :
    Keeps (choices ++ events.map fun choice => (choice.handicap : ℕ))
        (events.foldl processChallengeEvent p).toCustomData ∧
      (events.foldl processChallengeEvent p).selectedHandicap =
        (recordedHandicap choices (events.map fun choice => (choice.handicap : ℕ))).or
          p.selectedHandicap ∧
      (events.foldl processChallengeEvent p).colosseumData.waves = p.colosseumData.waves := by
  induction events generalizing p choices with
  | nil => simpa [recordedHandicap] using h
  | cons event events ih =>
    obtain ⟨hkeeps, hselected, hwaves⟩ := keeps_processChallengeEvent h hknown event
    have hknown' : ∀ b ∈ choices ++ [(event.handicap : ℕ)], b < numHandicaps := by
      intro b hb
      rcases List.mem_append.mp hb with hb | hb
      · exact hknown b hb
      · rw [List.mem_singleton.mp hb]
        exact event.handicap.isLt
    obtain ⟨hkeeps', hselected', hwaves'⟩ := ih hkeeps hknown'
    rw [List.foldl_cons, List.map_cons]
    refine ⟨?_, ?_, hwaves'.trans hwaves⟩
    · rwa [← List.singleton_append, ← List.append_assoc]
    · rw [hselected', hselected, recordedHandicap_cons, Option.or_assoc, Option.some_or]

structure Stored (waves : List (List ℕ)) (data : CustomData) : Prop where
  keeps : Keeps waves.flatten data
  recorded : data.colosseumData.waves.map WaveData.handicap = recordedHandicaps [] waves

lemma stored_processWave {waves : List (List ℕ)} {customData : Option CustomData}
    (h : Stored waves (customData.getD {})) (hknown : ∀ b ∈ waves.flatten, b < numHandicaps)
    (wave : Wave) :
    Stored (waves ++ [wave.handicaps]) (processWave customData wave).1 ∧
      (processWave customData wave).2 =
        repeatedHandicaps (packed (waves ++ [wave.handicaps]).flatten) := by
  have hnew : Keeps waves.flatten (ColosseumProcessor.new customData).toCustomData := h.keeps
  obtain ⟨hkeeps, hselected, hwaves⟩ := keeps_foldl hnew hknown wave.choices
  have hflatten : (waves ++ [wave.handicaps]).flatten = waves.flatten ++ wave.handicaps := by simp
  rw [hflatten]
  refine ⟨⟨?_, ?_⟩, congrArg repeatedHandicaps hkeeps.handicaps⟩
  · rw [hflatten]
    exact ⟨hkeeps.levels, hkeeps.handicaps⟩
  · rw [recordedHandicaps_append, ← h.recorded, List.nil_append]
    change (List.map WaveData.handicap (_ ++ [_])) = _
    rw [List.map_append, hwaves, List.map_singleton]
    change _ ++ [Option.getD _ 0] = _
    rw [hselected]
    change _ ++ [((recordedHandicap _ _).or none).getD 0] = _
    rw [Option.or_none]
    rfl

lemma exact_processWaves (waves : List Wave) (data : CustomData)
    (h : (processWaves waves).1 = some data) :
    Exact (waves.map Wave.handicaps) (processWaves waves).2 data.colosseumData.handicaps
      (data.colosseumData.waves.map WaveData.handicap) := by
  have hall : Stored (waves.map Wave.handicaps) ((processWaves waves).1.getD {}) ∧
      (processWaves waves).2 =
        repeatedHandicaps (packed (waves.map Wave.handicaps).flatten) := by
    clear h
    induction waves using List.reverseRecOn with
    | nil => exact ⟨⟨⟨fun _ => rfl, rfl⟩, rfl⟩, rfl⟩
    | append_singleton waves wave ih =>
      have hstep : processWaves (waves ++ [wave]) =
          (some (processWave (processWaves waves).1 wave).1,
            (processWave (processWaves waves).1 wave).2) := by
        unfold processWaves
        rw [List.foldl_append, List.foldl_cons, List.foldl_nil]
      rw [hstep, List.map_append, List.map_singleton]
      exact stored_processWave ih.1 (known_flatten waves) wave
  obtain ⟨hstored, hwritten⟩ := hall
  rw [h] at hstored
  rw [hwritten, show data.colosseumData.handicaps = _ from hstored.keeps.handicaps]
  exact exact_packed (known_flatten waves) hstored.recorded

end ChallengeServer

/-! ### Runs -/

/-- An attempt at processing, with the merged events that it goes through where it has data. -/
structure WaveRun where
  attempt : Attempt ColosseumProcessor
  events : List Event
  interprets : ∀ f p output p', attempt.inputs.recorded = .ok f → f p = (some output, p') →
    interpret p events = .ok p'
  empty : ∀ f p p', attempt.inputs.recorded = .ok f → f p = (none, p') → p' = p

def WaveRun.wave (run : WaveRun) : Reply ProcessingPayload → List (List ℕ)
  | .applied (.stage _ _) => [choicesIn run.events]
  | _ => []

/-- The choices of the waves that attempts have processed. -/
def wavesOf (runs : List (WaveRun × Reply ProcessingPayload)) : List (List ℕ) :=
  runs.flatMap fun run => run.1.wave run.2

/-- What is stored of a challenge after some waves. -/
structure Stored (uuid : Uuid) (id : ℕ) (waves : List (List ℕ))
    (db : Database CustomData StatsRow) : Prop where
  hasId : HasId uuid id db
  customData : ∃ data, db.customData id = some data ∧ Keeps waves.flatten data ∧
    data.waves.map WaveData.handicap = recordedHandicaps [] waves
  row : db.processorRows.get (id, 0) = some (repeatedHandicaps (packed waves.flatten))

lemma exec_finishStage {p p' : ColosseumProcessor} {txn : Transaction CustomData}
    {stored : Processing.StoredState CustomData} {ctx ctx' : StageContext} {stage : Stage}
    {events : MergedEvents} {ticks : Processing.ChallengeTicks}
    {db : Database CustomData StatsRow} {cs : List (Processing.Change CustomData StatsRow)}
    (h : (finishStage p txn stored ctx stage events).exec db = .ok ((p', ctx', ticks), cs))
    (hrow : db.processorRows.has (txn.challengeId, 0)) :
    (∃ wave, p'.data = { p.data with waves := p.data.waves ++ [wave] } ∧
      wave.handicap = p.selectedHandicap.getD 0) ∧
      (applyAll cs db).processorRows.get (txn.challengeId, 0) =
        some (repeatedHandicaps p.data.handicaps) := by
  unfold finishStage at h
  simp only [Program.exec_bind_ok] at h
  obtain ⟨finished, cs₁, _, h₁, ⟨_, cs₂, _, h₂, h₃, rfl⟩, rfl⟩ := h
  obtain ⟨hfinished, rfl⟩ := Program.exec_lift_ok.mp h₁
  obtain ⟨h₃, rfl⟩ := Program.exec_pure_ok.mp h₃
  cases h₃
  have hsaved := Program.exec_write_ok.mp h₂
  rw [applyAll_nil, if_pos hrow] at hsaved
  cases hsaved
  cases hend : onStageFinished p stored.challengeTicks ctx stage events with
  | error panic =>
    rw [hend] at hfinished
    cases hfinished
  | ok finished' =>
    rw [hend] at hfinished
    cases hfinished
    unfold onStageFinished at hend
    obtain ⟨_, -, hend⟩ := bind_eq_ok.1 hend
    obtain ⟨_, -, hend⟩ := bind_eq_ok.1 hend
    obtain ⟨_, -, hend⟩ := bind_eq_ok.1 hend
    cases hend
    refine ⟨⟨_, rfl, rfl⟩, ?_⟩
    change (db.processorRows.set _ _).get _ = _
    rw [InsertionMap.get_set, if_pos rfl]

lemma Stored.applies {naming : Naming} {uuid : Uuid} {id : ℕ} {waves : List (List ℕ)}
    {db : Database CustomData StatsRow} (h : Stored uuid id waves db)
    (hknown : ∀ b ∈ waves.flatten, b < numHandicaps) {run : WaveRun} {payload : ProcessingPayload}
    {cs : List (Processing.Change CustomData StatsRow)}
    (happlies : run.attempt.Applies (environment naming) db payload cs)
    (huuid : run.attempt.inputs.info.uuid = uuid) (hopen : run.attempt.trigger.isFinish = false)
    (hevents : ∀ b ∈ choicesIn run.events, b < numHandicaps) :
    Stored uuid id (waves ++ run.wave (.applied payload)) (applyAll cs db) := by
  subst huuid
  obtain ⟨data, hdata, hkeeps, hrecorded⟩ := h.customData
  obtain ⟨hid, txn, customData, performed, rfl, hcustom, hnext, hrows, hcases⟩ :=
    happlies.kept h.hasId hopen
  rw [hdata] at hcustom hnext
  -- where no wave is processed, all stays as it is
  have hsame : payload = .none → customData.getD data = data →
      (applyAll performed db).processorRows = db.processorRows →
      Stored run.attempt.inputs.info.uuid txn.challengeId
        (waves ++ run.wave (.applied payload)) (applyAll cs db) := by
    rintro rfl hcustomData hperformed
    have hwaves : waves ++ run.wave (.applied .none) = waves := List.append_nil _
    rw [hwaves]
    refine ⟨hid, ⟨data, ?_, hkeeps, hrecorded⟩, ?_⟩
    · rw [hnext, ← hcustomData]
      cases customData <;> rfl
    · rw [hrows, hperformed]
      exact h.row
  rcases hcases with ⟨hpayload, rfl, hperformed⟩ | hstage
  · exact hsame hpayload rfl hperformed
  · obtain ⟨interpret, stored, hinterpret, -, ⟨ha, rfl⟩ | ⟨p, hp, hprocessed⟩⟩ :=
      Processing.exec_processStage hstage
    · cases ha
      exact hsame rfl rfl rfl
    · cases hp
      rw [hcustom] at hprocessed
      rcases hprocessed with ⟨p', hnone, ha, rfl⟩ | ⟨output, p', payload', p'', hsome, hpersist, ha⟩
      · cases ha
        obtain rfl := run.empty _ _ _ hinterpret hnone
        exact hsame rfl rfl rfl
      · cases ha
        obtain ⟨hpayload, ctx, ticks, own, rest, hown, hrest, rfl⟩ :=
          Processing.exec_persist hpersist
        dsimp only at hpayload
        subst hpayload
        have hnew : Keeps waves.flatten
            (ColosseumProcessor.new run.attempt.inputs.info (some data)).data := hkeeps
        obtain ⟨hkeeps', hselected, hwaves⟩ := interpret_eq_ok hnew hknown hevents
          (run.interprets _ _ _ _ hinterpret hsome)
        have hhas : db.processorRows.has (txn.challengeId, 0) := by
          change (db.processorRows.get _).isSome = true
          rw [h.row]
          rfl
        obtain ⟨⟨wave, hdata', hhandicap⟩, hrow⟩ := exec_finishStage hown hhas
        have hflatten : (waves ++ [choicesIn run.events]).flatten =
            waves.flatten ++ choicesIn run.events := by simp
        change Stored _ _ (waves ++ [choicesIn run.events]) _
        refine ⟨hid, ⟨p''.data, ?_, ?_, ?_⟩, ?_⟩
        · rw [hnext]
          rfl
        · rw [hflatten, hdata']
          exact ⟨hkeeps'.levels, hkeeps'.handicaps⟩
        · rw [hdata', List.map_append, hwaves, recordedHandicaps_append, List.map_singleton,
            hhandicap, hselected]
          change data.waves.map _ ++ [((recordedHandicap _ _).or none).getD 0] = _
          rw [hrecorded, Option.or_none, List.nil_append]
        · rw [hrows, applyAll_append, hflatten, ← hkeeps'.handicaps, ← hrow]
          exact congrArg (fun rows => InsertionMap.get rows _)
            (Processing.applyAll_frame Processing.holds_processorRows (by decide) hrest _)

lemma exec_create_row {naming : Naming} {inputs : Inputs ColosseumProcessor}
    {txn txn' : Transaction CustomData} {customData : Option CustomData}
    {db : Database CustomData StatsRow} {cs : List (Processing.Change CustomData StatsRow)}
    (h : (Processing.create (environment naming) inputs txn).exec db =
      .ok ((txn', customData), cs)) :
    customData = some {} ∧
      (applyAll cs db).processorRows.get (txn'.challengeId, 0) = some [] := by
  unfold Processing.create at h
  simp only [Program.exec_bind_ok] at h
  obtain ⟨txn, cs₁, _, -, ⟨p, cs₂, _, h₂, h₃, rfl⟩, rfl⟩ := h
  obtain ⟨hp, rfl⟩ := Processing.exec_answer h₂
  cases hp
  simp only [Program.exec_bind_ok] at h₃
  obtain ⟨p, cs₃, _, h₃, ⟨_, cs₄, _, h₄, h₅, rfl⟩, rfl⟩ := h₃
  obtain ⟨-, rfl⟩ := Processing.exec_answer h₄
  obtain ⟨h₅, rfl⟩ := Program.exec_pure_ok.mp h₅
  cases h₅
  obtain ⟨_, cs₆, _, h₆, h₇, rfl⟩ := Program.exec_bind_ok.mp h₃
  obtain ⟨rfl, rfl⟩ := Program.exec_pure_ok.mp h₇
  cases Program.exec_write_ok.mp h₆
  refine ⟨rfl, ?_⟩
  simp only [List.append_nil, List.nil_append, applyAll_append, applyAll_cons, applyAll_nil]
  change (InsertionMap.set _ _ _).get _ = _
  rw [InsertionMap.get_set, if_pos rfl]

lemma stored_create {naming : Naming} {a : Attempt ColosseumProcessor} {seq : JournalSeq}
    (hcreate : a.trigger = .create seq) {payload : ProcessingPayload}
    {db : Database CustomData StatsRow} {cs : List (Processing.Change CustomData StatsRow)}
    (happlies : a.Applies (environment naming) db payload cs) :
    Stored a.inputs.info.uuid a.inputs.ids.challenge [] (applyAll cs db) := by
  obtain ⟨opens, performs, commits⟩ := happlies
  rename_i txn txn' customData performed committed u
  obtain ⟨htrigger, hdel, -⟩ := Processing.startTransaction_pass opens
  rw [hcreate] at htrigger
  unfold perform at performs
  rw [htrigger] at performs
  dsimp only at performs
  obtain ⟨⟨_, _⟩, cs₁, _, hexec, hpure, rfl⟩ := Program.exec_bind_ok.mp performs
  obtain ⟨hpure, rfl⟩ := Program.exec_pure_ok.mp hpure
  cases hpure
  obtain ⟨rfl, hrow⟩ := exec_create_row hexec
  obtain ⟨rfl, hid⟩ := Processing.exec_create hexec
  rw [List.append_nil] at commits ⊢
  rw [applyAll_append]
  refine ⟨hid.exec ((Processing.writes_commit _ _ _).mono
    fun _ => Processing.Change.IsCursor.keepsId) commits, ⟨{}, ?_, ⟨fun _ => rfl, rfl⟩, rfl⟩, ?_⟩
  · exact @Processing.customData_commit CustomData StatsRow _
      { txn with challengeId := a.inputs.ids.challenge } hdel (by rw [htrigger]; rfl)
      _ _ _ _ commits
  · refine Eq.trans ?_ hrow
    exact congrArg (fun rows => InsertionMap.get rows _)
      (Processing.applyAll_frame Processing.holds_processorRows (by decide)
        (Processing.frame_commit commits) _)

lemma Stored.runs {naming : Naming} {uuid : Uuid} {id : ℕ} {waves : List (List ℕ)}
    {start finish : Database CustomData StatsRow} (h : Stored uuid id waves start)
    (hknown : ∀ b ∈ waves.flatten, b < numHandicaps)
    {runs : List (WaveRun × Reply ProcessingPayload)}
    (hruns : Runs (environment naming) start (runs.map fun run => (run.1.attempt, run.2)) finish)
    (huuid : ∀ run ∈ runs, run.1.attempt.inputs.info.uuid = uuid)
    (hopen : ∀ run ∈ runs, run.1.attempt.trigger.isFinish = false)
    (hevents : ∀ run ∈ runs, ∀ b ∈ choicesIn run.1.events, b < numHandicaps) :
    Stored uuid id (waves ++ wavesOf runs) finish ∧
      ∀ b ∈ (waves ++ wavesOf runs).flatten, b < numHandicaps := by
  induction runs generalizing waves start with
  | nil =>
    cases hruns
    simpa [wavesOf] using And.intro h hknown
  | cons run runs ih =>
    rw [List.map_cons] at hruns
    cases hruns with
    | @next _ _ _ cs _ _ hrun hrest =>
      have hmem : ∀ r ∈ runs, r ∈ run :: runs := fun r hr => List.mem_cons_of_mem _ hr
      have hstep : Stored uuid id (waves ++ run.1.wave run.2) (applyAll cs start) := by
        rcases Attempt.run_cases hrun with ⟨payload, hreply, -, rfl⟩ | ⟨payload, hreply, happlies⟩
        · rw [hreply]
          change Stored uuid id (waves ++ []) start
          rwa [List.append_nil]
        · rw [hreply]
          exact h.applies hknown happlies (huuid run List.mem_cons_self)
            (hopen run List.mem_cons_self) (hevents run List.mem_cons_self)
      have hwave : ∀ b ∈ (waves ++ run.1.wave run.2).flatten, b < numHandicaps := by
        intro b hb
        rw [List.flatten_append] at hb
        rcases List.mem_append.mp hb with hb | hb
        · exact hknown b hb
        · unfold WaveRun.wave at hb
          split at hb
          · rw [List.flatten_singleton] at hb
            exact hevents run List.mem_cons_self b hb
          · cases hb
      have hall := ih hstep hwave hrest (fun r hr => huuid r (hmem r hr))
        (fun r hr => hopen r (hmem r hr)) fun r hr => hevents r (hmem r hr)
      have hwaves : waves ++ wavesOf (run :: runs) =
          waves ++ run.1.wave run.2 ++ wavesOf runs := by
        rw [List.append_assoc]
        rfl
      rwa [hwaves]

/-- **Handicaps are kept exactly**: what is written of a challenge in the Colosseum, and what is
stored for its next wave, tells the choices of the waves processed so far. So does what the
challenge server stores. -/
theorem handicaps_exact (naming : Naming) {start finish : Database CustomData StatsRow}
    {create : Attempt ColosseumProcessor} {seq : JournalSeq} {reply : Reply ProcessingPayload}
    {runs : List (WaveRun × Reply ProcessingPayload)}
    (hcreate : create.trigger = .create seq) (hgone : Gone create.inputs.info.uuid start)
    (hruns : Runs (environment naming) start
      ((create, reply) :: runs.map fun run => (run.1.attempt, run.2)) finish)
    (huuid : ∀ run ∈ runs, run.1.attempt.inputs.info.uuid = create.inputs.info.uuid)
    (hopen : ∀ run ∈ runs, run.1.attempt.trigger.isFinish = false)
    (hknown : ∀ run ∈ runs, ∀ base ∈ choicesIn run.1.events, base < numHandicaps) :
    (∃ written data,
      finish.processorRows.get (create.inputs.ids.challenge, 0) = some written ∧
        finish.customData create.inputs.ids.challenge = some data ∧
        Exact (wavesOf runs) written data.handicaps (data.waves.map WaveData.handicap)) ∧
      ∀ (waves : List ChallengeServer.Wave) (data : ChallengeServer.CustomData),
        (ChallengeServer.processWaves waves).1 = some data →
        Exact (waves.map ChallengeServer.Wave.handicaps) (ChallengeServer.processWaves waves).2
          data.colosseumData.handicaps (data.colosseumData.waves.map WaveData.handicap) := by
  refine ⟨?_, ChallengeServer.exact_processWaves⟩
  cases hruns with
  | @next _ _ _ cs _ _ hrun hrest =>
    have hcreated : Stored create.inputs.info.uuid create.inputs.ids.challenge []
        (applyAll cs start) := by
      rcases Attempt.run_cases hrun with ⟨payload, -, hopens, -⟩ | ⟨payload, -, happlies⟩
      · unfold startTransaction at hopens
        rw [show start.challenges.get create.inputs.info.uuid = none from hgone, hcreate] at hopens
        cases hopens
      · exact stored_create hcreate happlies
    obtain ⟨hstored, hall⟩ := hcreated.runs (by rintro b ⟨⟩) hrest huuid hopen hknown
    rw [List.nil_append] at hstored hall
    obtain ⟨data, hdata, hkeeps, hrecorded⟩ := hstored.customData
    refine ⟨_, data, hstored.row, hdata, ?_⟩
    rw [hkeeps.handicaps]
    exact exact_packed hall hrecorded

/-! ### A handicap chosen twice -/

section Blasphemy

def emptyDatabase : Database CustomData StatsRow where
  challenges := ∅
  processingState := ∅
  challengePlayers := ∅
  recordedChallenges := ∅
  challengeSplits := ∅
  personalBestHistory := ∅
  queryableEvents := ∅
  sessions := ∅
  players := ∅
  playerStats := ∅
  processorRows := ∅

def waveInfo (stage : Stage) : ChallengeInfo :=
  { uuid := 7, sessionUuid := 8, challengeType := .colosseum, mode := .noMode
    party := ["wwwwwwwwwwwq"], partyChanged := false, stage, stageAttempt := none
    status := .inProgress, createdUnixMs := 1000, finishedUnixMs := none, reportedTimes := none }

def blasphemyChoice : Event :=
  { type := .colosseumHandicapChoice, handicap := some 4, handicapOptions := [4, 5, 12] }

/-- What the streams of a wave are merged to. -/
def interpretOutput (stage : Stage) (events : List Event) (p : ColosseumProcessor) :
    Option Processing.InterpretOutput × ColosseumProcessor :=
  match interpret p events with
  | .ok p' =>
    (some
      { events :=
          { lastTick := 90, missingTickCount := 0, preciseServerTickCount := true
            accurateUntil := 91, queryableUntil := 91, status := .completed
            lastTick_lt := by decide }
        ctx := .new stage ["wwwwwwwwwwwq"], queryable := fun _ => [] }, p')
  | .error _ => (none, p)

lemma waveChallenge_pos : 0 < 5 := by decide

def waveAttempt (trigger : Trigger) (stage : Stage) (events : List Event) :
    Attempt ColosseumProcessor where
  trigger
  inputs :=
    { info := waveInfo stage
      recorded := .ok (interpretOutput stage events)
      saveChallenge := .ok ()
      saveStageEvents := .ok ()
      deleteChallenge := .ok ()
      prices _ := none
      now := 6000
      ids := ⟨5, waveChallenge_pos, 6, fun _ => 9, fun n => stage.value + n,
        fun n => stage.value + n, id⟩ }

def blasphemyWave (seq : JournalSeq) (stage : Stage) : WaveRun where
  attempt := waveAttempt (.stage seq stage none) stage [blasphemyChoice]
  events := [blasphemyChoice]
  interprets f p output p' hf hp := by
    cases hf
    unfold interpretOutput at hp
    split at hp
    · next heq =>
      cases hp
      exact heq
    · cases hp
  empty f p p' hf hp := by
    cases hf
    unfold interpretOutput at hp
    split at hp
    · cases hp
    · cases hp
      rfl

def createAttempt : Attempt ColosseumProcessor := waveAttempt (.create 1) colosseumWave1 []

def blasphemyWaves : List (WaveRun × Reply ProcessingPayload) :=
  [(blasphemyWave 2 colosseumWave1, .applied (.stage .completed 90)),
    (blasphemyWave 3 ⟨101, by decide⟩, .applied (.stage .completed 90))]

/-- The two waves store the second level of Blasphemy, which is written twice. -/
theorem handicaps_exact_blasphemy : ∃ finish,
    Runs (environment ⟨id, id⟩) emptyDatabase ((createAttempt, .applied .none) ::
      blasphemyWaves.map fun run => (run.1.attempt, run.2)) finish ∧
    ∃ written data, finish.processorRows.get (5, 0) = some written ∧
      finish.customData 5 = some data ∧
      Exact [[4], [4]] written data.handicaps (data.waves.map WaveData.handicap) := by
  have hreplies : Processing.replies (environment ⟨id, id⟩)
      (createAttempt :: blasphemyWaves.map fun run => run.1.attempt) emptyDatabase =
      some (.applied .none :: blasphemyWaves.map Prod.snd) := by
    decide +kernel
  obtain ⟨finish, hruns⟩ : ∃ finish, Runs (environment ⟨id, id⟩) emptyDatabase
      ((createAttempt, .applied .none) ::
        blasphemyWaves.map fun run => (run.1.attempt, run.2)) finish := by
    exact Processing.runs_of_replies hreplies
  have hcreate : createAttempt.trigger = .create 1 := rfl
  have hgone : Gone createAttempt.inputs.info.uuid emptyDatabase := rfl
  refine ⟨finish, hruns, (handicaps_exact ⟨id, id⟩ hcreate hgone hruns ?_ ?_ ?_).1⟩
  all_goals
    intro run hrun
    fin_cases hrun <;> decide

end Blasphemy

end Blert.Colosseum

import Blert.Merging.Merger

/-!
Merge steps are atomic.

Between the steps of a merge no mapping is in flight, and only the base and the clients tried so
far are merged. A step that begins a mapping and does not merge its client discards the mapping,
and nothing else has changed by then.
-/

namespace Blert.Merging

def MergeContext.isMerged (ctx : MergeContext) (id : ClientId) : Prop :=
  (ctx.clients.get id).map RegisteredClient.status = some .merged

namespace MergeRun

def mergedClients (run : MergeRun) : List MergeClient :=
  run.mergeClients.filter (·.status = .merged)

/-! ### Recording a result -/

section Record

variable (run : MergeRun) (client : ClientEvents) (classification : MergeClientClassification)
  (outcome : MergeStepOutcome)

lemma isMerged_record (id : ClientId)
    (h : (run.recordMergeResult client classification outcome).timeline.ctx.isMerged id) :
    id = client.clientId ∨ run.timeline.ctx.isMerged id := by
  unfold MergeContext.isMerged recordMergeResult at h
  dsimp only at h
  rw [InsertionMap.get_modify] at h
  split_ifs at h with hid
  · exact .inl hid
  · exact .inr h

lemma isMerged_record_unmerged (houtcome : statusFromOutcome outcome ≠ .merged) (id : ClientId)
    (hid : id = client.clientId → ¬run.timeline.ctx.isMerged id) :
    (run.recordMergeResult client classification outcome).timeline.ctx.isMerged id ↔
      run.timeline.ctx.isMerged id := by
  unfold MergeContext.isMerged recordMergeResult at *
  dsimp only at *
  rw [InsertionMap.get_modify]
  split_ifs with h
  · refine iff_of_false ?_ (hid h)
    cases run.timeline.ctx.clients.get id with
    | none => simp
    | some c => simpa using houtcome
  · rfl

lemma mergedClients_record_unmerged (houtcome : statusFromOutcome outcome ≠ .merged) :
    (run.recordMergeResult client classification outcome).mergedClients = run.mergedClients := by
  unfold mergedClients recordMergeResult
  dsimp only
  rw [List.filter_append, List.filter_singleton]
  simp [createMergeClient, houtcome]

end Record

/-! ### A step -/

/-- What holds between the steps of a merge. -/
structure Settled (base : ClientId) (done : List MergeStep) (run : MergeRun) : Prop where
  idle : run.timeline.ctx.mapping.inFlight = none
  tried : ∀ id, run.timeline.ctx.isMerged id → id = base ∨ id ∈ done.map (·.client.clientId)

/-- What a step leaves of the merge if it does not merge its client. -/
structure Untouched (run next : MergeRun) : Prop where
  ticks : next.timeline.ticks = run.timeline.ticks
  mapping : next.timeline.ctx.mapping = run.timeline.ctx.mapping
  contested : next.timeline.ctx.contestedTicks = run.timeline.ctx.contestedTicks
  merged : next.mergedClients = run.mergedClients

variable {env : MergeEnv} {alignMismatched : Bool} {base : ClientId} {done : List MergeStep}
  {run : MergeRun}

lemma untouched_record (client : ClientEvents) (classification : MergeClientClassification)
    {outcome : MergeStepOutcome} (houtcome : statusFromOutcome outcome ≠ .merged) :
    Untouched run (run.recordMergeResult client classification outcome) where
  ticks := rfl
  mapping := rfl
  contested := rfl
  merged := mergedClients_record_unmerged run client classification outcome houtcome

lemma Settled.exec (h : Settled base done run) (step : MergeStep) :
    Settled base (done ++ [step]) (run.exec env alignMismatched step) where
  idle := by
    obtain ⟨_, _, -, heq⟩ | ⟨_, maps, result, _, heq⟩ := exec_cases h.idle step
    · rw [heq]
      exact h.idle
    · rw [heq]
      show (run.timeline.accept step.client.clientId maps result).ctx.mapping.inFlight = none
      rw [MergedTimeline.accept, mapping_recordContestedTicks]
      rfl
  tried id hid := by
    have hid : id = step.client.clientId ∨ run.timeline.ctx.isMerged id := by
      obtain ⟨_, _, -, heq⟩ | ⟨_, maps, result, _, heq⟩ :=
        @exec_cases env alignMismatched run h.idle step
      · rw [heq] at hid
        exact isMerged_record _ _ _ _ id hid
      · rw [heq] at hid
        refine (isMerged_record _ _ _ _ id hid).imp_right fun hid => ?_
        unfold MergeContext.isMerged MergedTimeline.accept at hid
        rwa [clients_recordContestedTicks] at hid
    rw [List.map_append, List.mem_append]
    rcases hid with rfl | hid
    · exact .inr (.inr (List.mem_singleton.mpr rfl))
    · exact (h.tried id hid).imp_right .inl

lemma Settled.execAll (h : Settled base done run) (steps : List MergeStep) :
    Settled base (done ++ steps) (run.execAll env alignMismatched steps) := by
  induction steps generalizing done run with
  | nil => rwa [List.append_nil]
  | cons step steps ih =>
    rw [List.append_cons]
    exact ih (h.exec step)

lemma mergeClients_exec (hidle : run.timeline.ctx.mapping.inFlight = none) (step : MergeStep) :
    ∃ record, record.id = step.client.clientId ∧
      (run.exec env alignMismatched step).mergeClients = run.mergeClients ++ [record] := by
  obtain ⟨_, _, -, heq⟩ | ⟨_, _, _, _, heq⟩ := exec_cases hidle step
  · exact ⟨_, rfl, congrArg mergeClients heq⟩
  · exact ⟨_, rfl, congrArg mergeClients heq⟩

lemma mergeClients_execAll (h : Settled base done run) (steps : List MergeStep) :
    run.mergeClients <+: (run.execAll env alignMismatched steps).mergeClients := by
  induction steps generalizing done run with
  | nil => exact List.prefix_refl _
  | cons step steps ih =>
    obtain ⟨record, -, heq⟩ := @mergeClients_exec env alignMismatched run h.idle step
    refine List.IsPrefix.trans ?_ (ih (h.exec step))
    rw [heq]
    exact List.prefix_append _ _

end MergeRun

/-! ### The start -/

lemma unmerged_registerClients (clients : List ClientEvents) {id : ClientId}
    {c : RegisteredClient} (h : (registerClients clients).get id = some c) :
    c.status = .unmerged := by
  refine List.foldlRecOn
    (motive := fun m : InsertionMap ClientId RegisteredClient =>
      ∀ id c, m.get id = some c → c.status = .unmerged)
    clients _ (by simp) (fun m hm client _ id c hget => ?_) id c h
  rw [InsertionMap.get_set] at hget
  split_ifs at hget
  · cases hget
    rfl
  · exact hm id c hget

section Start

variable {stage : Lifecycle.Stage} {clients : List ClientEvents} {start : MergeStart}

lemma settled_start (h : startMerge stage clients = some start) :
    start.run.Settled start.base.clientId [] := by
  obtain ⟨classified, -, h⟩ := Option.bind_eq_some_iff.mp h
  cases h
  refine ⟨rfl, fun id hid => .inl ?_⟩
  refine (MergeRun.isMerged_record _ _ _ _ id hid).resolve_right fun hid => ?_
  obtain ⟨c, hget, hstatus⟩ := Option.map_eq_some_iff.mp hid
  rw [unmerged_registerClients _ hget] at hstatus
  cases hstatus

lemma nodup_start (h : startMerge stage clients = some start)
    (hids : (clients.map ClientEvents.clientId).Nodup) :
    (start.base.clientId :: start.steps.map (·.client.clientId)).Nodup := by
  obtain ⟨classified, hclass, h⟩ := Option.bind_eq_some_iff.mp h
  cases h
  obtain ⟨hbase, hperm⟩ := perm_classifyClients hclass
  set bad := (sortClients clients).filter ClientEvents.badData
  set valid := (sortClients clients).filter (!·.badData)
  have hall : (bad ++ valid).Perm clients :=
    (List.filter_append_perm _ _).trans (List.perm_insertionSort _ _)
  have hdemote : (valid.map (demote valid)).map ClientEvents.clientId =
      valid.map ClientEvents.clientId := by
    rw [List.map_map]
    exact List.map_congr_left fun c _ => clientId_demote valid c
  have hnodup : (bad.map ClientEvents.clientId ++ valid.map ClientEvents.clientId).Nodup := by
    rw [← List.map_append]
    exact ((hall.map _).nodup_iff).mpr hids
  obtain ⟨hbad, hvalid, hdisj⟩ := List.nodup_append.mp hnodup
  have hbase : classified.base.clientId ∈ valid.map ClientEvents.clientId :=
    hdemote ▸ List.mem_map_of_mem hbase
  have hothers := hperm.map ClientEvents.clientId
  simp only [List.map_append, List.map_map]
  show (classified.base.clientId :: (classified.matching.map ClientEvents.clientId ++
    classified.mismatched.map ClientEvents.clientId ++ bad.map ClientEvents.clientId)).Nodup
  rw [← List.map_append, (((hothers.append_right _).cons _).nodup_iff), List.nodup_cons,
    List.mem_append, not_or]
  have hsub : (((valid.map (demote valid)).filter (·.clientId ≠ classified.base.clientId)).map
      ClientEvents.clientId).Sublist (valid.map ClientEvents.clientId) :=
    hdemote ▸ List.filter_sublist.map _
  refine ⟨⟨fun hmem => ?_, fun hmem => hdisj _ hmem _ hbase rfl⟩, ?_⟩
  · obtain ⟨c, hc, heq⟩ := List.mem_map.mp hmem
    exact of_decide_eq_true (List.mem_filter.mp hc).2 heq
  · exact List.nodup_append.mpr ⟨hvalid.sublist hsub, hbad,
      fun a ha b hb hab => hdisj b hb a (hsub.subset ha) hab.symm⟩

/-- **A merge step is atomic**: a client that ends up unmerged, as nothing of it aligns, its step is
rejected, or the step throws, leaves the ticks, the mappings, the contested ticks and the merged
clients as they were. -/
theorem step_atomic (env : MergeEnv) (alignMismatched : Bool) (stage : Lifecycle.Stage)
    (clients : List ClientEvents) {start : MergeStart} (hstart : startMerge stage clients = some start)
    {before after : List MergeStep} {step : MergeStep}
    (hsteps : start.steps = before ++ step :: after) :
    let run := start.run.execAll env alignMismatched before
    let next := run.exec env alignMismatched step
    ∃ record, next.mergeClients = run.mergeClients ++ [record] ∧
      record.id = step.client.clientId ∧
      record ∈ (start.run.execAll env alignMismatched start.steps).mergeClients ∧
      (record.status ≠ .merged → run.Untouched next ∧
        ((clients.map ClientEvents.clientId).Nodup →
          ∀ id, next.timeline.ctx.isMerged id ↔ run.timeline.ctx.isMerged id)) := by
  intro run next
  have hsettled : run.Settled start.base.clientId before :=
    (settled_start hstart).execAll before
  have hrest : start.run.execAll env alignMismatched start.steps =
      next.execAll env alignMismatched after := by
    rw [hsteps]
    unfold MergeRun.execAll
    rw [List.foldl_append]
    rfl
  have hkept : next.mergeClients <+: (next.execAll env alignMismatched after).mergeClients :=
    MergeRun.mergeClients_execAll (hsettled.exec step) after
  have hnew (id : ClientId) (hid : id = step.client.clientId)
      (hids : (clients.map ClientEvents.clientId).Nodup) : ¬run.timeline.ctx.isMerged id := by
    have hnodup := nodup_start hstart hids
    rw [hsteps, List.map_append, ← List.cons_append, List.nodup_append] at hnodup
    intro hmerged
    refine hnodup.2.2 id ?_ step.client.clientId (List.mem_cons_self ..) hid
    exact List.mem_cons.mpr (hsettled.tried id hmerged)
  rw [hrest]
  obtain ⟨classification, outcome, hstatus, heq⟩ | ⟨_, _, _, _, heq⟩ :=
    @MergeRun.exec_cases env alignMismatched run hsettled.idle step
  · have hnext : next = run.recordMergeResult step.client classification outcome := heq
    rw [hnext] at hkept ⊢
    refine ⟨_, rfl, rfl, hkept.subset (List.mem_append_right _ (List.mem_singleton_self _)), ?_⟩
    intro _
    refine ⟨MergeRun.untouched_record _ _ hstatus, fun hids id => ?_⟩
    exact MergeRun.isMerged_record_unmerged _ _ _ _ hstatus id fun hid => hnew id hid hids
  · refine ⟨_, congrArg MergeRun.mergeClients heq, rfl, ?_, fun hstatus => absurd rfl hstatus⟩
    refine hkept.subset ?_
    rw [show next.mergeClients = _ from congrArg MergeRun.mergeClients heq]
    exact List.mem_append_right _ (List.mem_singleton_self _)

end Start

/-! ### A step that throws -/

namespace Sample

def env : MergeEnv where
  defs :=
    { blowpipe := 1, blowpipeSpec := 2, zcbAuto := 3, zcbSpec := 4, dawnSpec := 5
      tobSoteBall := 6, tobSoteDeathBall := 7, tobVerzikP2Bounce := 8, tobVerzikP3Auto := 9
      attackCooldown := fun _ => some 4
      targetGraphics := fun _ => none }
  exp := fun _ => 1
  log := fun _ => 0

/-- An accurate client with one tick on which NPCs died, whose events may lack their payload. -/
def client (clientId : ClientId) (deaths : List (Option EventNpc)) : ClientEvents where
  clientId
  recordedTicks := 0
  accurate := true
  serverTicks := none
  primaryPlayer := none
  badData := false
  consistencyIssues := []
  corrections := []
  tickStates := [some (.new 0 (deaths.map fun npc =>
    { event := { type := .npcDeath, tick := 0, npc }, source := clientId }) ∅ ∅ ∅)]
  length_tickStates := rfl

/-- Two clients, the second of which reports a death of no NPC. -/
def clients : List ClientEvents := [client 1 [], client 2 [none]]

def start : MergeStart := (startMerge .tobMaiden clients).get rfl

def step : MergeStep := .merge (demote clients (client 2 [none])) .matching

end Sample

/-- The second client's step throws and leaves the merge as it was. -/
theorem step_atomic_thrown :
    Sample.start.run.Untouched (Sample.start.run.exec Sample.env true Sample.step) := by
  obtain ⟨record, heq, -, -, h⟩ := step_atomic Sample.env true .tobMaiden Sample.clients
    (show _ = some Sample.start from rfl) (show _ = [] ++ Sample.step :: [] from rfl)
  have hstatus : (Sample.start.run.exec Sample.env true Sample.step).mergeClients.map
      MergeClient.status = [.merged] ++ [.unmerged] := by decide +kernel
  have heq : (Sample.start.run.exec Sample.env true Sample.step).mergeClients =
    Sample.start.run.mergeClients ++ [record] := heq
  rw [heq, List.map_append] at hstatus
  have hrecord : [record.status] = [.unmerged] := List.append_inj_right' hstatus rfl
  rw [List.singleton_inj] at hrecord
  exact (h (by rw [hrecord]; nofun)).1

end Blert.Merging

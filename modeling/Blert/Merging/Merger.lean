import Blert.Fallible
import Blert.Merging.Confidence
import Blert.Merging.MergeConsistency
import Blert.Merging.TrustedPrefixes

/-!
Merging the clients of a stage.

A merge starts from its base client and goes through the others step by step. A step numbers the
ticks of the timeline anew, consolidates the client's ticks into a copy of it, and keeps the copy
if it is consistent and the confidence in it is high enough. What a step throws is caught, and the
client left out. At the end, the timeline is aligned with the end of the stage.
-/

namespace Blert.Merging

open Fallible
open Confidence (StepConfidence defaultConfidenceWeights)

/-- What a merge computes with: generated definitions, and the functions of its scores. -/
structure MergeEnv where
  defs : Definitions
  exp : ℚ → ℚ
  log : ℚ → ℚ

/-! ### Outcomes of steps -/

inductive MergeClientClassification
  /-- The client was selected as the reference client. -/
  | reference
  /-- The client matches the tick count of the reference. -/
  | matching
  /-- The client differs from the reference in tick count. -/
  | mismatched

inductive RejectionReason
  | postMergeConsistency | lowMergeConfidence

structure StepRejection where
  reason : RejectionReason
  issues : List MergeConsistencyIssue

inductive MergeStepOutcome
  | merged (flags : List QualityFlag) (confidence : Option StepConfidence)
  | unmerged (flags : List QualityFlag)
  | skipped (flags : List QualityFlag)
  | rejected (flags : List QualityFlag) (rejection : StepRejection)

namespace MergeStepOutcome

def flags : MergeStepOutcome → List QualityFlag
  | merged flags _ | unmerged flags | skipped flags | rejected flags _ => flags

def confidence : MergeStepOutcome → Option StepConfidence
  | merged _ confidence => confidence
  | _ => none

def rejection : MergeStepOutcome → Option StepRejection
  | rejected _ rejection => some rejection
  | _ => none

end MergeStepOutcome

def statusFromOutcome : MergeStepOutcome → MergeClientStatus
  | .merged .. => .merged
  | .skipped .. => .skipped
  | .unmerged .. | .rejected .. => .unmerged

structure MergeClient where
  id : ClientId
  primaryPlayer : Option String
  status : MergeClientStatus
  classification : MergeClientClassification
  sequenceNumber : ℕ
  recordedTicks : ℕ
  serverTicks : Option ServerTicks
  derivedAccurate : Bool
  consistencyIssues : List ℕ
  qualityFlags : List QualityFlag
  rejectionReason : Option RejectionReason
  mergeIssues : List MergeConsistencyIssue
  /-- Lowest segment score reported by the merge step's confidence check. -/
  worstSegmentScore : Option ℚ

def createMergeClient (client : ClientEvents) (classification : MergeClientClassification)
    (sequenceNumber : ℕ) (outcome : MergeStepOutcome) : MergeClient :=
  { id := client.clientId
    primaryPlayer := client.primaryPlayer
    status := statusFromOutcome outcome
    classification
    sequenceNumber
    recordedTicks := client.getFinalTick
    serverTicks := client.serverTicks
    derivedAccurate := client.isAccurate
    consistencyIssues := client.consistencyIssues
    qualityFlags := outcome.flags
    rejectionReason := outcome.rejection.map StepRejection.reason
    mergeIssues := (outcome.rejection.map StepRejection.issues).getD []
    worstSegmentScore := do
      let confidence ← outcome.confidence
      let worstIdx ← confidence.structural.worstSegmentIdx
      (confidence.structural.segments[worstIdx]?).map (·.score) }

/-! ### The merged timeline -/

structure MergedTimeline where
  ticks : TickStateArray
  ctx : MergeContext
  reference : ReferenceSelection
  preciseServerTickCount : Bool
  inheritedAccurate : Bool

namespace MergedTimeline

def new (base : ClientEvents) (ctx : MergeContext) (reference : ReferenceSelection) :
    MergedTimeline where
  ticks := base.tickStates.map (Option.map TickState.clone)
  ctx
  reference
  preciseServerTickCount :=
    reference.method = .preciseServer ∨ reference.method = .accurateModal
  inheritedAccurate := base.isAccurate

def minMergeConfidenceThreshold : ℚ := 3 / 4

def rejectionReason (issues : List MergeConsistencyIssue) : RejectionReason :=
  if issues ≠ [] then .postMergeConsistency else .lowMergeConfidence

section Step

variable (env : MergeEnv) (w : MergedTimeline) (client : ClientEvents)

def runAlignment : AlignmentResult :=
  align (SimilarityScorer.score env.defs env.exp) w.ticks client.tickStates .default

/-- The mappings of a merge step and the alignment they come from, which accurate clients have
none of. Without mappings there is nothing to merge. -/
def stepMappings (alignMismatched : Bool) : Option (Option AlignmentResult × Mappings) :=
  if w.inheritedAccurate && client.isAccurate then
    some (none, { base := .identity w.ticks.length
                  target := .identity client.tickStates.length
                  mergedTickCount := w.ticks.length })
  else if !alignMismatched then none
  else
    let alignment := w.runAlignment env client
    if alignment.alignments.isEmpty then none
    else some (some alignment, fromAlignment w.ticks.length client.tickStates.length
      (alignment.alignments.map LocalAlignment.entries))

/-- What a step that has begun does. Consolidation works on clones of the ticks, so that the
timeline is as it was until the result replaces it. -/
def tryMerge (alignment : Option AlignmentResult) :
    Except MergeError (MergedTimeline × MergeStepOutcome) := do
  let result ← consolidate env.defs w.ctx w.ticks client.tickStates
  let confidence := scoreStepConfidence env.exp env.log alignment result.counters
    result.qualityFlags defaultConfidenceWeights defaultBaselineCompatibilityWeight
  let issues ← MergeConsistencyChecker.check env.defs w.ctx.stage result.ticks
  if issues ≠ [] ∨ confidence.overall < minMergeConfidenceThreshold then
    return ({ w with ctx.mapping := w.ctx.mapping.discard },
      .rejected result.qualityFlags { reason := rejectionReason issues, issues })
  let ctx := { w.ctx with mapping := w.ctx.mapping.commit }
  return ({ w with
      ticks := result.ticks
      ctx := recordContestedTicks ctx client.clientId result.qualityFlags },
    .merged result.qualityFlags confidence)

/-- Merges events from a client into the timeline. What is thrown on the way goes on to the
caller, after the mappings of the step have been discarded. -/
def mergeEventsFrom (alignMismatched : Bool) :
    MergedTimeline × Except MergeError MergeStepOutcome :=
  match w.stepMappings env client alignMismatched with
  | none => (w, .ok (.unmerged []))
  | some (alignment, mappings) =>
    let begun := { w with ctx.mapping := w.ctx.mapping.begin client.clientId mappings }
    match begun.tryMerge env client alignment with
    | .ok (w, outcome) => (w, .ok outcome)
    | .error e => ({ begun with ctx.mapping := begun.ctx.mapping.discard }, .error e)

end Step

/-! ### The end of a merge -/

/-- Moves a tick towards the end of the stage. -/
def shiftTickState (offset : ℕ) (tick : Option TickState × ℕ) :
    Except MergeError (Option TickState) :=
  match tick.1 with
  | none => return none
  | some state => do
    let events ← state.events.mapM fun t => remapEventTick t fun tick => return tick + offset
    return some (TickState.new (tick.2 + offset : ℕ) events state.playerStates state.npcs
      state.graphics)

/-- Aligns the end of the timeline with the reference count, if a client reported an in-game tick
count. Returns the number of leading ticks the timeline was shifted by. -/
def endAlignToReference (w : MergedTimeline) : Except MergeError (MergedTimeline × ℕ) :=
  let offset := w.reference.count + 1 - w.ticks.length
  if w.reference.method = .recordedTicks ∨ offset = 0 then return (w, 0)
  else do
    let shifted ← w.ticks.zipIdx.mapM (shiftTickState offset)
    return ({ w with ticks := List.replicate offset none ++ shifted }, offset)

end MergedTimeline

structure MergedEventsMetadata where
  lastTick : ℕ
  missingTickCount : ℕ
  preciseServerTickCount : Bool
  accurateUntil : ℕ
  queryableUntil : ℕ

def MergedTimeline.finalizeMerge (w : MergedTimeline) : Except MergeError MergedEventsMetadata := do
  let (w, offset) ← w.endAlignToReference
  let trustedPrefixes := computeTrustedPrefixes w.ctx
    { totalTicks := w.ticks.length, offset, inheritedAccuracy := w.inheritedAccurate
      referenceMethod := w.reference.method }
  return { lastTick := w.ticks.length - 1
           missingTickCount := w.ticks.countP Option.isNone
           preciseServerTickCount := w.preciseServerTickCount
           accurateUntil := trustedPrefixes.accurateUntil
           queryableUntil := trustedPrefixes.queryableUntil }

/-! ### Runs -/

/-- The timeline merged so far and the clients that have been tried. -/
structure MergeRun where
  timeline : MergedTimeline
  mergeClients : List MergeClient

/-- What is done with a client after the base. -/
inductive MergeStep
  | merge (client : ClientEvents) (classification : MergeClientClassification)
  /-- The data of the client failed validation. -/
  | skip (client : ClientEvents)

def MergeStep.client : MergeStep → ClientEvents
  | merge client _ => client
  | skip client => client

namespace MergeRun

def recordMergeResult (run : MergeRun) (client : ClientEvents)
    (classification : MergeClientClassification) (outcome : MergeStepOutcome) : MergeRun :=
  let status := statusFromOutcome outcome
  let clients := run.timeline.ctx.clients.modify client.clientId fun c => { c with status }
  { timeline := { run.timeline with ctx.clients := clients }
    mergeClients := run.mergeClients ++
      [createMergeClient client classification run.mergeClients.length outcome] }

variable (env : MergeEnv) (alignMismatched : Bool)

/-- Merges a client. An error leaves the client unmerged. -/
def mergeFrom (run : MergeRun) (client : ClientEvents)
    (classification : MergeClientClassification) : MergeRun :=
  match run.timeline.mergeEventsFrom env client alignMismatched with
  | (timeline, .ok outcome) => { run with timeline }.recordMergeResult client classification outcome
  | (timeline, .error _) =>
    { run with timeline }.recordMergeResult client classification (.unmerged [])

def exec (run : MergeRun) : MergeStep → MergeRun
  | .merge client classification => run.mergeFrom env alignMismatched client classification
  | .skip client => run.recordMergeResult client .mismatched (.skipped [])

def execAll (run : MergeRun) (steps : List MergeStep) : MergeRun :=
  steps.foldl (exec env alignMismatched) run

end MergeRun

/-- A merge that has classified its clients and is left with the steps after the base. -/
structure MergeStart where
  base : ClientEvents
  run : MergeRun
  steps : List MergeStep

/-- The clients in the order of a merge, the longest first. -/
def sortClients (clients : List ClientEvents) : List ClientEvents :=
  clients.insertionSort fun a b =>
    b.getFinalTick < a.getFinalTick ∨ b.getFinalTick = a.getFinalTick ∧ a.clientId ≤ b.clientId

def registerClients (clients : List ClientEvents) : InsertionMap ClientId RegisteredClient :=
  clients.foldl (fun m client => m.set client.clientId { client, status := .unmerged }) ∅

/-- Starts a merge from its base. There is none if no client's data is valid. -/
def startMerge (stage : Lifecycle.Stage) (clients : List ClientEvents) : Option MergeStart := do
  let sorted := sortClients clients
  let badDataClients := sorted.filter ClientEvents.badData
  let validClients := sorted.filter (!·.badData)
  let classified ← classifyAndUpdateClients validClients
  let ctx : MergeContext :=
    { stage
      -- Demoting a client also demotes its registered one.
      clients := registerClients (sorted.map fun c =>
        if c.badData then c else demote validClients c)
      mapping := .new classified.base.clientId
      contestedTicks := ∅ }
  let timeline := MergedTimeline.new classified.base ctx classified.referenceTicks
  let run : MergeRun := { timeline, mergeClients := [] }
  return { base := classified.base
           run := run.recordMergeResult classified.base .reference (.merged [] none)
           steps := classified.matching.map (.merge · .matching) ++
             classified.mismatched.map (.merge · .mismatched) ++ badDataClients.map .skip }

structure MergeResult where
  events : MergedEventsMetadata
  clients : List MergeClient
  mergedCount : ℕ
  unmergedCount : ℕ
  skippedCount : ℕ
  referenceSelection : ReferenceSelection

/-- Combines events from the clients into a single event stream. -/
def merge (env : MergeEnv) (alignMismatched : Bool) (stage : Lifecycle.Stage)
    (clients : List ClientEvents) : Except MergeError (Option MergeResult) :=
  match startMerge stage clients with
  | none => return none
  | some start => do
    let run := start.run.execAll env alignMismatched start.steps
    let events ← run.timeline.finalizeMerge
    return some
      { events
        clients := run.mergeClients
        mergedCount := run.mergeClients.countP (·.status = .merged)
        unmergedCount := run.mergeClients.countP (·.status = .unmerged)
        skippedCount := run.mergeClients.countP (·.status = .skipped)
        referenceSelection := run.timeline.reference }

/-! ### What a step does -/

section Step

variable {env : MergeEnv} {alignMismatched : Bool} {client : ClientEvents}

namespace MergedTimeline

variable {w w' : MergedTimeline} {outcome : MergeStepOutcome}

/-- The timeline after a step that was accepted. -/
def accept (w : MergedTimeline) (clientId : ClientId) (maps : Mappings)
    (result : ConsolidationResult) : MergedTimeline :=
  { w with
    ticks := result.ticks
    ctx := recordContestedTicks
      { w.ctx with mapping := (w.ctx.mapping.begin clientId maps).commit } clientId
      result.qualityFlags }

def consolidateStep (env : MergeEnv) (w : MergedTimeline) (client : ClientEvents)
    (maps : Mappings) : Except MergeError ConsolidationResult :=
  consolidate env.defs { w.ctx with mapping := w.ctx.mapping.begin client.clientId maps } w.ticks
    client.tickStates

/-- A step whose mappings are in flight is consistent, and there is enough confidence in it. -/
structure Accepts (env : MergeEnv) (w : MergedTimeline) (client : ClientEvents)
    (alignment : Option AlignmentResult) (maps : Mappings) (result : ConsolidationResult) :
    Prop where
  consolidated : w.consolidateStep env client maps = .ok result
  consistent : MergeConsistencyChecker.check env.defs w.ctx.stage result.ticks = .ok []
  confident : minMergeConfidenceThreshold ≤ (scoreStepConfidence env.exp env.log alignment
    result.counters result.qualityFlags defaultConfidenceWeights
    defaultBaselineCompatibilityWeight).overall

def begun (w : MergedTimeline) (clientId : ClientId) (maps : Mappings) : MergedTimeline :=
  { w with ctx.mapping := w.ctx.mapping.begin clientId maps }

lemma tryMerge_cases (env : MergeEnv) (w : MergedTimeline) (client : ClientEvents)
    (alignment : Option AlignmentResult) (maps : Mappings) :
    ((∀ result, ¬w.Accepts env client alignment maps result) ∧
      ((∃ e, (w.begun client.clientId maps).tryMerge env client alignment = .error e) ∨
        ∃ outcome, statusFromOutcome outcome = .unmerged ∧
          (w.begun client.clientId maps).tryMerge env client alignment =
            .ok ({ w with ctx.mapping := (w.ctx.mapping.begin client.clientId maps).discard },
              outcome))) ∨
    ∃ result confidence, w.Accepts env client alignment maps result ∧
      (w.begun client.clientId maps).tryMerge env client alignment =
        .ok (w.accept client.clientId maps result, .merged result.qualityFlags confidence) := by
  have htry : (w.begun client.clientId maps).tryMerge env client alignment =
    (w.consolidateStep env client maps >>= fun result =>
      MergeConsistencyChecker.check env.defs w.ctx.stage result.ticks >>= fun issues => _) := rfl
  cases hresult : w.consolidateStep env client maps with
  | error e =>
    rw [hresult] at htry
    refine .inl ⟨fun result h => ?_, .inl ⟨e, htry.trans rfl⟩⟩
    rw [h.consolidated] at hresult
    cases hresult
  | ok result =>
    rw [hresult] at htry
    have hunique {result'} (h : w.Accepts env client alignment maps result') :
        result' = result := by
      rw [h.consolidated] at hresult
      cases hresult
      rfl
    cases hissues : MergeConsistencyChecker.check env.defs w.ctx.stage result.ticks with
    | error e =>
      refine .inl ⟨fun result' h => ?_, .inl ⟨e, ?_⟩⟩
      · have hconsistent := h.consistent
        rw [hunique h, hissues] at hconsistent
        cases hconsistent
      · rw [htry]
        show MergeConsistencyChecker.check env.defs w.ctx.stage result.ticks >>= _ = _
        rw [hissues]
        rfl
    | ok issues =>
      let confidence := scoreStepConfidence env.exp env.log alignment result.counters
        result.qualityFlags defaultConfidenceWeights defaultBaselineCompatibilityWeight
      have htry : (w.begun client.clientId maps).tryMerge env client alignment =
          if issues ≠ [] ∨ confidence.overall < minMergeConfidenceThreshold then
            .ok ({ w with ctx.mapping := (w.ctx.mapping.begin client.clientId maps).discard },
              .rejected result.qualityFlags { reason := rejectionReason issues, issues })
          else .ok (w.accept client.clientId maps result, .merged result.qualityFlags confidence) := by
        rw [htry]
        show MergeConsistencyChecker.check env.defs w.ctx.stage result.ticks >>= _ = _
        rw [hissues]
        rfl
      by_cases hreject : issues ≠ [] ∨ confidence.overall < minMergeConfidenceThreshold
      · rw [if_pos hreject] at htry
        refine .inl ⟨fun result' h => ?_, .inr ⟨_, rfl, htry⟩⟩
        obtain rfl := hunique h
        have hconsistent := h.consistent
        rw [hissues] at hconsistent
        cases hconsistent
        exact hreject.elim (fun h => h rfl) (not_lt.mpr h.confident)
      · rw [if_neg hreject] at htry
        rw [not_or, not_ne_iff, not_lt] at hreject
        obtain ⟨rfl, hconfident⟩ := hreject
        exact .inr ⟨result, confidence, ⟨hresult, hissues, hconfident⟩, htry⟩

lemma mergeEventsFrom_cases (hidle : w.ctx.mapping.inFlight = none) :
    ((∀ alignment maps result,
        w.stepMappings env client alignMismatched = some (alignment, maps) →
          ¬w.Accepts env client alignment maps result) ∧
      ∃ outcome, w.mergeEventsFrom env client alignMismatched = (w, outcome) ∧
        ∀ o, outcome = .ok o → statusFromOutcome o = .unmerged) ∨
    ∃ alignment maps result confidence,
      w.stepMappings env client alignMismatched = some (alignment, maps) ∧
      w.Accepts env client alignment maps result ∧
      w.mergeEventsFrom env client alignMismatched =
        (w.accept client.clientId maps result, .ok (.merged result.qualityFlags confidence)) := by
  have hdiscard (maps : Mappings) :
      (w.ctx.mapping.begin client.clientId maps).discard = w.ctx.mapping := by
    show { w.ctx.mapping with inFlight := none } = _
    rw [← hidle]
  unfold mergeEventsFrom
  cases hmaps : w.stepMappings env client alignMismatched with
  | none => exact .inl ⟨nofun, .ok (.unmerged []), rfl, by rintro _ ⟨⟩; rfl⟩
  | some step =>
    obtain ⟨alignment, maps⟩ := step
    dsimp only
    rw [show ({ w with ctx.mapping := w.ctx.mapping.begin client.clientId maps } : MergedTimeline) =
      w.begun client.clientId maps from rfl]
    obtain ⟨hnot, ⟨e, htry⟩ | ⟨outcome, hstatus, htry⟩⟩ | ⟨result, confidence, haccepts, htry⟩ :=
      tryMerge_cases env w client alignment maps
    · rw [htry]
      refine .inl ⟨?_, .error e, ?_, ?_⟩
      · rintro _ _ result ⟨⟩
        exact hnot result
      · show (({ w with ctx.mapping := _ } : MergedTimeline), _) = _
        rw [hdiscard maps]
      · rintro _ ⟨⟩
    · rw [htry]
      refine .inl ⟨?_, .ok outcome, ?_, ?_⟩
      · rintro _ _ result ⟨⟩
        exact hnot result
      · show (({ w with ctx.mapping := _ } : MergedTimeline), _) = _
        rw [hdiscard maps]
      · rintro _ ⟨⟩
        exact hstatus
    · rw [htry]
      exact .inr ⟨alignment, maps, result, confidence, rfl, haccepts, rfl⟩

end MergedTimeline

namespace MergeRun

variable {run : MergeRun}

/-- A client is recorded with the outcome of its step, on the timeline as it was unless the step
is accepted. -/
lemma mergeFrom_cases (hidle : run.timeline.ctx.mapping.inFlight = none)
    (classification : MergeClientClassification) :
    ((∀ alignment maps result,
        run.timeline.stepMappings env client alignMismatched = some (alignment, maps) →
          ¬run.timeline.Accepts env client alignment maps result) ∧
      ∃ outcome, statusFromOutcome outcome ≠ .merged ∧
        run.mergeFrom env alignMismatched client classification =
          run.recordMergeResult client classification outcome) ∨
    ∃ alignment maps result confidence,
      run.timeline.stepMappings env client alignMismatched = some (alignment, maps) ∧
      run.timeline.Accepts env client alignment maps result ∧
      run.mergeFrom env alignMismatched client classification =
        ({ run with timeline := run.timeline.accept client.clientId maps result } :
          MergeRun).recordMergeResult client classification
            (.merged result.qualityFlags confidence) := by
  unfold mergeFrom
  obtain ⟨hnot, outcome, h, hstatus⟩ | ⟨alignment, maps, result, confidence, hmaps, haccepts, h⟩ :=
    MergedTimeline.mergeEventsFrom_cases hidle
  · left
    rw [h]
    cases outcome with
    | error e => exact ⟨hnot, .unmerged [], nofun, rfl⟩
    | ok o =>
      refine ⟨hnot, o, ?_, rfl⟩
      rw [hstatus o rfl]
      nofun
  · right
    rw [h]
    exact ⟨alignment, maps, result, confidence, hmaps, haccepts, rfl⟩

lemma exec_cases (hidle : run.timeline.ctx.mapping.inFlight = none) (step : MergeStep) :
    (∃ classification outcome, statusFromOutcome outcome ≠ .merged ∧
      run.exec env alignMismatched step =
        run.recordMergeResult step.client classification outcome) ∨
    ∃ classification maps result confidence,
      run.exec env alignMismatched step =
        ({ run with timeline := run.timeline.accept step.client.clientId maps result } :
          MergeRun).recordMergeResult step.client classification
            (.merged result.qualityFlags confidence) := by
  cases step with
  | skip client => exact .inl ⟨.mismatched, .skipped [], nofun, rfl⟩
  | merge client classification =>
    obtain ⟨-, outcome, hstatus, h⟩ | ⟨_, maps, result, confidence, -, -, h⟩ :=
      mergeFrom_cases hidle classification
    · exact .inl ⟨classification, outcome, hstatus, h⟩
    · exact .inr ⟨classification, maps, result, confidence, h⟩

end MergeRun

end Step

end Blert.Merging

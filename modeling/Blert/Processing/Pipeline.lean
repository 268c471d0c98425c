import Blert.GuardedAttempts
import Blert.Processing.Challenge

/-!
The event processing pipeline.

A run opens a transaction, which is refused if its step has been applied before, does what its
trigger demands, and advances the challenge's processing cursor as it commits.
-/

namespace Blert.Processing

open Lifecycle ReadCommitted

variable {σ Custom Own : Type}

/-! ### Stages -/

section Stage

variable (env : Environment σ Custom Own) (inputs : Inputs σ)

def persist (txn : Transaction Custom) (stored : StoredState Custom) (output : InterpretOutput)
    (p : σ) : Sql Custom Own (ProcessingPayload × σ) := do
  let info := inputs.info
  let (p, ctx, ticks) ← env.processor.onStageFinished p txn inputs.prices stored output.ctx
    info.stage output.events
  let output := { output with ctx }
  saveSplits inputs.ids inputs.now txn info
    (ctx.splits output.events.accurateUntil (output.events.status = .completed)) stored.players
  updatePlayers txn info.stage ctx stored.players
  updatePlayerStats inputs.now ctx.players stored.players
  writeQueryableEvents inputs.ids txn info output stored.players
  updateChallengeRow txn ticks ctx.deaths.length
  answer inputs.saveChallenge
  answer inputs.saveStageEvents
  return (.stage output.events.status output.events.lastTick, p)

/-- Processes a stage's events from its recorded streams. -/
def processStage (txn : Transaction Custom) :
    Sql Custom Own (ProcessingPayload × Option Custom) := do
  let interpret ← answer inputs.recorded
  let stored ← loadDatabaseState txn inputs.info
  match ← answer (env.processorFor inputs.info stored.customData) with
  | none => return (.none, none)
  | some p =>
    match interpret p with
    | (none, p) => return (.none, env.processor.customData p)
    | (some output, p) => do
      let (payload, p) ← persist env inputs txn stored output p
      return (payload, env.processor.customData p)

end Stage

/-! ### Transactions -/

def storedPayload (cursor : ProcessingCursor Custom) : Except Failure ProcessingPayload :=
  match cursor.outcomeStatus with
  | none => .ok .none
  | some status =>
    match cursor.outcomeTicks with
    | some ticks =>
      if 0 ≤ ticks then .ok (.stage status ticks.toNat)
      else .error (.invalidData s!"stored outcome ticks Some({ticks})")
    | none => .error (.invalidData "stored outcome ticks None")

/-- Opens a guarded transaction for a processing run, unless its step was applied before. -/
def startTransaction (uuid : Uuid) (trigger : Trigger) (db : Database Custom Own) :
    Except Failure (ProcessingPayload ⊕ Transaction Custom) :=
  match db.challenges.get uuid with
  | some row =>
    let cursor := db.processingState.get row.id
    let opened := Sum.inr ⟨trigger, row.id, row.sessionId,
      cursor.bind ProcessingCursor.customData, false⟩
    match cursor with
    | some cursor =>
      if trigger.seq ≤ cursor.processedSeq then (storedPayload cursor).map .inl
      else .ok opened
    | none => .ok opened
  | none =>
    -- nothing runs after a finish, so a prior attempt deleted the challenge
    if trigger.isFinish then .ok (.inl .none)
    else .ok (.inr ⟨trigger, 0, none, none, false⟩)

def advanceCursor (trigger : Trigger) (payload : ProcessingPayload) (customData : Option Custom)
    (cursor : Option (ProcessingCursor Custom)) : ProcessingCursor Custom :=
  if trigger.isFinish then
    { processedSeq := trigger.seq, outcomeStatus := none, outcomeTicks := none
      customData := none, finalizedSeq := some trigger.seq }
  else
    let (status, ticks) := match payload with
      | .stage status ticks => (some status, some (castSigned ticks))
      | .none => (none, none)
    { processedSeq := trigger.seq
      outcomeStatus := status
      outcomeTicks := ticks
      customData := customData.or (cursor.bind ProcessingCursor.customData)
      finalizedSeq := cursor.bind ProcessingCursor.finalizedSeq }

/-- Advances the challenge's cursor and stores the processed payload, before the commit. -/
def commit (txn : Transaction Custom) (payload : ProcessingPayload) (customData : Option Custom) :
    Sql Custom Own Unit :=
  if txn.deleted then pure ()
  else .write fun db => do
    db.requireChallenge txn.challengeId "challenge_processing_state"
    .ok ((), [.processingState txn.challengeId
      (some (advanceCursor txn.trigger payload customData
        (db.processingState.get txn.challengeId)))])

/-! ### Runs -/

/-- What a run's trigger demands, up to the commit. -/
def perform (env : Environment σ Custom Own) (inputs : Inputs σ) (txn : Transaction Custom) :
    Sql Custom Own (Transaction Custom × ProcessingPayload × Option Custom) :=
  match txn.trigger with
  | .create _ => do
    let (txn, customData) ← create env inputs txn
    return (txn, .none, customData)
  | .recorder _ userId recordingType => do
    addRecorder txn userId recordingType
    return (txn, .none, none)
  | .stageStart _ stage => do
    updateStage txn stage
    return (txn, .none, none)
  | .mode _ mode => do
    updateMode txn mode
    return (txn, .none, none)
  | .finish _ => do
    let txn ← finish env inputs txn
    return (txn, .none, none)
  | .stage _ _ _ => do
    let (payload, customData) ← processStage env inputs txn
    return (txn, payload, customData)

/-- The work of a run whose transaction was opened. -/
def work (env : Environment σ Custom Own) (inputs : Inputs σ) (txn : Transaction Custom) :
    Sql Custom Own ProcessingPayload := do
  let (txn, payload, customData) ← perform env inputs txn
  commit txn payload customData
  return payload

def process {ι : Type} (env : Environment σ Custom Own) (uuid : Uuid) (trigger : Trigger)
    (inputs : ι → Inputs σ) :
    Guarded ι (Database Custom Own) (Change Custom Own) Failure ProcessingPayload
      (Transaction Custom) where
  guard := startTransaction uuid trigger
  work i := work env (inputs i)

end Blert.Processing

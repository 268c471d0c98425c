import Blert.Redis.World
import Blert.Streams.Writer
import Blert.Transitions

/-!
Socket servers that write to the streams of stages, beside the actors that seal, process and
remove them.

An actor handles one command after another. It seals the streams of the stages that a command
ended, then removes those whose processing the command reported as over. The processing of a
stage is a task of its own, which reads the stage's stream at some point.
-/

namespace Blert.Streams

open Blert.Lifecycle Blert.Redis

/-! ### What an actor does for a command -/

def stageOf : Trigger → Option StageAttempt
  | .stage _ stage attempt => some (stage, attempt)
  | _ => none

def sealedStage : LifecycleEvent → Option StageAttempt
  | .stageSealed stage attempt _ => some (stage, attempt)
  | _ => none

def sealedBy (batch : List JournalEntry) : List StageAttempt :=
  batch.filterMap fun entry => sealedStage entry.event

/-- The stage attempts whose processing an actor spawns as it applies a batch. -/
def spawnedBy (state : ChallengeState) : List JournalEntry → List StageAttempt
  | [] => []
  | entry :: batch =>
    let after := apply state entry
    let spawned :=
      match entry.event with
      | .processingStarted _ => (after.processing.active.bind (stageOf ·.trigger)).toList
      | _ => []
    spawned ++ spawnedBy after batch

/-- The stage attempts whose processing is over by a state, and was not by an earlier one. -/
def completedSince (before after : ChallengeState) : List StageAttempt :=
  (after.processing.completed.drop before.processing.completed.length).filterMap stageOf

/-- The actor that a step of the store's world has handle an input. -/
def handling (w : Redis.World) : Action → Option (Uuid × Redis.Host × Input)
  | .consume uuid time =>
    (w.hosts uuid).bind fun h =>
      ((w.store.inbox uuid).entries[h.read]?).bind fun envelope =>
        if hm : envelope.cmd.isMessage = true then some (uuid, h, .message time envelope hm)
        else none
  | .deadline uuid time fired => (w.hosts uuid).map fun h => (uuid, h, .deadline time fired)
  | .report uuid time processed => (w.hosts uuid).map fun h => (uuid, h, .report time processed)
  | _ => none

/-- The challenge whose actor takes a step of the store's world. -/
def actorOf : Action → Option Uuid
  | .consume uuid _ | .deadline uuid _ _ | .report uuid _ _ | .project uuid _ | .delete uuid =>
    some uuid
  | _ => none

/-! ### The system -/

/-- Something that happens to the streams of a challenge. -/
inductive Deed
  | added (key : StreamKey)
  | read (key : StreamKey)
  | removed (key : StreamKey)
  /-- The deletion of a challenge removes its streams and the set of them. -/
  | deleted (uuid : Uuid) (streams : Finset StageAttempt)
  deriving DecidableEq

structure World where
  base : Redis.World
  clients : ℕ → Client
  handlers : ℕ → Option Handler
  /-- The stage attempts that an actor has yet to seal, and those whose streams it has yet to
  remove. -/
  sealing : Uuid → List StageAttempt
  removing : Uuid → List StageAttempt
  /-- The streams that a spawned task reads at some point. -/
  tasks : List StreamKey
  log : List Deed

inductive Act
  /-- A client's events, or its report on a stage, reach a handler of a socket server. -/
  | processEvents (i client : ℕ) (uuid : Uuid) (events : List Event)
  | updateChallenge (i client : ℕ) (uuid : Uuid) (update : StageUpdate)
  /-- The store executes what a handler waits for, or fails it. -/
  | resume (i : ℕ)
  | fail (i : ℕ)
  /-- A client's other messages change what is known of it. -/
  | client (i : ℕ) (c : Client)
  /-- A request to a challenge, a step of its actor, or keys expiring. -/
  | base (action : Action)
  /-- What an actor does after a command. -/
  | sealStages (uuid : Uuid)
  | removeStream (uuid : Uuid)
  /-- An actor gives up on a store that fails it. -/
  | stop (uuid : Uuid)
  | read (key : StreamKey)

namespace World

variable (text : KeyText) (config : LifecycleConfig)
  (stageStreamToRecord : ClientStageStream → String)

def setHandler (w : World) (i : ℕ) (h : Option Handler) : World :=
  { w with handlers := Function.update w.handlers i h }

def setStore (w : World) (store : Store) : World := { w with base := { w.base with store } }

/-- The store executes the transaction that a handler waits for. -/
def resume (w : World) (i : ℕ) : Handler → World
  | .checkingChallenge client uuid events =>
    if (w.base.store.challenge uuid).isNone then w.setHandler i none
    else w.setHandler i
      (some (.checkingProcessed client uuid (stageEntries (w.clients client) events)))
  | .checkingProcessed client uuid entries =>
    let kept := entries.filter fun entry => entry.1 ∉ w.base.store.processed uuid
    let (writes, c) := eventWrites uuid (w.clients client) kept
    { w.setHandler i (if writes = [] then none else some (.writing uuid writes)) with
      clients := Function.update w.clients client c }
  | .checkingStageEnd uuid write =>
    w.setHandler i
      (if shouldWriteStageEnd w.base.store uuid write.attempt then some (.writing uuid [write])
      else none)
  | .writing uuid writes =>
    { (w.setHandler i none).setStore
        (writes.foldl (addToStream stageStreamToRecord uuid) w.base.store) with
      log := w.log ++ writes.map fun write => .added (uuid, write.attempt) }

def resumeHandler (w : World) (i : ℕ) : World :=
  match w.handlers i with
  | some h => w.resume stageStreamToRecord i h
  | none => w

/-- What an actor does after a command is put off, but for the tasks that the command spawns. -/
def afterCommand (w : World) (action : Action) : World :=
  match handling w.base action with
  | some (uuid, h, input) =>
    let batch := h.actor.batch config input
    { w with
      sealing := Function.update w.sealing uuid (sealedBy batch)
      removing := Function.update w.removing uuid
        (completedSince h.actor.state (h.actor.handleCommand config input).state)
      tasks := w.tasks ++ (spawnedBy h.actor.state batch).map fun stage => (uuid, stage) }
  | none => w

def deletes (w : World) : Action → Option Uuid
  | .delete uuid =>
    (w.base.concluded uuid).bind fun h =>
      if (w.base.store.delete text uuid Epoch.initial h.actor.state).1 then some uuid else none
  | _ => none

def takeStep (w : World) (action : Action) : World :=
  { w.afterCommand config action with
    base := w.base.step text config action
    log := w.log ++ ((w.deletes text action).map fun uuid =>
      Deed.deleted uuid (w.base.store.streams uuid)).toList }

/-- An actor that has lost its challenge, or its store, does nothing further. -/
def stop (w : World) (uuid : Uuid) : World :=
  { w with
    base := { w.base with hosts := Function.update w.base.hosts uuid none }
    sealing := Function.update w.sealing uuid []
    removing := Function.update w.removing uuid [] }

def sealStages (w : World) (uuid : Uuid) : World :=
  match SEAL uuid Epoch.initial (w.sealing uuid) w.base.store with
  | (true, store) => { w.setStore store with sealing := Function.update w.sealing uuid [] }
  | (false, _) => w.stop uuid

def removeStageStream (w : World) (uuid : Uuid) : World :=
  match w.removing uuid with
  | [] => w
  | stage :: rest =>
    let w := { w with removing := Function.update w.removing uuid rest }
    match REMOVE_STREAM uuid Epoch.initial stage w.base.store with
    | (true, store) => { w.setStore store with log := w.log ++ [.removed (uuid, stage)] }
    | (false, _) => w

/-- The actor that takes a step has done everything for its last command. -/
def Ready (w : World) : Option Uuid → Prop
  | some uuid => w.sealing uuid = [] ∧ w.removing uuid = []
  | none => True

instance (w : World) : (actor : Option Uuid) → Decidable (w.Ready actor)
  | some _ => inferInstanceAs (Decidable (_ ∧ _))
  | none => isTrue trivial

def Enabled (w : World) : Act → Prop
  | .processEvents i _ _ _ | .updateChallenge i _ _ _ => w.handlers i = none
  | .resume i | .fail i => w.handlers i ≠ none
  | .base action => w.Ready (actorOf action)
  | .sealStages uuid => w.sealing uuid ≠ []
  | .removeStream uuid => w.sealing uuid = [] ∧ w.removing uuid ≠ []
  | .read key => key ∈ w.tasks
  | .client _ _ | .stop _ => True

instance (w : World) (act : Act) : Decidable (w.Enabled act) := by
  unfold Enabled
  split <;> infer_instance

def next (w : World) : Act → World
  | .processEvents i client uuid events =>
    w.setHandler i (some (.checkingChallenge client uuid events))
  | .updateChallenge i client uuid update =>
    w.setHandler i (Streams.updateChallenge (w.clients client) uuid update)
  | .resume i => w.resumeHandler stageStreamToRecord i
  | .fail i => w.setHandler i none
  | .client i c => { w with clients := Function.update w.clients i c }
  | .base action => w.takeStep text config action
  | .sealStages uuid => w.sealStages uuid
  | .removeStream uuid => w.removeStageStream uuid
  | .stop uuid => w.stop uuid
  | .read key => { w with log := w.log ++ [.read key] }

/-- Nothing has happened, whichever clients are connected. -/
structure Initial (w : World) : Prop where
  base : w.base = Redis.World.init
  handlers : ∀ i, w.handlers i = none
  sealing : ∀ uuid, w.sealing uuid = []
  removing : ∀ uuid, w.removing uuid = []
  tasks : w.tasks = []
  log : w.log = []

end World

/-- Socket servers and the actors of challenges around one store. -/
def system (text : KeyText) (config : LifecycleConfig)
    (stageStreamToRecord : ClientStageStream → String) : TransitionSystem World Act where
  Enabled := World.Enabled
  next := World.next text config stageStreamToRecord

instance (text : KeyText) (config : LifecycleConfig)
    (stageStreamToRecord : ClientStageStream → String) (w : World) (act : Act) :
    Decidable ((system text config stageStreamToRecord).Enabled w act) :=
  inferInstanceAs (Decidable (w.Enabled act))

end Blert.Streams

import Blert.Redis.Store

/-!
The scripts executed against the store, each of which is one atomic step.

Most are made under the epoch of an owner and do nothing once it no longer holds the
challenge's fence. The others serve requests of clients and claims of instances.
-/

namespace Blert.Redis

open Blert.Lifecycle

/-! ### Scripts of a challenge's owner -/

/-- Runs a script's writes provided the epoch still holds the challenge's fence. -/
def fenced (uuid : Uuid) (epoch : Epoch) (writes : Store → Store) (s : Store) : Bool × Store :=
  if s.fence uuid = some epoch then (true, writes s) else (false, s)

def RENEW (uuid : Uuid) (epoch : Epoch) (deadline : Timestamp) : Store → Bool × Store :=
  fenced uuid epoch fun s => { s with index := s.index.insert uuid deadline }

/-- Releases a challenge's lease by zeroing its deadline. -/
def RELEASE (uuid : Uuid) (epoch : Epoch) : Store → Bool × Store :=
  fenced uuid epoch fun s => { s with index := s.index.insert uuid 0 }

def APPEND (uuid : Uuid) (epoch : Epoch) (batch : List JournalEntry) : Store → Bool × Store :=
  fenced uuid epoch fun s =>
    { s with journal := Function.update s.journal uuid (s.journal uuid ++ [{ epoch, batch }]) }

/-- Writes the challenge's state and clients and signals the update. -/
def PROJECT (uuid : Uuid) (epoch : Epoch) (signal : ChallengeSignal) (snapshot : Snapshot)
    (clients : List PublishedClient) : Store → Bool × Store :=
  fenced uuid epoch fun s =>
    { s with
      challenge := Function.update s.challenge uuid (some snapshot)
      clients := Function.update s.clients uuid clients
      signals := s.signals ++ [signal] }

def ANNOUNCE (uuid : Uuid) (epoch : Epoch) (update : ChallengeServerUpdate) :
    Store → Bool × Store :=
  fenced uuid epoch fun s => { s with updates := s.updates ++ [(uuid, update)] }

/-- Seals stages' event streams, refusing them further writes. -/
def SEAL (uuid : Uuid) (epoch : Epoch) (stages : List StageAttempt) : Store → Bool × Store :=
  fenced uuid epoch fun s =>
    { s with
      processed := Function.update s.processed uuid (s.processed uuid ∪ stages.toFinset) }

def REMOVE_STREAM (uuid : Uuid) (epoch : Epoch) (stage : StageAttempt) : Store → Bool × Store :=
  fenced uuid epoch fun s =>
    { s with
      streams := Function.update s.streams uuid ((s.streams uuid).erase stage)
      events := Function.update s.events uuid (Function.update (s.events uuid) stage []) }

/-- Deletes a terminated challenge's state. Routing keys are removed only if they still point to
the challenge, as a successor may have overwritten them. -/
def DELETE (uuid : Uuid) (epoch : Epoch) (session : Uuid) (routes : Finset RoutingKey) :
    Store → Bool × Store :=
  fenced uuid epoch fun s =>
    let s := s.unroute uuid routes
    { s with
      expiring := insert uuid s.expiring
      members := Function.update s.members session ((s.members session).erase uuid)
      events := Function.update s.events uuid fun stage =>
        if stage ∈ s.streams uuid then [] else s.events uuid stage
      streams := Function.update s.streams uuid ∅
      signals := s.signals ++ [.deleted uuid]
      index := s.index.erase uuid
      lease := Function.update s.lease uuid none }

/-! ### Claims -/

/-- Whether one entry of the index comes before another: by deadline, then by uuid. -/
def indexLe (a b : Uuid × Timestamp) : Prop := a.2 < b.2 ∨ (a.2 = b.2 ∧ a.1 ≤ b.1)

instance : DecidableRel indexLe := fun _ _ => inferInstanceAs (Decidable (_ ∨ _))

/-- Makes a claimant the owner of a challenge, under a fresh epoch. -/
def claimOne (claimant : Identity) (deadline : Timestamp) (s : Store) (uuid : Uuid) :
    Epoch × Store :=
  let epoch := (s.fence uuid).getD 0 + 1
  (epoch,
    { s with
      lease := Function.update s.lease uuid (some { fence := epoch, owner := claimant })
      index := s.index.insert uuid deadline })

def claimAll (claimant : Identity) (now deadline : Timestamp) (batchSize : ℕ) (skip : List Uuid) :
    List (Uuid × Timestamp) → List (Uuid × Epoch) → Store → List (Uuid × Epoch) × Store
  | [], claimed, s => (claimed, s)
  | (uuid, lapse) :: index, claimed, s =>
    if batchSize ≤ claimed.length then (claimed, s)
    else if uuid ∉ skip ∧ (lapse ≤ now ∨ (s.lease uuid).map Lease.owner = some claimant) then
      let (epoch, s) := claimOne claimant deadline s uuid
      claimAll claimant now deadline batchSize skip index (claimed ++ [(uuid, epoch)]) s
    else claimAll claimant now deadline batchSize skip index claimed s

/-- Claims up to a batch of challenges whose lease has lapsed, or that the claimant owns. -/
def CLAIM (claimant : Identity) (now deadline : Timestamp) (batchSize : ℕ) (skip : List Uuid)
    (s : Store) : List (Uuid × Epoch) × Store :=
  claimAll claimant now deadline batchSize skip (s.index.entries.insertionSort indexLe) [] s

/-! ### Requests -/

structure StartArgs where
  directory : RoutingKey
  client : RoutingKey
  session : Uuid
  players : List RoutingKey
  uuid : Uuid
  creator : Identity
  deadline : Timestamp
  laterStages : List Stage
  create : Command
  join : Command
  removal : Command

inductive StartReply
  | created (id : MsgId)
  | joined (uuid : Uuid) (id : MsgId)
  deriving DecidableEq

/-- If the client is listed in another challenge, sends a removal command to it. -/
def leavePrevious (args : StartArgs) (now : Timestamp) (s : Store) (target : Uuid) : Store :=
  match s.route args.client with
  | some previous =>
    if previous ≠ target ∧ s.index.contains previous then (s.xadd now previous args.removal).2
    else s
  | none => s

/-- A live challenge is either active, and not past the incoming stage, or has no state yet. -/
def joinable (s : Store) (incumbent : Uuid) (laterStages : List Stage) : Bool :=
  match s.challenge incumbent with
  | none => true
  | some snapshot => snapshot.phase = .active && snapshot.stage ∉ laterStages

def startJoin (args : StartArgs) (now : Timestamp) (incumbent : Uuid) (s : Store) :
    StartReply × Store :=
  let s := leavePrevious args now s incumbent
  let s := s.setRoute args.client incumbent
  let (id, s) := s.xadd now incumbent args.join
  (.joined incumbent id, s)

def startCreate (args : StartArgs) (now : Timestamp) (s : Store) : StartReply × Store :=
  let s := leavePrevious args now s args.uuid
  let s := s.setRoute args.directory args.uuid
  let s := { s with
    lease := Function.update s.lease args.uuid
      (some { fence := Epoch.initial, owner := args.creator })
    index := s.index.insert args.uuid args.deadline
    members := Function.update s.members args.session (insert args.uuid (s.members args.session)) }
  let s := s.setRoute args.client args.uuid
  let s := args.players.foldl (fun s key => s.setRoute key args.uuid) s
  let (id, s) := s.xadd now args.uuid args.create
  (.created id, s)

/-- Starts a challenge for a client, either creating one for the party or joining the one it has
running. -/
def START (args : StartArgs) (now : Timestamp) (s : Store) : StartReply × Store :=
  match s.route args.directory with
  | some incumbent =>
    if joinable s incumbent args.laterStages then startJoin args now incumbent s
    else startCreate args now s
  | none => startCreate args now s

inductive RejoinReply
  | ok (id : MsgId)
  | unknown
  | elsewhere
  deriving DecidableEq

/-- Queues a join command and links the client to the challenge, provided that exists and has
not terminated and the client is in no other one. -/
def REJOIN (now : Timestamp) (uuid : Uuid) (client : RoutingKey) (join : Command) (s : Store) :
    RejoinReply × Store :=
  if s.index.contains uuid = false then (.unknown, s)
  else if (s.challenge uuid).map Snapshot.phase = some .terminated then (.unknown, s)
  else if (s.route client).any (· ≠ uuid) then (.elsewhere, s)
  else
    let (id, s) := (s.setRoute client uuid).xadd now uuid join
    (.ok id, s)

/-- Queues a command into a challenge's inbox, provided the challenge exists. -/
def SEND (now : Timestamp) (uuid : Uuid) (cmd : Command) (s : Store) : Option MsgId × Store :=
  if s.index.contains uuid = false then (none, s)
  else
    let (id, s) := s.xadd now uuid cmd
    (some id, s)

/-- Queues a command into the inbox of the challenge a client is routed to, unless that has
terminated. -/
def CLIENT_SEND (now : Timestamp) (client : RoutingKey) (cmd : Command) (s : Store) :
    Option (Uuid × MsgId) × Store :=
  match s.route client with
  | none => (none, s)
  | some uuid =>
    if (s.challenge uuid).map Snapshot.phase = some .terminated then (none, s)
    else
      let (id, s) := s.xadd now uuid cmd
      (some (uuid, id), s)

/-! ### Expiry -/

/-- The state and clients of a deleted challenge expire. -/
def expireState (uuid : Uuid) (s : Store) : Store :=
  if uuid ∈ s.expiring then
    { s with
      challenge := Function.update s.challenge uuid none
      clients := Function.update s.clients uuid [] }
  else s

/-- The journal, inbox and processed stages of a deleted challenge expire. -/
def expireStreams (uuid : Uuid) (s : Store) : Store :=
  if uuid ∈ s.expiring then
    { s with
      journal := Function.update s.journal uuid []
      inbox := Function.update s.inbox uuid { entries := [], lastId := MsgId.zero }
      processed := Function.update s.processed uuid ∅ }
  else s

/-! ### Calls -/

inductive Call
  | renew (uuid : Uuid) (epoch : Epoch) (deadline : Timestamp)
  | release (uuid : Uuid) (epoch : Epoch)
  | append (uuid : Uuid) (epoch : Epoch) (batch : List JournalEntry)
  | project (uuid : Uuid) (epoch : Epoch) (signal : ChallengeSignal) (snapshot : Snapshot)
      (clients : List PublishedClient)
  | announce (uuid : Uuid) (epoch : Epoch) (update : ChallengeServerUpdate)
  | markProcessed (uuid : Uuid) (epoch : Epoch) (stages : List StageAttempt)
  | removeStream (uuid : Uuid) (epoch : Epoch) (stage : StageAttempt)
  | delete (uuid : Uuid) (epoch : Epoch) (session : Uuid)
      (routes : Finset RoutingKey)
  | claim (claimant : Identity) (now deadline : Timestamp) (batchSize : ℕ) (skip : List Uuid)
  | start (args : StartArgs) (now : Timestamp)
  | rejoin (now : Timestamp) (uuid : Uuid) (client : RoutingKey) (join : Command)
  | send (now : Timestamp) (uuid : Uuid) (cmd : Command)
  | clientSend (now : Timestamp) (client : RoutingKey) (cmd : Command)
  | expireState (uuid : Uuid)
  | expireStreams (uuid : Uuid)

inductive Reply
  | accepted (held : Bool)
  | claimed (claims : List (Uuid × Epoch))
  | start (reply : StartReply)
  | rejoin (reply : RejoinReply)
  | sent (id : Option MsgId)
  | sentTo (sent : Option (Uuid × MsgId))
  | expired
  deriving DecidableEq

namespace Call

def exec (s : Store) : Call → Reply × Store
  | renew uuid epoch deadline => (RENEW uuid epoch deadline s).map .accepted id
  | release uuid epoch => (RELEASE uuid epoch s).map .accepted id
  | append uuid epoch batch => (APPEND uuid epoch batch s).map .accepted id
  | project uuid epoch signal snapshot clients =>
    (PROJECT uuid epoch signal snapshot clients s).map .accepted id
  | announce uuid epoch update => (ANNOUNCE uuid epoch update s).map .accepted id
  | markProcessed uuid epoch stages => (SEAL uuid epoch stages s).map .accepted id
  | removeStream uuid epoch stage => (REMOVE_STREAM uuid epoch stage s).map .accepted id
  | delete uuid epoch session routes => (DELETE uuid epoch session routes s).map .accepted id
  | claim claimant now deadline batchSize skip =>
    (CLAIM claimant now deadline batchSize skip s).map .claimed id
  | start args now => (START args now s).map .start id
  | rejoin now uuid client join => (REJOIN now uuid client join s).map .rejoin id
  | send now uuid cmd => (SEND now uuid cmd s).map .sent id
  | clientSend now client cmd => (CLIENT_SEND now client cmd s).map .sentTo id
  | expireState uuid => (.expired, Redis.expireState uuid s)
  | expireStreams uuid => (.expired, Redis.expireStreams uuid s)

/-- The challenge and the epoch that a script of its owner is called with. -/
def owned : Call → Option (Uuid × Epoch)
  | renew uuid epoch _ | release uuid epoch | append uuid epoch _ | project uuid epoch _ _ _
  | announce uuid epoch _ | markProcessed uuid epoch _ | removeStream uuid epoch _
  | delete uuid epoch _ _ => some (uuid, epoch)
  | _ => none

end Call

lemma exec_of_stale {s : Store} {c : Call} {uuid : Uuid} {epoch : Epoch}
    (hc : c.owned = some (uuid, epoch)) (h : s.fence uuid ≠ some epoch) :
    c.exec s = (.accepted false, s) := by
  cases c <;> cases hc <;>
    simp [Call.exec, RENEW, RELEASE, APPEND, PROJECT, ANNOUNCE, SEAL, REMOVE_STREAM, DELETE,
      fenced, h]

/-- The start of a challenge by a party of one. -/
def soloStart : StartArgs :=
  { directory := .directory "a", client := .client 1, session := 1, players := [.player "a"],
    uuid := 7, creator := "first", deadline := 10, laterStages := soloRequest.stage.laterStages,
    create := .create soloRequest, join := .join (.ofCreate soloRequest),
    removal := .clientMovedOn ⟨1⟩ }

end Blert.Redis

import Mathlib.Data.Finset.Basic
import Mathlib.Data.List.Sort
import Mathlib.Logic.Function.Basic
import Blert.Lifecycle.State

/-!
The store that challenges live in, as the values under its keys.

A challenge has a lease, an entry in the index of existing challenges, a journal, an inbox and
the state it last published. Routing keys tell which challenge a party, a client or a player is
in. Values are the typed ones the source serializes; a set is a finite set, and a stream is the
list of its entries.
-/

namespace Blert.Redis

open Blert.Lifecycle

/-- Uuids are ordered as their hexadecimal text is. -/
instance : LinearOrder Uuid :=
  LinearOrder.lift' BitVec.toNat fun _ _ => BitVec.eq_of_toNat_eq

/-- Name under which an instance claims challenges. -/
abbrev Identity := String

/-- Fence and ownership record of a challenge's lease. -/
structure Lease where
  fence : Epoch
  owner : Identity

/-- An entry of a journal stream: a batch and the epoch it was appended under. -/
structure JournalRecord where
  epoch : Epoch
  batch : List JournalEntry

/-- A challenge's stream of commands, and the last id it gave out. -/
structure Inbox where
  entries : List Envelope
  lastId : MsgId

/-- The id of the next entry of a stream, at a time of the server's clock. -/
def MsgId.next (last : MsgId) (now : Timestamp) : MsgId :=
  if last.unixMillis < now then toLex (now, 0)
  else toLex (last.unixMillis, (ofLex last).2 + 1)

/-- A stage attempt, after which its event stream is named. -/
abbrev StageAttempt := Stage × Option ℕ

/-- A key that routes requests to a challenge. -/
inductive RoutingKey
  | directory (party : String)
  | client (id : ClientId)
  | player (name : String)
  deriving DecidableEq

/-- A change to a challenge's published state. -/
inductive ChallengeSignal
  | updated (uuid : Uuid) (cursor : MsgId)
  | deleted (uuid : Uuid)

/-- A lifecycle milestone broadcast to external consumers. -/
inductive ChallengeServerUpdate
  | finish
  | stageEnd (stage : Stage) (attempt : Option ℕ)

structure Store where
  /-- Every challenge between creation and deletion, with its lease deadline. -/
  index : OrdMap Uuid Timestamp
  lease : Uuid → Option Lease
  challenge : Uuid → Option Snapshot
  clients : Uuid → List PublishedClient
  journal : Uuid → List JournalRecord
  inbox : Uuid → Inbox
  route : RoutingKey → Option Uuid
  /-- The live challenges of a session. -/
  members : Uuid → Finset Uuid
  /-- The stage attempts that have an event stream, and the streams. -/
  streams : Uuid → Finset StageAttempt
  events : Uuid → StageAttempt → List String
  processed : Uuid → Finset StageAttempt
  /-- The deleted challenges, whose remaining keys expire at some point. -/
  expiring : Finset Uuid
  signals : List ChallengeSignal
  updates : List (Uuid × ChallengeServerUpdate)

namespace Store

def empty : Store where
  index := ∅
  lease _ := none
  challenge _ := none
  clients _ := []
  journal _ := []
  inbox _ := { entries := [], lastId := MsgId.zero }
  route _ := none
  members _ := ∅
  streams _ := ∅
  events _ _ := []
  processed _ := ∅
  expiring := ∅
  signals := []
  updates := []

/-- The epoch that holds a challenge's fence. -/
def fence (s : Store) (uuid : Uuid) : Option Epoch := (s.lease uuid).map Lease.fence

def xadd (s : Store) (now : Timestamp) (uuid : Uuid) (cmd : Command) : MsgId × Store :=
  let id := MsgId.next (s.inbox uuid).lastId now
  (id,
    { s with
      inbox := Function.update s.inbox uuid
        { entries := (s.inbox uuid).entries ++ [{ id, cmd }], lastId := id } })

def setRoute (s : Store) (key : RoutingKey) (uuid : Uuid) : Store :=
  { s with route := Function.update s.route key (some uuid) }

/-- Removes those of some routing keys that point to the challenge. -/
def unroute (s : Store) (uuid : Uuid) (keys : Finset RoutingKey) : Store :=
  { s with route := fun key => if key ∈ keys ∧ s.route key = some uuid then none else s.route key }

end Store

end Blert.Redis

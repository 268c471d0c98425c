import Blert.Blobs
import Blert.Lifecycle.Types
import Blert.OrdMap
import Mathlib.Data.Prod.Lex

/-!
What a live reader exchanges.

It queries challenges, their clients and their stage streams, asks for streams to be read from
their start, is told of updates, and sends messages to its subscribers.
-/

namespace Blert.Live

open Lifecycle (StageStatus)

abbrev Bytes : Type := List UInt8

abbrev SubscriberId : Type := ℕ

/-- The id of a stream entry: its time in milliseconds and its number at that time. -/
abbrev StreamId : Type := ℕ ×ₗ ℕ

def streamStartCursor : StreamId := toLex (0, 0)

/-- Event streams in their binary format, in which a stream without events is empty. -/
structure EventFormat (ε : Type) extends Codec (List ε) Bytes where
  tick : ε → ℕ
  encode_nil : encode [] = []

structure Walk (κ ν : Type) [LinearOrder κ] where
  walk : OrdMap κ ν → List (κ × ν)
  perm : ∀ m, (walk m).Perm m.entries

/-! ### Messages to subscribers -/

inductive ResetReason
  | reconnect | primaryChange

inductive StalledReason
  | noClients | allInactive | allSilent
  deriving DecidableEq

inductive SseMessage
  | metadata (challengeType mode stage : ℤ) (attempt : Option ℕ) (stageActive : Bool)
      (party : List String)
  | reset (reason : ResetReason) (stage : ℤ) (attempt : Option ℕ) (stageActive : Bool)
      (generation : ℕ)
  | replayChunk (generation startTick tickCount : ℕ) (data : Bytes)
  | replayEnd (generation : ℕ) (tick : Option ℕ)
  | tick (generation tick tickCount : ℕ) (data : Bytes)
  | stageChange (stage : ℤ) (attempt : Option ℕ)
  | stageEnd (stage : ℤ) (attempt : Option ℕ)
  | stalled (reason : StalledReason)
  | complete
  | shutdown (retryWindowSecs : ℕ)

inductive SubscriberState
  | replaying | live
  deriving DecidableEq

/-- A connected SSE client watching a challenge. -/
structure Subscriber where
  id : SubscriberId
  requestedStage : Option ℤ
  state : SubscriberState
  deriving DecidableEq

/-! ### Redis -/

structure LastCompleted where
  stage : ℤ
  attempt : Option ℕ

/-- A connected client recording a challenge. -/
structure ChallengeClient where
  active : Bool
  stage : ℤ
  stageStatus : StageStatus
  lastCompleted : LastCompleted

structure ChallengeState where
  challengeType : ℤ
  mode : ℤ
  stage : ℤ
  stageAttempt : Option ℕ
  party : List String

/-- A single event batch from a stage event stream. -/
structure StageStreamEntry where
  id : StreamId
  clientId : ℕ
  events : Bytes

inductive RedisQuery
  | challengeState (uuid : String)
  | challengeClients (uuid : String)
  | stageStream (uuid : String) (stage : ℤ) (attempt : Option ℕ) (cursor : StreamId)

inductive RedisResponse
  | challengeState (state : Option ChallengeState)
  | challengeClients (clients : OrdMap ℕ ChallengeClient)
  | stageStream (entries : List StageStreamEntry)

inductive ChallengeServerUpdate
  | finish
  | stageEnd (stage : ℤ) (attempt : Option ℕ)

/-! ### Backfills -/

/-- A request to backfill a challenge stage from the beginning of its stream. -/
structure BackfillRequest where
  challengeId : String
  backfillId : ℕ
  stage : ℤ
  attempt : Option ℕ
  deriving DecidableEq

/-- The result of a backfill operation containing raw entries from the stream. -/
structure BackfillResult where
  backfillId : ℕ
  entries : List StageStreamEntry
  lastStreamId : StreamId

end Blert.Live

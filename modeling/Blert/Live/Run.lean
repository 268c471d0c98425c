import Blert.Live.Reader

/-!
Runs of a live reader.

Nothing is assumed here of what the reader is told, nor of when: polls, updates and backfill
results come in any order and say anything.
-/

namespace Blert.Live

variable {ε : Type}

/-- A reader, and the first of the subscriber ids that the manager has not given out yet. -/
structure Watched where
  reader : ChallengeReader
  nextSubscriberId : SubscriberId

/-- What can happen to a reader. A hash map is walked in any order whenever it is. -/
inductive Op
  | poll (walk : Walk ℕ ClientState) (responses : List RedisResponse) (tick : ℕ)
  | broadcast
  | update (update : ChallengeServerUpdate)
  | subscribe (skipped : ℕ) (requestedStage : Option ℤ)
  | unsubscribe (id : SubscriberId)
  | backfill (walk : Walk ℕ ClientState) (result : BackfillResult) (mostRecentTick : ℕ)
  | shutdown (retryWindowSecs : ℕ)

namespace Watched

/-- A step of a reader. Ids that are skipped have gone to subscribers of other readers. -/
def step (fmt : EventFormat ε) (w : Watched) : Op → Watched
  | .poll walk responses tick =>
    { w with reader := w.reader.applyPollResponses walk fmt responses tick }
  | .broadcast => { w with reader := w.reader.broadcast }
  | .update update => { w with reader := w.reader.applyChallengeUpdate update }
  | .subscribe skipped requestedStage =>
    let id := w.nextSubscriberId + skipped
    ⟨w.reader.addSubscriber ⟨id, requestedStage, .replaying⟩, id + 1⟩
  | .unsubscribe id => { w with reader := w.reader.removeSubscriber id }
  | .backfill walk result mostRecentTick =>
    { w with reader := w.reader.applyBackfill walk fmt result mostRecentTick }
  | .shutdown retryWindowSecs =>
    { w with reader := w.reader.notifyShutdown retryWindowSecs }

def run (fmt : EventFormat ε) (w : Watched) (ops : List Op) : Watched := ops.foldl (step fmt) w

end Watched

end Blert.Live

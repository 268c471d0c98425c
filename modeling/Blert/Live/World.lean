import Blert.Live.Reader

/-!
A live reader among stage streams.

The tick loop asks a reader for queries, has them answered while other things happen, and then
applies the answers and broadcasts. Streams only grow. A read returns the entries after its cursor
that were there when it was made, and a backfill those from the start.
-/

namespace Blert.Live

variable {ε : Type}

def upTo (cursor : StreamId) (stream : List StageStreamEntry) : List StageStreamEntry :=
  stream.filter (·.id ≤ cursor)

/-- The cursor after entries that were read from the start. -/
def lastId (entries : List StageStreamEntry) : StreamId :=
  (entries.getLast?.map (·.id)).getD streamStartCursor

/-- A reader as the manager knows it, the queries it waits for, and the streams of its challenge. -/
structure World where
  reader : ChallengeReader
  nextSubscriberId : SubscriberId
  tick : ℕ
  queries : Option (List RedisQuery)
  streams : ℤ → Option ℕ → List StageStreamEntry

/-- Responses that a query can get. A stream is read as it was at some time before. -/
inductive Answers (streams : ℤ → Option ℕ → List StageStreamEntry) :
    RedisQuery → RedisResponse → Prop
  | challengeState (uuid : String) (state : Option ChallengeState) :
      Answers streams (.challengeState uuid) (.challengeState state)
  | challengeClients (uuid : String) (clients : OrdMap ℕ ChallengeClient) :
      Answers streams (.challengeClients uuid) (.challengeClients clients)
  | stageStream (uuid : String) (stage : ℤ) (attempt : Option ℕ) (cursor : StreamId)
      (length : ℕ) :
      Answers streams (.stageStream uuid stage attempt cursor)
        (.stageStream (((streams stage attempt).take length).filter (cursor < ·.id)))

inductive Act
  | append (stage : ℤ) (attempt : Option ℕ) (entry : StageStreamEntry)
  | prepare
  | answer (walk : Walk ℕ ClientState) (responses : List RedisResponse)
  | broadcast
  | update (update : ChallengeServerUpdate)
  | subscribe (skipped : ℕ) (requestedStage : Option ℤ)
  | unsubscribe (id : SubscriberId)
  | backfill (walk : Walk ℕ ClientState) (result : BackfillResult)
  | shutdown (retryWindowSecs : ℕ)

namespace World

/-- When something can happen. If the queries fail there are no responses, and the cycle in which
a reader is created only broadcasts. -/
def Enabled (w : World) : Act → Prop
  | .append stage attempt entry =>
    streamStartCursor < entry.id ∧ ∀ e ∈ w.streams stage attempt, e.id < entry.id
  | .prepare => w.queries = none
  | .answer _ responses => ∃ queries, w.queries = some queries ∧
      (responses = [] ∨ List.Forall₂ (Answers w.streams) queries responses)
  | .broadcast => w.queries = none
  | .backfill _ result => ∃ request ∈ w.reader.backfillTx,
      request.backfillId = result.backfillId ∧
      (∃ length, result.entries = (w.streams request.stage request.attempt).take length) ∧
      result.lastStreamId = lastId result.entries
  | _ => True

def appendEntry (streams : ℤ → Option ℕ → List StageStreamEntry) (stage : ℤ)
    (attempt : Option ℕ) (entry : StageStreamEntry) : ℤ → Option ℕ → List StageStreamEntry :=
  fun s a => if s = stage ∧ a = attempt then streams s a ++ [entry] else streams s a

def next (fmt : EventFormat ε) (w : World) : Act → World
  | .append stage attempt entry =>
    { w with streams := appendEntry w.streams stage attempt entry }
  | .prepare => { w with queries := some w.reader.pollQueries }
  | .answer walk responses =>
    { w with
      reader := (w.reader.applyPollResponses walk fmt responses w.tick).broadcast
      tick := w.tick + 1
      queries := none }
  | .broadcast => { w with reader := w.reader.broadcast, tick := w.tick + 1 }
  | .update update => { w with reader := w.reader.applyChallengeUpdate update }
  | .subscribe skipped requestedStage =>
    { w with
      reader := w.reader.addSubscriber ⟨w.nextSubscriberId + skipped, requestedStage, .replaying⟩
      nextSubscriberId := w.nextSubscriberId + skipped + 1 }
  | .unsubscribe id => { w with reader := w.reader.removeSubscriber id }
  | .backfill walk result =>
    { w with reader := w.reader.applyBackfill walk fmt result w.tick }
  | .shutdown retryWindowSecs => { w with reader := w.reader.notifyShutdown retryWindowSecs }

/-- Streams whose entries are in order and after the start. -/
def Ordered (streams : ℤ → Option ℕ → List StageStreamEntry) : Prop :=
  ∀ stage attempt, (streams stage attempt).Pairwise (·.id < ·.id) ∧
    ∀ e ∈ streams stage attempt, streamStartCursor < e.id

lemma Ordered.append {streams : ℤ → Option ℕ → List StageStreamEntry} (h : Ordered streams)
    {stage : ℤ} {attempt : Option ℕ} {entry : StageStreamEntry}
    (hstart : streamStartCursor < entry.id)
    (hafter : ∀ e ∈ streams stage attempt, e.id < entry.id) :
    Ordered (appendEntry streams stage attempt entry) := by
  intro s a
  obtain ⟨hordered, hfirst⟩ := h s a
  unfold appendEntry
  split_ifs with hsame
  · obtain ⟨rfl, rfl⟩ := hsame
    constructor
    · refine List.pairwise_append.mpr ⟨hordered, List.pairwise_singleton _ _, fun e he e' he' => ?_⟩
      rw [List.mem_singleton.mp he']
      exact hafter e he
    · intro e he
      rcases List.mem_append.mp he with he | he
      · exact hfirst e he
      · rw [List.mem_singleton.mp he]
        exact hstart
  · exact ⟨hordered, hfirst⟩

/-- The worlds in which a reader finds itself after steps that meet a condition. -/
inductive Reachable (fmt : EventFormat ε) (Meets : World → Act → Prop) : World → Prop
  | new (uuid : String) (state : ChallengeState) (clients : OrdMap ℕ ChallengeClient)
      (nextSubscriberId : SubscriberId) (tick : ℕ)
      (streams : ℤ → Option ℕ → List StageStreamEntry) (hstreams : Ordered streams) :
      Reachable fmt Meets ⟨.new uuid state clients, nextSubscriberId, tick, none, streams⟩
  | step {w : World} {act : Act} (hw : Reachable fmt Meets w) (henabled : w.Enabled act)
      (hmeets : Meets w act) : Reachable fmt Meets (w.next fmt act)

lemma Reachable.invariant {fmt : EventFormat ε} {Meets : World → Act → Prop} {I : World → Prop}
    (hnew : ∀ uuid state clients nextSubscriberId tick streams, Ordered streams →
      I ⟨.new uuid state clients, nextSubscriberId, tick, none, streams⟩)
    (hstep : ∀ w act, Reachable fmt Meets w → I w → w.Enabled act → Meets w act →
      I (w.next fmt act)) {w : World} (h : Reachable fmt Meets w) : I w := by
  induction h with
  | new uuid state clients nextSubscriberId tick streams hstreams =>
    exact hnew uuid state clients nextSubscriberId tick streams hstreams
  | step hw henabled hmeets ih => exact hstep _ _ hw ih henabled hmeets

end World

/-! ### Reading streams -/

section Reading

variable {stream : List StageStreamEntry}

lemma upTo_append_after (h : stream.Pairwise (·.id < ·.id)) (cursor : StreamId) :
    upTo cursor stream ++ stream.filter (cursor < ·.id) = stream := by
  induction stream with
  | nil => rfl
  | cons e stream ih =>
    obtain ⟨hlt, hstream⟩ := List.pairwise_cons.mp h
    by_cases he : e.id ≤ cursor
    · rw [upTo, List.filter_cons_of_pos (by simpa using he),
        List.filter_cons_of_neg (by simpa using he), List.cons_append]
      exact congrArg (e :: ·) (ih hstream)
    · have hnone : upTo cursor stream = [] := List.filter_eq_nil_iff.mpr fun e' he' hle =>
        he ((hlt e' he').le.trans (of_decide_eq_true hle))
      have hall : stream.filter (cursor < ·.id) = stream := List.filter_eq_self.mpr
        fun e' he' => decide_eq_true ((not_le.mp he).trans (hlt e' he'))
      rw [upTo, List.filter_cons_of_neg (by simpa using he),
        List.filter_cons_of_pos (by simpa using he), hall]
      change upTo cursor stream ++ _ = _
      rw [hnone, List.nil_append]

lemma upTo_take (h : stream.Pairwise (·.id < ·.id)) {length : ℕ} {last : StageStreamEntry}
    (hlast : (stream.take length).getLast? = some last) :
    upTo last.id stream = stream.take length := by
  have hsplit := List.take_append_drop length stream
  rw [← hsplit] at h
  obtain ⟨htake, -, hcross⟩ := List.pairwise_append.mp h
  have hmem : last ∈ stream.take length := List.mem_of_getLast? hlast
  have hbefore : upTo last.id (stream.take length) = stream.take length := by
    refine List.filter_eq_self.mpr fun e he => decide_eq_true ?_
    obtain ⟨init, hinit⟩ := List.getLast?_eq_some_iff.mp hlast
    rw [hinit] at he htake
    rcases List.mem_append.mp he with he | he
    · exact ((List.pairwise_append.mp htake).2.2 e he last (List.mem_singleton.mpr rfl)).le
    · exact (congrArg (·.id) (List.mem_singleton.mp he)).le
  have hafter : upTo last.id (stream.drop length) = [] :=
    List.filter_eq_nil_iff.mpr fun e he hle =>
      (hcross last hmem e he).not_ge (of_decide_eq_true hle)
  calc upTo last.id stream
      = upTo last.id (stream.take length) ++ upTo last.id (stream.drop length) := by
        rw [upTo, upTo, upTo, ← List.filter_append, hsplit]
    _ = stream.take length := by rw [hbefore, hafter, List.append_nil]

lemma upTo_lastId (h : stream.Pairwise (·.id < ·.id))
    (hstart : ∀ e ∈ stream, streamStartCursor < e.id) (length : ℕ) :
    upTo (lastId (stream.take length)) stream = stream.take length := by
  unfold lastId
  cases hlast : (stream.take length).getLast? with
  | none =>
    rw [List.getLast?_eq_none_iff.mp hlast]
    exact List.filter_eq_nil_iff.mpr fun e he hle =>
      (hstart e he).not_ge (of_decide_eq_true hle)
  | some last => exact upTo_take h hlast

lemma upTo_read (h : stream.Pairwise (·.id < ·.id)) {length : ℕ} {cursor : StreamId}
    {last : StageStreamEntry}
    (hlast : ((stream.take length).filter (cursor < ·.id)).getLast? = some last) :
    upTo last.id stream =
      upTo cursor stream ++ (stream.take length).filter (cursor < ·.id) := by
  have htake : (stream.take length).Pairwise (·.id < ·.id) := h.sublist (List.take_sublist _ _)
  have hsplit := upTo_append_after htake cursor
  have hlast' : (stream.take length).getLast? = some last := by
    rw [← hsplit, List.getLast?_append, hlast]
    rfl
  have hcursor : cursor < last.id := of_decide_eq_true
    (List.mem_filter.mp (List.mem_of_getLast? hlast)).2
  -- What the prefix leaves out comes after its last entry.
  have hprefix : upTo cursor (stream.take length) = upTo cursor stream := by
    rw [← upTo_take h hlast', upTo, upTo, upTo, List.filter_filter]
    refine List.filter_congr fun e _ => ?_
    by_cases he : e.id ≤ cursor
    · simp [he, he.trans hcursor.le]
    · simp [he]
  rw [upTo_take h hlast', ← hprefix, hsplit]

end Reading

/-! ### A small world -/

/-- Events that are bytes and tell their tick. -/
def byteFormat : EventFormat UInt8 where
  encode := id
  decode := some
  decode_encode _ := rfl
  tick := UInt8.toNat
  encode_nil := rfl

def byKey : Walk ℕ ClientState := ⟨fun m => m.entries, fun _ => .refl _⟩

def firstClient (active : Bool) (stageStatus : Lifecycle.StageStatus) : ChallengeClient :=
  ⟨active, 10, stageStatus, ⟨0, none⟩⟩

/-- A new reader of a challenge at its first stage, of which nothing has been recorded. -/
def newWorld (client : ChallengeClient) (tick : ℕ) : World :=
  ⟨.new "" ⟨1, 11, 10, none, []⟩ ((∅ : OrdMap ℕ ChallengeClient).insert 1 client), 0, tick, none,
    fun _ _ => []⟩

def firstEntry : StageStreamEntry := ⟨toLex (1, 0), 1, [0]⟩

lemma newWorld_reachable (Meets : World → Act → Prop) (client : ChallengeClient) (tick : ℕ) :
    World.Reachable byteFormat Meets (newWorld client tick) :=
  .new _ _ _ _ _ _ fun _ _ => ⟨List.Pairwise.nil, nofun⟩

lemma firstEntry_enabled {w : World} (hstreams : w.streams 10 none = []) :
    w.Enabled (.append 10 none firstEntry) :=
  ⟨by decide, hstreams ▸ nofun⟩

end Blert.Live

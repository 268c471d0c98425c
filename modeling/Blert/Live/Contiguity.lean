import Blert.Live.Ingest
import Blert.Live.Run

/-!
The stream of a live viewer is contiguous.

A viewer follows the ticks it is sent: a replay starts over from the first tick, a new stage does
too, and live ticks go on where the last ones ended. Whatever happens to the reader, where its
viewers are is where its broadcast cursor is, or there is nothing to broadcast until they are
told to start over.
-/

namespace Blert.Live

variable {ε : Type}

/-! ### Following a stream -/

/-- What a viewer expects: live ticks from one on, of one generation unless a new stage has just
begun, or the rest of a replay. -/
inductive Phase
  | live (generation : Option ℕ) (next : ℕ)
  | replaying (generation next : ℕ)

/-- A message, if it is what a viewer expects. -/
def Phase.step : Phase → SseMessage → Option Phase
  | .live _ _, .reset _ _ _ _ generation => some (.replaying generation 0)
  | .live generation next, .tick generation' tick tickCount _ =>
    if (generation = none ∨ generation = some generation') ∧ tick = next ∧ 0 < tickCount then
      some (.live (some generation') (next + tickCount))
    else none
  | .live _ _, .stageChange _ _ => some (.live none 0)
  | .live _ _, .replayChunk _ _ _ _ => none
  | .live _ _, .replayEnd _ _ => none
  | .live generation next, _ => some (.live generation next)
  | .replaying generation next, .replayChunk generation' startTick tickCount _ =>
    if generation' = generation ∧ startTick = next ∧ 0 < tickCount then
      some (.replaying generation (next + tickCount))
    else none
  | .replaying generation next, .replayEnd generation' tick =>
    if generation' = generation ∧ tick = (if next = 0 then none else some (next - 1)) then
      some (.live (some generation) next)
    else none
  | .replaying _ _, _ => none

/-- The phase in which messages leave a viewer, if they are what it expects one after another. -/
def follow (phase : Phase) (msgs : List SseMessage) : Option Phase := msgs.foldlM Phase.step phase

/-- A stream that a viewer can follow from its subscription on, with every replay at its end. -/
def Contiguous (msgs : List SseMessage) : Prop :=
  ∃ generation next, follow (.live none 0) msgs = some (.live generation next)

lemma follow_append (phase : Phase) (xs ys : List SseMessage) :
    follow phase (xs ++ ys) = (follow phase xs).bind (follow · ys) :=
  List.foldlM_append

@[simp] lemma follow_cons (phase : Phase) (m : SseMessage) (ms : List SseMessage) :
    follow phase (m :: ms) = (phase.step m).bind (follow · ms) :=
  List.foldlM_cons

lemma follow_metadata {challengeType mode stage : ℤ} {attempt : Option ℕ} {stageActive : Bool}
    {party : List String} (generation : Option ℕ) (next : ℕ) (ms : List SseMessage) :
    follow (.live generation next)
      (.metadata challengeType mode stage attempt stageActive party :: ms) =
        follow (.live generation next) ms :=
  rfl

@[simp] lemma follow_nil (phase : Phase) : follow phase [] = some phase := rfl

/-! ### The buffer -/

/-- Chunks that cover the ticks from one up to another without gap or overlap. -/
def Cover : List ReplayChunk → ℕ → ℕ → Prop
  | [], first, last => first = last
  | c :: cs, first, last =>
    c.startTick = first ∧ 0 < c.tickCount ∧ Cover cs (first + c.tickCount) last

def Placed (tickBuffer : List TickEntry) : Prop :=
  ∀ i (e : TickEntry), tickBuffer[i]? = some e → e.tick = i

lemma Cover.append {cs ds : List ReplayChunk} {a b c : ℕ} (hcs : Cover cs a b)
    (hds : Cover ds b c) : Cover (cs ++ ds) a c := by
  induction cs generalizing a with
  | nil =>
    cases hcs
    exact hds
  | cons d cs ih =>
    obtain ⟨hstart, hcount, hrest⟩ := hcs
    exact ⟨hstart, hcount, ih hrest⟩

lemma Cover.le {cs : List ReplayChunk} {a b : ℕ} (h : Cover cs a b) : a ≤ b := by
  induction cs generalizing a with
  | nil => exact le_of_eq h
  | cons c cs ih => exact (Nat.le_add_right a c.tickCount).trans (ih h.2.2)

lemma ReplayChunk.endTick_succ {c : ReplayChunk} (h : 0 < c.tickCount) :
    c.endTick + 1 = c.startTick + c.tickCount := by
  unfold ReplayChunk.endTick
  omega

lemma Cover.last {cs : List ReplayChunk} {a b : ℕ} (h : Cover cs a b) :
    (cs.getLast?.map (·.endTick + 1)).getD a = b := by
  induction cs generalizing a with
  | nil => exact h
  | cons c cs ih =>
    obtain ⟨rfl, hcount, hrest⟩ := h
    have hlast := ih hrest
    cases cs with
    | nil =>
      cases hrest
      exact ReplayChunk.endTick_succ hcount
    | cons d ds =>
      rw [List.getLast?_cons_cons]
      rw [List.getLast?_cons] at hlast ⊢
      exact hlast

lemma Cover.le_endTick {cs : List ReplayChunk} {a b : ℕ} (h : Cover cs a b) {c : ReplayChunk}
    (hc : c ∈ cs) : a ≤ c.endTick := by
  induction cs generalizing a with
  | nil => cases hc
  | cons d cs ih =>
    obtain ⟨rfl, hcount, hrest⟩ := h
    have hend := ReplayChunk.endTick_succ hcount
    rcases List.mem_cons.mp hc with rfl | hc
    · omega
    · have := ih hrest hc
      omega

lemma Cover.before {cs : List ReplayChunk} {a b tick : ℕ} (h : Cover cs a b)
    {c : ReplayChunk} (hc : cs.find? (fun c => c.startTick ≤ tick ∧ tick ≤ c.endTick) = some c) :
    Cover (cs.filter (·.endTick < c.startTick)) a c.startTick ∧ c.startTick ≤ b := by
  induction cs generalizing a with
  | nil => cases hc
  | cons d cs ih =>
    have hwhole := h
    obtain ⟨rfl, hcount, hrest⟩ := h
    by_cases hd : d.startTick ≤ tick ∧ tick ≤ d.endTick
    · rw [List.find?_cons_of_pos (by simpa using hd)] at hc
      obtain rfl : d = c := Option.some.inj hc
      have hnone : (d :: cs).filter (·.endTick < d.startTick) = [] := by
        rw [List.filter_eq_nil_iff]
        intro e he
        simpa using hwhole.le_endTick he
      rw [hnone]
      exact ⟨rfl, hwhole.le⟩
    · rw [List.find?_cons_of_neg (by simpa using hd)] at hc
      obtain ⟨hcover, hb⟩ := ih hrest hc
      have hend := ReplayChunk.endTick_succ hcount
      have hle := hcover.le
      rw [List.filter_cons_of_pos (by simpa using by omega)]
      exact ⟨⟨rfl, hcount, hcover⟩, hb⟩

lemma Cover.filter_lt {cs : List ReplayChunk} {a b : ℕ} (h : Cover cs a b) :
    cs.filter (·.endTick < b) = cs := by
  induction cs generalizing a with
  | nil => rfl
  | cons c cs ih =>
    obtain ⟨rfl, hcount, hrest⟩ := h
    have hend := ReplayChunk.endTick_succ hcount
    have := hrest.le
    rw [List.filter_cons_of_pos (by simpa using by omega), ih hrest]

/-- A buffer whose entries have the ticks of their places, a cursor within it, and chunks that
cover its first ticks. -/
structure Buffered (r : ChallengeReader) : Prop where
  placed : Placed r.tickBuffer
  cursor : r.broadcastCursor ≤ r.tickBuffer.length
  chunks : ∃ last ≤ r.tickBuffer.length, Cover r.replayChunks 0 last

lemma placed_append_single {tickBuffer : List TickEntry} (data : Bytes)
    (h : Placed tickBuffer) : Placed (tickBuffer ++ [⟨tickBuffer.length, data⟩]) := by
  intro i e he
  rw [List.getElem?_append] at he
  split_ifs at he with hi
  · exact h i e he
  · obtain ⟨hlt, rfl⟩ := List.getElem?_eq_some_iff.mp he
    simp only [List.length_singleton] at hlt
    simp only [List.getElem_singleton]
    omega

lemma placed_append_gap {tickBuffer : List TickEntry} (h : Placed tickBuffer) (count : ℕ) :
    Placed (tickBuffer ++ (List.range' tickBuffer.length count).map
      fun gapTick => (⟨gapTick, []⟩ : TickEntry)) := by
  induction count with
  | zero => simpa using h
  | succ count ih =>
    rw [List.range'_concat, List.map_append, ← List.append_assoc]
    simpa using placed_append_single [] ih

lemma ingestTick_placed (fmt : EventFormat ε) {s : ChallengeReader.Ingestion} (tick : ℕ)
    (events : List ε) (h : Placed s.tickBuffer) :
    Placed (ChallengeReader.ingestTick fmt s tick events).tickBuffer ∧
      s.tickBuffer.length ≤
        (ChallengeReader.ingestTick fmt s tick events).tickBuffer.length := by
  unfold ChallengeReader.ingestTick
  split
  · rename_i existing hexisting
    refine ⟨fun i e he => ?_, by simp⟩
    rw [List.getElem?_set] at he
    split_ifs at he with hi hlt
    · cases he
      exact hi ▸ h tick existing hexisting
    · exact h i e he
  · rename_i hnone
    have hlen : s.tickBuffer.length ≤ tick := List.getElem?_eq_none_iff.mp hnone
    refine ⟨?_, by simp⟩
    have hgap := placed_append_gap h (tick - s.tickBuffer.length)
    have hlast := placed_append_single (fmt.encode events) hgap
    have heq : (s.tickBuffer ++ (List.range' s.tickBuffer.length
        (tick - s.tickBuffer.length)).map
          fun gapTick => (⟨gapTick, []⟩ : TickEntry)).length = tick := by
      simp only [List.length_append, List.length_map, List.length_range']
      omega
    rwa [heq] at hlast

lemma ingestTicks_placed (fmt : EventFormat ε) (ticks : List (ℕ × List ε))
    {s : ChallengeReader.Ingestion} (h : Placed s.tickBuffer) :
    Placed (ticks.foldl (fun s e => ChallengeReader.ingestTick fmt s e.1 e.2) s).tickBuffer ∧
      s.tickBuffer.length ≤
        (ticks.foldl (fun s e =>
          ChallengeReader.ingestTick fmt s e.1 e.2) s).tickBuffer.length := by
  induction ticks generalizing s with
  | nil => exact ⟨h, le_rfl⟩
  | cons e ticks ih =>
    obtain ⟨hplaced, hlen⟩ := ingestTick_placed fmt e.1 e.2 h
    obtain ⟨hplaced', hlen'⟩ := ih hplaced
    exact ⟨hplaced', hlen.trans hlen'⟩

lemma chunking_cover (tickBuffer entries : List TickEntry) (first : ℕ)
    {s : ChallengeReader.Chunking} (hcover : Cover s.chunks 0 s.startTick)
    (hstart : s.startTick ≤ first) (hsize : 0 < s.sizeBytes → s.startTick < first)
    (hticks : ∀ i e, entries[i]? = some e → e.tick = first + i) :
    ∃ last ≤ first + entries.length,
      Cover (entries.foldl (ChallengeReader.Chunking.add tickBuffer) s).chunks 0 last := by
  induction entries generalizing first s with
  | nil => exact ⟨s.startTick, hstart, hcover⟩
  | cons entry entries ih =>
    have htick : entry.tick = first := hticks 0 entry rfl
    have hrest : ∀ i e, entries[i]? = some e → e.tick = first + 1 + i := fun i e he => by
      have := hticks (i + 1) e he
      omega
    rw [List.foldl_cons, List.length_cons]
    have hlen : first + (entries.length + 1) = first + 1 + entries.length := by omega
    rw [hlen]
    unfold ChallengeReader.Chunking.add
    split_ifs with hfull
    · have hlt := hsize hfull.1
      refine ih (first + 1) (hcover.append ⟨rfl, ?_, ?_⟩) ?_ ?_ hrest
      · change 0 < entry.tick - s.startTick
        omega
      · change s.startTick + (entry.tick - s.startTick) = entry.tick
        omega
      · change entry.tick ≤ first + 1
        omega
      · intro
        change entry.tick < first + 1
        omega
    · exact ih (first + 1) hcover (hstart.trans (Nat.le_succ first))
        (fun _ => Nat.lt_succ_of_le hstart) hrest

lemma buildReplayChunks_buffered {r : ChallengeReader} {fromTick : ℕ} (h : Buffered r) :
    Buffered (r.buildReplayChunks fromTick) := by
  obtain ⟨last, hlast, hcover⟩ := h.chunks
  unfold ChallengeReader.buildReplayChunks
  split_ifs with hempty
  · exact ⟨h.placed, h.cursor, 0, Nat.zero_le _, rfl⟩
  have hkept : Cover (r.replayChunks.filter
        (·.endTick < ChallengeReader.rebuildFrom r.replayChunks fromTick)) 0
        (ChallengeReader.rebuildFrom r.replayChunks fromTick) ∧
      ChallengeReader.rebuildFrom r.replayChunks fromTick ≤ r.tickBuffer.length := by
    unfold ChallengeReader.rebuildFrom
    split
    · rename_i chunk hchunk
      obtain ⟨hbefore, hle⟩ := hcover.before hchunk
      exact ⟨hbefore, hle.trans hlast⟩
    · rw [hcover.last, hcover.filter_lt]
      exact ⟨hcover, hlast⟩
  refine ⟨h.placed, h.cursor, ?_⟩
  obtain ⟨last', hlast', hcover'⟩ := chunking_cover r.tickBuffer
    (r.tickBuffer.drop (ChallengeReader.rebuildFrom r.replayChunks fromTick))
    (ChallengeReader.rebuildFrom r.replayChunks fromTick)
    (s := ⟨_, ChallengeReader.rebuildFrom r.replayChunks fromTick, 0⟩) hkept.1 le_rfl nofun
    fun i e he => h.placed _ e (by rwa [List.getElem?_drop] at he)
  have hwhole : ChallengeReader.rebuildFrom r.replayChunks fromTick +
      (r.tickBuffer.drop (ChallengeReader.rebuildFrom r.replayChunks fromTick)).length =
        r.tickBuffer.length := by
    rw [List.length_drop]
    omega
  exact ⟨last', hlast'.trans hwhole.le, hcover'⟩

lemma ingestEntries_buffered (fmt : EventFormat ε) {r : ChallengeReader}
    (entries : List StageStreamEntry) (clientId : ℕ) (h : Buffered r) :
    Buffered (r.ingestEntries fmt entries clientId).1 := by
  obtain ⟨hplaced, hlen⟩ := ingestTicks_placed fmt
    (ChallengeReader.eventsByTick fmt entries clientId).entries
    (s := ⟨r.tickBuffer, r.highWaterTick, none⟩) h.placed
  obtain ⟨last, hlast, hcover⟩ := h.chunks
  exact ⟨hplaced, h.cursor.trans hlen, last, hlast.trans hlen, hcover⟩

lemma ingestAndRebuild_buffered (fmt : EventFormat ε) {r : ChallengeReader}
    (entries : List StageStreamEntry) (clientId : ℕ) (h : Buffered r) :
    Buffered (r.ingestAndRebuild fmt entries clientId) := by
  have hingest := ingestEntries_buffered fmt entries clientId h
  unfold ChallengeReader.ingestAndRebuild
  split
  · rename_i r' from' heq
    rw [heq] at hingest
    exact buildReplayChunks_buffered hingest
  · rename_i r' heq
    rw [heq] at hingest
    exact hingest

/-! ### Viewers -/

/-- Subscribers that are sent the live ticks of a stage. -/
def Subscriber.Follows (stage : ℤ) (s : Subscriber) : Prop :=
  s.state = .live ∧ s.requestedStage = some stage

instance (stage : ℤ) (s : Subscriber) : Decidable (s.Follows stage) :=
  inferInstanceAs (Decidable (_ ∧ _))

/-- A viewer that expects the tick at the cursor, unless there is nothing to broadcast until
viewers are told to start over. -/
def Reaches (r : ChallengeReader) (generation : Option ℕ) (next : ℕ) : Prop :=
  next = r.broadcastCursor ∧ (generation = none ∨ generation = some r.generation) ∨
    r.tickBuffer = [] ∧ r.state ≠ .active

/-- Every stream can be followed, and those of the stage's viewers lead to the cursor. -/
structure Viewers (nextId : SubscriberId) (r : ChallengeReader) : Prop where
  fresh : ∀ id, nextId ≤ id → r.subscribers.get id = none ∧ r.channel id = []
  phase : ∀ id, ∃ generation next,
    follow (.live none 0) (r.channel id) = some (.live generation next) ∧
      ∀ s, r.subscribers.get id = some s → s.Follows r.stage → Reaches r generation next

section Viewers

variable {nextId : SubscriberId} {r r₁ : ChallengeReader}

lemma Viewers.mono (h : Viewers nextId r) (hsub : r₁.subscribers = r.subscribers)
    (hchan : r₁.channel = r.channel) (hstage : r₁.stage = r.stage)
    (hreach : ∀ generation next, Reaches r generation next → Reaches r₁ generation next) :
    Viewers nextId r₁ := by
  refine ⟨fun id hid => hsub ▸ hchan ▸ h.fresh id hid, fun id => ?_⟩
  obtain ⟨generation, next, hfollow, hs⟩ := h.phase id
  refine ⟨generation, next, hchan ▸ hfollow, fun s hget hf => hreach _ _ ?_⟩
  rw [hsub] at hget
  rw [hstage] at hf
  exact hs s hget hf

lemma Viewers.send (h : Viewers nextId r) (hsub : r₁.subscribers = r.subscribers)
    (hchan : r₁.channel = r.channel) (p : Subscriber → Bool) (msgs : List SseMessage)
    (hsent : ∀ s generation next, p s = true →
      (s.Follows r.stage → Reaches r generation next) → ∃ generation' next',
        follow (.live generation next) msgs = some (.live generation' next') ∧
          (s.Follows r₁.stage → Reaches r₁ generation' next'))
    (hkept : ∀ s generation next, p s = false →
      (s.Follows r.stage → Reaches r generation next) → s.Follows r₁.stage →
        Reaches r₁ generation next) :
    Viewers nextId (r₁.sendWhere p msgs) := by
  refine ⟨fun id hid => ?_, fun id => ?_⟩
  · obtain ⟨hnone, hempty⟩ := h.fresh id hid
    unfold ChallengeReader.sendWhere
    simp only [hsub, hchan, hnone, hempty, and_self]
  · obtain ⟨generation, next, hfollow, hs⟩ := h.phase id
    unfold ChallengeReader.sendWhere
    simp only [hsub, hchan]
    cases hget : r.subscribers.get id with
    | none => exact ⟨generation, next, hfollow, nofun⟩
    | some s =>
      have hreach := hs s hget
      cases hp : p s with
      | false =>
        refine ⟨generation, next, by simpa [hp] using hfollow, ?_⟩
        rintro _ ⟨⟩
        exact hkept s generation next hp hreach
      | true =>
        obtain ⟨generation', next', hmsgs, hreach'⟩ := hsent s generation next hp hreach
        refine ⟨generation', next', ?_, ?_⟩
        · simp only [hp, if_true]
          rw [follow_append, hfollow]
          exact hmsgs
        · rintro _ ⟨⟩
          exact hreach'

def SseMessage.IsNeutral (msg : SseMessage) : Prop :=
  ∀ generation next, (Phase.live generation next).step msg = some (.live generation next)

lemma Viewers.sendNeutral {msg : SseMessage} (h : Viewers nextId r) (hmsg : msg.IsNeutral)
    (hsub : r₁.subscribers = r.subscribers) (hchan : r₁.channel = r.channel)
    (hstage : r₁.stage = r.stage)
    (hreach : ∀ generation next, Reaches r generation next → Reaches r₁ generation next) :
    Viewers nextId (r₁.sendToAll msg) := by
  refine h.send hsub hchan _ _ (fun s generation next _ hs => ?_) nofun
  refine ⟨generation, next, ?_, fun hf => hreach _ _ (hs (hstage ▸ hf))⟩
  rw [follow_cons, hmsg]
  rfl

end Viewers

/-! ### Replays -/

lemma cursorSafeChunks_cover {cursor a b : ℕ} {chunks : List ReplayChunk}
    (h : Cover chunks a b) (ha : a ≤ cursor) :
    Cover (ChallengeReader.cursorSafeChunks cursor chunks a).1 a
        (ChallengeReader.cursorSafeChunks cursor chunks a).2 ∧
      (ChallengeReader.cursorSafeChunks cursor chunks a).2 ≤ cursor := by
  induction chunks generalizing a with
  | nil => exact ⟨rfl, ha⟩
  | cons c cs ih =>
    obtain ⟨rfl, hcount, hrest⟩ := h
    have hend := ReplayChunk.endTick_succ hcount
    unfold ChallengeReader.cursorSafeChunks
    split_ifs with hpast
    · exact ⟨rfl, ha⟩
    · rw [hend]
      obtain ⟨hcover, hle⟩ := ih hrest (by omega)
      exact ⟨⟨rfl, hcount, hcover⟩, hle⟩

lemma follow_chunks {chunks : List ReplayChunk} {a b : ℕ} (h : Cover chunks a b)
    (generation : ℕ) :
    follow (.replaying generation a) (chunks.map fun chunk =>
      .replayChunk generation chunk.startTick chunk.tickCount chunk.data) =
        some (.replaying generation b) := by
  induction chunks generalizing a with
  | nil =>
    cases h
    rfl
  | cons c cs ih =>
    obtain ⟨rfl, hcount, hrest⟩ := h
    rw [List.map_cons, follow_cons, Phase.step, if_pos ⟨rfl, rfl, hcount⟩]
    exact ih hrest

lemma follow_replay {r : ChallengeReader} (h : Buffered r) (reason : ResetReason)
    (generation : Option ℕ) (next : ℕ) :
    follow (.live generation next) (r.buildReplayMessages reason) =
      some (.live (some r.generation) r.broadcastCursor) := by
  obtain ⟨last, -, hcover⟩ := h.chunks
  obtain ⟨hsafe, hle⟩ := cursorSafeChunks_cover hcover (Nat.zero_le r.broadcastCursor)
  unfold ChallengeReader.buildReplayMessages
  generalize ChallengeReader.cursorSafeChunks r.broadcastCursor r.replayChunks 0 = safe at hsafe hle
  obtain ⟨safe, tailStart⟩ := safe
  have htail : follow (.replaying r.generation tailStart)
      (if tailStart < r.broadcastCursor then
        [.replayChunk r.generation tailStart (r.broadcastCursor - tailStart)
          (ChallengeReader.dataBetween r.tickBuffer tailStart r.broadcastCursor)]
      else []) = some (.replaying r.generation r.broadcastCursor) := by
    have hle' : tailStart ≤ r.broadcastCursor := hle
    split_ifs with hlt
    · rw [follow_cons, Phase.step, if_pos ⟨rfl, rfl, by omega⟩, Nat.add_sub_cancel' hle']
      rfl
    · rw [le_antisymm hle' (not_lt.mp hlt)]
      rfl
  have hend : (if r.broadcastCursor = 0 then none
      else (r.tickBuffer[r.broadcastCursor - 1]?).map (·.tick)) =
        if r.broadcastCursor = 0 then none else some (r.broadcastCursor - 1) := by
    split_ifs with hzero
    · rfl
    · have hlt : r.broadcastCursor - 1 < r.tickBuffer.length := by
        have := h.cursor
        omega
      rw [List.getElem?_eq_getElem hlt, Option.map_some,
        h.placed _ _ (List.getElem?_eq_getElem hlt)]
  dsimp only
  rw [List.cons_append, List.cons_append, follow_cons, Phase.step, Option.bind_some,
    follow_append, follow_append, follow_chunks hsafe, Option.bind_some, htail, Option.bind_some,
    follow_cons, Phase.step, hend, if_pos ⟨rfl, rfl⟩]
  rfl

/-! ### What each part of a step keeps -/

/-- The buffer is in order, viewers are where it is broadcast from, and a stalled reader has no
primary. -/
structure Streaming (nextId : SubscriberId) (r : ChallengeReader) : Prop where
  buffered : Buffered r
  viewers : Viewers nextId r
  stalled : ∀ reason since, r.state = .stalled reason since → r.primaryClientId = none

namespace Streaming

variable {nextId : SubscriberId} {r r₁ : ChallengeReader}

lemma congr (h : Streaming nextId r) (hbuffer : r₁.tickBuffer = r.tickBuffer)
    (hcursor : r₁.broadcastCursor = r.broadcastCursor) (hchunks : r₁.replayChunks = r.replayChunks)
    (hsub : r₁.subscribers = r.subscribers) (hchan : r₁.channel = r.channel)
    (hstage : r₁.stage = r.stage) (hgeneration : r₁.generation = r.generation)
    (hstate : r₁.state = r.state)
    (hstalled : ∀ reason since, r₁.state = .stalled reason since → r₁.primaryClientId = none) :
    Streaming nextId r₁ := by
  refine ⟨⟨hbuffer ▸ h.buffered.placed, hbuffer ▸ hcursor ▸ h.buffered.cursor,
    hbuffer ▸ hchunks ▸ h.buffered.chunks⟩, h.viewers.mono hsub hchan hstage ?_, hstalled⟩
  intro generation next hreach
  unfold Reaches at hreach ⊢
  rwa [hcursor, hgeneration, hbuffer, hstate]

lemma finishStage (h : Streaming nextId r) : Streaming nextId r.finishStage :=
  ⟨⟨h.buffered.placed, h.buffered.cursor, h.buffered.chunks⟩,
    h.viewers.sendNeutral (fun _ _ => rfl) rfl rfl rfl fun _ _ => id, h.stalled⟩

lemma finishOpenStage (h : Streaming nextId r) : Streaming nextId r.finishOpenStage := by
  unfold ChallengeReader.finishOpenStage
  split_ifs
  · exact h.finishStage
  · exact h

lemma clearSubscribers (h : Streaming nextId r) : Streaming nextId r.clearSubscribers := by
  refine ⟨⟨h.buffered.placed, h.buffered.cursor, h.buffered.chunks⟩, ⟨fun id hid => ?_,
    fun id => ?_⟩, h.stalled⟩
  · exact ⟨rfl, (h.viewers.fresh id hid).2⟩
  · obtain ⟨generation, next, hfollow, -⟩ := h.viewers.phase id
    exact ⟨generation, next, hfollow, nofun⟩

lemma finishChallenge (h : Streaming nextId r) : Streaming nextId r.finishChallenge := by
  unfold ChallengeReader.finishChallenge
  split_ifs
  · exact h
  have hopen := h.finishOpenStage
  refine Streaming.clearSubscribers ⟨⟨hopen.buffered.placed, hopen.buffered.cursor,
    hopen.buffered.chunks⟩, ?_, nofun⟩
  refine hopen.viewers.sendNeutral (fun _ _ => rfl) rfl rfl rfl fun generation next hreach => ?_
  exact hreach.imp_right fun hempty => ⟨hempty.1, nofun⟩

lemma beginStage (h : Streaming nextId r) (tick : ℕ) (stage : ℤ) (attempt : Option ℕ) :
    Streaming nextId (r.beginStage tick stage attempt) := by
  refine ⟨⟨nofun, le_rfl, 0, le_rfl, rfl⟩, ?_, nofun⟩
  unfold ChallengeReader.beginStage ChallengeReader.sendToAll
  apply h.finishOpenStage.viewers.send
  · rfl
  · rfl
  · exact fun _ _ _ _ _ => ⟨none, 0, rfl, fun _ => Or.inl ⟨rfl, Or.inl rfl⟩⟩
  · nofun

lemma stall (h : Streaming nextId r) (reason : StalledReason) (since : ℕ) :
    Streaming nextId (r.stall reason since) := by
  unfold ChallengeReader.stall
  split
  · exact h
  · refine ⟨⟨h.buffered.placed, h.buffered.cursor, h.buffered.chunks⟩, ?_, fun _ _ _ => rfl⟩
    refine h.viewers.sendNeutral (fun _ _ => rfl) rfl rfl rfl fun generation next hreach => ?_
    exact hreach.imp_right fun hempty => ⟨hempty.1, nofun⟩

lemma switchToPrimary (h : Streaming nextId r) (newPrimary : ℕ) :
    Streaming nextId (r.switchToPrimary newPrimary) :=
  ⟨⟨nofun, le_rfl, 0, le_rfl, rfl⟩,
    h.viewers.mono rfl rfl rfl fun _ _ _ => Or.inr ⟨rfl, nofun⟩, nofun⟩

lemma processStreamEntries (h : Streaming nextId r) (fmt : EventFormat ε)
    (entries : List StageStreamEntry) (tick : ℕ) (hreceives : r.receives = true) :
    Streaming nextId (r.processStreamEntries fmt entries tick) := by
  unfold ChallengeReader.processStreamEntries
  split
  · exact h
  rename_i last hlast
  have hread : Streaming nextId { r with
      pollCursor := last.id
      clientStates := entries.foldl (fun states (entry : StageStreamEntry) =>
        updateClient states entry.clientId fun s =>
          { s with eventCount := s.eventCount + 1, lastActiveTick := tick })
        r.clientStates } :=
    h.congr rfl rfl rfl rfl rfl rfl rfl rfl h.stalled
  dsimp only
  split
  · rename_i primary hprimary
    -- A stalled reader has no primary, so that this one is active.
    have hactive : r.state = .active := by
      unfold ChallengeReader.receives at hreceives
      split at hreceives
      · assumption
      · rename_i since hstate
        have := h.stalled _ _ hstate
        rw [this] at hprimary
        cases hprimary
      · cases hreceives
    have hbuffered := ingestAndRebuild_buffered fmt entries primary hread.buffered
    obtain ⟨tickBuffer, highWaterTick, replayChunks, heq⟩ :=
      ingestAndRebuild_eq fmt { r with
        pollCursor := last.id
        clientStates := entries.foldl (fun states (entry : StageStreamEntry) =>
          updateClient states entry.clientId fun s =>
            { s with eventCount := s.eventCount + 1, lastActiveTick := tick })
          r.clientStates } entries primary
    rw [heq] at hbuffered ⊢
    refine ⟨hbuffered, h.viewers.mono rfl rfl rfl fun generation next hreach => ?_, h.stalled⟩
    exact Or.inl (hreach.resolve_right fun hempty => hempty.2 hactive)
  · exact hread

lemma syncClients (h : Streaming nextId r) (clients : OrdMap ℕ ChallengeClient) :
    Streaming nextId (r.syncClients clients) :=
  h.congr rfl rfl rfl rfl rfl rfl rfl rfl h.stalled

lemma assessClients (h : Streaming nextId r) (clients : OrdMap ℕ ChallengeClient) (tick : ℕ) :
    Streaming nextId (r.assessClients clients tick) := by
  unfold ChallengeReader.assessClients
  split_ifs
  · exact h.stall _ _
  · exact h.congr rfl rfl rfl rfl rfl rfl rfl rfl h.stalled
  · exact h.stall _ _
  · exact h

lemma processClients (h : Streaming nextId r) (clients : OrdMap ℕ ChallengeClient) (tick : ℕ) :
    Streaming nextId (r.processClients clients tick) := by
  unfold ChallengeReader.processClients
  dsimp only
  split_ifs
  · exact (h.syncClients clients).assessClients clients tick
  · exact ((h.syncClients clients).beginStage _ _ _).assessClients clients tick
  · exact h.syncClients clients

lemma applyResponse {s : ChallengeReader × Option (List StageStreamEntry)}
    (h : Streaming nextId s.1) (tick : ℕ) (response : RedisResponse) :
    Streaming nextId (ChallengeReader.applyResponse tick s response).1 := by
  unfold ChallengeReader.applyResponse
  split
  · split_ifs
    · exact h.beginStage _ _ _
    · exact h
  · exact h.finishChallenge
  · exact h.processClients _ _
  · exact h

lemma applyResponses {s : ChallengeReader × Option (List StageStreamEntry)}
    (h : Streaming nextId s.1) (tick : ℕ) (responses : List RedisResponse) :
    Streaming nextId (responses.foldl (ChallengeReader.applyResponse tick) s).1 := by
  induction responses generalizing s with
  | nil => exact h
  | cons response responses ih => exact ih (h.applyResponse tick response)

lemma checkPrimarySwitch (h : Streaming nextId r) (walk : Walk ℕ ClientState)
    (primaryId tick : ℕ) : Streaming nextId (r.checkPrimarySwitch walk primaryId tick) := by
  unfold ChallengeReader.checkPrimarySwitch
  split_ifs
  · exact h
  · exact h.stall _ _
  · split
    · exact h.stall _ _
    · exact h.switchToPrimary _

lemma updatePrimary (h : Streaming nextId r) (walk : Walk ℕ ClientState) (tick : ℕ) :
    Streaming nextId (r.updatePrimary walk tick) := by
  unfold ChallengeReader.updatePrimary
  split
  · dsimp only
    split
    · -- The switch leaves nothing of the state between.
      exact h.switchToPrimary _
    · exact h
  · rename_i hstalled
    split
    · exact h.checkPrimarySwitch walk _ tick
    · refine h.congr rfl rfl rfl rfl rfl rfl rfl rfl fun reason since hstate => ?_
      exact absurd hstate (hstalled reason since)

lemma processResponses (h : Streaming nextId r) (fmt : EventFormat ε)
    (responses : List RedisResponse) (tick : ℕ) :
    Streaming nextId (r.processResponses fmt responses tick) := by
  unfold ChallengeReader.processResponses
  have hs := h.applyResponses (s := (r, none)) tick responses
  generalize responses.foldl (ChallengeReader.applyResponse tick) (r, none) = s at hs
  obtain ⟨s, streamEntries⟩ := s
  dsimp only
  split
  · split_ifs with hreceives
    · exact Streaming.processStreamEntries hs fmt _ tick hreceives.1
    · exact hs
  · exact hs

lemma applyPollResponses (h : Streaming nextId r) (walk : Walk ℕ ClientState)
    (fmt : EventFormat ε) (responses : List RedisResponse) (tick : ℕ) :
    Streaming nextId (r.applyPollResponses walk fmt responses tick) := by
  unfold ChallengeReader.applyPollResponses
  split_ifs
  · exact h
  · exact (h.processResponses fmt responses tick).updatePrimary walk tick

lemma applyChallengeUpdate (h : Streaming nextId r) (update : ChallengeServerUpdate) :
    Streaming nextId (r.applyChallengeUpdate update) := by
  unfold ChallengeReader.applyChallengeUpdate
  split
  · split_ifs
    · exact h.congr rfl rfl rfl rfl rfl rfl rfl rfl h.stalled
    · exact h
  · exact h.finishChallenge

lemma removeSubscriber (h : Streaming nextId r) (id : SubscriberId) :
    Streaming nextId (r.removeSubscriber id) := by
  refine ⟨⟨h.buffered.placed, h.buffered.cursor, h.buffered.chunks⟩, ⟨fun id' hid' => ?_,
    fun id' => ?_⟩, h.stalled⟩
  · obtain ⟨hnone, hempty⟩ := h.viewers.fresh id' hid'
    refine ⟨?_, hempty⟩
    change (r.subscribers.erase id).get id' = none
    rw [OrdMap.get_erase, hnone, ite_self]
  · obtain ⟨generation, next, hfollow, hs⟩ := h.viewers.phase id'
    refine ⟨generation, next, hfollow, fun s hget => hs s ?_⟩
    change (r.subscribers.erase id).get id' = some s at hget
    rw [OrdMap.get_erase] at hget
    split_ifs at hget
    exact hget

lemma notifyShutdown (h : Streaming nextId r) (retryWindowSecs : ℕ) :
    Streaming nextId (r.notifyShutdown retryWindowSecs) :=
  clearSubscribers ⟨⟨h.buffered.placed, h.buffered.cursor, h.buffered.chunks⟩,
    h.viewers.sendNeutral (fun _ _ => rfl) rfl rfl rfl fun _ _ => id, h.stalled⟩

lemma join (h : Streaming nextId r) {id : SubscriberId} (hid : nextId ≤ id)
    {subscribers : OrdMap SubscriberId Subscriber}
    (hothers : ∀ id', id' ≠ id → subscribers.get id' = r.subscribers.get id')
    {msgs : List SseMessage} {generation : Option ℕ} {next : ℕ}
    (hmsgs : follow (.live none 0) msgs = some (.live generation next))
    (hreach : ∀ s, subscribers.get id = some s → s.Follows r.stage → Reaches r generation next) :
    Streaming (id + 1)
      { r with
        channel := Function.update r.channel id (r.channel id ++ msgs)
        subscribers := subscribers } := by
  refine ⟨⟨h.buffered.placed, h.buffered.cursor, h.buffered.chunks⟩, ⟨fun id' hid' => ?_,
    fun id' => ?_⟩, h.stalled⟩
  · have hne : id' ≠ id := (Nat.lt_of_succ_le hid').ne'
    obtain ⟨hnone, hempty⟩ := h.viewers.fresh id' (hid.trans (Nat.le_of_succ_le hid'))
    exact ⟨(hothers id' hne).trans hnone, (Function.update_of_ne hne _ _).trans hempty⟩
  · by_cases hid' : id' = id
    · subst hid'
      refine ⟨generation, next, ?_, hreach⟩
      change follow _ (Function.update r.channel id' _ id') = _
      rw [Function.update_self, (h.viewers.fresh id' hid).2]
      exact hmsgs
    · obtain ⟨generation', next', hfollow, hs⟩ := h.viewers.phase id'
      refine ⟨generation', next', ?_, fun s hget => hs s ((hothers id' hid').symm.trans hget)⟩
      change follow _ (Function.update r.channel id _ id') = _
      rw [Function.update_of_ne hid']
      exact hfollow

lemma addSubscriber (h : Streaming nextId r) {id : SubscriberId} (hid : nextId ≤ id)
    (requestedStage : Option ℤ) :
    Streaming (id + 1) (r.addSubscriber ⟨id, requestedStage, .replaying⟩) := by
  have hothers : ∀ (s : Subscriber) id', id' ≠ id →
      (r.subscribers.insert id s).get id' = r.subscribers.get id' := fun s id' hne => by
    rw [OrdMap.get_insert, if_neg hne]
  have hself : ∀ s s' : Subscriber, (r.subscribers.insert id s).get id = some s' → s' = s :=
    fun s s' hget => by
      rw [OrdMap.get_insert, if_pos rfl] at hget
      exact (Option.some.inj hget).symm
  -- A viewer of the stage is replayed what there is, if there is anything.
  have hreplay : ∃ generation next, follow (.live none 0)
      (if requestedStage = some r.stage ∧ r.tickBuffer ≠ [] then
        r.buildReplayMessages .reconnect else []) = some (.live generation next) ∧
        (requestedStage = some r.stage → Reaches r generation next) := by
    split_ifs with hviews
    · exact ⟨_, _, follow_replay h.buffered _ _ _, fun _ => Or.inl ⟨rfl, Or.inr rfl⟩⟩
    · refine ⟨none, 0, rfl, fun hstage => Or.inl ⟨?_, Or.inl rfl⟩⟩
      have hempty : r.tickBuffer = [] := by
        by_contra hne
        exact hviews ⟨hstage, hne⟩
      have hcursor := h.buffered.cursor
      rw [hempty] at hcursor
      exact (Nat.le_zero.mp hcursor).symm
  obtain ⟨generation, next, hmsgs, hreach⟩ := hreplay
  unfold ChallengeReader.addSubscriber
  dsimp only
  split
  · refine h.join hid (hothers _) ((follow_metadata _ _ _).trans hmsgs) fun s hget hfollows => ?_
    obtain rfl := hself _ _ hget
    exact hreach hfollows.2
  · refine h.join hid (hothers _) (Eq.trans ?_ hmsgs) fun s hget hfollows => ?_
    · rw [follow_append, follow_metadata, hmsgs]
      rfl
    · obtain rfl := hself _ _ hget
      exact hreach hfollows.2
  · refine h.join hid (hothers _) (Eq.trans rfl (follow_nil _)) fun s hget hfollows => ?_
    obtain rfl := hself _ _ hget
    cases hfollows.1
  · refine h.join hid (fun _ _ => rfl) (Eq.trans rfl (follow_nil _)) fun s hget _ => ?_
    rw [(h.viewers.fresh id hid).1] at hget
    cases hget

lemma sendTicks (h : Streaming nextId r) {first : TickEntry} {count : ℕ}
    (hfirst : r.tickBuffer[r.broadcastCursor]? = some first) (hcount : 0 < count)
    (hlength : r.broadcastCursor + count ≤ r.tickBuffer.length) :
    Streaming nextId (r.sendTicks first count) := by
  refine ⟨⟨h.buffered.placed, hlength, h.buffered.chunks⟩, ?_, h.stalled⟩
  have hplace : first.tick = r.broadcastCursor := h.buffered.placed _ _ hfirst
  have hbuffer : r.tickBuffer ≠ [] := by
    rintro hempty
    rw [hempty] at hfirst
    cases hfirst
  unfold ChallengeReader.sendTicks
  apply h.viewers.send
  · rfl
  · rfl
  · intro s generation next hp hreach
    obtain ⟨rfl, hgeneration⟩ := (hreach (of_decide_eq_true hp)).resolve_right fun hempty =>
      hbuffer hempty.1
    refine ⟨some r.generation, r.broadcastCursor + count, ?_, fun _ =>
      Or.inl ⟨rfl, Or.inr rfl⟩⟩
    rw [follow_cons, Phase.step, if_pos ⟨hgeneration, hplace, hcount⟩]
    rfl
  · intro s generation next hp _ hfollows
    exact absurd hfollows (of_decide_eq_false hp)

lemma finishDrained (h : Streaming nextId r) : Streaming nextId r.finishDrained := by
  unfold ChallengeReader.finishDrained
  split_ifs
  · exact h.finishStage
  · exact h

lemma broadcast (h : Streaming nextId r) : Streaming nextId r.broadcast := by
  unfold ChallengeReader.broadcast
  dsimp only
  split_ifs with hfew hdrained
  · exact h.finishStage
  · exact h
  split
  · exact h
  rename_i first hfirst
  have hlt := (List.getElem?_eq_some_iff.mp hfirst).1
  refine finishDrained (h.sendTicks hfirst ?_ ?_)
  all_goals
    unfold ChallengeReader.ticksToSend jitterDepth
    split_ifs <;> omega

lemma replayToSubscribers (hbuffered : Buffered r) (hviewers : Viewers nextId r₁)
    (hactive : r.state = .active) (hsub : r.subscribers = r₁.subscribers)
    (hchan : r.channel = r₁.channel) (reason : ResetReason) :
    Streaming nextId (r.replayToSubscribers reason) := by
  have hreplay := follow_replay hbuffered reason
  refine ⟨⟨hbuffered.placed, hbuffered.cursor, hbuffered.chunks⟩, ⟨fun id hid => ?_,
    fun id => ?_⟩, fun _ _ hstate => ?_⟩
  · obtain ⟨hnone, hempty⟩ := hviewers.fresh id hid
    unfold ChallengeReader.replayToSubscribers ChallengeReader.sendWhere
    simp only [hsub, hchan, OrdMap.get_mapValues, hnone, hempty, Option.map_none, and_self]
  · obtain ⟨generation, next, hfollow, -⟩ := hviewers.phase id
    unfold ChallengeReader.replayToSubscribers ChallengeReader.sendWhere
    simp only [hsub, hchan, OrdMap.get_mapValues]
    cases r₁.subscribers.get id with
    | none => exact ⟨generation, next, hfollow, nofun⟩
    | some s =>
      by_cases hviews : s.requestedStage = some r.stage
      · refine ⟨some r.generation, r.broadcastCursor, ?_, fun _ _ _ => Or.inl ⟨rfl, Or.inr rfl⟩⟩
        simp only [hviews, decide_true, if_true]
        rw [follow_append, hfollow]
        exact hreplay generation next
      · refine ⟨generation, next, by simpa [hviews] using hfollow, ?_⟩
        rintro _ ⟨⟩ hfollows
        exact absurd hfollows.2 hviews
  · have : r.state = .stalled _ _ := hstate
    rw [hactive] at this
    cases this

lemma adoptBackfill_buffered (walk : Walk ℕ ClientState) (fmt : EventFormat ε)
    (preSelected : Option ℕ) (result : BackfillResult) (h : Buffered r) :
    Buffered (r.adoptBackfill walk fmt preSelected result) := by
  have hchosen : Buffered ((r.countEntries result.entries).choosePrimary walk preSelected) :=
    ⟨h.placed, h.cursor, h.chunks⟩
  unfold ChallengeReader.adoptBackfill ChallengeReader.ingestSource
  dsimp only
  split
  · rename_i source _
    have hingest := ingestAndRebuild_buffered fmt result.entries source hchosen
    exact ⟨hingest.placed, Nat.sub_le _ _, hingest.chunks⟩
  · exact ⟨hchosen.placed, Nat.sub_le _ _, hchosen.chunks⟩

lemma adoptBackfill_eq (walk : Walk ℕ ClientState) (fmt : EventFormat ε)
    (preSelected : Option ℕ) (result : BackfillResult) (r : ChallengeReader) :
    (r.adoptBackfill walk fmt preSelected result).state = .active ∧
      (r.adoptBackfill walk fmt preSelected result).subscribers = r.subscribers ∧
      (r.adoptBackfill walk fmt preSelected result).channel = r.channel := by
  obtain ⟨_, _, _, heq⟩ := ingestSource_eq fmt
    ((r.countEntries result.entries).choosePrimary walk preSelected) result.entries
    (((r.countEntries result.entries).choosePrimary walk preSelected).backfillSource walk)
  unfold ChallengeReader.adoptBackfill
  dsimp only
  rw [heq]
  exact ⟨rfl, rfl, rfl⟩

lemma applyBackfill (h : Streaming nextId r) (walk : Walk ℕ ClientState) (fmt : EventFormat ε)
    (result : BackfillResult) (mostRecentTick : ℕ) :
    Streaming nextId (r.applyBackfill walk fmt result mostRecentTick) := by
  unfold ChallengeReader.applyBackfill
  split
  · rename_i preSelected _
    split
    · have hbuffered := adoptBackfill_buffered walk fmt preSelected result h.buffered
      obtain ⟨hactive, hsub, hchan⟩ := adoptBackfill_eq walk fmt preSelected result r
      apply replayToSubscribers
      · exact ⟨hbuffered.placed, hbuffered.cursor, hbuffered.chunks⟩
      · exact h.viewers
      · exact hactive
      · exact hsub
      · exact hchan
    · exact h
  · exact h

/-! ### Runs -/

lemma new (uuid : String) (state : ChallengeState) (clients : OrdMap ℕ ChallengeClient)
    (nextId : SubscriberId) : Streaming nextId (ChallengeReader.new uuid state clients) :=
  ⟨⟨nofun, le_rfl, 0, le_rfl, rfl⟩, ⟨fun _ _ => ⟨rfl, rfl⟩, fun _ => ⟨none, 0, rfl, nofun⟩⟩,
    nofun⟩

lemma step {w : Watched} (h : Streaming w.nextSubscriberId w.reader) (fmt : EventFormat ε)
    (op : Op) :
    Streaming (w.step fmt op).nextSubscriberId (w.step fmt op).reader := by
  cases op with
  | poll walk responses tick => exact h.applyPollResponses walk fmt responses tick
  | broadcast => exact h.broadcast
  | update update => exact h.applyChallengeUpdate update
  | subscribe skipped requestedStage => exact h.addSubscriber (Nat.le_add_right _ _) _
  | unsubscribe id => exact h.removeSubscriber id
  | backfill walk result mostRecentTick => exact h.applyBackfill walk fmt result mostRecentTick
  | shutdown retryWindowSecs => exact h.notifyShutdown retryWindowSecs

lemma run {w : Watched} (h : Streaming w.nextSubscriberId w.reader) (fmt : EventFormat ε)
    (ops : List Op) :
    Streaming (w.run fmt ops).nextSubscriberId (w.run fmt ops).reader := by
  induction ops generalizing w with
  | nil => exact h
  | cons op ops ih => exact ih (h.step fmt op)

end Streaming

/-- **A live viewer's stream is contiguous**, whatever happens to the reader and in whatever
order. -/
theorem viewer_stream_contiguous (fmt : EventFormat ε) (uuid : String) (state : ChallengeState)
    (clients : OrdMap ℕ ChallengeClient) (nextSubscriberId : SubscriberId) (ops : List Op)
    (id : SubscriberId) :
    Contiguous ((Watched.run fmt ⟨.new uuid state clients, nextSubscriberId⟩
      ops).reader.channel id) := by
  obtain ⟨generation, next, hfollow, -⟩ := (Streaming.run (w := ⟨_, nextSubscriberId⟩)
    (Streaming.new uuid state clients nextSubscriberId) fmt ops).viewers.phase id
  exact ⟨generation, next, hfollow⟩

/-- A viewer cannot follow ticks of which one is skipped. -/
example : follow (.live none 0) [.tick 0 0 1 [], .tick 0 2 1 []] = none := by decide

end Blert.Live

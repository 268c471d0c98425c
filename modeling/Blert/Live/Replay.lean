import Blert.Live.Contiguity

/-!
The cached replay equals the plain one.

Chunks of the buffer are kept once they are cut, and a tick that changes takes with it every chunk
from the one it is in. What is kept therefore always has the data of its ticks, and a replay sends
the buffer up to its cursor whatever has been merged into it.
-/

namespace Blert.Live

variable {ε : Type} {fmt : EventFormat ε} {r : ChallengeReader}

open ChallengeReader (dataBetween)

/-! ### Chunks and the buffer -/

structure Chunked (tickBuffer : List TickEntry) (chunks : List ReplayChunk) : Prop where
  placed : Placed tickBuffer
  cover : ∃ last ≤ tickBuffer.length, Cover chunks 0 last
  cached : ∀ c ∈ chunks, c.data = dataBetween tickBuffer c.startTick (c.startTick + c.tickCount)

lemma Cover.mem {cs : List ReplayChunk} {a b : ℕ} (h : Cover cs a b) {c : ReplayChunk}
    (hc : c ∈ cs) : c.endTick + 1 = c.startTick + c.tickCount ∧ c.endTick < b := by
  induction cs generalizing a with
  | nil => cases hc
  | cons d cs ih =>
    obtain ⟨rfl, hcount, hrest⟩ := h
    rcases List.mem_cons.mp hc with rfl | hc
    · have hend := ReplayChunk.endTick_succ hcount
      have hle := hrest.le
      exact ⟨hend, by omega⟩
    · exact ih hrest hc

lemma Cover.le_of_find?_eq_none {cs : List ReplayChunk} {a b tick : ℕ} (h : Cover cs a b)
    (ha : a ≤ tick)
    (hnone : cs.find? (fun c => c.startTick ≤ tick ∧ tick ≤ c.endTick) = none) : b ≤ tick := by
  induction cs generalizing a with
  | nil =>
    cases h
    exact ha
  | cons c cs ih =>
    obtain ⟨rfl, hcount, hrest⟩ := h
    have hend := ReplayChunk.endTick_succ hcount
    rw [List.find?_cons] at hnone
    split at hnone
    · cases hnone
    · rename_i hout
      have hout' : ¬ (c.startTick ≤ tick ∧ tick ≤ c.endTick) := by simpa using hout
      exact ih hrest (by omega) hnone

lemma dataBetween_congr {before after : List TickEntry} {first last : ℕ}
    (h : ∀ i < last, after[i]? = before[i]?) :
    dataBetween after first last = dataBetween before first last := by
  unfold ChallengeReader.dataBetween
  congr 1
  refine List.ext_getElem? fun i => ?_
  simp only [List.getElem?_take, List.getElem?_drop]
  split_ifs with hi
  · exact h _ (by omega)
  · rfl

lemma dataBetween_append {tickBuffer : List TickEntry} {first middle last : ℕ}
    (hfirst : first ≤ middle) (hlast : middle ≤ last) :
    dataBetween tickBuffer first middle ++ dataBetween tickBuffer middle last =
      dataBetween tickBuffer first last := by
  unfold ChallengeReader.dataBetween
  rw [← List.flatMap_append]
  congr 1
  have hsplit : last - first = (middle - first) + (last - middle) := by omega
  have hdrop : tickBuffer.drop middle = (tickBuffer.drop first).drop (middle - first) := by
    rw [List.drop_drop]
    congr 1
    omega
  rw [hsplit, hdrop, List.take_add]

@[simp] lemma dataBetween_self (tickBuffer : List TickEntry) (tick : ℕ) :
    dataBetween tickBuffer tick tick = [] := by
  simp [ChallengeReader.dataBetween]

/-! ### Ingesting -/

/-- What has been changed of a buffer lies at or after its first dirty tick. -/
def Untouched (before after : List TickEntry) (dirtyFrom : Option ℕ) : Prop :=
  before.length ≤ after.length ∧
    ∀ i < before.length, (∀ dirty ∈ dirtyFrom, i < dirty) → after[i]? = before[i]?

lemma ingestTick_untouched {before : List TickEntry} {s : ChallengeReader.Ingestion}
    (h : Untouched before s.tickBuffer s.dirtyFrom) (tick : ℕ) (events : List ε) :
    Untouched before (ChallengeReader.ingestTick fmt s tick events).tickBuffer
      (ChallengeReader.ingestTick fmt s tick events).dirtyFrom := by
  obtain ⟨hlen, hsame⟩ := h
  unfold ChallengeReader.ingestTick
  split
  · -- The tick is merged into: it is dirty itself.
    refine ⟨by simpa using hlen, fun i hi hclean => ?_⟩
    have hmin : i < (s.dirtyFrom.map (min · tick)).getD tick := hclean _ rfl
    have htick : i < tick := by
      cases hdirty : s.dirtyFrom with
      | none => simpa [hdirty] using hmin
      | some dirty =>
        have : i < min dirty tick := by simpa [hdirty] using hmin
        omega
    rw [List.getElem?_set_ne (by omega)]
    refine hsame i hi fun dirty hdirty => ?_
    have : i < min dirty tick := by simpa [Option.mem_def.mp hdirty] using hmin
    omega
  · -- Ticks are only added.
    dsimp only
    refine ⟨by simp; omega, fun i hi hclean => ?_⟩
    rw [List.append_assoc, List.getElem?_append_left (by omega)]
    refine hsame i hi fun dirty hdirty => hclean dirty ?_
    simp [Option.mem_def.mp hdirty]

lemma ingestTicks_untouched (fmt : EventFormat ε) {before : List TickEntry}
    {s : ChallengeReader.Ingestion} (h : Untouched before s.tickBuffer s.dirtyFrom)
    (ticks : List (ℕ × List ε)) :
    Untouched before
      (ticks.foldl (fun s e => ChallengeReader.ingestTick fmt s e.1 e.2) s).tickBuffer
      (ticks.foldl (fun s e => ChallengeReader.ingestTick fmt s e.1 e.2) s).dirtyFrom := by
  induction ticks generalizing s with
  | nil => exact h
  | cons e ticks ih => exact ih (ingestTick_untouched h e.1 e.2)

lemma chunking_cached {tickBuffer entries : List TickEntry} {first : ℕ}
    {s : ChallengeReader.Chunking}
    (hcached : ∀ c ∈ s.chunks,
      c.data = dataBetween tickBuffer c.startTick (c.startTick + c.tickCount))
    (hstart : s.startTick ≤ first) (hticks : ∀ i e, entries[i]? = some e → e.tick = first + i) :
    ∀ c ∈ (entries.foldl (ChallengeReader.Chunking.add tickBuffer) s).chunks,
      c.data = dataBetween tickBuffer c.startTick (c.startTick + c.tickCount) := by
  induction entries generalizing first s with
  | nil => exact hcached
  | cons entry entries ih =>
    have htick : entry.tick = first := hticks 0 entry rfl
    have hrest : ∀ i e, entries[i]? = some e → e.tick = first + 1 + i := fun i e he => by
      have := hticks (i + 1) e he
      omega
    rw [List.foldl_cons]
    unfold ChallengeReader.Chunking.add
    split_ifs
    · refine ih (fun c hc => ?_) (show entry.tick ≤ first + 1 by omega) hrest
      rcases List.mem_append.mp hc with hc | hc
      · exact hcached c hc
      · rw [List.mem_singleton.mp hc]
        have hwhole : s.startTick + (entry.tick - s.startTick) = entry.tick := by omega
        simp only [hwhole]
    · exact ih hcached (show s.startTick ≤ first + 1 by omega) hrest

lemma buildReplayChunks_chunked {before : List TickEntry} {fromTick : ℕ}
    (h : Chunked before r.replayChunks) (hplaced : Placed r.tickBuffer)
    (hsame : Untouched before r.tickBuffer (some fromTick)) :
    Chunked (r.buildReplayChunks fromTick).tickBuffer
      (r.buildReplayChunks fromTick).replayChunks := by
  obtain ⟨last, hlast, hcover⟩ := h.cover
  have hbuffered : Buffered { r with broadcastCursor := 0 } :=
    ⟨hplaced, Nat.zero_le _, last, hlast.trans hsame.1, hcover⟩
  have hbuilt : Buffered (ChallengeReader.buildReplayChunks fromTick
      { r with broadcastCursor := 0 }) := buildReplayChunks_buffered hbuffered
  unfold ChallengeReader.buildReplayChunks at hbuilt ⊢
  dsimp only at hbuilt ⊢
  split_ifs at hbuilt ⊢ with hempty
  · exact ⟨hbuilt.placed, hbuilt.chunks, nofun⟩
  refine ⟨hbuilt.placed, hbuilt.chunks, ?_⟩
  refine chunking_cached (fun c hc => ?_) le_rfl fun i e he =>
    hplaced _ e (by rwa [List.getElem?_drop] at he)
  obtain ⟨hmem, hends⟩ := List.mem_filter.mp hc
  have hends' : c.endTick < ChallengeReader.rebuildFrom r.replayChunks fromTick := by
    simpa using hends
  obtain ⟨hcount, hbefore⟩ := hcover.mem hmem
  -- What is kept ends before the tick that has changed.
  have hclean : c.endTick < fromTick := by
    unfold ChallengeReader.rebuildFrom at hends'
    split at hends'
    · rename_i chunk hchunk
      have hin : chunk.startTick ≤ fromTick ∧ fromTick ≤ chunk.endTick := by
        simpa using List.find?_some hchunk
      omega
    · rename_i hnone
      have := hcover.le_of_find?_eq_none (Nat.zero_le fromTick) hnone
      omega
  rw [h.cached c hmem]
  refine (dataBetween_congr fun i hi => hsame.2 i (by omega) fun dirty hdirty => ?_).symm
  cases hdirty
  omega

lemma ingestAndRebuild_chunked (fmt : EventFormat ε) (entries : List StageStreamEntry)
    (clientId : ℕ) (h : Chunked r.tickBuffer r.replayChunks) :
    Chunked (r.ingestAndRebuild fmt entries clientId).tickBuffer
      (r.ingestAndRebuild fmt entries clientId).replayChunks := by
  have hplaced := (ingestTicks_placed fmt
    (ChallengeReader.eventsByTick fmt entries clientId).entries
    (s := ⟨r.tickBuffer, r.highWaterTick, none⟩) h.placed).1
  have hstart : Untouched r.tickBuffer r.tickBuffer none := ⟨le_rfl, fun _ _ _ => rfl⟩
  have hsame := ingestTicks_untouched fmt (s := ⟨r.tickBuffer, r.highWaterTick, none⟩) hstart
    (ChallengeReader.eventsByTick fmt entries clientId).entries
  unfold ChallengeReader.ingestAndRebuild ChallengeReader.ingestEntries
  dsimp only
  split
  · rename_i r' dirty heq
    obtain ⟨rfl, hdirty⟩ := Prod.mk.inj heq
    rw [hdirty] at hsame
    exact buildReplayChunks_chunked h hplaced hsame
  · rename_i r' heq
    obtain ⟨rfl, hdirty⟩ := Prod.mk.inj heq
    rw [hdirty] at hsame
    obtain ⟨last, hlast, hcover⟩ := h.cover
    refine ⟨hplaced, ⟨last, hlast.trans hsame.1, hcover⟩, fun c hc => ?_⟩
    obtain ⟨hcount, hbefore⟩ := hcover.mem hc
    rw [h.cached c hc]
    exact (dataBetween_congr fun i hi => hsame.2 i (by omega) nofun).symm

lemma ingestSource_chunked (fmt : EventFormat ε) (entries : List StageStreamEntry)
    (source : Option ℕ) (h : Chunked r.tickBuffer r.replayChunks) :
    Chunked (r.ingestSource fmt entries source).tickBuffer
      (r.ingestSource fmt entries source).replayChunks := by
  cases source with
  | none => exact h
  | some source => exact ingestAndRebuild_chunked fmt entries source h

/-! ### Replays -/

lemma replayToSubscribers_chunks {reason : ResetReason} {tick : ℕ} :
    ((r.trackPrimary tick).logApplied.replayToSubscribers reason).tickBuffer = r.tickBuffer ∧
      ((r.trackPrimary tick).logApplied.replayToSubscribers reason).replayChunks =
        r.replayChunks :=
  ⟨rfl, rfl⟩

/-- Chunks that carry the first ticks of a buffer: they follow one another from the first tick on,
each has the data of its ticks, and together they have all of it. -/
structure Carries (tickBuffer : List TickEntry) (cursor : ℕ) (chunks : List ReplayChunk) :
    Prop where
  cover : Cover chunks 0 cursor
  count : (chunks.map (·.tickCount)).sum = cursor
  each : ∀ c ∈ chunks,
    c.data = ((tickBuffer.drop c.startTick).take c.tickCount).flatMap (·.data)
  data : chunks.flatMap (·.data) = (tickBuffer.take cursor).flatMap (·.data)

lemma Cover.sum_tickCount {cs : List ReplayChunk} {a b : ℕ} (h : Cover cs a b) :
    a + (cs.map (·.tickCount)).sum = b := by
  induction cs generalizing a with
  | nil => exact h
  | cons c cs ih =>
    have hrest := ih h.2.2
    rw [List.map_cons, List.sum_cons]
    omega

lemma Cover.flatMap_data {tickBuffer : List TickEntry} {cs : List ReplayChunk} {a b : ℕ}
    (h : Cover cs a b)
    (hcached : ∀ c ∈ cs,
      c.data = dataBetween tickBuffer c.startTick (c.startTick + c.tickCount)) :
    cs.flatMap (·.data) = dataBetween tickBuffer a b := by
  induction cs generalizing a with
  | nil =>
    cases h
    exact (dataBetween_self tickBuffer _).symm
  | cons c cs ih =>
    obtain ⟨rfl, -, hrest⟩ := h
    have hc := hcached c List.mem_cons_self
    have hcs := ih hrest fun d hd => hcached d (List.mem_cons_of_mem c hd)
    rw [List.flatMap_cons, hc, hcs]
    exact dataBetween_append (Nat.le_add_right _ _) hrest.le

lemma cursorSafeChunks_subset (cursor : ℕ) (chunks : List ReplayChunk) (a : ℕ) :
    ∀ c ∈ (ChallengeReader.cursorSafeChunks cursor chunks a).1, c ∈ chunks := by
  induction chunks generalizing a with
  | nil => exact fun c hc => hc
  | cons d chunks ih =>
    intro c hc
    unfold ChallengeReader.cursorSafeChunks at hc
    split_ifs at hc
    · cases hc
    · rcases List.mem_cons.mp hc with rfl | hc
      · exact List.mem_cons_self
      · exact List.mem_cons_of_mem d (ih _ c hc)

/-- A replay is a reset, chunks that carry the buffer up to the cursor, and an end at the last
tick before it. -/
lemma buildReplayMessages_carries (h : Chunked r.tickBuffer r.replayChunks)
    (hcursor : r.broadcastCursor ≤ r.tickBuffer.length) (reason : ResetReason) :
    ∃ chunks, Carries r.tickBuffer r.broadcastCursor chunks ∧
      r.buildReplayMessages reason =
        .reset reason r.stage r.stageAttempt r.stageState.isOpen r.generation ::
          chunks.map (fun c => .replayChunk r.generation c.startTick c.tickCount c.data) ++
        [.replayEnd r.generation
          (if r.broadcastCursor = 0 then none else some (r.broadcastCursor - 1))] := by
  obtain ⟨last, -, hcover⟩ := h.cover
  obtain ⟨hsafe, hle⟩ := cursorSafeChunks_cover hcover (Nat.zero_le r.broadcastCursor)
  have hsubset := cursorSafeChunks_subset r.broadcastCursor r.replayChunks 0
  unfold ChallengeReader.buildReplayMessages
  generalize ChallengeReader.cursorSafeChunks r.broadcastCursor r.replayChunks 0 = safe
    at hsafe hle hsubset
  obtain ⟨safe, tailStart⟩ := safe
  dsimp only at hsafe hle hsubset ⊢
  -- The tail is a chunk of its own, if there is one.
  obtain ⟨tail, htail, htailCached, hmsgs⟩ : ∃ tail : List ReplayChunk,
      Cover tail tailStart r.broadcastCursor ∧
      (∀ c ∈ tail,
        c.data = dataBetween r.tickBuffer c.startTick (c.startTick + c.tickCount)) ∧
      (if tailStart < r.broadcastCursor then
        [.replayChunk r.generation tailStart (r.broadcastCursor - tailStart)
          (dataBetween r.tickBuffer tailStart r.broadcastCursor)]
      else []) = tail.map (fun c =>
        SseMessage.replayChunk r.generation c.startTick c.tickCount c.data) := by
    have hwhole : tailStart + (r.broadcastCursor - tailStart) = r.broadcastCursor := by omega
    split_ifs with hlt
    · refine ⟨[⟨tailStart, r.broadcastCursor - tailStart,
        dataBetween r.tickBuffer tailStart r.broadcastCursor⟩], ⟨rfl, ?_, hwhole⟩, ?_, rfl⟩
      · exact Nat.sub_pos_of_lt hlt
      · intro c hc
        rw [List.mem_singleton.mp hc]
        simp only [hwhole]
    · exact ⟨[], le_antisymm hle (not_lt.mp hlt), nofun, rfl⟩
  have hall : Cover (safe ++ tail) 0 r.broadcastCursor := hsafe.append htail
  have hcached : ∀ c ∈ safe ++ tail,
      c.data = dataBetween r.tickBuffer c.startTick (c.startTick + c.tickCount) := by
    intro c hc
    rcases List.mem_append.mp hc with hc | hc
    · exact h.cached c (hsubset c hc)
    · exact htailCached c hc
  have hend : (if r.broadcastCursor = 0 then none
      else (r.tickBuffer[r.broadcastCursor - 1]?).map (·.tick)) =
        if r.broadcastCursor = 0 then none else some (r.broadcastCursor - 1) := by
    split_ifs with hzero
    · rfl
    · have hlt : r.broadcastCursor - 1 < r.tickBuffer.length := by omega
      have hplace := h.placed _ _ (List.getElem?_eq_getElem hlt)
      rw [List.getElem?_eq_getElem hlt, Option.map_some, hplace]
  refine ⟨safe ++ tail, ⟨hall, ?_, fun c hc => ?_, ?_⟩, ?_⟩
  · have hsum := hall.sum_tickCount
    omega
  · have hdata := hcached c hc
    simpa [ChallengeReader.dataBetween] using hdata
  · have hdata := hall.flatMap_data hcached
    simpa [ChallengeReader.dataBetween] using hdata
  · rw [hmsgs, hend, List.map_append]
    simp

/-! ### Runs -/

namespace Chunked

lemma empty : Chunked [] [] := ⟨nofun, ⟨0, le_rfl, rfl⟩, nofun⟩

lemma finishOpenStage (h : Chunked r.tickBuffer r.replayChunks) :
    Chunked r.finishOpenStage.tickBuffer r.finishOpenStage.replayChunks := by
  unfold ChallengeReader.finishOpenStage
  split_ifs <;> exact h

lemma finishChallenge (h : Chunked r.tickBuffer r.replayChunks) :
    Chunked r.finishChallenge.tickBuffer r.finishChallenge.replayChunks := by
  unfold ChallengeReader.finishChallenge
  split_ifs
  · exact h
  · exact h.finishOpenStage

lemma stall (h : Chunked r.tickBuffer r.replayChunks) (reason : StalledReason) (since : ℕ) :
    Chunked (r.stall reason since).tickBuffer (r.stall reason since).replayChunks := by
  unfold ChallengeReader.stall
  split <;> exact h

lemma assessClients (h : Chunked r.tickBuffer r.replayChunks)
    (clients : OrdMap ℕ ChallengeClient) (tick : ℕ) :
    Chunked (r.assessClients clients tick).tickBuffer
      (r.assessClients clients tick).replayChunks := by
  unfold ChallengeReader.assessClients
  split_ifs
  · exact h.stall _ _
  · exact h
  · exact h.stall _ _
  · exact h

lemma processClients (h : Chunked r.tickBuffer r.replayChunks)
    (clients : OrdMap ℕ ChallengeClient) (tick : ℕ) :
    Chunked (r.processClients clients tick).tickBuffer
      (r.processClients clients tick).replayChunks := by
  unfold ChallengeReader.processClients
  dsimp only
  split_ifs
  · exact assessClients (r := r.syncClients clients) h clients tick
  · exact assessClients (r := (r.syncClients clients).beginStage tick _ _) empty clients tick
  · exact h

lemma applyResponses {s : ChallengeReader × Option (List StageStreamEntry)}
    (h : Chunked s.1.tickBuffer s.1.replayChunks) (tick : ℕ) (responses : List RedisResponse) :
    Chunked (responses.foldl (ChallengeReader.applyResponse tick) s).1.tickBuffer
      (responses.foldl (ChallengeReader.applyResponse tick) s).1.replayChunks := by
  induction responses generalizing s with
  | nil => exact h
  | cons response responses ih =>
    refine ih ?_
    unfold ChallengeReader.applyResponse
    split
    · split_ifs
      · exact empty
      · exact h
    · exact h.finishChallenge
    · exact h.processClients _ _
    · exact h

lemma processStreamEntries (h : Chunked r.tickBuffer r.replayChunks) (fmt : EventFormat ε)
    (entries : List StageStreamEntry) (tick : ℕ) :
    Chunked (r.processStreamEntries fmt entries tick).tickBuffer
      (r.processStreamEntries fmt entries tick).replayChunks := by
  unfold ChallengeReader.processStreamEntries
  split
  · exact h
  dsimp only
  split
  · exact ingestAndRebuild_chunked fmt entries _ (by exact h)
  · exact h

lemma processResponses (h : Chunked r.tickBuffer r.replayChunks) (fmt : EventFormat ε)
    (responses : List RedisResponse) (tick : ℕ) :
    Chunked (r.processResponses fmt responses tick).tickBuffer
      (r.processResponses fmt responses tick).replayChunks := by
  unfold ChallengeReader.processResponses
  have hs := applyResponses (s := (r, none)) h tick responses
  generalize responses.foldl (ChallengeReader.applyResponse tick) (r, none) = s at hs
  obtain ⟨s, streamEntries⟩ := s
  dsimp only at hs ⊢
  split
  · split_ifs
    · exact hs.processStreamEntries fmt _ tick
    · exact hs
  · exact hs

lemma updatePrimary (h : Chunked r.tickBuffer r.replayChunks) (walk : Walk ℕ ClientState)
    (tick : ℕ) : Chunked (r.updatePrimary walk tick).tickBuffer
      (r.updatePrimary walk tick).replayChunks := by
  unfold ChallengeReader.updatePrimary
  split
  · dsimp only
    split
    · exact empty
    · exact h
  · split
    · unfold ChallengeReader.checkPrimarySwitch
      split_ifs
      · exact h
      · exact h.stall _ _
      · split
        · exact h.stall _ _
        · exact empty
    · exact h

lemma broadcast (h : Chunked r.tickBuffer r.replayChunks) :
    Chunked r.broadcast.tickBuffer r.broadcast.replayChunks := by
  unfold ChallengeReader.broadcast
  dsimp only
  split_ifs
  · exact h
  · exact h
  split
  · exact h
  · unfold ChallengeReader.finishDrained
    split_ifs <;> exact h

lemma addSubscriber (h : Chunked r.tickBuffer r.replayChunks) (subscriber : Subscriber) :
    Chunked (r.addSubscriber subscriber).tickBuffer
      (r.addSubscriber subscriber).replayChunks := by
  unfold ChallengeReader.addSubscriber
  dsimp only
  split <;> exact h

lemma applyBackfill (h : Chunked r.tickBuffer r.replayChunks) (walk : Walk ℕ ClientState)
    (fmt : EventFormat ε) (result : BackfillResult) (mostRecentTick : ℕ) :
    Chunked (r.applyBackfill walk fmt result mostRecentTick).tickBuffer
      (r.applyBackfill walk fmt result mostRecentTick).replayChunks := by
  unfold ChallengeReader.applyBackfill
  split
  · rename_i preSelected _
    split
    · have hchosen : Chunked ((r.countEntries result.entries).choosePrimary walk
          preSelected).tickBuffer ((r.countEntries result.entries).choosePrimary walk
            preSelected).replayChunks := h
      have hingested := ingestSource_chunked fmt result.entries
        (((r.countEntries result.entries).choosePrimary walk preSelected).backfillSource walk)
        hchosen
      have hadopted : Chunked (r.adoptBackfill walk fmt preSelected result).tickBuffer
          (r.adoptBackfill walk fmt preSelected result).replayChunks := by
        unfold ChallengeReader.adoptBackfill
        exact hingested
      rw [replayToSubscribers_chunks.1, replayToSubscribers_chunks.2]
      exact hadopted
    · exact h
  · exact h

lemma step {w : Watched} (h : Chunked w.reader.tickBuffer w.reader.replayChunks)
    (fmt : EventFormat ε) (op : Op) :
    Chunked (w.step fmt op).reader.tickBuffer (w.step fmt op).reader.replayChunks := by
  cases op with
  | poll walk responses tick =>
    change Chunked (w.reader.applyPollResponses walk fmt responses tick).tickBuffer
      (w.reader.applyPollResponses walk fmt responses tick).replayChunks
    unfold ChallengeReader.applyPollResponses
    split_ifs
    · exact h
    · exact (h.processResponses fmt responses tick).updatePrimary walk tick
  | broadcast => exact h.broadcast
  | update update =>
    change Chunked (w.reader.applyChallengeUpdate update).tickBuffer
      (w.reader.applyChallengeUpdate update).replayChunks
    unfold ChallengeReader.applyChallengeUpdate
    split
    · split_ifs <;> exact h
    · exact h.finishChallenge
  | subscribe skipped requestedStage => exact h.addSubscriber _
  | unsubscribe id => exact h
  | backfill walk result mostRecentTick => exact h.applyBackfill walk fmt result mostRecentTick
  | shutdown retryWindowSecs => exact h

lemma run {w : Watched} (h : Chunked w.reader.tickBuffer w.reader.replayChunks)
    (fmt : EventFormat ε) (ops : List Op) :
    Chunked (w.run fmt ops).reader.tickBuffer (w.run fmt ops).reader.replayChunks := by
  induction ops generalizing w with
  | nil => exact h
  | cons op ops ih => exact ih (h.step fmt op)

lemma ingestAll (h : Chunked r.tickBuffer r.replayChunks) (fmt : EventFormat ε)
    (batches : List (List StageStreamEntry × ℕ)) :
    Chunked (batches.foldl (fun r b => r.ingestAndRebuild fmt b.1 b.2) r).tickBuffer
      (batches.foldl (fun r b => r.ingestAndRebuild fmt b.1 b.2) r).replayChunks := by
  induction batches generalizing r with
  | nil => exact h
  | cons b batches ih => exact ih (ingestAndRebuild_chunked fmt b.1 b.2 h)

end Chunked

/-- **The cached replay equals the plain one**: whatever has happened to a reader and whatever is
ingested then, its buffer has each tick at its place, and for every cursor in the buffer a replay
carries the buffer up to the cursor. -/
theorem replay_carries_buffer (fmt : EventFormat ε) (uuid : String) (state : ChallengeState)
    (clients : OrdMap ℕ ChallengeClient) (nextSubscriberId : SubscriberId) (ops : List Op)
    (batches : List (List StageStreamEntry × ℕ)) :
    let r := batches.foldl (fun r b => r.ingestAndRebuild fmt b.1 b.2)
      (Watched.run fmt ⟨.new uuid state clients, nextSubscriberId⟩ ops).reader
    Placed r.tickBuffer ∧ r.broadcastCursor ≤ r.tickBuffer.length ∧
      ∀ cursor ≤ r.tickBuffer.length, ∀ reason, ∃ chunks, Carries r.tickBuffer cursor chunks ∧
        ({ r with broadcastCursor := cursor }).buildReplayMessages reason =
          .reset reason r.stage r.stageAttempt r.stageState.isOpen r.generation ::
            chunks.map (fun c => .replayChunk r.generation c.startTick c.tickCount c.data) ++
          [.replayEnd r.generation (if cursor = 0 then none else some (cursor - 1))] := by
  intro r
  have hrun := Chunked.run (w := ⟨.new uuid state clients, nextSubscriberId⟩) Chunked.empty fmt
    ops
  have hchunked : Chunked r.tickBuffer r.replayChunks := hrun.ingestAll fmt batches
  have hbuffered : Buffered r := by
    have hstreaming := (Streaming.run (w := ⟨_, nextSubscriberId⟩)
      (Streaming.new uuid state clients nextSubscriberId) fmt ops).buffered
    exact List.foldlRecOn batches _ hstreaming fun r h b _ =>
      ingestAndRebuild_buffered fmt b.1 b.2 h
  refine ⟨hchunked.placed, hbuffered.cursor, fun cursor hcursor reason => ?_⟩
  exact buildReplayMessages_carries (r := { r with broadcastCursor := cursor }) hchunked hcursor
    reason

/-- Large ticks are cut into chunks of their own, of which one that ends after the cursor is left
out of a replay. -/
example : ChallengeReader.cursorSafeChunks 3 [⟨0, 2, [0]⟩, ⟨2, 2, [1]⟩] 0 =
    ([⟨0, 2, [0]⟩], 2) := by decide

end Blert.Live

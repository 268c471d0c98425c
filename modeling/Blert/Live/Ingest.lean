import Blert.Buckets
import Blert.Live.Reader

/-!
What is ingested.

A buffer records events if each of its entries has the events of its tick in order. Ingesting more
events makes it record those that come after the ones it recorded.
-/

namespace Blert.Live

variable {ε : Type} {fmt : EventFormat ε}

def clientEvents (fmt : EventFormat ε) (clientId : ℕ) (entries : List StageStreamEntry) :
    List ε :=
  (entries.filter (·.clientId = clientId)).flatMap fun entry =>
    (fmt.decode entry.events).getD []

lemma clientEvents_append (clientId : ℕ) (xs ys : List StageStreamEntry) :
    clientEvents fmt clientId (xs ++ ys) =
      clientEvents fmt clientId xs ++ clientEvents fmt clientId ys := by
  rw [clientEvents, List.filter_append, List.flatMap_append]
  rfl

def recording (fmt : EventFormat ε) (events : List ε) : List TickEntry :=
  (List.range (span fmt.tick events)).map fun tick =>
    ⟨tick, fmt.encode (bucket fmt.tick events tick)⟩

def Represents (fmt : EventFormat ε) (tickBuffer : List TickEntry) (events : ℕ → List ε)
    (length : ℕ) : Prop :=
  tickBuffer = (List.range length).map (fun tick => ⟨tick, fmt.encode (events tick)⟩) ∧
    ∀ tick, length ≤ tick → events tick = []

lemma represents_recording (events : List ε) :
    Represents fmt (recording fmt events) (bucket fmt.tick events) (span fmt.tick events) :=
  ⟨rfl, fun _ h => bucket_of_span_le h⟩

lemma Represents.getElem? {tickBuffer : List TickEntry} {events : ℕ → List ε} {length : ℕ}
    (h : Represents fmt tickBuffer events length) (tick : ℕ) :
    tickBuffer[tick]? = if tick < length then some ⟨tick, fmt.encode (events tick)⟩ else none := by
  rw [h.1, List.getElem?_map]
  split_ifs with hlt
  · rw [List.getElem?_range hlt, Option.map_some]
  · rw [List.getElem?_eq_none (by simpa using hlt), Option.map_none]

lemma Represents.length {tickBuffer : List TickEntry} {events : ℕ → List ε} {length : ℕ}
    (h : Represents fmt tickBuffer events length) : tickBuffer.length = length := by
  rw [h.1, List.length_map, List.length_range]

lemma range_succ_of_le {length tick : ℕ} (h : length ≤ tick) :
    List.range (tick + 1) =
      List.range length ++ List.range' length (tick - length) ++ [tick] := by
  rw [List.range_succ, List.range_eq_range' (n := tick), List.range_eq_range' (n := length)]
  congr 1
  have hsplit := List.range'_append_1 (s := 0) (m := length) (n := tick - length)
  rw [Nat.zero_add, Nat.add_sub_cancel' h] at hsplit
  exact hsplit.symm

lemma Represents.ingestTick {s : ChallengeReader.Ingestion} {events : ℕ → List ε} {length : ℕ}
    (h : Represents fmt s.tickBuffer events length) (tick : ℕ) (new : List ε) :
    Represents fmt (ChallengeReader.ingestTick fmt s tick new).tickBuffer
      (Function.update events tick (events tick ++ new)) (max length (tick + 1)) := by
  refine ⟨?_, fun i hi => ?_⟩
  · unfold ChallengeReader.ingestTick
    rw [h.getElem?]
    split_ifs with hlt
    · -- The tick is recorded already.
      dsimp only
      rw [fmt.decode_encode, Option.getD_some, max_eq_left (Nat.succ_le_of_lt hlt)]
      refine List.ext_getElem? fun i => ?_
      rw [List.getElem?_set, h.length, if_pos hlt, h.getElem?, List.getElem?_map]
      split_ifs with hi hi'
      · subst hi
        rw [List.getElem?_range hlt, Option.map_some, Function.update_self]
      · rw [List.getElem?_range hi', Option.map_some, Function.update_of_ne (Ne.symm hi)]
      · rw [List.getElem?_eq_none (by simpa using hi'), Option.map_none]
    · -- The tick is new, and so are those between.
      have hle : length ≤ tick := not_lt.mp hlt
      dsimp only
      rw [h.length, max_eq_right (hle.trans (Nat.le_succ tick)), range_succ_of_le hle,
        List.map_append, List.map_append, h.1]
      congr 1
      · congr 1
        · refine List.map_congr_left fun i hi => ?_
          rw [Function.update_of_ne (by have := List.mem_range.mp hi; omega)]
        · refine List.map_congr_left fun i hi => ?_
          have hi' := List.mem_range'_1.mp hi
          rw [Function.update_of_ne (by omega), h.2 i hi'.1, fmt.encode_nil]
      · rw [List.map_singleton, Function.update_self, h.2 tick hle, List.nil_append]
  · have hne : i ≠ tick := by omega
    rw [Function.update_of_ne hne]
    exact h.2 i (by omega)

lemma Represents.ingestTicks {s : ChallengeReader.Ingestion} {events : ℕ → List ε} {length : ℕ}
    (h : Represents fmt s.tickBuffer events length) (ticks : List (ℕ × List ε)) :
    Represents fmt
      (ticks.foldl (fun s e => ChallengeReader.ingestTick fmt s e.1 e.2) s).tickBuffer
      (fun tick => events tick ++ (ticks.filter (·.1 = tick)).flatMap (·.2))
      (max length (span (·.1) ticks)) := by
  induction ticks generalizing s events length with
  | nil => simpa using h
  | cons e ticks ih =>
    have hstep := ih (h.ingestTick e.1 e.2)
    rw [List.foldl_cons, span, ← max_assoc]
    refine cast ?_ hstep
    congr 1
    funext tick
    by_cases htick : e.1 = tick
    · subst htick
      rw [Function.update_self, List.filter_cons_of_pos (by simp), List.flatMap_cons,
        List.append_assoc]
    · rw [Function.update_of_ne (Ne.symm htick), List.filter_cons_of_neg (by simpa using htick)]

/-! ### Events by tick -/

lemma foldl_addEvent_get (events : List ε) (byTick : OrdMap ℕ (List ε)) (tick : ℕ) :
    (events.foldl (ChallengeReader.addEvent fmt) byTick).get tick =
      if bucket fmt.tick events tick = [] then byTick.get tick
      else some ((byTick.get tick).getD [] ++ bucket fmt.tick events tick) := by
  induction events generalizing byTick with
  | nil => rfl
  | cons event events ih =>
    rw [List.foldl_cons, ih, ChallengeReader.addEvent, OrdMap.get_insert]
    by_cases htick : tick = fmt.tick event
    · subst htick
      have hcons : bucket fmt.tick (event :: events) (fmt.tick event) =
          event :: bucket fmt.tick events (fmt.tick event) :=
        List.filter_cons_of_pos (by simp)
      rw [if_pos rfl, hcons, if_neg (List.cons_ne_nil _ _)]
      split_ifs with hnil
      · rw [hnil]
      · rw [Option.getD_some, List.append_assoc, List.singleton_append]
    · have hcons : bucket fmt.tick (event :: events) tick = bucket fmt.tick events tick :=
        List.filter_cons_of_neg (by simpa using Ne.symm htick)
      rw [if_neg htick, hcons]

lemma eventsByTick_eq (entries : List StageStreamEntry) (clientId : ℕ) :
    ChallengeReader.eventsByTick fmt entries clientId =
      (clientEvents fmt clientId entries).foldl (ChallengeReader.addEvent fmt) ∅ := by
  rw [clientEvents, List.foldl_flatMap, ChallengeReader.eventsByTick]
  congr 1
  funext byTick entry
  cases fmt.decode entry.events <;> rfl

lemma eventsByTick_get (entries : List StageStreamEntry) (clientId tick : ℕ) :
    (ChallengeReader.eventsByTick fmt entries clientId).get tick =
      if bucket fmt.tick (clientEvents fmt clientId entries) tick = [] then none
      else some (bucket fmt.tick (clientEvents fmt clientId entries) tick) := by
  rw [eventsByTick_eq, foldl_addEvent_get]
  rfl

lemma filter_key {κ ν : Type} [LinearOrder κ] {l : List (κ × ν)} (h : l.Pairwise (·.1 < ·.1))
    (k : κ) : l.filter (·.1 = k) = ((OrdMap.find k l).map (Prod.mk k)).toList := by
  induction l with
  | nil => rfl
  | cons e l ih =>
    obtain ⟨hlt, hl⟩ := List.pairwise_cons.mp h
    obtain ⟨k', v⟩ := e
    rw [OrdMap.find]
    by_cases hk : k = k'
    · subst hk
      have hnone : l.filter (·.1 = k) = [] :=
        List.filter_eq_nil_iff.mpr fun e he hek => (hlt e he).ne' (of_decide_eq_true hek)
      rw [List.filter_cons_of_pos (by simp), hnone, if_pos rfl]
      rfl
    · rw [List.filter_cons_of_neg (by simpa using Ne.symm hk), if_neg hk, ih hl]

lemma ingestAndRebuild_eq (fmt : EventFormat ε) (r : ChallengeReader)
    (entries : List StageStreamEntry) (clientId : ℕ) :
    ∃ tickBuffer highWaterTick replayChunks, r.ingestAndRebuild fmt entries clientId =
      { r with tickBuffer, highWaterTick, replayChunks } := by
  unfold ChallengeReader.ingestAndRebuild ChallengeReader.ingestEntries
  dsimp only
  split
  · rename_i r' from' heq
    obtain ⟨rfl, -⟩ := Prod.mk.inj heq
    unfold ChallengeReader.buildReplayChunks
    split_ifs
    · exact ⟨_, _, _, rfl⟩
    · exact ⟨_, _, _, rfl⟩
  · rename_i r' heq
    obtain ⟨rfl, -⟩ := Prod.mk.inj heq
    exact ⟨_, _, _, rfl⟩

lemma ingestSource_eq (fmt : EventFormat ε) (r : ChallengeReader)
    (entries : List StageStreamEntry) (source : Option ℕ) :
    ∃ tickBuffer highWaterTick replayChunks, r.ingestSource fmt entries source =
      { r with tickBuffer, highWaterTick, replayChunks } := by
  cases source with
  | none => exact ⟨_, _, _, rfl⟩
  | some source => exact ingestAndRebuild_eq fmt r entries source

lemma ingestEntries_recording {r : ChallengeReader} {events : List ε}
    (h : r.tickBuffer = recording fmt events) (entries : List StageStreamEntry) (clientId : ℕ) :
    (r.ingestEntries fmt entries clientId).1.tickBuffer =
      recording fmt (events ++ clientEvents fmt clientId entries) := by
  have hbuckets : ∀ tick, ((ChallengeReader.eventsByTick fmt entries clientId).entries.filter
      (·.1 = tick)).flatMap (·.2) =
        bucket fmt.tick (clientEvents fmt clientId entries) tick := by
    intro tick
    rw [filter_key (OrdMap.sorted _)]
    change ((((ChallengeReader.eventsByTick fmt entries clientId).get tick).map
      (Prod.mk tick)).toList).flatMap _ = _
    rw [eventsByTick_get]
    split_ifs with hnil
    · rw [hnil]
      rfl
    · simp
  have hspan : span (·.1) (ChallengeReader.eventsByTick fmt entries clientId).entries =
      span fmt.tick (clientEvents fmt clientId entries) := by
    refine eq_of_forall_ge_iff fun n => ?_
    rw [span_le_iff, span_le_iff]
    refine forall_congr' fun tick => ?_
    rw [bucket, filter_key (OrdMap.sorted _)]
    change (((ChallengeReader.eventsByTick fmt entries clientId).get tick).map _).toList ≠ [] →
      _ ↔ _
    rw [eventsByTick_get]
    split_ifs with hnil <;> simp [hnil]
  have hrepresents : Represents fmt (ChallengeReader.Ingestion.mk r.tickBuffer r.highWaterTick
      none).tickBuffer (bucket fmt.tick events) (span fmt.tick events) :=
    h ▸ represents_recording events
  have hingest := hrepresents.ingestTicks
    (ChallengeReader.eventsByTick fmt entries clientId).entries
  refine hingest.1.trans ?_
  rw [recording, span_append, hspan]
  refine List.map_congr_left fun tick _ => ?_
  dsimp only
  rw [hbuckets, bucket_append]

lemma ingestAndRebuild_recording {r : ChallengeReader} {events : List ε}
    (h : r.tickBuffer = recording fmt events) (entries : List StageStreamEntry) (clientId : ℕ) :
    (r.ingestAndRebuild fmt entries clientId).tickBuffer =
      recording fmt (events ++ clientEvents fmt clientId entries) := by
  have hingest := ingestEntries_recording h entries clientId
  unfold ChallengeReader.ingestAndRebuild
  split
  · rename_i r' from' heq
    rw [heq] at hingest
    unfold ChallengeReader.buildReplayChunks
    split_ifs <;> exact hingest
  · rename_i r' heq
    rw [heq] at hingest
    exact hingest

end Blert.Live

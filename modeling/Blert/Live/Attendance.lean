import Blert.Live.Ingest
import Blert.Live.Polls

/-!
Viewers of a live reader, and the ends of its stages.

While a reader is active each of its subscribers is live, a backfill that it has asked for is
applied, and a stage that has ended has been broadcast. This can fail in two places: a poll may
stall a reader that waits for a backfill, and a backfill may come when its stage has ended.
-/

namespace Blert.Live

variable {ε : Type} {fmt : EventFormat ε} {r : ChallengeReader}

def AllLive (r : ChallengeReader) : Prop :=
  ∀ id s, r.subscribers.get id = some s → s.state = SubscriberState.live

/-- A backfill is the last thing that was logged. Neither has its result been applied, nor has the
stage changed, nor has another backfill been asked for. -/
def Pending (r : ChallengeReader) (id : ℕ) : Prop :=
  r.trace.getLast? = some (.requestingBackfill id)

/-- The result of a backfill would be applied. -/
def Awaits (fmt : EventFormat ε) (r : ChallengeReader) (id : ℕ) : Prop :=
  ∀ walk result mostRecentTick, result.backfillId = id →
    (r.applyBackfill walk fmt result mostRecentTick).state = .active ∧
      (r.applyBackfill walk fmt result mostRecentTick).trace = r.trace ++ [.backfillApplied]

/-- No viewer is left behind and no ended stage is cut short. -/
structure Attentive (fmt : EventFormat ε) (r : ChallengeReader) : Prop where
  live : r.state = .active → AllLive r
  awaits : r.state ≠ .completed → ∀ id, Pending r id → Awaits fmt r id
  drained : r.state = .active → r.stageState = .inactive →
    r.tickBuffer.length ≤ r.broadcastCursor

/-- A poll would find the primary unhealthy and no other client while a backfill is awaited. -/
def StallsBackfill (tick : ℕ) (r : ChallengeReader) : Prop :=
  (∃ preSelected, r.state = .backfilling preSelected) ∧
    ∃ primary, r.primaryClientId = some primary ∧ ¬ r.isHealthy primary tick ∧
      ¬ r.hasOtherClients primary tick

/-- A backfill that is awaited comes with events of its source when the stage is not open. -/
def CutsShort (fmt : EventFormat ε) (walk : Walk ℕ ClientState) (result : BackfillResult)
    (r : ChallengeReader) : Prop :=
  ¬ r.stageState.isOpen ∧ ∃ preSelected source, r.state = .backfilling preSelected ∧
    result.backfillId = r.backfillId ∧
    ((r.countEntries result.entries).choosePrimary walk preSelected).backfillSource walk =
      some source ∧ clientEvents fmt source result.entries ≠ []

/-- No poll stalls a reader that waits for a backfill, and no backfill comes after the end of its
stage. -/
def Attends (fmt : EventFormat ε) (w : World) : Act → Prop
  | .answer _ _ => ¬ StallsBackfill w.tick w.reader
  | .backfill walk result => ¬ CutsShort fmt walk result w.reader
  | _ => True

structure Attended (r : ChallengeReader) : Prop where
  live : (∀ preSelected, r.state ≠ .backfilling preSelected) → AllLive r
  empty : ∀ preSelected, r.state = .backfilling preSelected → r.tickBuffer = []
  pending : ∀ preSelected, r.state = .backfilling preSelected → Pending r r.backfillId
  waiting : ∀ id, Pending r id →
    r.state = .completed ∨ ∃ preSelected, r.state = .backfilling preSelected
  drained : r.state = .active → r.stageState = .inactive →
    r.tickBuffer.length ≤ r.broadcastCursor

/-- What a reader keeps while a poll is processed that it has asked for. -/
structure Watching (r : ChallengeReader) : Prop where
  watching : ∀ preSelected, r.state ≠ .backfilling preSelected
  live : AllLive r
  unasked : ∀ id, ¬ Pending r id
  drained : r.state = .active → r.stageState = .inactive →
    r.tickBuffer.length ≤ r.broadcastCursor

/-! ### Polls -/

namespace Watching

lemma finishChallenge (h : Watching r) : Watching r.finishChallenge := by
  unfold ChallengeReader.finishChallenge
  split_ifs
  · exact h
  · refine ⟨nofun, nofun, fun id hpending => h.unasked id ?_, nofun⟩
    unfold Pending
    rw [← hpending]
    unfold ChallengeReader.finishOpenStage
    split_ifs <;> rfl

lemma beginStage (h : Watching r) (tick : ℕ) (stage : ℤ) (attempt : Option ℕ) :
    Watching (r.beginStage tick stage attempt) := by
  refine ⟨nofun, ?_, fun id hpending => ?_, fun _ => nofun⟩
  · intro id s hget
    refine h.live id s ?_
    rw [← hget]
    unfold ChallengeReader.beginStage ChallengeReader.finishOpenStage
    split_ifs <;> rfl
  · have hlast : (r.finishOpenStage.trace ++ [Trace.stageStarted]).getLast? =
      some (.requestingBackfill id) := hpending
    rw [List.getLast?_concat] at hlast
    cases hlast

lemma stall (h : Watching r) (reason : StalledReason) (since : ℕ) :
    Watching (r.stall reason since) := by
  unfold ChallengeReader.stall
  split
  · exact h
  · exact ⟨nofun, h.live, h.unasked, nofun⟩

lemma reported (h : Watching r) (tick : ℕ) (state : Option ChallengeState)
    (clients : OrdMap ℕ ChallengeClient) : Watching (reported tick state clients r) :=
  reported_induction (fun _ h => h.finishChallenge) (fun _ _ _ h => h.beginStage _ _ _)
    (fun _ _ h => h.stall _ _) (fun _ h => ⟨h.watching, h.live, h.unasked, h.drained⟩)
    (fun _ h => ⟨h.watching, h.live, h.unasked, fun _ => nofun⟩) h

end Watching

lemma reported_open (hopen : r.state = .active → r.stageState.isOpen) (tick : ℕ)
    (state : Option ChallengeState) (clients : OrdMap ℕ ChallengeClient) :
    (reported tick state clients r).state = .active →
      (reported tick state clients r).stageState.isOpen := by
  refine reported_induction (P := fun r => r.state = .active → r.stageState.isOpen)
    (fun r _ hactive => ?_) (fun _ _ _ _ _ => rfl) (fun r reason h => ?_) (fun _ h => h)
    (fun _ _ _ => rfl) hopen
  · cases (finishChallenge_fields r).1.symm.trans hactive
  · unfold ChallengeReader.stall
    split
    · exact h
    · nofun

lemma Watching.processStreamEntries (h : Watching r)
    (hopen : r.state = .active → r.stageState.isOpen) (fmt : EventFormat ε)
    (entries : List StageStreamEntry) (tick : ℕ) :
    Watching (r.processStreamEntries fmt entries tick) := by
  have hdrained : r.state = .active → r.stageState = .inactive → False := by
    intro hactive hinactive
    have := hopen hactive
    rw [hinactive] at this
    cases this
  unfold ChallengeReader.processStreamEntries
  split
  · exact h
  dsimp only
  split
  · rename_i last _ _ primary _
    obtain ⟨_, _, _, heq⟩ := ingestAndRebuild_eq fmt { r with
      pollCursor := last.id
      clientStates := entries.foldl (fun states (entry : StageStreamEntry) =>
        updateClient states entry.clientId fun s =>
          { s with eventCount := s.eventCount + 1, lastActiveTick := tick })
        r.clientStates } entries primary
    rw [heq]
    exact ⟨h.watching, h.live, h.unasked, fun ha hi => (hdrained ha hi).elim⟩
  · exact ⟨h.watching, h.live, h.unasked, h.drained⟩

lemma attended_switchToPrimary (r : ChallengeReader) (newPrimary : ℕ) :
    Attended (r.switchToPrimary newPrimary) := by
  refine ⟨fun h => (h _ rfl).elim, fun _ _ => rfl, fun _ _ => ?_, fun _ _ => Or.inr ⟨_, rfl⟩,
    nofun⟩
  exact List.getLast?_concat

lemma Watching.attended (h : Watching r) : Attended r :=
  ⟨fun _ => h.live, fun _ hstate => (h.watching _ hstate).elim,
    fun _ hstate => (h.watching _ hstate).elim, fun id hpending => (h.unasked id hpending).elim,
    h.drained⟩

lemma Watching.updatePrimary (h : Watching r) (walk : Walk ℕ ClientState) (tick : ℕ) :
    Attended (r.updatePrimary walk tick) := by
  unfold ChallengeReader.updatePrimary
  split
  · dsimp only
    split
    · exact attended_switchToPrimary _ _
    · exact h.attended
  · split
    · unfold ChallengeReader.checkPrimarySwitch
      split_ifs
      · exact h.attended
      · exact (h.stall _ _).attended
      · split
        · exact (h.stall _ _).attended
        · exact attended_switchToPrimary _ _
    · exact Watching.attended ⟨h.watching, h.live, h.unasked, h.drained⟩

lemma selectPrimaryClient_ne_none (walk : Walk ℕ ClientState) {primary tick : ℕ}
    (hhealthy : ¬ r.isHealthy primary tick) (hothers : r.hasOtherClients primary tick) :
    r.selectPrimaryClient walk (r.candidateActiveSince primary tick) (some primary) ≠ none := by
  obtain ⟨⟨id, s⟩, hmem, hother⟩ := List.any_eq_true.mp hothers
  simp only [Bool.and_eq_true, decide_eq_true_eq] at hother
  obtain ⟨⟨hne, hactive⟩, hrecent⟩ := hother
  have hsince : r.candidateActiveSince primary tick ≤ s.lastActiveTick := by
    unfold ChallengeReader.candidateActiveSince
    split_ifs with hprimary
    · -- The primary is active and unhealthy, so that it has been silent.
      unfold ChallengeReader.isHealthy at hhealthy
      cases hget : r.clientStates.get primary with
      | none =>
        rw [hget] at hprimary
        cases hprimary
      | some ps =>
        rw [hget, Option.any_some] at hprimary hhealthy
        simp only [hprimary, Bool.true_and, decide_eq_true_eq] at hhealthy
        unfold silenceThreshold at *
        omega
    · exact Nat.zero_le _
  unfold ChallengeReader.selectPrimaryClient
  rw [ne_eq, Option.map_eq_none_iff]
  have hcandidate : (id, s) ∈ (walk.walk r.clientStates).filter fun e =>
      some primary ≠ some e.1 ∧ e.2.active ∧
        r.candidateActiveSince primary tick ≤ e.2.lastActiveTick := by
    refine List.mem_filter.mpr ⟨(walk.perm _).mem_iff.mpr hmem, decide_eq_true ?_⟩
    exact ⟨fun heq => hne (Option.some.inj heq).symm, hactive, hsince⟩
  intro hnone
  unfold maxByKey at hnone
  split at hnone
  · rename_i heq
    rw [heq] at hcandidate
    cases hcandidate
  · cases hnone

lemma Attended.updatePrimary (h : Attended r) {preSelected : Option ℕ}
    (hstate : r.state = .backfilling preSelected) (walk : Walk ℕ ClientState) {tick : ℕ}
    (hstalls : ¬ StallsBackfill tick r) : Attended (r.updatePrimary walk tick) := by
  unfold ChallengeReader.updatePrimary
  split
  · rename_i hstalled
    cases hstate.symm.trans hstalled
  · split
    · rename_i primary hprimary
      unfold ChallengeReader.checkPrimarySwitch
      split_ifs with hhealthy hothers
      · exact h
      · refine (hstalls ⟨⟨_, hstate⟩, primary, hprimary, hhealthy, ?_⟩).elim
        rw [Bool.not_eq_true]
        simpa using hothers
      · split
        · rename_i hnone
          exact (selectPrimaryClient_ne_none walk hhealthy (by simpa using hothers) hnone).elim
        · exact attended_switchToPrimary _ _
    · exact ⟨h.live, h.empty, h.pending, h.waiting, h.drained⟩

/-! ### Steps -/

namespace Attended

lemma finishChallenge (h : Attended r) : Attended r.finishChallenge := by
  have hcompleted : r.finishChallenge.state = .completed := (finishChallenge_fields r).1
  refine ⟨fun _ => ?_, fun _ hstate => ?_, fun _ hstate => ?_, fun _ _ => Or.inl hcompleted,
    fun hactive => ?_⟩
  · unfold ChallengeReader.finishChallenge
    split_ifs with hstate
    · refine h.live fun preSelected hbackfilling => ?_
      cases hstate.symm.trans hbackfilling
    · nofun
  · cases hcompleted.symm.trans hstate
  · cases hcompleted.symm.trans hstate
  · cases hcompleted.symm.trans hactive

lemma applyChallengeUpdate (h : Attended r) (update : ChallengeServerUpdate) :
    Attended (r.applyChallengeUpdate update) := by
  unfold ChallengeReader.applyChallengeUpdate
  split
  · split_ifs
    · exact ⟨h.live, h.empty, h.pending, h.waiting, fun _ => nofun⟩
    · exact h
  · exact h.finishChallenge

lemma addSubscriber (h : Attended r) (subscriber : Subscriber) :
    Attended (r.addSubscriber subscriber) := by
  have hinsert (hstate : ∀ preSelected, r.state ≠ .backfilling preSelected) (id : SubscriberId)
      (s : Subscriber) (hget : (r.subscribers.insert subscriber.id
        { subscriber with state := .live }).get id = some s) :
      s.state = SubscriberState.live := by
    rw [OrdMap.get_insert] at hget
    split_ifs at hget
    · cases hget
      rfl
    · exact h.live hstate id s hget
  unfold ChallengeReader.addSubscriber
  dsimp only
  split
  · rename_i hstate
    exact ⟨fun hb => hinsert hb, h.empty, h.pending, h.waiting, h.drained⟩
  · exact ⟨fun hb => hinsert hb, h.empty, h.pending, h.waiting, h.drained⟩
  · rename_i hstate
    exact ⟨fun hb => (hb _ hstate).elim, h.empty, h.pending, h.waiting, h.drained⟩
  · exact ⟨h.live, h.empty, h.pending, h.waiting, h.drained⟩

lemma removeSubscriber (h : Attended r) (id : SubscriberId) : Attended (r.removeSubscriber id) := by
  refine ⟨fun hstate id' s hget => h.live hstate id' s ?_, h.empty, h.pending, h.waiting,
    h.drained⟩
  have herase : (r.subscribers.erase id).get id' = some s := hget
  rw [OrdMap.get_erase] at herase
  split_ifs at herase
  exact herase

lemma notifyShutdown (h : Attended r) (retryWindowSecs : ℕ) :
    Attended (r.notifyShutdown retryWindowSecs) :=
  ⟨fun _ => nofun, h.empty, h.pending, h.waiting, h.drained⟩

lemma broadcast (h : Attended r) : Attended r.broadcast := by
  have hfinish {s : ChallengeReader} (hs : Attended s)
      (hdrained : s.tickBuffer.length ≤ s.broadcastCursor) : Attended s.finishStage :=
    ⟨hs.live, hs.empty, hs.pending, hs.waiting, fun _ _ => hdrained⟩
  unfold ChallengeReader.broadcast
  dsimp only
  split_ifs with hfew hends
  · exact hfinish h (Nat.sub_eq_zero_iff_le.mp hends.2)
  · exact h
  · split
    · exact h
    · rename_i first _
      have hsend : Attended (r.sendTicks first (r.ticksToSend
          (r.tickBuffer.length - r.broadcastCursor))) :=
        ⟨h.live, h.empty, h.pending, h.waiting, fun hactive hinactive =>
          (h.drained hactive hinactive).trans (Nat.le_add_right _ _)⟩
      unfold ChallengeReader.finishDrained
      split_ifs with hdrained
      · exact hfinish hsend hdrained.2
      · exact hsend

lemma adoptBackfill_fields (walk : Walk ℕ ClientState) (preSelected : Option ℕ)
    (result : BackfillResult) (r : ChallengeReader) :
    (r.adoptBackfill walk fmt preSelected result).stageState = r.stageState ∧
      (r.adoptBackfill walk fmt preSelected result).trace = r.trace := by
  obtain ⟨tickBuffer, highWaterTick, replayChunks, heq⟩ := ingestSource_eq fmt
    ((r.countEntries result.entries).choosePrimary walk preSelected) result.entries
    (((r.countEntries result.entries).choosePrimary walk preSelected).backfillSource walk)
  unfold ChallengeReader.adoptBackfill
  dsimp only
  rw [heq]
  exact ⟨rfl, rfl⟩

lemma adoptBackfill_nil {walk : Walk ℕ ClientState} {preSelected : Option ℕ}
    {result : BackfillResult} (hbuffer : r.tickBuffer = [])
    (hnone : ∀ source,
      ((r.countEntries result.entries).choosePrimary walk preSelected).backfillSource walk =
        some source → clientEvents fmt source result.entries = []) :
    (r.adoptBackfill walk fmt preSelected result).tickBuffer = [] := by
  unfold ChallengeReader.adoptBackfill
  dsimp only
  generalize hchosen : (r.countEntries result.entries).choosePrimary walk preSelected = chosen at *
  have hempty : chosen.tickBuffer = recording fmt [] := by
    rw [← hchosen]
    exact hbuffer
  cases hsource : chosen.backfillSource walk with
  | none => exact hempty
  | some source =>
    have hingest := ingestAndRebuild_recording hempty result.entries source
    rw [hnone source hsource] at hingest
    exact hingest

lemma applyBackfill (h : Attended r) {walk : Walk ℕ ClientState} {result : BackfillResult}
    (hcuts : ¬ CutsShort fmt walk result r) (mostRecentTick : ℕ) :
    Attended (r.applyBackfill walk fmt result mostRecentTick) := by
  unfold ChallengeReader.applyBackfill
  split
  · rename_i preSelected hstate
    split
    · rename_i hcurrent
      refine ⟨fun _ id s hget => ?_, nofun, nofun, fun id hpending => ?_, fun _ hinactive => ?_⟩
      · change (OrdMap.mapValues _ _).get id = some s at hget
        rw [OrdMap.get_mapValues, Option.map_eq_some_iff] at hget
        obtain ⟨_, _, rfl⟩ := hget
        rfl
      · have hlast : (((r.adoptBackfill walk fmt preSelected result).trackPrimary
            mostRecentTick).trace ++ [Trace.backfillApplied]).getLast? =
              some (.requestingBackfill id) := hpending
        rw [List.getLast?_concat] at hlast
        cases hlast
      · have hclosed : ¬ r.stageState.isOpen := by
          rw [← (adoptBackfill_fields walk preSelected result r).1]
          rw [show (r.adoptBackfill walk fmt preSelected result).stageState = .inactive from
            hinactive]
          nofun
        have hnil : (r.adoptBackfill walk fmt preSelected result).tickBuffer = [] := by
          refine adoptBackfill_nil (h.empty _ hstate) fun source hsource => ?_
          by_contra hevents
          exact hcuts ⟨hclosed, preSelected, source, hstate, hcurrent, hsource, hevents⟩
        change (r.adoptBackfill walk fmt preSelected result).tickBuffer.length ≤ _
        rw [hnil]
        exact Nat.zero_le _
    · exact h
  · exact h

lemma attentive (h : Attended r) : Attentive fmt r := by
  refine ⟨fun hactive => h.live fun _ hstate => ?_, fun hcompleted id hpending => ?_, h.drained⟩
  · cases hactive.symm.trans hstate
  · obtain ⟨preSelected, hstate⟩ := (h.waiting id hpending).resolve_left hcompleted
    have hsame := (h.pending preSelected hstate).symm.trans hpending
    rw [Option.some.injEq, Trace.requestingBackfill.injEq] at hsame
    intro walk result mostRecentTick hid
    unfold ChallengeReader.applyBackfill
    rw [hstate]
    dsimp only
    rw [if_pos (hid.trans hsame.symm)]
    refine ⟨rfl, ?_⟩
    change (r.adoptBackfill walk fmt preSelected result).trace ++ _ = _
    rw [(adoptBackfill_fields walk preSelected result r).2]

end Attended

lemma attended_step (w : World) (act : Act) (hw : World.Reachable fmt (Attends fmt) w)
    (h : Attended w.reader) (henabled : w.Enabled act) (hmeets : Attends fmt w act) :
    Attended (w.next fmt act).reader := by
  cases act with
  | append stage attempt entry => exact h
  | prepare => exact h
  | answer walk responses =>
    refine Attended.broadcast ?_
    unfold ChallengeReader.applyPollResponses
    split_ifs with hcompleted
    · exact h
    have hwatching (hstate : ∀ preSelected, w.reader.state ≠ .backfilling preSelected) :
        Watching w.reader := by
      refine ⟨hstate, h.live hstate, fun id hpending => ?_, h.drained⟩
      obtain ⟨preSelected, hb⟩ := (h.waiting id hpending).resolve_left hcompleted
      exact hstate preSelected hb
    rcases hw.asked.answer_cases henabled hcompleted with
      rfl | ⟨hstate, state, clients, ⟨hclosed, rfl⟩ | ⟨hopen, length, rfl⟩⟩
    · by_cases hstate : ∃ preSelected, w.reader.state = .backfilling preSelected
      · obtain ⟨preSelected, hstate⟩ := hstate
        exact h.updatePrimary hstate walk hmeets
      · exact (hwatching (not_exists.mp hstate)).updatePrimary walk w.tick
    · rw [processResponses_pair]
      exact ((hwatching hstate).reported _ _ _).updatePrimary walk w.tick
    · rw [processResponses_triple]
      have hreported := (hwatching hstate).reported w.tick state clients
      split_ifs
      · exact (hreported.processStreamEntries (reported_open (fun _ => hopen) _ _ _) fmt _
          w.tick).updatePrimary walk w.tick
      · exact hreported.updatePrimary walk w.tick
  | broadcast => exact h.broadcast
  | update update => exact h.applyChallengeUpdate update
  | subscribe skipped requestedStage => exact h.addSubscriber _
  | unsubscribe id => exact h.removeSubscriber id
  | backfill walk result => exact h.applyBackfill hmeets w.tick
  | shutdown retryWindowSecs => exact h.notifyShutdown retryWindowSecs

/-- **No viewer is left behind and no ended stage is cut short**: in every world that is reached
without stalling a reader that waits for a backfill and without a backfill that comes after the end
of its stage, every subscriber of an active reader is live, a pending backfill would be applied, and
an active reader whose stage has ended has broadcast its buffer. -/
theorem reader_attentive {w : World} (hw : World.Reachable fmt (Attends fmt) w) :
    Attentive fmt w.reader := by
  refine (hw.invariant (I := fun w => Attended w.reader) (fun _ _ _ _ _ _ _ => ?_)
    attended_step).attentive
  refine ⟨fun h => (h _ rfl).elim, fun _ _ => rfl, fun _ _ => rfl, fun _ _ => Or.inr ⟨_, rfl⟩,
    nofun⟩

/-- A viewer of a new reader whose backfill finds the first event. -/
def viewedWorld : World :=
  (((newWorld (firstClient true .started) 5).next byteFormat (.subscribe 0 (some 10))).next
    byteFormat (.append 10 none firstEntry)).next byteFormat
      (.backfill byKey ⟨1, [firstEntry], toLex (1, 0)⟩)

theorem viewedWorld_attentive :
    viewedWorld.reader.state = .active ∧ viewedWorld.reader.tickBuffer = [⟨0, [0]⟩] ∧
      viewedWorld.reader.subscribers.get 0 = some ⟨0, some 10, .live⟩ ∧
      Attentive byteFormat viewedWorld.reader := by
  refine ⟨rfl, rfl, by decide, reader_attentive (.step (.step (.step
    (newWorld_reachable _ _ _) trivial trivial) (firstEntry_enabled rfl) trivial)
    ⟨_, List.mem_singleton.mpr rfl, rfl, ⟨1, rfl⟩, rfl⟩ fun hcuts => hcuts.1 rfl)⟩

/-- Two polls stall a new reader, which has a viewer, before its backfill is there. -/
def stalledWorld : World :=
  (((((newWorld (firstClient true .started) 5).next byteFormat (.subscribe 0 (some 10))).next
    byteFormat .prepare).next byteFormat (.answer byKey [])).next byteFormat .prepare).next
      byteFormat (.answer byKey [])

/-- After that the challenge is at its second stage. -/
def leftWorld : World :=
  (stalledWorld.next byteFormat .prepare).next byteFormat
    (.answer byKey [.challengeState (some ⟨1, 11, 11, none, []⟩),
      .challengeClients ((∅ : OrdMap ℕ ChallengeClient).insert 1 (firstClient true .started)),
      .stageStream []])

/-- A new reader's stage has ended, and its backfill finds the stage's event. -/
def cutWorld : World :=
  ((newWorld (firstClient true .completed) 5).next byteFormat (.append 10 none firstEntry)).next
    byteFormat (.backfill byKey ⟨1, [firstEntry], toLex (1, 0)⟩)

lemma stalledWorld_reachable : World.Reachable byteFormat (fun _ _ => True) stalledWorld :=
  .step (.step (.step (.step (.step (newWorld_reachable _ _ _) trivial trivial) rfl trivial)
    ⟨_, rfl, Or.inl rfl⟩ trivial) rfl trivial) ⟨_, rfl, Or.inl rfl⟩ trivial

/-- The result that the stalled reader has asked for is dropped, its viewer goes on waiting at the
next stage, and the event of the stage that has ended is in the buffer and is not broadcast. -/
theorem viewers_left_behind :
    (World.Reachable byteFormat (fun _ _ => True) stalledWorld ∧
      Pending stalledWorld.reader 1 ∧ stalledWorld.reader.state ≠ .completed ∧
      ¬ Awaits byteFormat stalledWorld.reader 1) ∧
    (World.Reachable byteFormat (fun _ _ => True) leftWorld ∧
      leftWorld.reader.state = .active ∧ ¬ AllLive leftWorld.reader) ∧
    World.Reachable byteFormat (fun _ _ => True) cutWorld ∧
      cutWorld.reader.state = .active ∧ cutWorld.reader.stageState = .inactive ∧
      ¬ cutWorld.reader.tickBuffer.length ≤ cutWorld.reader.broadcastCursor := by
  refine ⟨⟨stalledWorld_reachable, rfl, by decide, fun hawaits => ?_⟩,
    ⟨?_, by decide, fun hlive => ?_⟩, ?_, by decide, by decide,
      by decide⟩
  · have happlied := (hawaits byKey ⟨1, [], streamStartCursor⟩ 7 rfl).1
    revert happlied
    decide
  · refine .step (.step stalledWorld_reachable rfl trivial) ⟨_, rfl, Or.inr ?_⟩ trivial
    exact .cons (.challengeState _ _) (.cons (.challengeClients _ _)
      (.cons (.stageStream _ _ _ _ 0) .nil))
  · have hviewer := hlive 0 ⟨0, some 10, .replaying⟩ (by decide)
    cases hviewer
  · exact .step (.step (newWorld_reachable _ _ _) (firstEntry_enabled rfl) trivial)
      ⟨_, List.mem_singleton.mpr rfl, rfl, ⟨1, rfl⟩, rfl⟩ trivial

end Blert.Live

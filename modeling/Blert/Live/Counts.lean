import Blert.Live.Recording

/-!
How much each client has sent.

A reader counts the entries of each client when a poll reads them and when a backfill does, and
starts over with a new stage. The counts are those of the stage's stream up to the poll cursor as
long as nothing is counted twice: a backfill reads the stream from its start, and is to come when
nothing has been counted yet.
-/

namespace Blert.Live

open Lifecycle (StageStatus)

variable {ε : Type} {fmt : EventFormat ε} {streams : ℤ → Option ℕ → List StageStreamEntry}
  {r : ChallengeReader}

/-! ### Counts -/

def entriesOf (id : ℕ) (entries : List StageStreamEntry) : ℕ :=
  (entries.filter (·.clientId = id)).length

/-- What a client has sent of the current stage up to the poll cursor. -/
def sent (streams : ℤ → Option ℕ → List StageStreamEntry) (r : ChallengeReader) (id : ℕ) : ℕ :=
  entriesOf id (upTo r.pollCursor (streams r.stage r.stageAttempt))

/-- The event count of a client. One of which nothing is known has none. -/
def eventCount (clientStates : OrdMap ℕ ClientState) (id : ℕ) : ℕ :=
  ((clientStates.get id).getD .unknown).eventCount

/-- Every client has as many events counted as it has sent. -/
def Counted (streams : ℤ → Option ℕ → List StageStreamEntry) (r : ChallengeReader) : Prop :=
  ∀ id, eventCount r.clientStates id = sent streams r id

lemma entriesOf_append (id : ℕ) (xs ys : List StageStreamEntry) :
    entriesOf id (xs ++ ys) = entriesOf id xs + entriesOf id ys := by
  simp [entriesOf]

lemma entriesOf_cons (id : ℕ) (e : StageStreamEntry) (entries : List StageStreamEntry) :
    entriesOf id (e :: entries) = (if e.clientId = id then 1 else 0) + entriesOf id entries := by
  unfold entriesOf
  rw [List.filter_cons]
  by_cases h : e.clientId = id <;> simp [h, Nat.add_comm]

lemma eventCount_updateClient (states : OrdMap ℕ ClientState) (id id' : ℕ)
    (f : ClientState → ClientState) :
    eventCount (updateClient states id f) id' =
      if id' = id then (f ((states.get id).getD .unknown)).eventCount
      else eventCount states id' := by
  unfold eventCount
  rw [updateClient_get]
  split_ifs <;> rfl

lemma eventCount_count (f : ClientState → ClientState)
    (hf : ∀ s, (f s).eventCount = s.eventCount + 1) (entries : List StageStreamEntry)
    (states : OrdMap ℕ ClientState) (id : ℕ) :
    eventCount (entries.foldl (fun states (entry : StageStreamEntry) =>
      updateClient states entry.clientId f) states) id =
        eventCount states id + entriesOf id entries := by
  induction entries generalizing states with
  | nil => rfl
  | cons e entries ih =>
    rw [List.foldl_cons, ih, eventCount_updateClient, entriesOf_cons]
    by_cases he : id = e.clientId
    · subst he
      rw [if_pos rfl, if_pos rfl, hf]
      unfold eventCount
      omega
    · rw [if_neg he, if_neg (Ne.symm he)]
      omega

lemma eventCount_mapValues (f : ℕ → ClientState → ClientState)
    (hf : ∀ id s, (f id s).eventCount = s.eventCount) (states : OrdMap ℕ ClientState) (id : ℕ) :
    eventCount (states.mapValues f) id = eventCount states id := by
  unfold eventCount
  rw [OrdMap.get_mapValues]
  cases states.get id with
  | none => rfl
  | some s => exact hf id s

lemma eventCount_report (l : List (ℕ × ChallengeClient)) (states : OrdMap ℕ ClientState)
    (id : ℕ) :
    eventCount (l.foldl (fun states (id, client) =>
      updateClient states id fun s => { s with active := client.active }) states) id =
        eventCount states id := by
  induction l generalizing states with
  | nil => rfl
  | cons e l ih =>
    rw [List.foldl_cons, ih, eventCount_updateClient]
    split_ifs with h
    · subst h
      rfl
    · rfl

lemma eventCount_begin (tick : ℕ) (states : OrdMap ℕ ClientState) (id : ℕ) :
    eventCount (states.mapValues fun _ s => s.begin tick) id = 0 := by
  unfold eventCount
  rw [OrdMap.get_mapValues]
  cases states.get id <;> rfl

lemma eventCount_syncClients (r : ChallengeReader) (clients : OrdMap ℕ ChallengeClient)
    (id : ℕ) : eventCount (r.syncClients clients).clientStates id =
      eventCount r.clientStates id := by
  refine (eventCount_mapValues _ (fun id s => ?_) _ id).trans (eventCount_report _ _ id)
  split_ifs <;> rfl

lemma eventCount_trackPrimary (r : ChallengeReader) (mostRecentTick id : ℕ) :
    eventCount (r.trackPrimary mostRecentTick).clientStates id =
      eventCount r.clientStates id := by
  unfold ChallengeReader.trackPrimary
  dsimp only
  split
  · unfold eventCount
    rw [OrdMap.get_modify]
    cases r.clientStates.get id <;> split_ifs <;> rfl
  · rfl

/-! ### Which client is chosen -/

lemma maxByKey_max {α : Type} {key : α → ℕ} {xs : List α} {x : α}
    (h : maxByKey key xs = some x) : x ∈ xs ∧ ∀ y ∈ xs, key y ≤ key x := by
  cases xs with
  | nil => cases h
  | cons z xs =>
    obtain rfl : xs.foldl (fun best y => if key best ≤ key y then y else best) z = x :=
      Option.some.inj h
    clear h
    induction xs generalizing z with
    | nil => simp
    | cons y xs ih =>
      rw [List.foldl_cons]
      have hboth : key z ≤ key (if key z ≤ key y then y else z) ∧
          key y ≤ key (if key z ≤ key y then y else z) := by
        split_ifs <;> omega
      have heither : (if key z ≤ key y then y else z) = y ∨
          (if key z ≤ key y then y else z) = z := by
        split_ifs <;> simp
      obtain ⟨hmem, hmax⟩ := ih (if key z ≤ key y then y else z)
      refine ⟨?_, fun w hw => ?_⟩
      · rcases List.mem_cons.mp hmem with heq | hmem
        · rw [heq]
          rcases heither with heq' | heq' <;> simp [heq']
        · simp [hmem]
      · have hbest := hmax _ List.mem_cons_self
        rcases List.mem_cons.mp hw with rfl | hw
        · exact hboth.1.trans hbest
        · rcases List.mem_cons.mp hw with rfl | hw
          · exact hboth.2.trans hbest
          · exact hmax w (List.mem_cons_of_mem _ hw)

lemma selectPrimaryClient_max {walk : Walk ℕ ClientState} {activeSince primary id : ℕ}
    {exclude : Option ℕ} (h : r.selectPrimaryClient walk activeSince exclude = some primary)
    {s : ClientState} (hget : r.clientStates.get id = some s) (hexclude : exclude ≠ some id)
    (hactive : s.active = true) (hsince : activeSince ≤ s.lastActiveTick) :
    eventCount r.clientStates id ≤ eventCount r.clientStates primary := by
  unfold ChallengeReader.selectPrimaryClient at h
  obtain ⟨⟨chosen, sc⟩, hmax, rfl⟩ := Option.map_eq_some_iff.mp h
  have hmem : ∀ e, e ∈ walk.walk r.clientStates ↔ r.clientStates.get e.1 = some e.2 := fun e =>
    (walk.perm _).mem_iff.trans OrdMap.mem_entries
  obtain ⟨hin, hle⟩ := maxByKey_max hmax
  have hle := hle (id, s) (List.mem_filter.mpr ⟨(hmem _).mpr hget, by
    simp [hexclude, hactive, hsince]⟩)
  have hchosen : r.clientStates.get chosen = some sc :=
    (hmem _).mp (List.mem_filter.mp hin).1
  unfold eventCount
  rw [hget, hchosen]
  exact hle

/-! ### Steps that count twice -/

/-- Something of the stage has been counted. -/
def HasCounts (r : ChallengeReader) : Prop := ∃ id, eventCount r.clientStates id ≠ 0

/-- A backfill that is awaited comes when something has been counted, which it counts again. -/
def Recounts (result : BackfillResult) (r : ChallengeReader) : Prop :=
  (∃ preSelected, r.state = .backfilling preSelected) ∧ result.backfillId = r.backfillId ∧
    HasCounts r

/-- A poll finds the challenge gone but its stage started, so that the stage starts over, and goes
on with the entries it has read after those that were counted. -/
def StartsOver (r : ChallengeReader) (responses : List RedisResponse) : Prop :=
  ∃ clients entries, responses =
      [.challengeState none, .challengeClients clients, .stageStream entries] ∧
    entries ≠ [] ∧ r.state ≠ .completed ∧
    (∃ client ∈ clients.values, client.stage = r.stage ∧ client.stageStatus = .started) ∧
    ((∃ client ∈ clients.values, client.active) ∨
      ∀ client ∈ clients.values, r.clientCompletedStage client) ∧ HasCounts r

/-- No backfill counts again what has been counted, and no poll leaves out what it had counted. -/
def CountsOnce (w : World) : Act → Prop
  | .answer _ responses => ¬ StartsOver w.reader responses
  | .backfill _ result => ¬ Recounts result w.reader
  | _ => True

/-! ### Requests -/

/-- What holds of a reader's requests at all times: it waits for a backfill of its own stage and
for the primary it has chosen, and its cursor is at the start or at an entry of its stage. -/
structure Requested (streams : ℤ → Option ℕ → List StageStreamEntry) (r : ChallengeReader) :
    Prop where
  asked : ∀ primary, r.state = .backfilling primary → ∀ request ∈ r.backfillTx,
    request.backfillId = r.backfillId →
      request.stage = r.stage ∧ request.attempt = r.stageAttempt
  chosen : ∀ primary, r.state = .backfilling (some primary) → r.primaryClientId = some primary
  ids : ∀ request ∈ r.backfillTx, request.backfillId ≤ r.backfillId
  cursor : r.pollCursor = streamStartCursor ∨
    ∃ e ∈ streams r.stage r.stageAttempt, e.id = r.pollCursor

namespace Requested

lemma finishChallenge (h : Requested streams r) : Requested streams r.finishChallenge := by
  have hopen : Requested streams r.finishOpenStage := by
    unfold ChallengeReader.finishOpenStage
    split_ifs
    · exact ⟨h.asked, h.chosen, h.ids, h.cursor⟩
    · exact h
  unfold ChallengeReader.finishChallenge
  split_ifs
  · exact h
  · exact ⟨nofun, nofun, hopen.ids, hopen.cursor⟩

lemma beginStage (h : Requested streams r) (tick : ℕ) (stage : ℤ) (attempt : Option ℕ) :
    Requested streams (r.beginStage tick stage attempt) := by
  refine ⟨nofun, nofun, ?_, Or.inl rfl⟩
  unfold ChallengeReader.beginStage ChallengeReader.finishOpenStage
  split_ifs <;> exact h.ids

lemma stall (h : Requested streams r) (reason : StalledReason) (since : ℕ) :
    Requested streams (r.stall reason since) := by
  unfold ChallengeReader.stall
  split
  · exact h
  · exact ⟨nofun, nofun, h.ids, h.cursor⟩

lemma switchToPrimary (h : Requested streams r) (newPrimary : ℕ) :
    Requested streams (r.switchToPrimary newPrimary) := by
  refine ⟨fun _ _ request hrequest hid => ?_, fun primary hstate => ?_,
    fun request hrequest => ?_, h.cursor⟩
  · rcases List.mem_append.mp hrequest with hold | hnew
    · have hle := h.ids request hold
      have hid' : request.backfillId = r.backfillId + 1 := hid
      omega
    · rw [List.mem_singleton.mp hnew]
      exact ⟨rfl, rfl⟩
  · have hsame : ReaderState.backfilling (some newPrimary) = .backfilling (some primary) := hstate
    cases hsame
    rfl
  · have hle : request.backfillId ≤ r.backfillId + 1 := by
      rcases List.mem_append.mp hrequest with hold | hnew
      · exact (h.ids request hold).trans (Nat.le_succ _)
      · rw [List.mem_singleton.mp hnew]
    exact hle

lemma reported (h : Requested streams r) (tick : ℕ) (state : Option ChallengeState)
    (clients : OrdMap ℕ ChallengeClient) : Requested streams (reported tick state clients r) :=
  reported_induction (P := Requested streams) (fun _ h => h.finishChallenge)
    (fun _ _ _ h => h.beginStage _ _ _) (fun _ _ h => h.stall _ _)
    (fun _ h => ⟨h.asked, h.chosen, h.ids, h.cursor⟩)
    (fun _ h => ⟨h.asked, h.chosen, h.ids, h.cursor⟩) h

lemma processStreamEntries (h : Requested streams r) (fmt : EventFormat ε)
    {entries : List StageStreamEntry} (hentries : entries ⊆ streams r.stage r.stageAttempt)
    (tick : ℕ) : Requested streams (r.processStreamEntries fmt entries tick) := by
  unfold ChallengeReader.processStreamEntries
  split
  · exact h
  rename_i last hlast
  have hmem : last ∈ streams r.stage r.stageAttempt := hentries (List.mem_of_getLast? hlast)
  dsimp only
  split
  · obtain ⟨_, _, _, heq⟩ := ingestAndRebuild_eq fmt { r with
      pollCursor := last.id
      clientStates := entries.foldl (fun states (entry : StageStreamEntry) =>
        updateClient states entry.clientId fun s =>
          { s with eventCount := s.eventCount + 1, lastActiveTick := tick })
        r.clientStates } entries _
    rw [heq]
    exact ⟨h.asked, h.chosen, h.ids, Or.inr ⟨last, hmem, rfl⟩⟩
  · exact ⟨h.asked, h.chosen, h.ids, Or.inr ⟨last, hmem, rfl⟩⟩

lemma updatePrimary (h : Requested streams r) (walk : Walk ℕ ClientState) (tick : ℕ) :
    Requested streams (r.updatePrimary walk tick) := by
  unfold ChallengeReader.updatePrimary
  split
  · dsimp only
    split
    · exact ⟨(h.switchToPrimary _).asked, (h.switchToPrimary _).chosen,
        (h.switchToPrimary _).ids, h.cursor⟩
    · exact h
  · split
    · unfold ChallengeReader.checkPrimarySwitch
      split_ifs
      · exact h
      · exact h.stall _ _
      · split
        · exact h.stall _ _
        · exact h.switchToPrimary _
    · rename_i hnone
      refine ⟨h.asked, fun primary hstate => ?_, h.ids, h.cursor⟩
      cases hnone.symm.trans (h.chosen primary hstate)

end Requested

/-! ### Counting -/

namespace Counted

lemma congr {r₁ : ChallengeReader} (h : Counted streams r)
    (hclients : ∀ id, eventCount r₁.clientStates id = eventCount r.clientStates id)
    (hcursor : r₁.pollCursor = r.pollCursor) (hstage : r₁.stage = r.stage)
    (hattempt : r₁.stageAttempt = r.stageAttempt) : Counted streams r₁ := by
  intro id
  unfold sent
  rw [hclients, hcursor, hstage, hattempt]
  exact h id

lemma finishChallenge (h : Counted streams r) : Counted streams r.finishChallenge := by
  unfold ChallengeReader.finishChallenge ChallengeReader.finishOpenStage
  split_ifs <;> exact h

lemma beginStage (hstreams : World.Ordered streams) (r : ChallengeReader) (tick : ℕ) (stage : ℤ)
    (attempt : Option ℕ) : Counted streams (r.beginStage tick stage attempt) := by
  intro id
  have hzero : eventCount (r.beginStage tick stage attempt).clientStates id = 0 :=
    eventCount_begin tick _ id
  have hnothing : sent streams (r.beginStage tick stage attempt) id = 0 := by
    change entriesOf id (upTo streamStartCursor (streams stage attempt)) = 0
    rw [Kept.upTo_start (hstreams stage attempt).2]
    rfl
  rw [hzero, hnothing]

lemma stall (h : Counted streams r) (reason : StalledReason) (since : ℕ) :
    Counted streams (r.stall reason since) := by
  unfold ChallengeReader.stall
  split <;> exact h

lemma reported (h : Counted streams r) (hstreams : World.Ordered streams) (tick : ℕ)
    (state : Option ChallengeState) (clients : OrdMap ℕ ChallengeClient) :
    Counted streams (reported tick state clients r) :=
  reported_induction (P := Counted streams) (fun _ h => h.finishChallenge)
    (fun r stage attempt _ => beginStage hstreams r tick stage attempt)
    (fun _ _ h => h.stall _ _)
    (fun r h => h.congr (eventCount_syncClients r clients) rfl rfl rfl)
    (fun _ h => h) h

lemma processStreamEntries (h : Counted streams r) (hstreams : World.Ordered streams)
    {cursor : StreamId} {length : ℕ} (fmt : EventFormat ε) {entries : List StageStreamEntry}
    (hentries : entries =
      ((streams r.stage r.stageAttempt).take length).filter (cursor < ·.id))
    (hcursor : entries ≠ [] → ∀ id,
      eventCount r.clientStates id = entriesOf id (upTo cursor (streams r.stage r.stageAttempt)))
    (tick : ℕ) : Counted streams (r.processStreamEntries fmt entries tick) := by
  have hordered := (hstreams r.stage r.stageAttempt).1
  unfold ChallengeReader.processStreamEntries
  split
  · exact h
  rename_i last hlast
  have hne : entries ≠ [] := by
    rintro rfl
    cases hlast
  have hread := upTo_read hordered (hentries ▸ hlast)
  rw [← hentries] at hread
  have hcounted : Counted streams { r with
      pollCursor := last.id
      clientStates := entries.foldl (fun states (entry : StageStreamEntry) =>
        updateClient states entry.clientId fun s =>
          { s with eventCount := s.eventCount + 1, lastActiveTick := tick })
        r.clientStates } := by
    intro id
    have hcount := eventCount_count
      (fun s => { s with eventCount := s.eventCount + 1, lastActiveTick := tick })
      (fun _ => rfl) entries r.clientStates id
    have hsent : sent streams { r with pollCursor := last.id } id =
        entriesOf id (upTo cursor (streams r.stage r.stageAttempt)) + entriesOf id entries := by
      unfold sent
      dsimp only
      rw [hread, entriesOf_append]
    exact hcount.trans ((congrArg (· + _) (hcursor hne id)).trans hsent.symm)
  dsimp only
  split
  · obtain ⟨_, _, _, heq⟩ := ingestAndRebuild_eq fmt { r with
      pollCursor := last.id
      clientStates := entries.foldl (fun states (entry : StageStreamEntry) =>
        updateClient states entry.clientId fun s =>
          { s with eventCount := s.eventCount + 1, lastActiveTick := tick })
        r.clientStates } entries _
    rw [heq]
    exact hcounted
  · exact hcounted

lemma updatePrimary (h : Counted streams r) (walk : Walk ℕ ClientState) (tick : ℕ) :
    Counted streams (r.updatePrimary walk tick) := by
  unfold ChallengeReader.updatePrimary
  split
  · dsimp only
    split <;> exact h
  · split
    · unfold ChallengeReader.checkPrimarySwitch
      split_ifs
      · exact h
      · exact h.stall _ _
      · split
        · exact h.stall _ _
        · exact h
    · exact h

lemma upTo_eq_nil (h : Counted streams r) (hnone : ¬ HasCounts r) :
    upTo r.pollCursor (streams r.stage r.stageAttempt) = [] := by
  rw [List.eq_nil_iff_forall_not_mem]
  intro e he
  have hzero : entriesOf e.clientId (upTo r.pollCursor (streams r.stage r.stageAttempt)) = 0 := by
    refine (h e.clientId).symm.trans ?_
    by_contra hne
    exact hnone ⟨_, hne⟩
  have hmem : e ∈ (upTo r.pollCursor (streams r.stage r.stageAttempt)).filter
      (·.clientId = e.clientId) := List.mem_filter.mpr ⟨he, by simp⟩
  rw [List.length_eq_zero_iff.mp hzero] at hmem
  cases hmem

lemma append (h : Counted streams r) (hrequested : Requested streams r) {stage : ℤ}
    {attempt : Option ℕ} {entry : StageStreamEntry} (hstart : streamStartCursor < entry.id)
    (hafter : ∀ e ∈ streams stage attempt, e.id < entry.id) :
    Counted (World.appendEntry streams stage attempt entry) r := by
  intro id
  rw [h id]
  unfold sent World.appendEntry
  split_ifs with hsame
  · obtain ⟨hstage, hattempt⟩ := hsame
    have hcursor : r.pollCursor < entry.id := by
      rcases hrequested.cursor with hcursor | ⟨e, he, hcursor⟩
      · exact hcursor ▸ hstart
      · exact hcursor ▸ hafter e (hstage ▸ hattempt ▸ he)
    rw [upTo, upTo, List.filter_append, List.filter_cons_of_neg (by simpa using hcursor),
      List.filter_nil, List.append_nil]
  · rfl

end Counted

/-! ### Polls -/

lemma clientCompletedStage_congr {r₁ : ChallengeReader} (hstage : r₁.stage = r.stage)
    (hattempt : r₁.stageAttempt = r.stageAttempt) (client : ChallengeClient) :
    r₁.clientCompletedStage client = r.clientCompletedStage client := by
  unfold ChallengeReader.clientCompletedStage
  rw [hstage, hattempt]

/-- A reader that finds its challenge gone goes on only if the stage is started and a client is
active or all have completed it; it then has counted nothing. -/
lemma reported_gone_receives {clients : OrdMap ℕ ChallengeClient} {tick : ℕ}
    (hcompleted : r.state ≠ .completed)
    (hreceives : (reported tick none clients r).receives = true) :
    (∃ client ∈ clients.values, client.stage = r.stage ∧ client.stageStatus = .started) ∧
      ((∃ client ∈ clients.values, client.active) ∨
        ∀ client ∈ clients.values, r.clientCompletedStage client) ∧
      ∀ id, eventCount (reported tick none clients r).clientStates id = 0 := by
  have hstarted : ∃ client ∈ clients.values,
      client.stage = r.stage ∧ client.stageStatus = .started := by
    by_contra hnone
    have hgone := reported_gone (r := r) tick hcompleted hnone
    unfold ChallengeReader.receives at hreceives
    rw [hgone] at hreceives
    cases hreceives
  have hfinish : r.finishChallenge.stageState.isOpen = false ∧
      r.finishChallenge.stage = r.stage ∧ r.finishChallenge.stageAttempt = r.stageAttempt := by
    unfold ChallengeReader.finishChallenge ChallengeReader.finishOpenStage
    rw [if_neg hcompleted]
    split_ifs with hopen
    · exact ⟨rfl, rfl, rfl⟩
    · exact ⟨Bool.eq_false_iff.mpr hopen, rfl, rfl⟩
  -- The stage starts over, and the clients are assessed at its start.
  have hbegun : reported tick none clients r =
      ((r.finishChallenge.syncClients clients).beginStage tick r.finishChallenge.stage
        r.finishChallenge.stageAttempt).assessClients clients tick := by
    have hany : clients.values.any (fun c => c.stage = r.finishChallenge.stage ∧
        c.stageStatus = .started) = true := by
      obtain ⟨client, hclient, hc⟩ := hstarted
      exact List.any_eq_true.mpr ⟨client, hclient, decide_eq_true (hfinish.2.1.symm ▸ hc)⟩
    have hclosed : (r.finishChallenge.syncClients clients).stageState.isOpen = false := hfinish.1
    unfold reported ChallengeReader.applyResponse ChallengeReader.processClients
    dsimp only
    rw [hclosed, if_neg Bool.false_ne_true, if_pos (by exact hany)]
    rfl
  rw [hbegun] at hreceives ⊢
  generalize hr₁ : (r.finishChallenge.syncClients clients).beginStage tick
    r.finishChallenge.stage r.finishChallenge.stageAttempt = r₁ at hreceives ⊢
  have hcomplete : ∀ client, r₁.clientCompletedStage client = r.clientCompletedStage client :=
    clientCompletedStage_congr (hr₁ ▸ hfinish.2.1) (hr₁ ▸ hfinish.2.2)
  have hzero : ∀ id, eventCount r₁.clientStates id = 0 := fun id => by
    rw [← hr₁]
    exact eventCount_begin tick _ id
  refine ⟨hstarted, ?_, fun id => ?_⟩
  · unfold ChallengeReader.assessClients at hreceives
    have hstall : ∀ reason, reason ≠ .allSilent →
        (r₁.stall reason tick).receives = false := by
      intro reason hreason
      have hactive : r₁.state = .active := hr₁ ▸ rfl
      unfold ChallengeReader.stall ChallengeReader.receives
      rw [hactive]
      cases reason <;> first | rfl | exact absurd rfl hreason
    split_ifs at hreceives with hempty hall hany
    · cases (hstall .noClients nofun).symm.trans hreceives
    · right
      intro client hclient
      rw [← hcomplete]
      exact List.all_eq_true.mp hall client hclient
    · cases (hstall .allInactive nofun).symm.trans hreceives
    · left
      simpa using hany
  · rw [(assessClients_fields clients tick r₁).2.2.2.1]
    exact hzero id

lemma Counted.processResponses {w : World} (h : Counted w.streams w.reader)
    (hstreams : World.Ordered w.streams) (hasked : World.Asked w) {walk : Walk ℕ ClientState}
    {responses : List RedisResponse} (henabled : w.Enabled (.answer walk responses))
    (hmeets : CountsOnce w (.answer walk responses)) (hcompleted : w.reader.state ≠ .completed)
    (fmt : EventFormat ε) :
    Counted w.streams (w.reader.processResponses fmt responses w.tick) := by
  rcases hasked.answer_cases henabled hcompleted with
    rfl | ⟨-, state, clients, ⟨-, rfl⟩ | ⟨hopen, length, rfl⟩⟩
  · exact h
  · rw [processResponses_pair]
    exact h.reported hstreams w.tick state clients
  rw [processResponses_triple]
  have hreported := h.reported hstreams w.tick state clients
  split_ifs with hreceives
  · obtain ⟨hreceives, hstage, hattempt⟩ := hreceives
    refine hreported.processStreamEntries hstreams fmt (by rw [hstage, hattempt])
      (fun hne id => ?_) w.tick
    rw [hstage, hattempt]
    cases state with
    | none =>
      -- Nothing had been counted, so that nothing is left out.
      obtain ⟨hstarted, hactive, hzero⟩ := reported_gone_receives hcompleted hreceives
      have hnone : ¬ HasCounts w.reader := fun hcounts =>
        hmeets ⟨clients, _, rfl, hne, hcompleted, hstarted, hactive, hcounts⟩
      rw [hzero, h.upTo_eq_nil hnone]
      rfl
    | some state =>
      by_cases hsame : state.stage = w.reader.stage ∧ state.stageAttempt = w.reader.stageAttempt
      · have heq : Live.reported w.tick (some state) clients w.reader =
            (w.reader.syncClients clients).assessClients clients w.tick := by
          rw [reported_same w.tick hsame, ChallengeReader.processClients,
            if_pos (by exact hopen)]
        rw [heq, (assessClients_fields clients w.tick _).2.2.2.1, eventCount_syncClients]
        exact h id
      · rw [reported_changed w.tick hsame] at hstage hattempt
        obtain ⟨hstage', hattempt', -⟩ := assessClients_fields clients w.tick
          ((w.reader.beginStage w.tick state.stage state.stageAttempt).syncClients clients)
        exact absurd ⟨hstage'.symm.trans hstage, hattempt'.symm.trans hattempt⟩ hsame
  · exact hreported

/-! ### Requests in a run -/

namespace Requested

lemma congr {r₁ : ChallengeReader} (h : Requested streams r)
    (hstate : r₁.state = r.state ∨ r₁.state = .completed)
    (hprimary : r₁.primaryClientId = r.primaryClientId) (hcursor : r₁.pollCursor = r.pollCursor)
    (hstage : r₁.stage = r.stage) (hattempt : r₁.stageAttempt = r.stageAttempt)
    (htx : r₁.backfillTx = r.backfillTx) (hid : r₁.backfillId = r.backfillId) :
    Requested streams r₁ := by
  have hwaits : ∀ primary, r₁.state = .backfilling primary → r.state = .backfilling primary := by
    intro primary hwaits
    rcases hstate with heq | hcompleted
    · exact heq ▸ hwaits
    · cases hcompleted.symm.trans hwaits
  refine ⟨fun primary hstate request => ?_, fun primary hstate => ?_, ?_, ?_⟩
  · rw [htx, hid, hstage, hattempt]
    exact h.asked primary (hwaits _ hstate) request
  · rw [hprimary]
    exact h.chosen primary (hwaits _ hstate)
  · rw [htx, hid]
    exact h.ids
  · rw [hcursor, hstage, hattempt]
    exact h.cursor

lemma append (h : Requested streams r) (stage : ℤ) (attempt : Option ℕ)
    (entry : StageStreamEntry) :
    Requested (World.appendEntry streams stage attempt entry) r := by
  refine ⟨h.asked, h.chosen, h.ids, h.cursor.imp_right ?_⟩
  rintro ⟨e, he, hcursor⟩
  refine ⟨e, ?_, hcursor⟩
  unfold World.appendEntry
  split_ifs
  · exact List.mem_append_left _ he
  · exact he

lemma processResponses {w : World} (h : Requested w.streams w.reader) (hasked : World.Asked w)
    {walk : Walk ℕ ClientState} {responses : List RedisResponse}
    (henabled : w.Enabled (.answer walk responses)) (hcompleted : w.reader.state ≠ .completed)
    (fmt : EventFormat ε) :
    Requested w.streams (w.reader.processResponses fmt responses w.tick) := by
  rcases hasked.answer_cases henabled hcompleted with
    rfl | ⟨-, state, clients, ⟨-, rfl⟩ | ⟨-, length, rfl⟩⟩
  · exact h
  · rw [processResponses_pair]
    exact h.reported w.tick state clients
  · rw [processResponses_triple]
    split_ifs with hreceives
    · refine (h.reported w.tick state clients).processStreamEntries fmt ?_ w.tick
      rw [hreceives.2.1, hreceives.2.2]
      exact fun e he => List.mem_of_mem_take (List.mem_of_mem_filter he)
    · exact h.reported w.tick state clients

lemma adoptBackfill (h : Requested streams r) (walk : Walk ℕ ClientState) (fmt : EventFormat ε)
    (preSelected : Option ℕ) {result : BackfillResult} {length : ℕ}
    (hentries : result.entries = (streams r.stage r.stageAttempt).take length)
    (hlast : result.lastStreamId = lastId result.entries) :
    Requested streams (r.adoptBackfill walk fmt preSelected result) := by
  have hcursor : result.lastStreamId = streamStartCursor ∨
      ∃ e ∈ streams r.stage r.stageAttempt, e.id = result.lastStreamId := by
    rw [hlast, lastId]
    cases hsome : result.entries.getLast? with
    | none => exact Or.inl rfl
    | some last =>
      rw [hentries] at hsome
      exact Or.inr ⟨last, List.mem_of_mem_take (List.mem_of_getLast? hsome), rfl⟩
  obtain ⟨_, _, _, heq⟩ := ingestSource_eq fmt
    ((r.countEntries result.entries).choosePrimary walk preSelected) result.entries
    (((r.countEntries result.entries).choosePrimary walk preSelected).backfillSource walk)
  unfold ChallengeReader.adoptBackfill
  dsimp only
  rw [heq]
  refine ⟨fun _ hstate => ?_, fun _ hstate => ?_, h.ids, hcursor⟩ <;> cases hstate

lemma applyBackfill (h : Requested streams r) (walk : Walk ℕ ClientState) (fmt : EventFormat ε)
    {request : BackfillRequest} (hrequest : request ∈ r.backfillTx) {result : BackfillResult}
    (hid : request.backfillId = result.backfillId) {length : ℕ}
    (hentries : result.entries = (streams request.stage request.attempt).take length)
    (hlast : result.lastStreamId = lastId result.entries) (tick : ℕ) :
    Requested streams (r.applyBackfill walk fmt result tick) := by
  unfold ChallengeReader.applyBackfill
  split
  · rename_i preSelected hstate
    split
    · rename_i hcurrent
      obtain ⟨hstage, hattempt⟩ := h.asked preSelected hstate request hrequest
        (hid.trans hcurrent)
      rw [hstage, hattempt] at hentries
      exact (h.adoptBackfill walk fmt preSelected hentries hlast).congr (Or.inl rfl) rfl rfl rfl
        rfl rfl rfl
    · exact h
  · exact h

end Requested

lemma World.Reachable.requested {Meets : World → Act → Prop} {w : World}
    (hw : World.Reachable fmt Meets w) : Requested w.streams w.reader := by
  refine hw.invariant (I := fun w => Requested w.streams w.reader) ?_ ?_
  · intro uuid state clients nextSubscriberId tick streams _
    refine ⟨fun _ _ request hrequest _ => ?_, nofun, fun request hrequest => ?_, Or.inl rfl⟩
    · obtain rfl := List.mem_singleton.mp hrequest
      exact ⟨rfl, rfl⟩
    · obtain rfl := List.mem_singleton.mp hrequest
      exact le_rfl
  · intro w act hw h henabled _
    have hbroadcast : ∀ {r : ChallengeReader}, Requested w.streams r →
        Requested w.streams r.broadcast := by
      intro r h
      obtain ⟨hstate, hprimary, -, hcursor, hstage, hattempt, htx, hid, -⟩ := broadcast_fields r
      exact h.congr (Or.inl hstate) hprimary hcursor hstage hattempt htx hid
    cases act with
    | append stage attempt entry => exact h.append stage attempt entry
    | prepare => exact h
    | answer walk responses =>
      refine hbroadcast ?_
      unfold ChallengeReader.applyPollResponses
      split_ifs with hcompleted
      · exact h
      · exact (h.processResponses hw.asked henabled hcompleted fmt).updatePrimary walk w.tick
    | broadcast => exact hbroadcast h
    | update update =>
      change Requested w.streams (w.reader.applyChallengeUpdate update)
      unfold ChallengeReader.applyChallengeUpdate
      split
      · split_ifs
        · exact h.congr (Or.inl rfl) rfl rfl rfl rfl rfl rfl
        · exact h
      · exact h.finishChallenge
    | subscribe skipped requestedStage =>
      change Requested w.streams (w.reader.addSubscriber _)
      unfold ChallengeReader.addSubscriber
      dsimp only
      split <;> exact h.congr (Or.inl rfl) rfl rfl rfl rfl rfl rfl
    | unsubscribe id => exact h.congr (Or.inl rfl) rfl rfl rfl rfl rfl rfl
    | backfill walk result =>
      obtain ⟨request, hrequest, hid, ⟨length, hentries⟩, hlast⟩ := henabled
      exact h.applyBackfill walk fmt hrequest hid hentries hlast w.tick
    | shutdown retryWindowSecs => exact h.congr (Or.inl rfl) rfl rfl rfl rfl rfl rfl

/-! ### Backfills -/

lemma adoptBackfill_counts (hstreams : World.Ordered streams) (walk : Walk ℕ ClientState)
    (preSelected : Option ℕ) {result : BackfillResult} {length : ℕ}
    (hentries : result.entries = (streams r.stage r.stageAttempt).take length)
    (hlast : result.lastStreamId = lastId result.entries) (id : ℕ) :
    eventCount (r.adoptBackfill walk fmt preSelected result).clientStates id =
        eventCount r.clientStates id + entriesOf id result.entries ∧
      sent streams (r.adoptBackfill walk fmt preSelected result) id =
        entriesOf id result.entries := by
  have hread : upTo result.lastStreamId (streams r.stage r.stageAttempt) = result.entries := by
    rw [hlast, hentries]
    exact upTo_lastId (hstreams _ _).1 (hstreams _ _).2 length
  have hcount := eventCount_count (fun s => { s with eventCount := s.eventCount + 1 })
    (fun _ => rfl) result.entries r.clientStates id
  obtain ⟨_, _, _, heq⟩ := ingestSource_eq fmt
    ((r.countEntries result.entries).choosePrimary walk preSelected) result.entries
    (((r.countEntries result.entries).choosePrimary walk preSelected).backfillSource walk)
  unfold ChallengeReader.adoptBackfill
  dsimp only
  rw [heq]
  exact ⟨hcount, congrArg (entriesOf id) hread⟩

lemma eventCount_replayed (r : ChallengeReader) (reason : ResetReason) (tick id : ℕ) :
    eventCount ((r.trackPrimary tick).logApplied.replayToSubscribers reason).clientStates id =
      eventCount r.clientStates id :=
  eventCount_trackPrimary r tick id

lemma applyBackfill_counts {w : World} (hrequested : Requested w.streams w.reader)
    (hstreams : World.Ordered w.streams) {walk : Walk ℕ ClientState} {result : BackfillResult}
    (henabled : w.Enabled (.backfill walk result)) {preSelected : Option ℕ}
    (hstate : w.reader.state = .backfilling preSelected)
    (hcurrent : result.backfillId = w.reader.backfillId) (fmt : EventFormat ε) (id : ℕ) :
    eventCount (w.reader.applyBackfill walk fmt result w.tick).clientStates id =
        eventCount w.reader.clientStates id + entriesOf id result.entries ∧
      sent w.streams (w.reader.applyBackfill walk fmt result w.tick) id =
        entriesOf id result.entries := by
  obtain ⟨request, hrequest, hid, ⟨length, hentries⟩, hlast⟩ := henabled
  obtain ⟨hstage, hattempt⟩ := hrequested.asked preSelected hstate request hrequest
    (hid.trans hcurrent)
  rw [hstage, hattempt] at hentries
  obtain ⟨hcount, hsent⟩ := adoptBackfill_counts hstreams walk preSelected hentries hlast id
  unfold ChallengeReader.applyBackfill
  rw [hstate]
  dsimp only
  rw [if_pos hcurrent]
  exact ⟨(eventCount_replayed _ _ _ _).trans hcount, hsent⟩

/-! ### Which client is chosen in a step -/

/-- A client that a step could make primary: it is active and not the primary before the step, and
it has sent something lately unless the reader takes any active client, which it does when it had
no primary and was not stalled by silence, and when its primary is inactive. -/
def Eligible (w : World) (r : ChallengeReader) (id : ℕ) : Prop :=
  w.reader.primaryClientId ≠ some id ∧ ∃ s, r.clientStates.get id = some s ∧ s.active = true ∧
    (w.tick - silenceThreshold + 1 ≤ s.lastActiveTick ∨
      (∀ since, w.reader.state ≠ .stalled .allSilent since) ∧
        ∀ primary s', w.reader.primaryClientId = some primary →
          r.clientStates.get primary = some s' → s'.active = false)

/-- If the step changes the primary, no client that it could have chosen has sent more of the
stage. -/
def ChoosesBusiest (w w' : World) : Prop :=
  ∀ primary, w'.reader.primaryClientId = some primary →
    w.reader.primaryClientId ≠ some primary → ∀ id, Eligible w w'.reader id →
      sent w'.streams w'.reader id ≤ sent w'.streams w'.reader primary

/-- A reader has kept its primary or has none, and has not been stalled by silence. -/
def Softens (r r₁ : ChallengeReader) : Prop :=
  (r₁.primaryClientId = r.primaryClientId ∨ r₁.primaryClientId = none) ∧
    ∀ since, r₁.state = .stalled .allSilent since → r.state = .stalled .allSilent since

namespace Softens

variable {r₁ r₂ : ChallengeReader}

lemma refl (r : ChallengeReader) : Softens r r := ⟨Or.inl rfl, fun _ h => h⟩

lemma trans (h : Softens r r₁) (h' : Softens r₁ r₂) : Softens r r₂ := by
  refine ⟨?_, fun since hstate => h.2 since (h'.2 since hstate)⟩
  rcases h'.1 with hsame | hnone
  · rw [hsame]
    exact h.1
  · exact Or.inr hnone

lemma stall {reason : StalledReason} (hreason : reason ≠ .allSilent) (since : ℕ) :
    Softens r (r.stall reason since) := by
  unfold ChallengeReader.stall
  split
  · exact refl r
  · refine ⟨Or.inr rfl, fun since' hstate => ?_⟩
    have hsame : ReaderState.stalled reason since = .stalled .allSilent since' := hstate
    cases hsame
    exact absurd rfl hreason

lemma assessClients (clients : OrdMap ℕ ChallengeClient) (tick : ℕ) :
    Softens r (r.assessClients clients tick) := by
  have hnoClients : StalledReason.noClients ≠ .allSilent := nofun
  have hallInactive : StalledReason.allInactive ≠ .allSilent := nofun
  unfold ChallengeReader.assessClients
  split_ifs
  · exact stall hnoClients tick
  · exact ⟨Or.inl rfl, fun _ h => h⟩
  · exact stall hallInactive tick
  · exact refl r

lemma beginStage (tick : ℕ) (stage : ℤ) (attempt : Option ℕ) :
    Softens r (r.beginStage tick stage attempt) := by
  refine ⟨Or.inl ?_, nofun⟩
  unfold ChallengeReader.beginStage ChallengeReader.finishOpenStage
  split_ifs <;> rfl

lemma reported (tick : ℕ) (state : Option ChallengeState)
    (clients : OrdMap ℕ ChallengeClient) : Softens r (reported tick state clients r) := by
  have hprocess : ∀ r : ChallengeReader, Softens r (r.processClients clients tick) := by
    intro r
    have hsync : Softens r (r.syncClients clients) := ⟨Or.inl rfl, fun _ h => h⟩
    unfold ChallengeReader.processClients
    dsimp only
    split_ifs
    · exact hsync.trans (assessClients clients tick)
    · exact (hsync.trans (beginStage tick _ _)).trans (assessClients clients tick)
    · exact hsync
  refine trans ?_ (hprocess _)
  unfold ChallengeReader.applyResponse
  cases state with
  | none =>
    obtain ⟨hcompleted, hprimary, -⟩ := finishChallenge_fields r
    refine ⟨Or.inl hprimary, fun since hstate => ?_⟩
    cases hcompleted.symm.trans hstate
  | some state =>
    dsimp only
    split_ifs
    · exact beginStage tick _ _
    · exact refl r

lemma processResponses {w : World} (hasked : World.Asked w) {walk : Walk ℕ ClientState}
    {responses : List RedisResponse} (henabled : w.Enabled (.answer walk responses))
    (hcompleted : w.reader.state ≠ .completed) (fmt : EventFormat ε) :
    Softens w.reader (w.reader.processResponses fmt responses w.tick) := by
  rcases hasked.answer_cases henabled hcompleted with
    rfl | ⟨-, state, clients, ⟨-, rfl⟩ | ⟨-, length, rfl⟩⟩
  · exact refl _
  · rw [processResponses_pair]
    exact reported w.tick state clients
  · rw [processResponses_triple]
    split_ifs
    · obtain ⟨hstate, hprimary, -⟩ := processStreamEntries_fields fmt
        (((w.streams w.reader.stage w.reader.stageAttempt).take length).filter
          (w.reader.pollCursor < ·.id)) w.tick (Live.reported w.tick state clients w.reader)
      exact trans (reported w.tick state clients)
        ⟨Or.inl hprimary, fun since h => hstate ▸ h⟩
    · exact reported w.tick state clients

end Softens

lemma stall_primary (r : ChallengeReader) (reason : StalledReason) (since : ℕ) :
    (r.stall reason since).primaryClientId = r.primaryClientId ∨
      (r.stall reason since).primaryClientId = none := by
  unfold ChallengeReader.stall
  split
  · exact Or.inl rfl
  · exact Or.inr rfl

lemma updatePrimary_clientStates (r : ChallengeReader) (walk : Walk ℕ ClientState) (tick : ℕ) :
    (r.updatePrimary walk tick).clientStates = r.clientStates := by
  have hstall : ∀ reason, (r.stall reason tick).clientStates = r.clientStates := by
    intro reason
    unfold ChallengeReader.stall
    split <;> rfl
  unfold ChallengeReader.updatePrimary
  split
  · dsimp only
    split <;> rfl
  · split
    · unfold ChallengeReader.checkPrimarySwitch
      split_ifs
      · rfl
      · exact hstall _
      · split
        · exact hstall _
        · rfl
    · rfl

lemma updatePrimary_max {w : World} (h : Softens w.reader r) {walk : Walk ℕ ClientState}
    {primary id : ℕ} (hprimary : (r.updatePrimary walk w.tick).primaryClientId = some primary)
    (hchanged : w.reader.primaryClientId ≠ some primary)
    (heligible : Eligible w (r.updatePrimary walk w.tick) id) :
    eventCount (r.updatePrimary walk w.tick).clientStates id ≤
      eventCount (r.updatePrimary walk w.tick).clientStates primary := by
  have hkept : r.primaryClientId ≠ some primary := by
    rcases h.1 with hsame | hnone
    · rw [hsame]
      exact hchanged
    · rw [hnone]
      nofun
  obtain ⟨hother, s, hget, hactive, hlately⟩ := heligible
  rw [updatePrimary_clientStates] at hget hlately ⊢
  unfold ChallengeReader.updatePrimary at hprimary
  split at hprimary
  · rename_i reason since hstate
    dsimp only at hprimary
    split at hprimary
    · rename_i chosen hselect
      obtain rfl : chosen = primary := Option.some.inj hprimary
      refine selectPrimaryClient_max hselect hget nofun hactive ?_
      split_ifs with hsilent
      · subst hsilent
        exact hlately.resolve_right fun hany => hany.1 since (h.2 since hstate)
      · exact Nat.zero_le _
    · exact absurd hprimary hkept
  · split at hprimary
    · rename_i old hold
      have hbefore : w.reader.primaryClientId = some old := by
        rcases h.1 with hsame | hnone
        · exact hsame.symm.trans hold
        · cases hnone.symm.trans hold
      have hstalled : ∀ reason,
          (r.stall reason w.tick).primaryClientId = some primary → False := by
        intro reason hstall
        rcases stall_primary r reason w.tick with hsame | hnone
        · exact hkept (hsame.symm.trans hstall)
        · cases hnone.symm.trans hstall
      unfold ChallengeReader.checkPrimarySwitch at hprimary
      split_ifs at hprimary
      · exact absurd hprimary hkept
      · exact (hstalled _ hprimary).elim
      split at hprimary
      · exact (hstalled _ hprimary).elim
      · rename_i chosen hselect
        obtain rfl : chosen = primary := Option.some.inj hprimary
        refine selectPrimaryClient_max hselect hget (hbefore ▸ hother) hactive ?_
        unfold ChallengeReader.candidateActiveSince
        rcases hlately with hlately | ⟨-, hinactive⟩
        · split_ifs
          · exact hlately
          · exact Nat.zero_le _
        · rw [if_neg]
          · exact Nat.zero_le _
          · rw [Option.any_eq_true]
            rintro ⟨s', hs', hs''⟩
            rw [hinactive old s' hbefore hs'] at hs''
            cases hs''
    · exact selectPrimaryClient_max hprimary hget nofun hactive (Nat.zero_le _)

lemma applyBackfill_cases (r : ChallengeReader) (walk : Walk ℕ ClientState) (fmt : EventFormat ε)
    (result : BackfillResult) (tick : ℕ) :
    (∃ preSelected reason, r.state = .backfilling preSelected ∧
      result.backfillId = r.backfillId ∧ r.applyBackfill walk fmt result tick =
        ((r.adoptBackfill walk fmt preSelected result).trackPrimary
          tick).logApplied.replayToSubscribers reason) ∨
      r.applyBackfill walk fmt result tick = r := by
  unfold ChallengeReader.applyBackfill
  split
  · rename_i preSelected hstate
    split
    · rename_i hcurrent
      exact Or.inl ⟨preSelected, _, hstate, hcurrent, rfl⟩
    · exact Or.inr rfl
  · exact Or.inr rfl

lemma adoptBackfill_clientStates (r : ChallengeReader) (walk : Walk ℕ ClientState)
    (fmt : EventFormat ε) (preSelected : Option ℕ) (result : BackfillResult) :
    (r.adoptBackfill walk fmt preSelected result).clientStates =
        (r.countEntries result.entries).clientStates ∧
      (r.adoptBackfill walk fmt preSelected result).primaryClientId =
        preSelected.or ((r.countEntries result.entries).selectPrimaryClient walk 0 none) := by
  obtain ⟨_, _, _, heq⟩ := ingestSource_eq fmt
    ((r.countEntries result.entries).choosePrimary walk preSelected) result.entries
    (((r.countEntries result.entries).choosePrimary walk preSelected).backfillSource walk)
  unfold ChallengeReader.adoptBackfill
  dsimp only
  rw [heq]
  exact ⟨rfl, rfl⟩

lemma applyBackfill_max {w : World} (hrequested : Requested w.streams w.reader)
    {walk : Walk ℕ ClientState} {result : BackfillResult} {primary id : ℕ}
    (hprimary :
      (w.reader.applyBackfill walk fmt result w.tick).primaryClientId = some primary)
    (hchanged : w.reader.primaryClientId ≠ some primary)
    (heligible : Eligible w (w.reader.applyBackfill walk fmt result w.tick) id) :
    eventCount (w.reader.applyBackfill walk fmt result w.tick).clientStates id ≤
      eventCount (w.reader.applyBackfill walk fmt result w.tick).clientStates primary := by
  rcases applyBackfill_cases w.reader walk fmt result w.tick with
    ⟨preSelected, reason, hstate, -, happlied⟩ | hkept
  · rw [happlied] at hprimary heligible ⊢
    rw [eventCount_replayed, eventCount_replayed]
    obtain ⟨hclients, hchosen⟩ := adoptBackfill_clientStates w.reader walk fmt preSelected result
    have hadopted : (w.reader.adoptBackfill walk fmt preSelected result).primaryClientId =
        some primary := hprimary
    have hselect : (w.reader.countEntries result.entries).selectPrimaryClient walk 0 none =
        some primary := by
      rw [hchosen] at hadopted
      cases preSelected with
      | none => exact hadopted
      | some p =>
        have hsame : some p = some primary := hadopted
        exact absurd ((hrequested.chosen p hstate).trans hsame) hchanged
    by_cases hid : id = primary
    · rw [hid]
    obtain ⟨-, s, hget, hactive, -⟩ := heligible
    -- The tick that is noted for the primary is not of another client.
    have hget' : (w.reader.countEntries result.entries).clientStates.get id = some s := by
      rw [← hclients, ← hget]
      change _ = ((w.reader.adoptBackfill walk fmt preSelected result).trackPrimary
        w.tick).clientStates.get id
      unfold ChallengeReader.trackPrimary
      rw [hadopted]
      exact ((OrdMap.get_modify _ _ _ _).trans (if_neg hid)).symm
    rw [hclients]
    exact selectPrimaryClient_max hselect hget' nofun hactive (Nat.zero_le _)
  · rw [hkept] at hprimary
    exact absurd hprimary hchanged

/-! ### Runs -/

namespace Counted

variable {w : World}

lemma answer (h : Counted w.streams w.reader) (hstreams : World.Ordered w.streams)
    (hasked : World.Asked w) {walk : Walk ℕ ClientState} {responses : List RedisResponse}
    (henabled : w.Enabled (.answer walk responses))
    (hmeets : CountsOnce w (.answer walk responses)) (fmt : EventFormat ε) :
    Counted w.streams (w.reader.applyPollResponses walk fmt responses w.tick) := by
  unfold ChallengeReader.applyPollResponses
  split_ifs with hcompleted
  · exact h
  · exact (h.processResponses hstreams hasked henabled hmeets hcompleted fmt).updatePrimary walk
      w.tick

lemma broadcast (h : Counted streams r) : Counted streams r.broadcast := by
  obtain ⟨-, -, -, hcursor, hstage, hattempt, -, -, hclients⟩ := broadcast_fields r
  exact h.congr (fun id => by rw [hclients]) hcursor hstage hattempt

lemma backfill (h : Counted w.streams w.reader) (hrequested : Requested w.streams w.reader)
    (hstreams : World.Ordered w.streams) {walk : Walk ℕ ClientState} {result : BackfillResult}
    (henabled : w.Enabled (.backfill walk result)) (hmeets : ¬ Recounts result w.reader)
    (fmt : EventFormat ε) :
    Counted w.streams (w.reader.applyBackfill walk fmt result w.tick) := by
  rcases applyBackfill_cases w.reader walk fmt result w.tick with
    ⟨preSelected, reason, hstate, hcurrent, -⟩ | hkept
  · intro id
    have hzero : eventCount w.reader.clientStates id = 0 := by
      by_contra hne
      exact hmeets ⟨⟨preSelected, hstate⟩, hcurrent, id, hne⟩
    obtain ⟨hcount, hsent⟩ := applyBackfill_counts hrequested hstreams henabled hstate hcurrent
      fmt id
    omega
  · rw [hkept]
    exact h

lemma step (w : World) (act : Act) (hw : World.Reachable fmt CountsOnce w)
    (h : Counted w.streams w.reader) (henabled : w.Enabled act) (hmeets : CountsOnce w act) :
    Counted (w.next fmt act).streams (w.next fmt act).reader := by
  cases act with
  | append stage attempt entry => exact h.append hw.requested henabled.1 henabled.2
  | prepare => exact h
  | answer walk responses => exact (h.answer hw.ordered hw.asked henabled hmeets fmt).broadcast
  | broadcast => exact h.broadcast
  | update update =>
    change Counted w.streams (w.reader.applyChallengeUpdate update)
    unfold ChallengeReader.applyChallengeUpdate
    split
    · split_ifs <;> exact h
    · exact h.finishChallenge
  | subscribe skipped requestedStage =>
    change Counted w.streams (w.reader.addSubscriber _)
    unfold ChallengeReader.addSubscriber
    dsimp only
    split <;> exact h
  | unsubscribe id => exact h
  | backfill walk result => exact h.backfill hw.requested hw.ordered henabled hmeets fmt
  | shutdown retryWindowSecs => exact h

lemma new (uuid : String) (state : ChallengeState) (clients : OrdMap ℕ ChallengeClient)
    {streams : ℤ → Option ℕ → List StageStreamEntry} (hstreams : World.Ordered streams) :
    Counted streams (.new uuid state clients) := by
  have hfold : ∀ (l : List (ℕ × ChallengeClient)) (states : OrdMap ℕ ClientState) (id : ℕ),
      eventCount states id = 0 →
        eventCount (l.foldl (fun states (id, c) => states.insert id ⟨c.active, 0, 0⟩) states)
          id = 0 := by
    intro l
    induction l with
    | nil => exact fun _ _ h => h
    | cons e l ih =>
      intro states id h
      refine ih _ id ?_
      unfold eventCount at h ⊢
      rw [OrdMap.get_insert]
      split_ifs
      · rfl
      · exact h
  intro id
  have hzero : eventCount (ChallengeReader.new uuid state clients).clientStates id = 0 :=
    hfold clients.entries ∅ id rfl
  have hnothing : sent streams (ChallengeReader.new uuid state clients) id = 0 := by
    change entriesOf id (upTo streamStartCursor (streams state.stage state.stageAttempt)) = 0
    rw [Kept.upTo_start (hstreams _ _).2]
    rfl
  rw [hzero, hnothing]

end Counted

/-- **Client activity counts are exact**: in every world that is reached without counting an entry
twice or leaving one out, each client's count is the number of its entries in the stage's stream up
to the poll cursor, and a step that changes the primary chooses the client that has sent most. -/
theorem counts_are_exact {w : World} (hw : World.Reachable fmt CountsOnce w) :
    Counted w.streams w.reader ∧
      ∀ act, w.Enabled act → CountsOnce w act → ChoosesBusiest w (w.next fmt act) := by
  have hcounted : ∀ {w : World}, World.Reachable fmt CountsOnce w →
      Counted w.streams w.reader := fun hw =>
    hw.invariant (I := fun w => Counted w.streams w.reader)
      (fun uuid state clients _ _ _ hstreams => Counted.new uuid state clients hstreams)
      Counted.step
  refine ⟨hcounted hw, fun act henabled hmeets primary hprimary hchanged id heligible => ?_⟩
  have hnext := hcounted (hw.step henabled hmeets)
  rw [← hnext id, ← hnext primary]
  cases act with
  | answer walk responses =>
    obtain ⟨-, hsame, -, -, -, -, -, -, hclients⟩ := broadcast_fields
      (w.reader.applyPollResponses walk fmt responses w.tick)
    have hprimary' : (w.reader.applyPollResponses walk fmt responses w.tick).primaryClientId =
      some primary := hsame.symm.trans hprimary
    have heligible' : Eligible w (w.reader.applyPollResponses walk fmt responses w.tick) id := by
      unfold Eligible at heligible ⊢
      rw [← hclients]
      exact heligible
    change eventCount (w.reader.applyPollResponses walk fmt responses w.tick).broadcast.clientStates
      id ≤ eventCount (w.reader.applyPollResponses walk fmt responses
        w.tick).broadcast.clientStates primary
    rw [hclients]
    unfold ChallengeReader.applyPollResponses at hprimary' heligible' ⊢
    by_cases hcompleted : w.reader.state = .completed
    · rw [if_pos hcompleted] at hprimary'
      exact absurd hprimary' hchanged
    · rw [if_neg hcompleted] at hprimary' heligible' ⊢
      exact updatePrimary_max (Softens.processResponses hw.asked henabled hcompleted fmt) hprimary'
        hchanged heligible'
  | backfill walk result => exact applyBackfill_max hw.requested hprimary hchanged heligible
  | append stage attempt entry => exact absurd hprimary hchanged
  | prepare => exact absurd hprimary hchanged
  | broadcast =>
    exact absurd ((broadcast_fields w.reader).2.1.symm.trans hprimary) hchanged
  | update update =>
    exact absurd ((applyChallengeUpdate_fields w.reader update).2.1.symm.trans hprimary) hchanged
  | subscribe skipped requestedStage =>
    exact absurd ((addSubscriber_fields w.reader _).2.1.symm.trans hprimary) hchanged
  | unsubscribe id => exact absurd hprimary hchanged
  | shutdown retryWindowSecs => exact absurd hprimary hchanged

/-- The first backfill of a reader, which finds the first event of its client. -/
theorem readWorld_counted :
    Counted readWorld.streams readWorld.reader ∧
      eventCount readWorld.reader.clientStates 1 = 1 ∧
      readWorld.reader.primaryClientId = some 1 := by
  have hmeets : ¬ Recounts ⟨1, [firstEntry], toLex (1, 0)⟩
      ((newWorld (firstClient true .started) 0).next byteFormat
        (.append 10 none firstEntry)).reader := by
    rintro ⟨-, -, id, hne⟩
    refine hne ?_
    by_cases hid : id = 1
    · subst hid
      rfl
    · unfold eventCount
      rw [show ((newWorld (firstClient true .started) 0).next byteFormat
        (.append 10 none firstEntry)).reader.clientStates =
          (∅ : OrdMap ℕ ClientState).insert 1 ⟨true, 0, 0⟩ from rfl, OrdMap.get_insert, if_neg hid]
      rfl
  have hsent : World.Reachable byteFormat CountsOnce
      ((newWorld (firstClient true .started) 0).next byteFormat (.append 10 none firstEntry)) :=
    .step (newWorld_reachable _ _ _) (firstEntry_enabled rfl) trivial
  have hread : World.Reachable byteFormat CountsOnce readWorld :=
    .step hsent ⟨_, List.mem_singleton.mpr rfl, rfl, ⟨1, rfl⟩, rfl⟩ hmeets
  exact ⟨(counts_are_exact hread).1, rfl, rfl⟩

def secondEntry : StageStreamEntry := ⟨toLex (2, 0), 2, [1]⟩

/-- After the first backfill another client sends an event and the primary becomes inactive. -/
def inactiveWorld : World :=
  (readWorld.next byteFormat (.append 10 none secondEntry)).next byteFormat .prepare

def polledWorld : World :=
  inactiveWorld.next byteFormat (.answer byKey [.challengeState (some ⟨1, 11, 10, none, []⟩),
    .challengeClients (((∅ : OrdMap ℕ ChallengeClient).insert 1
      (firstClient false .started)).insert 2 (firstClient true .started)),
    .stageStream [secondEntry]])

/-- The backfill that the switch asks for is applied. -/
def switchedWorld : World :=
  polledWorld.next byteFormat (.backfill byKey ⟨2, [firstEntry, secondEntry], toLex (2, 0)⟩)

lemma polledWorld_reachable : World.Reachable byteFormat (fun _ _ => True) polledWorld := by
  have hstart : World.Reachable byteFormat (fun _ _ => True)
      ((newWorld (firstClient true .started) 0).next byteFormat (.append 10 none firstEntry)) :=
    .step (newWorld_reachable _ _ _) (firstEntry_enabled rfl) trivial
  have hread : World.Reachable byteFormat (fun _ _ => True) readWorld :=
    .step hstart ⟨_, List.mem_singleton.mpr rfl, rfl, ⟨1, rfl⟩, rfl⟩ trivial
  have hafter : readWorld.Enabled (.append 10 none secondEntry) := by
    refine ⟨by decide, fun e he => ?_⟩
    obtain rfl : e = firstEntry := List.mem_singleton.mp he
    decide
  have hinactive : World.Reachable byteFormat (fun _ _ => True) inactiveWorld :=
    .step (.step hread hafter trivial) rfl trivial
  refine .step hinactive ⟨_, rfl, Or.inr ?_⟩ trivial
  exact .cons (.challengeState _ _) (.cons (.challengeClients _ _)
    (.cons (.stageStream _ _ _ _ 2) .nil))

/-- Both clients have sent one entry, and both are counted as having sent two. -/
theorem switch_counts_twice :
    World.Reachable byteFormat (fun _ _ => True) switchedWorld ∧
      switchedWorld.reader.state = .active ∧
      ¬ Counted switchedWorld.streams switchedWorld.reader := by
  refine ⟨?_, by decide, fun h => ?_⟩
  · have hmem : (⟨"", 2, 10, none⟩ : BackfillRequest) ∈ polledWorld.reader.backfillTx := by
      decide
    exact .step polledWorld_reachable ⟨_, hmem, rfl, ⟨2, rfl⟩, rfl⟩ trivial
  · have hcount := h 1
    revert hcount
    decide

end Blert.Live

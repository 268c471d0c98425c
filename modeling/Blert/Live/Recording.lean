import Blert.Live.Ingest
import Blert.Live.Polls

/-!
The live buffer is the primary's recording.

While a reader is active and has a primary, its buffer has what that client has recorded of the
stage up to the poll cursor. The one place where this can fail is a primary that is chosen by a
poll when something of the stage has been read already.
-/

namespace Blert.Live

open Lifecycle (StageStatus)

variable {ε : Type} {fmt : EventFormat ε}

/-- The buffer has the primary's events in the stage's stream up to the cursor. -/
def Recorded (fmt : EventFormat ε) (streams : ℤ → Option ℕ → List StageStreamEntry)
    (r : ChallengeReader) : Prop :=
  r.state = .active → ∀ primary, r.primaryClientId = some primary →
    r.tickBuffer = recording fmt
      (clientEvents fmt primary (upTo r.pollCursor (streams r.stage r.stageAttempt)))

/-- The poll reports a client that is active. -/
def ReportsActive (responses : List RedisResponse) : Prop :=
  ∃ clients, RedisResponse.challengeClients clients ∈ responses ∧
    ∃ client ∈ clients.values, client.active

def ReportsStarted (stage : ℤ) (responses : List RedisResponse) : Prop :=
  ∃ clients, RedisResponse.challengeClients clients ∈ responses ∧
    ∃ client ∈ clients.values, client.stage = stage ∧ client.stageStatus = .started

def ReportsStage (r : ChallengeReader) (responses : List RedisResponse) : Prop :=
  ∃ state, RedisResponse.challengeState (some state) ∈ responses ∧
    state.stage = r.stage ∧ state.stageAttempt = r.stageAttempt

def ReportsEntries (responses : List RedisResponse) : Prop :=
  ∃ entries, RedisResponse.stageStream entries ∈ responses ∧ entries ≠ []

/-- A poll that finds an active reader without a primary, and an active client to choose, at a
stage of which something has been read and which does not start over. -/
def ChoosesLate (r : ChallengeReader) (responses : List RedisResponse) : Prop :=
  r.state = .active ∧ r.primaryClientId = none ∧ ReportsActive responses ∧
    ReportsStage r responses ∧ (r.pollCursor ≠ streamStartCursor ∨ ReportsEntries responses) ∧
    (r.stageState.isOpen ∨ ¬ ReportsStarted r.stage responses)

/-- A poll that finds the challenge gone and its stage started. -/
def Revives (r : ChallengeReader) (responses : List RedisResponse) : Prop :=
  RedisResponse.challengeState none ∈ responses ∧ ReportsStarted r.stage responses

def ChoosesInTime (w : World) : Act → Prop
  | .answer _ responses => ¬ ChoosesLate w.reader responses ∧ ¬ Revives w.reader responses
  | _ => True

/-! ### What parts of a step keep -/

/-- What a reader keeps at all times. A stage of which nothing has been read has nothing in its
buffer; a stalled reader has no primary; and a reader that waits for a backfill has an empty
buffer and has asked for its own stage. -/
structure Kept (fmt : EventFormat ε) (streams : ℤ → Option ℕ → List StageStreamEntry)
    (r : ChallengeReader) : Prop where
  recorded : Recorded fmt streams r
  unread : r.state = .active → r.pollCursor = streamStartCursor → r.tickBuffer = []
  stalled : ∀ reason since, r.state = .stalled reason since → r.primaryClientId = none
  backfilling : ∀ primary, r.state = .backfilling primary → r.tickBuffer = [] ∧
    ∀ request ∈ r.backfillTx, request.backfillId = r.backfillId →
      request.stage = r.stage ∧ request.attempt = r.stageAttempt
  ids : ∀ request ∈ r.backfillTx, request.backfillId ≤ r.backfillId
  cursor : r.pollCursor = streamStartCursor ∨
    ∃ e ∈ streams r.stage r.stageAttempt, e.id = r.pollCursor

def Idle (r : ChallengeReader) : Prop :=
  ∀ id s, r.clientStates.get id = some s → s.active = false

namespace Kept

variable {streams : ℤ → Option ℕ → List StageStreamEntry} {r r₁ : ChallengeReader}

lemma congr (h : Kept fmt streams r) (hstate : r₁.state = r.state)
    (hprimary : r₁.primaryClientId = r.primaryClientId) (hbuffer : r₁.tickBuffer = r.tickBuffer)
    (hcursor : r₁.pollCursor = r.pollCursor) (hstage : r₁.stage = r.stage)
    (hattempt : r₁.stageAttempt = r.stageAttempt) (htx : r₁.backfillTx = r.backfillTx)
    (hid : r₁.backfillId = r.backfillId) : Kept fmt streams r₁ := by
  refine ⟨?_, ?_, ?_, ?_, ?_, ?_⟩
  · unfold Recorded
    rw [hstate, hprimary, hbuffer, hcursor, hstage, hattempt]
    exact h.recorded
  · rw [hstate, hcursor, hbuffer]
    exact h.unread
  · rw [hstate, hprimary]
    exact h.stalled
  · rw [hstate, hbuffer, htx, hid, hstage, hattempt]
    exact h.backfilling
  · rw [htx, hid]
    exact h.ids
  · rw [hcursor, hstage, hattempt]
    exact h.cursor

lemma finishStage (h : Kept fmt streams r) : Kept fmt streams r.finishStage :=
  h.congr rfl rfl rfl rfl rfl rfl rfl rfl

lemma finishOpenStage (h : Kept fmt streams r) : Kept fmt streams r.finishOpenStage := by
  unfold ChallengeReader.finishOpenStage
  split_ifs
  · exact h.finishStage
  · exact h

lemma finishChallenge (h : Kept fmt streams r) : Kept fmt streams r.finishChallenge := by
  unfold ChallengeReader.finishChallenge
  split_ifs
  · exact h
  · exact ⟨nofun, nofun, nofun, nofun, h.finishOpenStage.ids, h.finishOpenStage.cursor⟩

lemma upTo_start {stream : List StageStreamEntry}
    (hstart : ∀ e ∈ stream, streamStartCursor < e.id) : upTo streamStartCursor stream = [] :=
  List.filter_eq_nil_iff.mpr fun e he hle => (hstart e he).not_ge (of_decide_eq_true hle)

lemma beginStage (h : Kept fmt streams r) (hstreams : World.Ordered streams) (tick : ℕ)
    (stage : ℤ) (attempt : Option ℕ) : Kept fmt streams (r.beginStage tick stage attempt) := by
  refine ⟨fun _ primary _ => ?_, fun _ _ => rfl, nofun, nofun, h.finishOpenStage.ids, Or.inl rfl⟩
  change [] = recording fmt
    (clientEvents fmt primary (upTo streamStartCursor (streams stage attempt)))
  rw [upTo_start (hstreams stage attempt).2]
  rfl

lemma stall (h : Kept fmt streams r) (reason : StalledReason) (since : ℕ) :
    Kept fmt streams (r.stall reason since) := by
  unfold ChallengeReader.stall
  split
  · exact h
  · exact ⟨nofun, nofun, fun _ _ _ => rfl, nofun, h.ids, h.cursor⟩

lemma switchToPrimary (h : Kept fmt streams r) (newPrimary : ℕ) :
    Kept fmt streams (r.switchToPrimary newPrimary) := by
  refine ⟨nofun, nofun, nofun, fun _ _ => ⟨rfl, fun request hrequest hid => ?_⟩,
    fun request hrequest => ?_, h.cursor⟩
  · rcases List.mem_append.mp hrequest with hold | hnew
    · have hle := h.ids request hold
      change request.backfillId = r.backfillId + 1 at hid
      omega
    · rw [List.mem_singleton.mp hnew]
      exact ⟨rfl, rfl⟩
  · change request.backfillId ≤ r.backfillId + 1
    rcases List.mem_append.mp hrequest with hold | hnew
    · exact (h.ids request hold).trans (Nat.le_succ _)
    · rw [List.mem_singleton.mp hnew]

lemma syncClients (h : Kept fmt streams r) (clients : OrdMap ℕ ChallengeClient) :
    Kept fmt streams (r.syncClients clients) :=
  h.congr rfl rfl rfl rfl rfl rfl rfl rfl

lemma processStreamEntries (h : Kept fmt streams r) (hstreams : World.Ordered streams)
    (length tick : ℕ) (hreceives : r.receives = true) :
    Kept fmt streams (r.processStreamEntries fmt
      (((streams r.stage r.stageAttempt).take length).filter (r.pollCursor < ·.id)) tick) := by
  have hordered := (hstreams r.stage r.stageAttempt).1
  generalize hentries : ((streams r.stage r.stageAttempt).take length).filter
    (r.pollCursor < ·.id) = entries
  unfold ChallengeReader.processStreamEntries
  split
  · exact h
  rename_i last hlast
  have hread := upTo_read hordered (hentries ▸ hlast)
  rw [hentries] at hread
  have hmem : last ∈ streams r.stage r.stageAttempt := by
    have hmem := List.mem_of_getLast? hlast
    rw [← hentries] at hmem
    exact List.mem_of_mem_take (List.mem_of_mem_filter hmem)
  have hpast : last.id ≠ streamStartCursor :=
    ((hstreams r.stage r.stageAttempt).2 last hmem).ne'
  dsimp only
  split
  · rename_i primary hprimary
    have hactive : r.state = .active := by
      unfold ChallengeReader.receives at hreceives
      split at hreceives
      · assumption
      · rename_i since hstate
        rw [h.stalled _ _ hstate] at hprimary
        cases hprimary
      · cases hreceives
    have hbuffer := ingestAndRebuild_recording (r := { r with
      pollCursor := last.id
      clientStates := entries.foldl (fun states (entry : StageStreamEntry) =>
        updateClient states entry.clientId fun s =>
          { s with eventCount := s.eventCount + 1, lastActiveTick := tick })
        r.clientStates }) (h.recorded hactive primary hprimary) entries primary
    obtain ⟨tickBuffer, highWaterTick, replayChunks, heq⟩ :=
      ingestAndRebuild_eq fmt { r with
        pollCursor := last.id
        clientStates := entries.foldl (fun states (entry : StageStreamEntry) =>
          updateClient states entry.clientId fun s =>
            { s with eventCount := s.eventCount + 1, lastActiveTick := tick })
          r.clientStates } entries primary
    rw [heq] at hbuffer ⊢
    refine ⟨fun _ primary' hprimary' => ?_, fun _ hcursor => absurd hcursor hpast, h.stalled,
      fun _ hstate => ?_, h.ids, Or.inr ⟨last, hmem, rfl⟩⟩
    · obtain rfl : primary = primary' := Option.some.inj (hprimary.symm.trans hprimary')
      refine hbuffer.trans ?_
      rw [← clientEvents_append, ← hread]
    · have : r.state = .backfilling _ := hstate
      rw [hactive] at this
      cases this
  · rename_i hprimary
    refine ⟨fun _ primary hprimary' => ?_, fun _ hcursor => absurd hcursor hpast, h.stalled,
      h.backfilling, h.ids, Or.inr ⟨last, hmem, rfl⟩⟩
    have : r.primaryClientId = some primary := hprimary'
    rw [hprimary] at this
    cases this

end Kept

/-! ### Clients -/

lemma maxByKey_eq_none {α : Type} {key : α → ℕ} {xs : List α} :
    maxByKey key xs = none ↔ xs = [] := by
  cases xs <;> simp [maxByKey]

lemma selectPrimaryClient_eq_none {r : ChallengeReader} {walk : Walk ℕ ClientState} :
    r.selectPrimaryClient walk 0 none = none ↔ Idle r := by
  rw [ChallengeReader.selectPrimaryClient, Option.map_eq_none_iff, maxByKey_eq_none,
    List.filter_eq_nil_iff]
  have hmem : ∀ e, e ∈ walk.walk r.clientStates ↔ r.clientStates.get e.1 = some e.2 := fun e =>
    (walk.perm _).mem_iff.trans OrdMap.mem_entries
  constructor
  · intro h id s hget
    simpa using h (id, s) ((hmem _).mpr hget)
  · intro h e he
    simpa using h e.1 e.2 ((hmem e).mp he)

lemma updateClient_get (states : OrdMap ℕ ClientState) (id id' : ℕ)
    (f : ClientState → ClientState) : (updateClient states id f).get id' =
      if id' = id then some (f ((states.get id).getD .unknown)) else states.get id' :=
  OrdMap.get_insert ..

lemma foldl_updateClient_inactive (l : List (ℕ × ChallengeClient)) {id : ℕ}
    (hl : ∀ e ∈ l, e.2.active = false) {states : OrdMap ℕ ClientState}
    (hid : id ∈ l.map Prod.fst ∨ ∀ s, states.get id = some s → s.active = false) {s : ClientState}
    (hget : (l.foldl (fun states (id, client) =>
      updateClient states id fun s => { s with active := client.active }) states).get id =
        some s) : s.active = false := by
  induction l generalizing states with
  | nil => exact hid.resolve_left nofun s hget
  | cons e l ih =>
    refine ih (fun e' he' => hl e' (List.mem_cons_of_mem _ he')) ?_ hget
    by_cases he : id = e.1
    · right
      intro s' hs'
      rw [updateClient_get, if_pos he] at hs'
      cases hs'
      exact hl e List.mem_cons_self
    · refine hid.imp (fun hmem => ?_) fun hstates s' hs' => ?_
      · exact (List.mem_cons.mp hmem).resolve_left he
      · rw [updateClient_get, if_neg he] at hs'
        exact hstates s' hs'

lemma syncClients_idle {r : ChallengeReader} {clients : OrdMap ℕ ChallengeClient}
    (h : ∀ client ∈ clients.values, client.active = false) : Idle (r.syncClients clients) := by
  intro id s hget
  change (OrdMap.mapValues _ _).get id = some s at hget
  rw [OrdMap.get_mapValues, Option.map_eq_some_iff] at hget
  obtain ⟨s', hs', rfl⟩ := hget
  split_ifs with hcontains
  · obtain ⟨client, hclient⟩ := OrdMap.contains_iff.mp hcontains
    refine foldl_updateClient_inactive clients.entries (fun e he => h e.2 ?_) (Or.inl ?_) hs'
    · exact List.mem_map_of_mem he
    · exact OrdMap.mem_keys.mpr ⟨client, hclient⟩
  · rfl

lemma foldl_updateClient_idle (f : ClientState → ClientState)
    (hf : ∀ s, (f s).active = s.active) (entries : List StageStreamEntry)
    {states : OrdMap ℕ ClientState}
    (h : ∀ id s, states.get id = some s → s.active = false) (id : ℕ) (s : ClientState)
    (hget : (entries.foldl (fun states (entry : StageStreamEntry) =>
      updateClient states entry.clientId f) states).get id = some s) : s.active = false := by
  induction entries generalizing states with
  | nil => exact h id s hget
  | cons entry entries ih =>
    refine ih (fun id' s' hs' => ?_) hget
    rw [updateClient_get] at hs'
    split_ifs at hs' with heq
    · cases hs'
      rw [hf]
      cases hold : states.get entry.clientId with
      | none => rfl
      | some old => exact h _ _ hold
    · exact h id' s' hs'

/-! ### Polls -/

section Polls

variable {streams : ℤ → Option ℕ → List StageStreamEntry} {r : ChallengeReader}

lemma assessClients_fields (clients : OrdMap ℕ ChallengeClient) (tick : ℕ)
    (r : ChallengeReader) :
    (r.assessClients clients tick).stage = r.stage ∧
      (r.assessClients clients tick).stageAttempt = r.stageAttempt ∧
      (r.assessClients clients tick).pollCursor = r.pollCursor ∧
      (r.assessClients clients tick).clientStates = r.clientStates ∧
      ((r.assessClients clients tick).state = .active → r.state = .active ∧
        (r.assessClients clients tick).primaryClientId = r.primaryClientId) := by
  have hstall : ∀ reason, (r.stall reason tick).stage = r.stage ∧
      (r.stall reason tick).stageAttempt = r.stageAttempt ∧
      (r.stall reason tick).pollCursor = r.pollCursor ∧
      (r.stall reason tick).clientStates = r.clientStates ∧
      ((r.stall reason tick).state = .active → r.state = .active ∧
        (r.stall reason tick).primaryClientId = r.primaryClientId) := by
    intro reason
    unfold ChallengeReader.stall
    split
    · exact ⟨rfl, rfl, rfl, rfl, fun h => ⟨h, rfl⟩⟩
    · exact ⟨rfl, rfl, rfl, rfl, nofun⟩
  unfold ChallengeReader.assessClients
  split_ifs
  · exact hstall _
  · exact ⟨rfl, rfl, rfl, rfl, fun h => ⟨h, rfl⟩⟩
  · exact hstall _
  · exact ⟨rfl, rfl, rfl, rfl, fun h => ⟨h, rfl⟩⟩

lemma processStreamEntries_fields (fmt : EventFormat ε) (entries : List StageStreamEntry)
    (tick : ℕ) (r : ChallengeReader) :
    (r.processStreamEntries fmt entries tick).state = r.state ∧
      (r.processStreamEntries fmt entries tick).primaryClientId = r.primaryClientId ∧
      (Idle r → Idle (r.processStreamEntries fmt entries tick)) ∧
      (entries = [] → r.processStreamEntries fmt entries tick = r) := by
  unfold ChallengeReader.processStreamEntries
  split
  · exact ⟨rfl, rfl, id, fun _ => rfl⟩
  rename_i last hlast
  have hidle (h : Idle r) := foldl_updateClient_idle
    (fun s => { s with eventCount := s.eventCount + 1, lastActiveTick := tick })
    (fun _ => rfl) entries h
  have hsome : entries = [] → False := by
    rintro rfl
    cases hlast
  dsimp only
  split
  · rename_i primary hprimary
    obtain ⟨_, _, _, heq⟩ := ingestAndRebuild_eq fmt { r with
      pollCursor := last.id
      clientStates := entries.foldl (fun states (entry : StageStreamEntry) =>
        updateClient states entry.clientId fun s =>
          { s with eventCount := s.eventCount + 1, lastActiveTick := tick })
        r.clientStates } entries primary
    rw [heq]
    exact ⟨rfl, rfl, hidle, fun h => (hsome h).elim⟩
  · exact ⟨rfl, rfl, hidle, fun h => (hsome h).elim⟩

/-- Where a primary would be chosen there is none to choose, or nothing has been read. -/
def InTime (r : ChallengeReader) : Prop :=
  r.state = .active → r.primaryClientId = none → Idle r ∨ r.pollCursor = streamStartCursor

/-- Evaluating the primary in time keeps what the reader keeps, and leaves an active reader
without a primary only if no client is active. -/
lemma Kept.updatePrimary (h : Kept fmt streams r) (hstreams : World.Ordered streams)
    (hlate : InTime r) (walk : Walk ℕ ClientState) (tick : ℕ) :
    Kept fmt streams (r.updatePrimary walk tick) ∧
      ((r.updatePrimary walk tick).state = .active →
        (r.updatePrimary walk tick).primaryClientId = none →
          Idle (r.updatePrimary walk tick)) := by
  unfold ChallengeReader.updatePrimary
  split
  · rename_i reason since hstate
    dsimp only
    split
    · exact ⟨h.switchToPrimary _, nofun⟩
    · exact ⟨h, fun hactive => by rw [hstate] at hactive; cases hactive⟩
  · rename_i hstalled
    split
    · rename_i primaryId hprimary
      unfold ChallengeReader.checkPrimarySwitch
      have hstall : ∀ reason since, (r.stall reason since).state ≠ .active := by
        intro reason since
        unfold ChallengeReader.stall
        split
        · rename_i reason' since' hstate
          exact absurd hstate (hstalled _ _)
        · nofun
      split_ifs
      · exact ⟨h, fun _ hnone => by rw [hprimary] at hnone; cases hnone⟩
      · exact ⟨h.stall _ _, fun hactive => absurd hactive (hstall _ _)⟩
      · split
        · exact ⟨h.stall _ _, fun hactive => absurd hactive (hstall _ _)⟩
        · exact ⟨h.switchToPrimary _, nofun⟩
    · rename_i hnone
      refine ⟨⟨fun hactive primary hselect => ?_, h.unread, fun reason since hstate =>
        absurd hstate (hstalled _ _), h.backfilling, h.ids, h.cursor⟩, fun _ hselect =>
        selectPrimaryClient_eq_none.1 hselect⟩
      -- A client can be chosen, so that nothing has been read.
      have hcursor : r.pollCursor = streamStartCursor :=
        (hlate hactive hnone).resolve_left fun hidle => by
          have : r.selectPrimaryClient walk 0 none = some primary := hselect
          rw [selectPrimaryClient_eq_none.2 hidle] at this
          cases this
      change r.tickBuffer = recording fmt (clientEvents fmt primary
        (upTo r.pollCursor (streams r.stage r.stageAttempt)))
      rw [h.unread hactive hcursor, hcursor, Kept.upTo_start (hstreams _ _).2]
      rfl

/-- A poll of which the stage is the reader's leaves the cursor where it was, or the stage
starts over. -/
lemma reported_same {state : ChallengeState} {clients : OrdMap ℕ ChallengeClient} (tick : ℕ)
    (hstage : state.stage = r.stage ∧ state.stageAttempt = r.stageAttempt) :
    reported tick (some state) clients r = r.processClients clients tick := by
  have hsame : ¬ (state.stage ≠ r.stage ∨ state.stageAttempt ≠ r.stageAttempt) := by
    rintro (h | h)
    · exact h hstage.1
    · exact h hstage.2
  rw [reported, ChallengeReader.applyResponse, if_neg hsame]

lemma reported_changed {state : ChallengeState} {clients : OrdMap ℕ ChallengeClient} (tick : ℕ)
    (hstage : ¬ (state.stage = r.stage ∧ state.stageAttempt = r.stageAttempt)) :
    reported tick (some state) clients r =
      ((r.beginStage tick state.stage state.stageAttempt).syncClients clients).assessClients
        clients tick := by
  have hchanged : state.stage ≠ r.stage ∨ state.stageAttempt ≠ r.stageAttempt := by
    rw [← not_and_or]
    exact hstage
  rw [reported, ChallengeReader.applyResponse, if_pos hchanged]
  rfl

/-- A poll that finds the challenge gone completes the reader if no client has started the
stage. -/
lemma reported_gone {clients : OrdMap ℕ ChallengeClient} (tick : ℕ)
    (hstate : r.state ≠ .completed)
    (hstarted : ¬ ∃ client ∈ clients.values,
      client.stage = r.stage ∧ client.stageStatus = .started) :
    (reported tick none clients r).state = .completed := by
  have hfinish : r.finishChallenge.state = .completed ∧
      r.finishChallenge.stageState.isOpen = false ∧ r.finishChallenge.stage = r.stage := by
    unfold ChallengeReader.finishChallenge ChallengeReader.finishOpenStage
    rw [if_neg hstate]
    split_ifs with hopen
    · exact ⟨rfl, rfl, rfl⟩
    · exact ⟨rfl, Bool.eq_false_iff.mpr hopen, rfl⟩
  have hnone : clients.values.any (fun c => c.stage = r.finishChallenge.stage ∧
      c.stageStatus = .started) = false := by
    rw [List.any_eq_false]
    intro client hclient hc
    exact hstarted ⟨client, hclient, hfinish.2.2 ▸ of_decide_eq_true hc⟩
  unfold reported ChallengeReader.applyResponse ChallengeReader.processClients
  dsimp only
  rw [if_neg, if_neg]
  · exact hfinish.1
  · exact Bool.eq_false_iff.mp hnone
  · change ¬ r.finishChallenge.stageState.isOpen = true
    rw [hfinish.2.1]
    nofun

lemma kept_reported (h : Kept fmt streams r) (hstreams : World.Ordered streams) (tick : ℕ)
    (state : Option ChallengeState) (clients : OrdMap ℕ ChallengeClient) :
    Kept fmt streams (reported tick state clients r) :=
  reported_induction (P := Kept fmt streams) (fun _ h => h.finishChallenge)
    (fun _ stage attempt h => h.beginStage hstreams tick stage attempt)
    (fun _ reason h => h.stall reason tick) (fun _ h => h.syncClients clients)
    (fun _ h => h.congr rfl rfl rfl rfl rfl rfl rfl rfl) h

lemma idle_or_unread {state : ChallengeState} {clients : OrdMap ℕ ChallengeClient}
    {responses : List RedisResponse} (hlate : ¬ ChoosesLate r responses)
    (hstate : .challengeState (some state) ∈ responses)
    (hclients : .challengeClients clients ∈ responses)
    (hstage : state.stage = r.stage ∧ state.stageAttempt = r.stageAttempt)
    (hopen : r.stageState.isOpen ∨ ¬ ReportsStarted r.stage responses)
    (hactive : r.state = .active) (hnone : r.primaryClientId = none) :
    Idle (r.syncClients clients) ∨
      r.pollCursor = streamStartCursor ∧ ¬ ReportsEntries responses := by
  by_cases hreports : ReportsActive responses
  · right
    rw [← not_ne_iff, ← not_or]
    exact fun hread => hlate ⟨hactive, hnone, hreports, ⟨state, hstate, hstage⟩, hread, hopen⟩
  · left
    refine syncClients_idle fun client hclient => ?_
    rw [← Bool.not_eq_true]
    exact fun hc => hreports ⟨clients, hclients, client, hclient, hc⟩

lemma processResponses_closed (h : Kept fmt streams r) (hstreams : World.Ordered streams)
    (hcompleted : r.state ≠ .completed) (hclosed : ¬ r.stageState.isOpen)
    (state : Option ChallengeState) (clients : OrdMap ℕ ChallengeClient) (tick : ℕ)
    (hlate : ¬ ChoosesLate r [.challengeState state, .challengeClients clients])
    (hrevives : ¬ Revives r [.challengeState state, .challengeClients clients]) :
    Kept fmt streams
        (r.processResponses fmt [.challengeState state, .challengeClients clients] tick) ∧
      InTime (r.processResponses fmt [.challengeState state, .challengeClients clients] tick) := by
  rw [processResponses_pair]
  refine ⟨kept_reported h hstreams tick state clients, fun hactive hnone => ?_⟩
  cases state with
  | none =>
    have hgone := reported_gone tick hcompleted fun hstarted =>
      hrevives ⟨List.mem_cons_self, clients, by simp, hstarted⟩
    rw [hgone] at hactive
    cases hactive
  | some state =>
    by_cases hstage : state.stage = r.stage ∧ state.stageAttempt = r.stageAttempt
    · rw [reported_same tick hstage] at hactive hnone ⊢
      unfold ChallengeReader.processClients at hactive hnone ⊢
      dsimp only at hactive hnone ⊢
      rw [if_neg (by exact hclosed)] at hactive hnone ⊢
      split_ifs at hactive hnone ⊢ with hstarted
      · exact Or.inr (assessClients_fields _ _ _).2.2.1
      · refine (idle_or_unread hlate List.mem_cons_self
          (List.mem_cons_of_mem _ List.mem_cons_self) hstage (Or.inr ?_) hactive
          hnone).imp_right And.left
        rintro ⟨clients', hclients', client, hclient, hc⟩
        obtain rfl : clients' = clients := by simpa using hclients'
        exact hstarted (List.any_eq_true.mpr ⟨client, hclient, decide_eq_true hc⟩)
    · rw [reported_changed tick hstage]
      exact Or.inr (assessClients_fields _ _ _).2.2.1

lemma processResponses_open (h : Kept fmt streams r) (hstreams : World.Ordered streams)
    (hcompleted : r.state ≠ .completed) (hopen : r.stageState.isOpen)
    (state : Option ChallengeState) (clients : OrdMap ℕ ChallengeClient)
    {entries : List StageStreamEntry} {length : ℕ} (hentries : entries =
      ((streams r.stage r.stageAttempt).take length).filter (r.pollCursor < ·.id)) (tick : ℕ)
    (hlate : ¬ ChoosesLate r [.challengeState state, .challengeClients clients,
      .stageStream entries])
    (hrevives : ¬ Revives r [.challengeState state, .challengeClients clients,
      .stageStream entries]) :
    Kept fmt streams (r.processResponses fmt [.challengeState state, .challengeClients clients,
        .stageStream entries] tick) ∧
      InTime (r.processResponses fmt [.challengeState state, .challengeClients clients,
        .stageStream entries] tick) := by
  rw [processResponses_triple]
  have hkept := kept_reported h hstreams tick state clients
  cases state with
  | none =>
    have hgone := reported_gone tick hcompleted fun hstarted =>
      hrevives ⟨List.mem_cons_self, clients, by simp, hstarted⟩
    have hreceives : ¬ ((reported tick none clients r).receives ∧
        (reported tick none clients r).stage = r.stage ∧
        (reported tick none clients r).stageAttempt = r.stageAttempt) := by
      rintro ⟨hreceives, -⟩
      unfold ChallengeReader.receives at hreceives
      rw [hgone] at hreceives
      cases hreceives
    rw [if_neg hreceives]
    exact ⟨hkept, fun hactive => by rw [hgone] at hactive; cases hactive⟩
  | some state =>
    by_cases hstage : state.stage = r.stage ∧ state.stageAttempt = r.stageAttempt
    · have hsame : reported tick (some state) clients r =
          (r.syncClients clients).assessClients clients tick := by
        rw [reported_same tick hstage, ChallengeReader.processClients, if_pos (by exact hopen)]
      obtain ⟨hstage', hattempt', hcursor', hclients', hactive'⟩ :=
        assessClients_fields clients tick (r.syncClients clients)
      rw [← hsame] at hstage' hattempt' hcursor' hclients' hactive'
      generalize reported tick (some state) clients r = s at *
      obtain ⟨hstate'', hprimary'', hidle'', hnil''⟩ :=
        processStreamEntries_fields fmt entries tick s
      refine ⟨?_, fun hactive hnone => ?_⟩
      · split_ifs with hreceives
        · subst hentries
          have hread := hkept.processStreamEntries hstreams length tick hreceives.1
          rw [hstage', hattempt', hcursor'] at hread
          exact hread
        · exact hkept
      · split_ifs at hactive hnone ⊢ with hreceives
        · rw [hstate''] at hactive
          rw [hprimary''] at hnone
          obtain ⟨hactive₀, hprimary₀⟩ := hactive' hactive
          rw [hprimary₀] at hnone
          rcases idle_or_unread hlate List.mem_cons_self (List.mem_cons_of_mem _ List.mem_cons_self)
            hstage (Or.inl hopen) hactive₀ hnone with hidle | ⟨hcursor, hnothing⟩
          · left
            refine hidle'' fun id c hget => hidle id c ?_
            rwa [hclients'] at hget
          · right
            have hempty : entries = [] := by
              by_contra hne
              exact hnothing ⟨entries, by simp, hne⟩
            rw [hnil'' hempty, hcursor']
            exact hcursor
        · refine absurd ⟨?_, hstage', hattempt'⟩ hreceives
          unfold ChallengeReader.receives
          rw [hactive]
    · have hchanged : reported tick (some state) clients r = _ := reported_changed tick hstage
      obtain ⟨hstage', hattempt', hcursor', -⟩ := assessClients_fields clients tick
        ((r.beginStage tick state.stage state.stageAttempt).syncClients clients)
      rw [← hchanged] at hstage' hattempt' hcursor'
      have hreceives : ¬ ((reported tick (some state) clients r).receives ∧
          (reported tick (some state) clients r).stage = r.stage ∧
          (reported tick (some state) clients r).stageAttempt = r.stageAttempt) := by
        rintro ⟨-, hs, ha⟩
        exact hstage ⟨hstage'.symm.trans hs, hattempt'.symm.trans ha⟩
      rw [if_neg hreceives]
      exact ⟨hkept, fun _ _ => Or.inr hcursor'⟩

end Polls

/-! ### Other steps -/

namespace Kept

variable {streams : ℤ → Option ℕ → List StageStreamEntry} {r : ChallengeReader}

lemma applyChallengeUpdate (h : Kept fmt streams r) (update : ChallengeServerUpdate) :
    Kept fmt streams (r.applyChallengeUpdate update) := by
  unfold ChallengeReader.applyChallengeUpdate
  split
  · split_ifs
    · exact h.congr rfl rfl rfl rfl rfl rfl rfl rfl
    · exact h
  · exact h.finishChallenge

lemma addSubscriber (h : Kept fmt streams r) (subscriber : Subscriber) :
    Kept fmt streams (r.addSubscriber subscriber) := by
  unfold ChallengeReader.addSubscriber
  dsimp only
  split <;> exact h.congr rfl rfl rfl rfl rfl rfl rfl rfl

lemma append (h : Kept fmt streams r) {stage : ℤ} {attempt : Option ℕ} {entry : StageStreamEntry}
    (hstart : streamStartCursor < entry.id)
    (hafter : ∀ e ∈ streams stage attempt, e.id < entry.id) :
    Kept fmt (World.appendEntry streams stage attempt entry) r := by
  refine ⟨fun hactive primary hprimary => ?_, h.unread, h.stalled, h.backfilling, h.ids, ?_⟩
  · rw [h.recorded hactive primary hprimary]
    unfold World.appendEntry
    split_ifs with hsame
    · obtain ⟨hstage, hattempt⟩ := hsame
      have hcursor : r.pollCursor < entry.id := by
        rcases h.cursor with hcursor | ⟨e, he, hcursor⟩
        · exact hcursor ▸ hstart
        · exact hcursor ▸ hafter e (hstage ▸ hattempt ▸ he)
      rw [upTo, upTo, List.filter_append, List.filter_cons_of_neg (by simpa using hcursor),
        List.filter_nil, List.append_nil]
    · rfl
  · refine h.cursor.imp_right ?_
    rintro ⟨e, he, hcursor⟩
    refine ⟨e, ?_, hcursor⟩
    unfold World.appendEntry
    split_ifs
    · exact List.mem_append_left _ he
    · exact he

lemma adoptBackfill (h : Kept fmt streams r) (hstreams : World.Ordered streams)
    (walk : Walk ℕ ClientState) (preSelected : Option ℕ) {result : BackfillResult}
    (hbuffer : r.tickBuffer = []) {length : ℕ}
    (hentries : result.entries = (streams r.stage r.stageAttempt).take length)
    (hlast : result.lastStreamId = lastId result.entries) :
    Kept fmt streams (r.adoptBackfill walk fmt preSelected result) ∧
      ((r.adoptBackfill walk fmt preSelected result).primaryClientId = none →
        Idle (r.adoptBackfill walk fmt preSelected result)) := by
  have hread : upTo result.lastStreamId (streams r.stage r.stageAttempt) = result.entries := by
    rw [hlast, hentries]
    exact upTo_lastId (hstreams _ _).1 (hstreams _ _).2 length
  have hcursor : result.lastStreamId = streamStartCursor ∨
      ∃ e ∈ streams r.stage r.stageAttempt, e.id = result.lastStreamId := by
    rw [hlast, lastId]
    cases hsome : result.entries.getLast? with
    | none => exact Or.inl rfl
    | some last =>
      refine Or.inr ⟨last, ?_, rfl⟩
      rw [hentries] at hsome
      exact List.mem_of_mem_take (List.mem_of_getLast? hsome)
  have hunread : result.lastStreamId = streamStartCursor → result.entries = [] := by
    intro hstart
    rw [← hread, hstart]
    exact upTo_start (hstreams _ _).2
  obtain ⟨tickBuffer, highWaterTick, replayChunks, heq⟩ := ingestSource_eq fmt
    ((r.countEntries result.entries).choosePrimary walk preSelected) result.entries
    (((r.countEntries result.entries).choosePrimary walk preSelected).backfillSource walk)
  have hsource : ∀ source,
      ((r.countEntries result.entries).choosePrimary walk preSelected).backfillSource walk =
        some source → tickBuffer = recording fmt (clientEvents fmt source result.entries) := by
    intro source hsource
    have hchosen : ((r.countEntries result.entries).choosePrimary walk preSelected).tickBuffer =
      recording fmt [] := hbuffer
    have hingest := ingestAndRebuild_recording hchosen result.entries source
    rw [hsource] at heq
    rw [show ChallengeReader.ingestAndRebuild fmt result.entries source _ = _ from heq] at hingest
    exact hingest
  have hempty : result.lastStreamId = streamStartCursor → tickBuffer = [] := by
    intro hstart
    cases hnone : ((r.countEntries result.entries).choosePrimary walk
      preSelected).backfillSource walk with
    | none =>
      rw [hnone] at heq
      have hsame := congrArg ChallengeReader.tickBuffer heq
      exact hsame.symm.trans hbuffer
    | some source => rw [hsource source hnone, hunread hstart]; rfl
  unfold ChallengeReader.adoptBackfill
  dsimp only
  rw [heq]
  refine ⟨⟨fun _ primary hprimary => ?_, fun _ hstart => hempty hstart, nofun, nofun, h.ids,
    hcursor⟩, fun hnone => ?_⟩
  · change tickBuffer = recording fmt (clientEvents fmt primary
      (upTo result.lastStreamId (streams r.stage r.stageAttempt)))
    rw [hread]
    refine hsource primary ?_
    unfold ChallengeReader.backfillSource
    rw [show ((r.countEntries result.entries).choosePrimary walk preSelected).primaryClientId =
      some primary from hprimary]
    rfl
  · have hselect : (r.countEntries result.entries).selectPrimaryClient walk 0 none = none := by
      cases preSelected with
      | none => exact hnone
      | some _ => cases hnone
    exact selectPrimaryClient_eq_none.1 hselect

lemma replayToSubscribers (h : Kept fmt streams r) (tick : ℕ) (reason : ResetReason) :
    Kept fmt streams ((r.trackPrimary tick).logApplied.replayToSubscribers reason) :=
  h.congr rfl rfl rfl rfl rfl rfl rfl rfl

lemma broadcast (h : Kept fmt streams r) : Kept fmt streams r.broadcast := by
  obtain ⟨hstate, hprimary, hbuffer, hcursor, hstage, hattempt, htx, hid, -⟩ := broadcast_fields r
  exact h.congr hstate hprimary hbuffer hcursor hstage hattempt htx hid

end Kept

/-! ### Runs -/

/-- What holds of a world in which no poll has chosen a primary late. -/
structure Faithful (fmt : EventFormat ε) (w : World) : Prop where
  kept : Kept fmt w.streams w.reader
  idle : w.reader.state = .active → w.reader.primaryClientId = none → Idle w.reader

namespace Faithful

variable {w : World}

lemma new (uuid : String) (state : ChallengeState) (clients : OrdMap ℕ ChallengeClient)
    (nextSubscriberId : SubscriberId) (tick : ℕ)
    (streams : ℤ → Option ℕ → List StageStreamEntry) (_hstreams : World.Ordered streams) :
    Faithful fmt ⟨.new uuid state clients, nextSubscriberId, tick, none, streams⟩ := by
  refine ⟨⟨nofun, nofun, nofun, fun _ _ => ⟨rfl, fun request hrequest _ => ?_⟩,
    fun request hrequest => ?_, Or.inl rfl⟩, nofun⟩
  · obtain rfl := List.mem_singleton.mp hrequest
    exact ⟨rfl, rfl⟩
  · obtain rfl := List.mem_singleton.mp hrequest
    exact le_rfl

lemma congr {w₁ : World} (h : Faithful fmt w) (hkept : Kept fmt w₁.streams w₁.reader)
    (hstate : w₁.reader.state = w.reader.state ∨ w₁.reader.state = .completed)
    (hprimary : w₁.reader.primaryClientId = w.reader.primaryClientId)
    (hclients : w₁.reader.clientStates = w.reader.clientStates) : Faithful fmt w₁ := by
  refine ⟨hkept, fun hactive hnone => ?_⟩
  unfold Idle
  rw [hclients]
  rcases hstate with heq | hcompleted
  · exact h.idle (heq.symm.trans hactive) (hprimary.symm.trans hnone)
  · cases hcompleted.symm.trans hactive

lemma update (h : Faithful fmt w) (update : ChallengeServerUpdate) :
    Faithful fmt (w.next fmt (.update update)) := by
  obtain ⟨hstate, hprimary, hclients⟩ := applyChallengeUpdate_fields w.reader update
  exact h.congr (h.kept.applyChallengeUpdate update) (hstate.imp_left And.left) hprimary hclients

lemma subscribe (h : Faithful fmt w) (skipped : ℕ) (requestedStage : Option ℤ) :
    Faithful fmt (w.next fmt (.subscribe skipped requestedStage)) := by
  obtain ⟨hstate, hprimary, hclients, -⟩ := addSubscriber_fields w.reader
    ⟨w.nextSubscriberId + skipped, requestedStage, .replaying⟩
  exact h.congr (h.kept.addSubscriber _) (Or.inl hstate) hprimary hclients

lemma backfill (h : Faithful fmt w) (hstreams : World.Ordered w.streams)
    {walk : Walk ℕ ClientState} {result : BackfillResult}
    (henabled : w.Enabled (.backfill walk result)) :
    Faithful fmt (w.next fmt (.backfill walk result)) := by
  obtain ⟨request, hrequest, hid, ⟨length, hentries⟩, hlast⟩ := henabled
  change Faithful fmt { w with reader := w.reader.applyBackfill walk fmt result w.tick }
  unfold ChallengeReader.applyBackfill
  split
  · rename_i preSelected hstate
    split
    · rename_i hcurrent
      obtain ⟨hbuffer, hown⟩ := h.kept.backfilling preSelected hstate
      obtain ⟨hstage, hattempt⟩ := hown request hrequest (hid.trans hcurrent)
      rw [hstage, hattempt] at hentries
      obtain ⟨hkept, hidle⟩ := h.kept.adoptBackfill hstreams walk preSelected hbuffer hentries
        hlast
      refine ⟨hkept.replayToSubscribers _ _, fun _ hnone => ?_⟩
      have hnone' : (w.reader.adoptBackfill walk fmt preSelected result).primaryClientId = none :=
        hnone
      have hclients : ((w.reader.adoptBackfill walk fmt preSelected result).trackPrimary
          w.tick).clientStates =
            (w.reader.adoptBackfill walk fmt preSelected result).clientStates := by
        unfold ChallengeReader.trackPrimary
        rw [hnone']
      intro id s hget
      refine hidle hnone' id s ?_
      rw [← hclients]
      exact hget
    · exact h
  · exact h

lemma processResponses (h : Faithful fmt w) (hstreams : World.Ordered w.streams)
    (hasked : World.Asked w) {walk : Walk ℕ ClientState} {responses : List RedisResponse}
    (henabled : w.Enabled (.answer walk responses))
    (hmeets : ChoosesInTime w (.answer walk responses))
    (hcompleted : w.reader.state ≠ .completed) :
    Kept fmt w.streams (w.reader.processResponses fmt responses w.tick) ∧
      InTime (w.reader.processResponses fmt responses w.tick) := by
  obtain ⟨hlate, hrevives⟩ := hmeets
  rcases hasked.answer_cases henabled hcompleted with
    rfl | ⟨-, state, clients, ⟨hclosed, rfl⟩ | ⟨hopen, length, rfl⟩⟩
  · exact ⟨h.kept, fun hactive hnone => Or.inl (h.idle hactive hnone)⟩
  · exact processResponses_closed h.kept hstreams hcompleted hclosed _ _ w.tick hlate hrevives
  · exact processResponses_open h.kept hstreams hcompleted hopen _ _ rfl w.tick hlate hrevives

lemma broadcast (h : Faithful fmt w) : Faithful fmt (w.next fmt .broadcast) := by
  obtain ⟨hstate, hprimary, -, -, -, -, -, -, hclients⟩ := broadcast_fields w.reader
  exact h.congr h.kept.broadcast (Or.inl hstate) hprimary hclients

lemma answer (h : Faithful fmt w) (hstreams : World.Ordered w.streams)
    (hasked : World.Asked w) {walk : Walk ℕ ClientState} {responses : List RedisResponse}
    (henabled : w.Enabled (.answer walk responses))
    (hmeets : ChoosesInTime w (.answer walk responses)) :
    Faithful fmt (w.next fmt (.answer walk responses)) := by
  refine broadcast (w := { w with
    reader := w.reader.applyPollResponses walk fmt responses w.tick, queries := none }) ?_
  by_cases hcompleted : w.reader.state = .completed
  · rw [ChallengeReader.applyPollResponses, if_pos hcompleted]
    exact ⟨h.kept, h.idle⟩
  · rw [ChallengeReader.applyPollResponses, if_neg hcompleted]
    obtain ⟨hkept, hlate⟩ := h.processResponses hstreams hasked henabled hmeets hcompleted
    obtain ⟨hkept, hidle⟩ := hkept.updatePrimary hstreams hlate walk w.tick
    exact ⟨hkept, hidle⟩

lemma step (w : World) (act : Act) (hw : World.Reachable fmt ChoosesInTime w)
    (h : Faithful fmt w) (henabled : w.Enabled act) (hmeets : ChoosesInTime w act) :
    Faithful fmt (w.next fmt act) := by
  cases act with
  | append stage attempt entry => exact ⟨h.kept.append henabled.1 henabled.2, h.idle⟩
  | prepare => exact ⟨h.kept, h.idle⟩
  | answer walk responses => exact h.answer hw.ordered hw.asked henabled hmeets
  | broadcast => exact h.broadcast
  | update update => exact h.update update
  | subscribe skipped requestedStage => exact h.subscribe skipped requestedStage
  | unsubscribe id =>
    exact h.congr (h.kept.congr rfl rfl rfl rfl rfl rfl rfl rfl) (Or.inl rfl) rfl rfl
  | backfill walk result => exact h.backfill hw.ordered henabled
  | shutdown retryWindowSecs =>
    exact h.congr (h.kept.congr rfl rfl rfl rfl rfl rfl rfl rfl) (Or.inl rfl) rfl rfl

end Faithful

/-- **The live buffer is the primary's recording**: in every world that is reached without
choosing a primary late, the buffer of an active reader that has a primary is the recording of
that client's events in the stage stream up to the cursor. -/
theorem buffer_is_recording {w : World} (hw : World.Reachable fmt ChoosesInTime w) :
    Recorded fmt w.streams w.reader :=
  (hw.invariant Faithful.new Faithful.step).kept.recorded

/-- A backfill that finds an active client and its first event. -/
def readWorld : World :=
  ((newWorld (firstClient true .started) 0).next byteFormat (.append 10 none firstEntry)).next
    byteFormat (.backfill byKey ⟨1, [firstEntry], toLex (1, 0)⟩)

theorem readWorld_is_recording :
    readWorld.reader.state = .active ∧ readWorld.reader.primaryClientId = some 1 ∧
      readWorld.reader.tickBuffer = [⟨0, [0]⟩] ∧
      Recorded byteFormat readWorld.streams readWorld.reader := by
  refine ⟨rfl, rfl, rfl, buffer_is_recording (.step (.step (newWorld_reachable _ _ _)
    (firstEntry_enabled rfl) trivial) ⟨_, List.mem_singleton.mpr rfl, rfl, ⟨1, rfl⟩, rfl⟩ trivial)⟩

/-- A backfill that finds no active client and nothing recorded, after which the client becomes
active and its first event is polled. -/
def lateWorld : World :=
  ((((newWorld (firstClient false .started) 0).next byteFormat
    (.backfill byKey ⟨1, [], streamStartCursor⟩)).next byteFormat
      (.append 10 none firstEntry)).next byteFormat .prepare).next byteFormat
      (.answer byKey [.challengeState (some ⟨1, 11, 10, none, []⟩),
        .challengeClients ((∅ : OrdMap ℕ ChallengeClient).insert 1 (firstClient true .started)),
        .stageStream [firstEntry]])

/-- The poll that chooses the client as primary has moved the cursor past its first event, which
is not in the buffer. -/
theorem late_primary_misses_event :
    World.Reachable byteFormat (fun _ _ => True) lateWorld ∧
      ¬ Recorded byteFormat lateWorld.streams lateWorld.reader := by
  refine ⟨?_, fun h => ?_⟩
  · refine .step (.step (.step (.step (newWorld_reachable _ _ _)
      ⟨_, List.mem_singleton.mpr rfl, rfl, ⟨0, rfl⟩, rfl⟩ trivial)
      (firstEntry_enabled rfl) trivial) rfl trivial) ⟨_, rfl, Or.inr ?_⟩ trivial
    exact .cons (.challengeState _ _) (.cons (.challengeClients _ _)
      (.cons (.stageStream _ _ _ _ 1) .nil))
  · have hbuffer := h rfl 1 rfl
    revert hbuffer
    decide

end Blert.Live

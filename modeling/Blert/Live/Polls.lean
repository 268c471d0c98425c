import Blert.Live.World

/-!
What a reader asks for, and what its polls report.

A reader that waits for a backfill asks for nothing. Otherwise it asks for the challenge and its
clients, and for the stage's stream while the stage is open.
-/

namespace Blert.Live

variable {ε : Type}

lemma finishChallenge_fields (r : ChallengeReader) : r.finishChallenge.state = .completed ∧
    r.finishChallenge.primaryClientId = r.primaryClientId ∧
    r.finishChallenge.clientStates = r.clientStates := by
  unfold ChallengeReader.finishChallenge
  split_ifs with hcompleted
  · exact ⟨hcompleted, rfl, rfl⟩
  · unfold ChallengeReader.finishOpenStage
    split_ifs <;> exact ⟨rfl, rfl, rfl⟩

lemma applyChallengeUpdate_fields (r : ChallengeReader) (update : ChallengeServerUpdate) :
    ((r.applyChallengeUpdate update).state = r.state ∧
        (r.applyChallengeUpdate update).pollQueries = r.pollQueries ∨
      (r.applyChallengeUpdate update).state = .completed) ∧
      (r.applyChallengeUpdate update).primaryClientId = r.primaryClientId ∧
      (r.applyChallengeUpdate update).clientStates = r.clientStates := by
  unfold ChallengeReader.applyChallengeUpdate
  split
  · split_ifs with hends
    · refine ⟨Or.inl ⟨rfl, ?_⟩, rfl, rfl⟩
      unfold ChallengeReader.pollQueries
      rw [hends.1]
      rfl
    · exact ⟨Or.inl ⟨rfl, rfl⟩, rfl, rfl⟩
  · obtain ⟨hcompleted, hprimary, hclients⟩ := finishChallenge_fields r
    exact ⟨Or.inr hcompleted, hprimary, hclients⟩

lemma addSubscriber_fields (r : ChallengeReader) (subscriber : Subscriber) :
    (r.addSubscriber subscriber).state = r.state ∧
      (r.addSubscriber subscriber).primaryClientId = r.primaryClientId ∧
      (r.addSubscriber subscriber).clientStates = r.clientStates ∧
      (r.addSubscriber subscriber).pollQueries = r.pollQueries := by
  unfold ChallengeReader.addSubscriber
  dsimp only
  split <;> exact ⟨rfl, rfl, rfl, rfl⟩

lemma pollQueries_eq {r : ChallengeReader} (h : r.pollQueries ≠ []) :
    (∀ primary, r.state ≠ .backfilling primary) ∧ r.pollQueries =
      [.challengeState r.uuid, .challengeClients r.uuid] ++
        if r.stageState.isOpen then
          [.stageStream r.uuid r.stage r.stageAttempt r.pollCursor]
        else [] := by
  unfold ChallengeReader.pollQueries at h ⊢
  cases hstate : r.state with
  | backfilling primary =>
    rw [hstate] at h
    exact absurd rfl h
  | completed =>
    rw [hstate] at h
    exact absurd rfl h
  | active => exact ⟨nofun, rfl⟩
  | stalled reason since => exact ⟨nofun, rfl⟩

namespace World

/-- Queries that are open are those the reader would ask now, unless it is completed. -/
def Asked (w : World) : Prop :=
  ∀ queries, w.queries = some queries → w.reader.state = .completed ∨ queries = [] ∨
    queries = w.reader.pollQueries

variable {fmt : EventFormat ε} {Meets : World → Act → Prop} {w : World}

lemma Asked.update (h : Asked w) (update : ChallengeServerUpdate) :
    Asked (w.next fmt (.update update)) := by
  intro queries hq
  rcases (applyChallengeUpdate_fields w.reader update).1 with ⟨hstate, hqueries⟩ | hcompleted
  · refine (h queries hq).imp (fun hcompleted => hstate.trans hcompleted) (Or.imp_right ?_)
    exact fun hasked => hasked.trans hqueries.symm
  · exact Or.inl hcompleted

lemma Asked.subscribe (h : Asked w) (skipped : ℕ) (requestedStage : Option ℤ) :
    Asked (w.next fmt (.subscribe skipped requestedStage)) := by
  obtain ⟨hstate, -, -, hqueries⟩ := addSubscriber_fields w.reader
    ⟨w.nextSubscriberId + skipped, requestedStage, .replaying⟩
  intro queries hq
  refine (h queries hq).imp (fun hcompleted => hstate.trans hcompleted) (Or.imp_right ?_)
  exact fun hasked => hasked.trans hqueries.symm

lemma Asked.backfill (h : Asked w) (walk : Walk ℕ ClientState) (result : BackfillResult) :
    Asked (w.next fmt (.backfill walk result)) := by
  intro queries hq
  change (w.reader.applyBackfill walk fmt result w.tick).state = _ ∨ _ ∨
    queries = (w.reader.applyBackfill walk fmt result w.tick).pollQueries
  unfold ChallengeReader.applyBackfill
  split
  · rename_i primary hstate
    split
    · refine Or.inr (Or.inl ?_)
      rcases h queries hq with hcompleted | hnil | hasked
      · cases hstate.symm.trans hcompleted
      · exact hnil
      · rw [hasked, ChallengeReader.pollQueries, hstate]
    · exact h queries hq
  · exact h queries hq

lemma Reachable.asked (hw : Reachable fmt Meets w) : Asked w := by
  refine hw.invariant (fun _ _ _ _ _ _ _ => nofun) fun w act _ h henabled _ => ?_
  cases act with
  | append stage attempt entry => exact h
  | prepare => exact fun _ hq => Or.inr (Or.inr (Option.some.inj hq).symm)
  | answer walk responses => exact nofun
  | broadcast =>
    intro queries hq
    have hnone : w.queries = none := henabled
    cases hnone.symm.trans hq
  | update update => exact h.update update
  | subscribe skipped requestedStage => exact h.subscribe skipped requestedStage
  | unsubscribe id => exact h
  | backfill walk result => exact h.backfill walk result
  | shutdown retryWindowSecs => exact h

lemma Reachable.ordered (hw : Reachable fmt Meets w) : Ordered w.streams := by
  refine hw.invariant (I := fun w => Ordered w.streams) (fun _ _ _ _ _ _ h => h)
    fun w act _ h henabled _ => ?_
  cases act with
  | append stage attempt entry => exact h.append henabled.1 henabled.2
  | _ => exact h

/-- What a reader that is not completed gets from a poll. A reader that waits for a backfill gets
nothing. -/
lemma Asked.answer_cases (h : Asked w) {walk : Walk ℕ ClientState}
    {responses : List RedisResponse} (henabled : w.Enabled (.answer walk responses))
    (hcompleted : w.reader.state ≠ .completed) :
    responses = [] ∨ (∀ primary, w.reader.state ≠ .backfilling primary) ∧
      ∃ state clients,
        ¬ w.reader.stageState.isOpen ∧
          responses = [.challengeState state, .challengeClients clients] ∨
        w.reader.stageState.isOpen ∧ ∃ length,
          responses = [.challengeState state, .challengeClients clients,
            .stageStream (((w.streams w.reader.stage w.reader.stageAttempt).take length).filter
              (w.reader.pollCursor < ·.id))] := by
  obtain ⟨queries, hqueries, hanswers⟩ := henabled
  rcases hanswers with rfl | hanswers
  · exact Or.inl rfl
  rcases (h queries hqueries).resolve_left hcompleted with rfl | rfl
  · cases hanswers
    exact Or.inl rfl
  by_cases hnil : w.reader.pollQueries = []
  · rw [hnil] at hanswers
    cases hanswers
    exact Or.inl rfl
  obtain ⟨hbackfilling, heq⟩ := pollQueries_eq hnil
  rw [heq, List.cons_append, List.cons_append, List.nil_append] at hanswers
  cases hanswers with
  | cons hstate hanswers =>
  cases hstate with
  | challengeState _ state =>
  cases hanswers with
  | cons hclients hanswers =>
  cases hclients with
  | challengeClients _ clients =>
  refine Or.inr ⟨hbackfilling, state, clients, ?_⟩
  split_ifs at hanswers with hopen
  · cases hanswers with
    | cons hstream hanswers =>
    cases hstream with
    | stageStream _ _ _ _ length =>
    cases hanswers
    exact Or.inr ⟨hopen, length, rfl⟩
  · cases hanswers
    exact Or.inl ⟨hopen, rfl⟩

end World

/-! ### Reports -/

section Reports

variable {r : ChallengeReader}

def reported (tick : ℕ) (state : Option ChallengeState) (clients : OrdMap ℕ ChallengeClient)
    (r : ChallengeReader) : ChallengeReader :=
  ((ChallengeReader.applyResponse tick (r, none) (.challengeState state)).1).processClients
    clients tick

lemma reported_induction {P : ChallengeReader → Prop} {tick : ℕ} {state : Option ChallengeState}
    {clients : OrdMap ℕ ChallengeClient} (hfinish : ∀ r, P r → P r.finishChallenge)
    (hbegin : ∀ r stage attempt, P r → P (r.beginStage tick stage attempt))
    (hstall : ∀ r reason, P r → P (r.stall reason tick))
    (hsync : ∀ r, P r → P (r.syncClients clients))
    (hending : ∀ r, P r → P { r with stageState := .ending }) (h : P r) :
    P (reported tick state clients r) := by
  have hassess : ∀ r, P r → P (r.assessClients clients tick) := by
    intro r h
    unfold ChallengeReader.assessClients
    split_ifs
    · exact hstall r _ h
    · exact hending r h
    · exact hstall r _ h
    · exact h
  have hprocess : ∀ r, P r → P (r.processClients clients tick) := by
    intro r h
    unfold ChallengeReader.processClients
    dsimp only
    split_ifs
    · exact hassess _ (hsync r h)
    · exact hassess _ (hbegin _ _ _ (hsync r h))
    · exact hsync r h
  refine hprocess _ ?_
  unfold ChallengeReader.applyResponse
  cases state with
  | none => exact hfinish r h
  | some state =>
    dsimp only
    split_ifs
    · exact hbegin r _ _ h
    · exact h

lemma applyResponse_challengeState (tick : ℕ) (r : ChallengeReader)
    (state : Option ChallengeState) :
    ChallengeReader.applyResponse tick (r, none) (.challengeState state) =
      ((ChallengeReader.applyResponse tick (r, none) (.challengeState state)).1, none) := by
  cases state with
  | none => rfl
  | some state =>
    rw [ChallengeReader.applyResponse]
    split_ifs <;> rfl

lemma processResponses_pair (fmt : EventFormat ε) (state : Option ChallengeState)
    (clients : OrdMap ℕ ChallengeClient) (tick : ℕ) (r : ChallengeReader) :
    r.processResponses fmt [.challengeState state, .challengeClients clients] tick =
      reported tick state clients r := by
  unfold ChallengeReader.processResponses
  rw [List.foldl_cons, applyResponse_challengeState]
  rfl

lemma processResponses_triple (fmt : EventFormat ε) (state : Option ChallengeState)
    (clients : OrdMap ℕ ChallengeClient) (entries : List StageStreamEntry) (tick : ℕ)
    (r : ChallengeReader) :
    r.processResponses fmt [.challengeState state, .challengeClients clients,
        .stageStream entries] tick =
      if (reported tick state clients r).receives ∧
          (reported tick state clients r).stage = r.stage ∧
          (reported tick state clients r).stageAttempt = r.stageAttempt then
        (reported tick state clients r).processStreamEntries fmt entries tick
      else reported tick state clients r := by
  unfold ChallengeReader.processResponses
  rw [List.foldl_cons, applyResponse_challengeState]
  rfl

lemma broadcast_fields (r : ChallengeReader) :
    r.broadcast.state = r.state ∧ r.broadcast.primaryClientId = r.primaryClientId ∧
      r.broadcast.tickBuffer = r.tickBuffer ∧ r.broadcast.pollCursor = r.pollCursor ∧
      r.broadcast.stage = r.stage ∧ r.broadcast.stageAttempt = r.stageAttempt ∧
      r.broadcast.backfillTx = r.backfillTx ∧ r.broadcast.backfillId = r.backfillId ∧
      r.broadcast.clientStates = r.clientStates := by
  unfold ChallengeReader.broadcast
  dsimp only
  split_ifs
  · exact ⟨rfl, rfl, rfl, rfl, rfl, rfl, rfl, rfl, rfl⟩
  · exact ⟨rfl, rfl, rfl, rfl, rfl, rfl, rfl, rfl, rfl⟩
  · split
    · exact ⟨rfl, rfl, rfl, rfl, rfl, rfl, rfl, rfl, rfl⟩
    · unfold ChallengeReader.finishDrained
      split_ifs <;> exact ⟨rfl, rfl, rfl, rfl, rfl, rfl, rfl, rfl, rfl⟩

end Reports

end Blert.Live

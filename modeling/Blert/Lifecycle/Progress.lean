import Blert.Lifecycle.Sealing

/-!
A challenge does not go back.

The stage attempt a challenge is on only moves forward, and no client on its stage is ahead of it.
A client may be on a later stage already; it is then on no later attempt than the stage will
start with. Reports can break this: one that carries the attempt of a stage the client left over
to another, and a start of a stage that the pipeline found not to have been started, which begins
its attempts anew.
-/

namespace Blert.Lifecycle

variable {config : LifecycleConfig} {uuid : Uuid}

/-- The order of stage attempts, as the code compares them. -/
def pairLe (st : Stage) (a : Option ℕ) (st' : Stage) (a' : Option ℕ) : Bool :=
  st < st' || (st = st' && attemptLe a a')

/-- A client at a stage attempt is in pace with a challenge at another: not past it, or on a later
stage at which it is not past the first attempt. -/
def inPace (stage : Stage) (attempt : Option ℕ) (st : Stage) (a : Option ℕ) : Bool :=
  pairLe st a stage attempt || (stage < st && attemptLe a st.firstAttempt)

/-! ### Attempts in order -/

lemma attemptLe_refl (a : Option ℕ) : attemptLe a a = true := by
  cases a with
  | none => rfl
  | some a => exact decide_eq_true (le_refl a)

lemma attemptLe_trans {a b c : Option ℕ} (hab : attemptLe a b = true)
    (hbc : attemptLe b c = true) : attemptLe a c = true := by
  cases a with
  | none => rfl
  | some a =>
    cases b with
    | none => cases hab
    | some b =>
      cases c with
      | none => cases hbc
      | some c => exact decide_eq_true ((of_decide_eq_true hab).trans (of_decide_eq_true hbc))

lemma stagePair_le_iff {st st' : Stage} {a a' : Option ℕ} :
    stagePair st a ≤ stagePair st' a' ↔ st < st' ∨ (st = st' ∧ attemptLe a a' = true) := by
  refine Prod.Lex.toLex_le_toLex.trans (or_congr_right (and_congr_right fun _ => ?_))
  cases a with
  | none => exact ⟨fun _ => rfl, fun _ => (bot_le : (⊥ : WithBot ℕ) ≤ _)⟩
  | some a =>
    cases a' with
    | none => exact ⟨fun h => absurd h (WithBot.not_coe_le_bot a), fun h => (by cases h)⟩
    | some b => exact WithBot.coe_le_coe.trans decide_eq_true_iff.symm

lemma pairLe_iff {st st' : Stage} {a a' : Option ℕ} :
    pairLe st a st' a' = true ↔ stagePair st a ≤ stagePair st' a' := by
  unfold pairLe
  rw [stagePair_le_iff]
  simp

lemma pairLe_refl (st : Stage) (a : Option ℕ) : pairLe st a st a = true :=
  pairLe_iff.2 (le_refl _)

lemma inPace_self (st : Stage) (a : Option ℕ) : inPace st a st a = true := by
  unfold inPace
  rw [pairLe_refl, Bool.true_or]

lemma inPace_iff {stage st : Stage} {attempt a : Option ℕ} : inPace stage attempt st a = true ↔
    stagePair st a ≤ stagePair stage attempt ∨ (stage < st ∧ attemptLe a st.firstAttempt = true) := by
  unfold inPace
  rw [Bool.or_eq_true, pairLe_iff]
  simp

lemma attempt_le_of_inPace {stage : Stage} {attempt a : Option ℕ}
    (h : inPace stage attempt stage a = true) : attemptLe a attempt = true := by
  rcases inPace_iff.1 h with h | ⟨h, -⟩
  · rcases stagePair_le_iff.1 h with h | ⟨-, h⟩
    · exact absurd h (lt_irrefl _)
    · exact h
  · exact absurd h (lt_irrefl _)

/-- A challenge that moves on, to a later stage not before its first attempt, leaves a client in
pace. -/
lemma inPace_forward {stage stage' st : Stage} {attempt attempt' a : Option ℕ}
    (hle : stagePair stage attempt ≤ stagePair stage' attempt')
    (hfirst : stage < stage' → attemptLe stage'.firstAttempt attempt' = true)
    (h : inPace stage attempt st a = true) : inPace stage' attempt' st a = true := by
  rw [inPace_iff] at h ⊢
  rcases h with h | ⟨hlt, ha⟩
  · exact Or.inl (h.trans hle)
  · rcases lt_trichotomy stage' st with h' | rfl | h'
    · exact Or.inr ⟨h', ha⟩
    · exact Or.inl (stagePair_le_iff.2 (Or.inr ⟨rfl, attemptLe_trans ha (hfirst hlt)⟩))
    · exact Or.inl (stagePair_lt_of_stage h' _ _).le

/-! ### Inputs that go wrong -/

/-- An input that takes the challenge back, or a client past it. Three kinds do: another creation
of a challenge that has no type, a start of the current stage while it counts as not started on a
later attempt than its first, and any other report with which a client takes along an attempt
that the reported stage cannot be on yet. -/
def regresses (s : ChallengeState) (cmd : Command) : Bool :=
  match cmd with
  | .create c =>
    !s.terminated && s.challengeType = .unknownChallenge &&
      !(pairLe s.stage s.stageAttempt c.stage none &&
        s.clients.values.all fun client => inPace c.stage none client.stage client.stageAttempt)
  | .update u =>
    match u.stage, s.clients.get u.clientId with
    | some progress, some client =>
      !s.terminated && s.stage ≤ progress.stage &&
        if progress.status = .started then
          progress.stage = s.stage && s.stageStatus = .entered &&
            !attemptLe s.stageAttempt s.stage.firstAttempt
        else !inPace s.stage s.stageAttempt progress.stage client.stageAttempt
    | _, _ => false
  | _ => false

/-! ### Events that keep pace -/

/-- The event takes the challenge forward, if anywhere, and leaves every client in pace. -/
def KeepsPace (s : ChallengeState) : LifecycleEvent → Prop
  | .challengeCreated _ _ _ _ _ stage => s.pair ≤ stagePair stage none ∧
    ∀ client ∈ s.clients.values, inPace stage none client.stage client.stageAttempt = true
  | .stageStarted stage => s.pair ≤ stagePair stage stage.firstAttempt
  | .stageAttemptStarted stage attempt =>
    stage = s.stage ∧ ∃ a, s.stageAttempt = some a ∧ attempt = a + 1
  | .clientStageReported _ attempt update =>
    inPace s.stage s.stageAttempt update.stage attempt = true
  | _ => True

/-- Every client is in pace with the challenge. -/
def InPace (s : ChallengeState) : Prop :=
  ∀ client ∈ s.clients.values, inPace s.stage s.stageAttempt client.stage client.stageAttempt = true

section Step

variable {s : ChallengeState} {e : JournalEntry}

lemma pair_step (h : KeepsPace s e.event) : s.pair ≤ (apply s e).pair := by
  unfold ChallengeState.pair
  rw [apply_stage, apply_stageAttempt]
  cases he : e.event with
  | challengeCreated u session type mode party stage => rw [he] at h; exact h.1
  | stageStarted stage => rw [he] at h; exact h
  | stageAttemptStarted stage attempt =>
    rw [he] at h
    obtain ⟨rfl, a, ha, rfl⟩ := h
    rw [ha]
    exact (stagePair_succ _ _).le
  | _ => exact le_refl _

lemma inPace_modify {f : ClientState → ClientState} {id : ClientId} {client : ClientState}
    {stage : Stage} {attempt : Option ℕ}
    (h : ∀ c ∈ s.clients.values, inPace stage attempt c.stage c.stageAttempt = true)
    (hf : ∀ c ∈ s.clients.values, inPace stage attempt (f c).stage (f c).stageAttempt = true)
    (hc : client ∈ (s.clients.modify id f).values) :
    inPace stage attempt client.stage client.stageAttempt = true := by
  obtain ⟨k, hk⟩ := OrdMap.mem_values.mp hc
  rw [OrdMap.get_modify] at hk
  split_ifs at hk
  · obtain ⟨c, hget, rfl⟩ := Option.map_eq_some_iff.mp hk
    exact hf c (OrdMap.mem_values.mpr ⟨_, hget⟩)
  · exact h client (OrdMap.mem_values.mpr ⟨k, hk⟩)

lemma inPace_step (h : KeepsPace s e.event) (hp : InPace s) : InPace (apply s e) := by
  intro client hc
  rw [apply_clients] at hc
  rw [apply_stage, apply_stageAttempt]
  have hmem : ∀ {k : ClientId} {c : ClientState}, s.clients.get k = some c →
      inPace s.stage s.stageAttempt c.stage c.stageAttempt = true :=
    fun hget => hp _ (OrdMap.mem_values.mpr ⟨_, hget⟩)
  cases he : e.event with
  | challengeCreated u session type mode party stage =>
    rw [he] at h hc
    exact h.2 client hc
  | stageStarted stage =>
    rw [he] at h hc
    exact inPace_forward h (fun _ => attemptLe_refl _) (hp client hc)
  | stageAttemptStarted stage attempt =>
    rw [he] at h hc
    obtain ⟨rfl, a, ha, rfl⟩ := h
    refine inPace_forward ?_ (fun hlt => absurd hlt (lt_irrefl _)) (hp client hc)
    rw [ha]
    exact (stagePair_succ _ _).le
  | clientStageReported id attempt update =>
    rw [he] at h hc
    refine inPace_modify hp ?_ hc
    exact fun _ _ => h
  | clientJoined id user token r =>
    rw [he] at hc
    obtain ⟨k, hk⟩ := OrdMap.mem_values.mp hc
    have hk' := hk
    unfold clientsAfter at hk'
    rw [OrdMap.get_insert] at hk'
    split_ifs at hk'
    · cases hk'
      exact inPace_self _ _
    · exact hmem hk'
  | clientRejoined id token =>
    rw [he] at hc
    exact inPace_modify hp (fun _ _ => inPace_self _ _) hc
  | clientActivated id | clientIdled id =>
    rw [he] at hc
    refine inPace_modify hp ?_ hc
    exact fun c hc' => hp c hc'
  | clientFinished id _ _ _ | clientRemoved id =>
    rw [he] at hc
    obtain ⟨k, hk⟩ := OrdMap.mem_values.mp hc
    have hk' := hk
    unfold clientsAfter at hk'
    rw [OrdMap.get_erase] at hk'
    split_ifs at hk'
    exact hmem hk'
  | _ =>
    rw [he] at hc
    exact hp client hc

end Step

/-! ### Batches that keep pace -/

/-- An event that neither opens a stage attempt nor reports on one. -/
def LifecycleEvent.isPlain : LifecycleEvent → Bool
  | .challengeCreated _ _ _ _ _ _ | .stageStarted _ | .stageAttemptStarted _ _
  | .clientStageReported _ _ _ => false
  | _ => true

/-- An event that keeps pace whatever happens before it, as long as nothing is opened. -/
def Steady (s : ChallengeState) (e : LifecycleEvent) : Prop :=
  e.isOpening = false ∧ KeepsPace s e

lemma steady_of_plain {s : ChallengeState} {e : LifecycleEvent} (h : e.isPlain = true) :
    Steady s e := by
  cases e <;> first | exact ⟨rfl, trivial⟩ | cases h

def PaceStep (a : Actor) (e : JournalEntry) : Prop := KeepsPace a.state e.event

section Licensed

variable {a : Actor} {t : Timestamp} {c : Cause} {s : ChallengeState}
  {xs ys : List LifecycleEvent}

lemma licensed_steady (hx : ∀ e ∈ xs, Steady s e)
    (hpair : a.state.stage = s.stage ∧ a.state.stageAttempt = s.stageAttempt)
    (hy : ∀ (b : Actor) (n : JournalSeq), b.state.stage = s.stage ∧
      b.state.stageAttempt = s.stageAttempt →
      (machine config).Licensed PaceStep b (stamp n t c ys)) (n : JournalSeq) :
    (machine config).Licensed PaceStep a (stamp n t c (xs ++ ys)) := by
  induction xs generalizing a n with
  | nil => exact hy a n hpair
  | cons e es ih =>
    obtain ⟨ho, hk⟩ := hx e List.mem_cons_self
    refine ⟨?_, ih (fun f hf => hx f (List.mem_cons_of_mem _ hf)) ?_ _⟩
    · show KeepsPace a.state e
      cases e with
      | clientStageReported id attempt update =>
        show inPace a.state.stage a.state.stageAttempt update.stage attempt = true
        rw [hpair.1, hpair.2]
        exact hk
      | _ => first | exact hk | cases ho
    · have hp := pair_apply (s := a.state) (e := ⟨n, t, c, e⟩) ho
      exact ⟨hp.1.trans hpair.1, hp.2.trans hpair.2⟩

lemma licensed_all_steady (hx : ∀ e ∈ xs, Steady a.state e) (n : JournalSeq) :
    (machine config).Licensed PaceStep a (stamp n t c xs) := by
  have h := @licensed_steady config a t c a.state xs [] hx ⟨rfl, rfl⟩ (fun _ _ _ => trivial) n
  rwa [List.append_nil] at h

lemma licensed_open {o r : LifecycleEvent} (n : JournalSeq) (ho : KeepsPace a.state o)
    (hr : KeepsPace (apply a.state ⟨n, t, c, o⟩) r) :
    (machine config).Licensed PaceStep a (stamp n t c [o, r]) := ⟨ho, hr, trivial⟩

end Licensed

lemma plain_decide {s : ChallengeState} {cmd : Command}
    (hc : ∀ c, cmd ≠ .create c) (hu : ∀ u, cmd ≠ .update u) :
    ∀ e ∈ decide s config cmd, e.isPlain = true := by
  have hfired : ∀ d, ∀ e ∈ deadlineFired s config d, e.isPlain = true := by
    intro d e he
    by_cases hn : nextDeadline s config = some d
    · have hf := (deadlineFired_work hn).1 e he
      cases e <;> first | rfl | cases hf
    · simp [deadlineFired, hn] at he
  have hproc : ∀ r, ∀ e ∈ processed s r, e.isPlain = true := by
    intro r e he
    unfold processed at he
    grind [LifecycleEvent.isPlain]
  intro e he
  unfold decide at he
  split_ifs at he with ht
  · split at he
    · exact hproc _ e he
    · exact hfired _ e he
    · cases he
  · cases cmd with
    | create c => exact absurd rfl (hc c)
    | update u => exact absurd rfl (hu u)
    | deadlineFired d => exact hfired d e he
    | processed r => exact hproc r e he
    | join j =>
      dsimp only [join] at he
      grind [LifecycleEvent.isPlain]
    | finish f =>
      dsimp only [finish] at he
      grind [LifecycleEvent.isPlain, sealOpenStage]
    | clientStatus c =>
      dsimp only [clientStatus] at he
      grind [LifecycleEvent.isPlain]
    | clientMovedOn m =>
      dsimp only [clientMovedOn] at he
      grind [LifecycleEvent.isPlain]

section Update

variable {a : Actor} {t : Timestamp} {c : Cause} {u : Update} {client : ClientState}
  {progress : StageProgress} {xs : List LifecycleEvent}

lemma steady_modeParty (s : ChallengeState) (u : Update) :
    ∀ e ∈ modeEvents s u ++ partyEvents s u, Steady s e := by
  intro e he
  refine steady_of_plain ?_
  rcases List.mem_append.mp he with he | he
  · unfold modeEvents at he
    grind [LifecycleEvent.isPlain]
  · unfold partyEvents at he
    grind [LifecycleEvent.isPlain]

lemma steady_reportFinished {s : ChallengeState} {id : ClientId}
    (hp : inPace s.stage s.stageAttempt progress.stage client.stageAttempt = true) :
    ∀ e ∈ reportFinished s id client progress, Steady s e := by
  intro e he
  unfold reportFinished at he
  rcases List.mem_cons.mp he with rfl | he
  · exact ⟨rfl, hp⟩
  · split_ifs at he
    · rw [List.mem_singleton.mp he]
      exact steady_of_plain rfl
    · cases he

lemma steady_seal {s : ChallengeState} {p : Prop} [Decidable p] {stage : Stage}
    {attempt : Option ℕ} {forced : Bool} (hx : ∀ e ∈ xs, Steady s e) :
    ∀ e ∈ xs ++ (if p then [LifecycleEvent.stageSealed stage attempt forced] else []),
      Steady s e := by
  intro e he
  rcases List.mem_append.mp he with he | he
  · exact hx e he
  · split_ifs at he
    · rw [List.mem_singleton.mp he]
      exact steady_of_plain rfl
    · cases he

lemma licensed_reportStarted (hx : ∀ e ∈ xs, Steady a.state e)
    (hle : a.state.stage ≤ progress.stage)
    (hfirst : progress.stage = a.state.stage → a.state.stageStatus = .entered →
      attemptLe a.state.stageAttempt a.state.stage.firstAttempt = true) (n : JournalSeq) :
    (machine config).Licensed PaceStep a
      (stamp n t c (xs ++ reportStarted a.state u.clientId client progress)) := by
  unfold reportStarted
  by_cases h1 : progress.stage ≠ a.state.stage ∨ a.state.stageStatus = .entered
  · rw [if_pos h1, ← List.append_assoc]
    refine licensed_steady (steady_seal hx) ⟨rfl, rfl⟩ (fun b m hb => ?_) n
    refine licensed_open m ?_ ?_
    · show stagePair b.state.stage b.state.stageAttempt ≤ _
      rw [hb.1, hb.2, stagePair_le_iff]
      rcases lt_or_eq_of_le hle with hlt | heq
      · exact Or.inl hlt
      · have hent : a.state.stageStatus = .entered := by simpa [heq] using h1
        rw [← heq]
        exact Or.inr ⟨rfl, hfirst heq.symm hent⟩
    · show inPace (apply b.state _).stage (apply b.state _).stageAttempt _ _ = true
      rw [apply_stage, apply_stageAttempt]
      exact inPace_self _ _
  · have heq : progress.stage = a.state.stage := by
      by_contra hne
      exact h1 (Or.inl hne)
    have hsync : ∀ e ∈ xs ++ [LifecycleEvent.clientStageReported u.clientId a.state.stageAttempt
        progress], Steady a.state e := by
      intro e he
      rcases List.mem_append.mp he with he | he
      · exact hx e he
      · rw [List.mem_singleton.mp he]
        refine ⟨rfl, ?_⟩
        show inPace _ _ progress.stage _ = true
        rw [heq]
        exact inPace_self _ _
    rw [if_neg h1]
    split
    · rename_i attempt hatt
      rw [← hatt]
      by_cases h2 : client.stage = a.state.stage ∧ client.stageAttempt = a.state.stageAttempt
      · rw [if_pos h2, ← List.append_assoc]
        refine licensed_steady (steady_seal hx) ⟨rfl, rfl⟩ (fun b m hb => ?_) n
        refine licensed_open m ⟨hb.1.symm, attempt, hb.2.trans hatt, rfl⟩ ?_
        show inPace (apply b.state _).stage (apply b.state _).stageAttempt progress.stage _ = true
        rw [apply_stage, apply_stageAttempt, heq, ← hb.1]
        exact inPace_self _ _
      · rw [if_neg h2]
        exact licensed_all_steady hsync n
    · exact licensed_all_steady hsync n

lemma licensed_update (ht : a.state.terminated = false)
    (h : regresses a.state (.update u) = false) (n : JournalSeq) :
    (machine config).Licensed PaceStep a (stamp n t c (update a.state u)) := by
  unfold update
  cases hu : u.stage with
  | none => exact licensed_all_steady (steady_modeParty _ _) n
  | some progress =>
    dsimp only
    split
    · trivial
    · rename_i client hc
      split_ifs with hlt
      · trivial
      · have hle := not_lt.mp hlt
        simp only [regresses, hu, hc, ht, hle, Bool.not_false, decide_true, Bool.true_and] at h
        have hreport : progress.status ≠ .started →
            inPace a.state.stage a.state.stageAttempt progress.stage client.stageAttempt = true := by
          intro hne
          rw [if_neg hne] at h
          simpa using h
        split
        · rename_i hst
          refine licensed_all_steady (fun e he => ?_) n
          rcases List.mem_append.mp he with he | he
          · exact steady_modeParty _ _ e he
          · exact steady_reportFinished (hreport (by simp [hst])) e he
        · rename_i hst
          refine licensed_all_steady (fun e he => ?_) n
          rcases List.mem_append.mp he with he | he
          · exact steady_modeParty _ _ e he
          · exact steady_reportFinished (hreport (by simp [hst])) e he
        · rename_i hst
          rw [if_pos hst] at h
          refine licensed_reportStarted (steady_modeParty _ _) hle (fun heq hent => ?_) n
          simpa [heq, hent] using h
        · rename_i hst
          refine licensed_all_steady (fun e he => ?_) n
          rcases List.mem_append.mp he with he | he
          · exact steady_modeParty _ _ e he
          · rw [List.mem_singleton.mp he]
            exact ⟨rfl, hreport (by simp [hst])⟩

end Update

/-- **A batch keeps pace** unless its input regresses. -/
theorem batch_keepsPace {a : Actor} {i : Input} (h : regresses a.state i.cmd = false) :
    (machine config).Licensed PaceStep a ((machine config).decide a i) := by
  show (machine config).Licensed PaceStep a
    (stamp a.nextSeq i.time i.cause (decide a.state config i.cmd))
  cases hcmd : i.cmd with
  | create c =>
    rw [hcmd] at h
    unfold decide
    split_ifs with ht
    · trivial
    · have ht : a.state.terminated = false := by simpa using ht
      dsimp only [create]
      split_ifs with hty
      · trivial
      · have hty : a.state.challengeType = .unknownChallenge := by simpa using hty
        have h : pairLe a.state.stage a.state.stageAttempt c.stage none = true ∧
            ∀ client ∈ a.state.clients.values,
              inPace c.stage none client.stage client.stageAttempt = true := by
          simpa [regresses, ht, hty] using h
        exact licensed_open _ ⟨pairLe_iff.1 h.1, h.2⟩ trivial
  | update u =>
    rw [hcmd] at h
    unfold decide
    split_ifs with ht
    · trivial
    · exact licensed_update (by simpa using ht) h _
  | _ =>
    refine licensed_all_steady (fun e he => steady_of_plain ?_) _
    exact plain_decide (by simp) (by simp) e he

/-! ### The run -/

/-- A challenge that never goes back, and on whose stage no client is ever ahead of it. -/
structure MovesForward (uuid : Uuid) (config : LifecycleConfig) (js : List JournalEntry) :
    Prop where
  forward : ∀ pre post, js = pre ++ post →
    (Actor.load uuid config pre).state.pair ≤ (Actor.load uuid config js).state.pair
  behind : ∀ client ∈ (Actor.load uuid config js).state.clients.values,
    client.stage = (Actor.load uuid config js).state.stage →
      attemptLe client.stageAttempt (Actor.load uuid config js).state.stageAttempt = true

lemma pair_run {a : Actor} {es : List JournalEntry}
    (h : (machine config).Licensed PaceStep a es) :
    a.state.pair ≤ ((machine config).fold a es).state.pair := by
  induction es generalizing a with
  | nil => exact le_refl _
  | cons e es ih => exact (pair_step h.1).trans (ih h.2)

/-- **A challenge moves forward**, along every run in which no input regresses: its stage attempt
never decreases, and no client on its stage is on a later attempt. -/
theorem moves_forward {is : List Input}
    (hok : (machine config).Meets (fun a i => regresses a.state i.cmd = false)
      (Actor.new uuid config) is) {js : List JournalEntry}
    (hjs : js <+: (machine config).journal (Actor.new uuid config) is) :
    MovesForward uuid config js := by
  have hlic := (machine config).licensed_journal (R := PaceStep) (fun _ _ h => batch_keepsPace h) hok
  have hin := (machine config).prefix_inv (R := PaceStep) (P := fun a _ => InPace a.state)
    (fun _ _ h => batch_keepsPace h) (fun _ _ _ h he => inPace_step he h)
    (fun client hc => by cases hc) hok hjs
  obtain ⟨rest, hrest⟩ := hjs
  rw [← hrest, Machine.licensed_append] at hlic
  refine ⟨fun pre post h => ?_, fun client hc hst => ?_⟩
  · rw [h, Machine.licensed_append] at hlic
    rw [load_eq_fold, load_eq_fold, h, Machine.fold_append]
    exact pair_run hlic.1.2
  · rw [load_eq_fold] at hc hst ⊢
    have hp := hin client hc
    rw [hst] at hp
    exact attempt_le_of_inPace hp

/-- A run that completes its stage before it finishes. -/
theorem moves_forward_solo : MovesForward 0 soloConfig
    ((machine soloConfig).journal (Actor.new 0 soloConfig)
      [soloCreate, soloReport 2 Stage.tobMaiden .started, soloReport 3 Stage.tobMaiden .completed,
       soloFinish 4]) :=
  moves_forward (by decide) (List.prefix_refl _)

/-- One client repeats the last delve of a Mokhaiotl challenge, whose second attempt the pipeline
finds not to have been started, and then starts it once more. -/
def delveRun : List Input :=
  [solo 1 (.create { soloRequest with
      challengeType := .mokhaiotl, mode := .noMode, stage := Stage.mokhaiotlDelve8plus }),
   soloReport 2 Stage.mokhaiotlDelve8plus .started, soloReport 3 Stage.mokhaiotlDelve8plus .started,
   soloReport 4 Stage.mokhaiotlDelve8plus .wiped,
   .deadline 5 ⟨.processingDue, 1⟩, .report 6 ⟨0, 1, .ok .none⟩,
   .deadline 7 ⟨.processingDue, 6⟩, .report 8 ⟨1, 1, .ok .none⟩,
   .deadline 9 ⟨.processingDue, 8⟩, .report 10 ⟨4, 1, .ok (.stage .started 5)⟩,
   .deadline 11 ⟨.processingDue, 10⟩, .report 12 ⟨8, 1, .ok (.stage .entered 5)⟩,
   soloReport 13 Stage.mokhaiotlDelve8plus .started]

/-- The second attempt is followed by the first one. -/
theorem attempts_begin_anew :
    let attempts (n : ℕ) :=
      ((machine soloConfig).run (Actor.new 0 soloConfig) (delveRun.take n)).state.pair
    attempts 12 = stagePair Stage.mokhaiotlDelve8plus (some 2) ∧
      attempts 13 = stagePair Stage.mokhaiotlDelve8plus (some 1) ∧
      ¬ MovesForward 0 soloConfig
        ((machine soloConfig).journal (Actor.new 0 soloConfig) delveRun) := by
  intro attempts
  have h12 : attempts 12 = stagePair Stage.mokhaiotlDelve8plus (some 2) := by decide
  have h13 : attempts 13 = stagePair Stage.mokhaiotlDelve8plus (some 1) := by decide
  refine ⟨h12, h13, fun h => ?_⟩
  have hle := h.forward ((machine soloConfig).journal (Actor.new 0 soloConfig) (delveRun.take 12))
    _ ((machine soloConfig).journal_append _ (delveRun.take 12) (delveRun.drop 12))
  rw [load_eq_fold, load_eq_fold, Machine.fold_journal, Machine.fold_journal] at hle
  have hlt : attempts 13 < attempts 12 := by
    rw [h12, h13]
    exact stagePair_succ _ 1
  exact absurd hle (not_le_of_gt hlt)

end Blert.Lifecycle

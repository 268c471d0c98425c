import Mathlib.Order.WithBot
import Blert.Lifecycle.Shape

/-!
Every stage attempt is sealed once.

Stage attempts are met in increasing order, a stage before the later ones and an untracked
attempt before the numbered ones. While the current attempt is open, everything sealed comes
strictly before it; so nothing is sealed twice, and what was opened and left has been sealed.
This holds as long as no report seals another attempt than the current one and no attempt that
is over is started again; the code lets both happen.
-/

namespace Blert.Lifecycle

variable {config : LifecycleConfig} {uuid : Uuid}

/-! ### Stage attempts in order -/

abbrev StagePair := Stage ×ₗ WithBot ℕ

def stagePair (stage : Stage) (attempt : Option ℕ) : StagePair :=
  toLex (stage, (attempt : WithBot ℕ))

def ChallengeState.pair (s : ChallengeState) : StagePair := stagePair s.stage s.stageAttempt

lemma stagePair_lt_of_stage {st st' : Stage} (h : st < st') (a b : Option ℕ) :
    stagePair st a < stagePair st' b :=
  Prod.Lex.toLex_lt_toLex.mpr (Or.inl h)

lemma stagePair_succ (st : Stage) (a : ℕ) :
    stagePair st (some a) < stagePair st (some (a + 1)) :=
  Prod.Lex.toLex_lt_toLex.mpr (Or.inr ⟨rfl, WithBot.coe_lt_coe.mpr (Nat.lt_succ_self a)⟩)

lemma stagePair_none_lt (st : Stage) (a : ℕ) : stagePair st none < stagePair st (some a) :=
  Prod.Lex.toLex_lt_toLex.mpr (Or.inr ⟨rfl, WithBot.bot_lt_coe a⟩)

lemma stagePair_none_le (st : Stage) (a : Option ℕ) : stagePair st none ≤ stagePair st a := by
  cases a with
  | none => exact le_refl _
  | some a => exact (stagePair_none_lt st a).le

/-! ### What a journal seals and opens -/

def seals (js : List JournalEntry) : List StagePair :=
  js.filterMap fun e =>
    match e.event with
    | .stageSealed stage attempt _ => some (stagePair stage attempt)
    | _ => none

def opened (js : List JournalEntry) : List StagePair :=
  js.filterMap fun e =>
    match e.event with
    | .stageStarted stage => some (stagePair stage stage.firstAttempt)
    | .stageAttemptStarted stage attempt => some (stagePair stage (some attempt))
    | _ => none

lemma seals_snoc (js : List JournalEntry) (e : JournalEntry) :
    seals (js ++ [e]) = seals js ++ seals [e] := by
  simp [seals]

lemma opened_snoc (js : List JournalEntry) (e : JournalEntry) :
    opened (js ++ [e]) = opened js ++ opened [e] := by
  simp [opened]

lemma seals_of_not_seal {e : JournalEntry} (h : e.event.isSeal = false) : seals [e] = [] := by
  unfold seals
  cases hev : e.event <;> simp_all [LifecycleEvent.isSeal]

lemma opened_of_not_opening {e : JournalEntry} (h : e.event.isOpening = false) :
    opened [e] = [] := by
  unfold opened
  cases hev : e.event <;> simp_all [LifecycleEvent.isOpening]

/-! ### Stages in the pipeline -/

lemma Processing.outstanding_push {p : Processing} {t u : Trigger} {info : ChallengeInfo}
    {time : Timestamp} (h : u ∈ (p.push t info time).outstanding) : u ∈ p.outstanding ∨ u = t := by
  by_cases hen : p.config.maxAttempts = 0
  · rw [push_disabled hen] at h
    exact Or.inl h
  · unfold push at h
    rw [if_neg hen] at h
    dsimp only at h
    split at h
    · rename_i hn
      simp only [outstanding, Option.toList_some, List.map_cons, List.map_nil, List.mem_append,
        List.mem_singleton, ProcessingRun.new] at h
      rcases h with h | h
      · exact Or.inr h
      · rw [outstanding_of_none hn]
        exact Or.inl h
    · rename_i r hs
      simp only [outstanding, List.map_append, List.map_cons, List.map_nil, List.mem_append,
        List.mem_singleton] at h ⊢
      tauto

lemma Processing.outstanding_start (p : Processing) (seq : JournalSeq) (time : Timestamp) :
    (p.start seq time).outstanding = p.outstanding := by
  obtain h | ⟨run, hr, -, h⟩ := start_cases p seq time
  · rw [h]
  · rw [h]
    simp [outstanding, hr]

lemma Processing.outstanding_finish {p : Processing} {u : Trigger} {ty : ChallengeType}
    {time : Timestamp} {result : Except ProcessingError ProcessingPayload}
    (h : u ∈ (p.finish ty time result).outstanding) : u ∈ p.outstanding := by
  cases hr : p.active with
  | none => rwa [finish_of_none hr] at h
  | some run =>
    rw [outstanding_of_some hr]
    obtain ⟨status, hf⟩ | ⟨retriable, -, hf⟩ := finish_cases hr ty time result
    · rw [hf] at h
      refine List.mem_cons_of_mem _ ?_
      cases hp : p.pending with
      | nil => simp [advance, outstanding, hp] at h
      | cons q qs => simpa [advance, outstanding, hp, ProcessingRun.new] using h
    · rw [hf] at h
      simpa [outstanding] using h

lemma apply_outstanding {s : ChallengeState} {e : JournalEntry} {u : Trigger}
    (h : u ∈ (apply s e).processing.outstanding) :
    u ∈ s.processing.outstanding ∨ eventTrigger s e = some u ∨ u.isFinish = true := by
  have hevent : u ∈ (applyEvent (moveCursor s e) e).processing.outstanding →
      u ∈ s.processing.outstanding ∨ eventTrigger s e = some u ∨ u.isFinish = true := by
    have hp : (moveCursor s e).processing = s.processing := rfl
    have htrig : eventTrigger (moveCursor s e) e = eventTrigger s e := rfl
    intro hu
    obtain ⟨t, info, ht, -, h⟩ | ⟨-, ⟨-, h⟩ | ⟨seq, -, h⟩ | ⟨seq, result, -, h⟩⟩ :=
      applyEvent_processing (moveCursor s e) e
    · rw [h] at hu
      rcases Processing.outstanding_push hu with hu | rfl
      · exact Or.inl hu
      · exact Or.inr (Or.inl (htrig ▸ ht))
    · rw [h] at hu
      exact Or.inl hu
    · rw [h, Processing.outstanding_start] at hu
      exact Or.inl hu
    · rw [h] at hu
      exact Or.inl (Processing.outstanding_finish hu)
  rw [apply_processing, queueFinish_processing] at h
  split_ifs at h
  · rcases Processing.outstanding_push h with h | rfl
    · exact hevent h
    · exact Or.inr (Or.inr rfl)
  · exact hevent h

/-! ### The invariant -/

/-- A finding of the pipeline that the stage attempt it processed was not started. -/
def LifecycleEvent.isUnstarted : LifecycleEvent → Bool
  | .processingFinished _ (.stage .entered _) => true
  | _ => false

lemma entered_apply {s : ChallengeState} {e : JournalEntry} (ho : e.event.isOpening = false)
    (hs : (apply s e).stageStatus = .entered) :
    s.stageStatus = .entered ∨ (e.event.isUnstarted = true ∧ processesCurrent s = true) := by
  rw [apply_stageStatus] at hs
  cases he : e.event with
  | clientStageReported id attempt update =>
    rw [he] at hs
    dsimp only at hs
    split_ifs at hs with hends
    · unfold endsStage at hends
      rw [hs] at hends
      simp [StageStatus.isFinished] at hends
    · exact Or.inl hs
  | processingFinished seq payload =>
    rw [he] at hs
    cases payload with
    | stage status ticks =>
      dsimp only at hs
      split_ifs at hs with hp
      · rw [hs]
        exact Or.inr ⟨rfl, hp⟩
      · exact Or.inl hs
    | none => exact Or.inl hs
  | _ =>
    rw [he] at hs ho
    first
      | exact Or.inl hs
      | cases ho

/-- Everything sealed lies before the current stage attempt, or is it once that is complete. What
was opened has been sealed, but for the current stage attempt while it is open. A stage the
pipeline still processes has been sealed. -/
structure SealInv (s : ChallengeState) (sealed opened : List StagePair) : Prop where
  nodup : sealed.Nodup
  past : ∀ p ∈ sealed, p ≤ s.pair ∧ (s.stageState.isComplete = false → p < s.pair)
  now : s.stageState.isComplete = true → s.pair ∈ sealed
  opened : ∀ p ∈ opened, p ∈ sealed ∨
    (p = s.pair ∧ ¬ StageClosed s ∧ s.terminated = false)
  fresh : s.stageState.isComplete = false → s.stageStatus = .entered → s.stageAttempt = none
  jobs : ∀ seq stage attempt, .stage seq stage attempt ∈ s.processing.outstanding →
    stagePair stage attempt ∈ sealed

lemma sealInv_init : SealInv (Actor.new uuid config).state [] [] where
  nodup := List.nodup_nil
  past := by simp
  now := by intro h; cases h
  opened := by simp
  fresh := fun _ _ => rfl
  jobs := by intro seq stage attempt h; cases h

section Step

variable {s : ChallengeState} {e : JournalEntry} {sealed opens : List StagePair}

lemma SealInv.complete_of_processes (h : SealInv s sealed opens)
    (hp : processesCurrent s = true) : s.stageState.isComplete = true := by
  unfold processesCurrent at hp
  split at hp
  · rename_i seq stage attempt hrun
    obtain ⟨run, hr, hrt⟩ := Option.map_eq_some_iff.mp hrun
    obtain ⟨hst, hat⟩ : stage = s.stage ∧ attempt = s.stageAttempt := by simpa using hp
    have hmem : s.pair ∈ sealed := by
      have := h.jobs seq stage attempt (by
        rw [Processing.outstanding_of_some hr, ← hrt]
        exact List.mem_cons_self)
      rwa [hst, hat] at this
    by_contra hn
    exact lt_irrefl _ ((h.past _ hmem).2 (by simpa using hn))
  · cases hp

lemma SealInv.entered_step (h : SealInv s sealed opens) (ho : e.event.isOpening = false)
    (hs : (apply s e).stageStatus = .entered) :
    s.stageStatus = .entered ∨ s.stageState.isComplete = true := by
  obtain hent | ⟨-, hp⟩ := entered_apply ho hs
  · exact Or.inl hent
  · exact Or.inr (h.complete_of_processes hp)

lemma SealInv.jobs_step (h : SealInv s sealed opens) (hev : e.event.isSeal = false) :
    ∀ seq stage attempt, .stage seq stage attempt ∈ (apply s e).processing.outstanding →
      stagePair stage attempt ∈ sealed := by
  intro seq stage attempt hmem
  rcases apply_outstanding hmem with hmem | htrig | hfin
  · exact h.jobs seq stage attempt hmem
  · unfold eventTrigger at htrig
    cases he : e.event <;> rw [he] at htrig hev <;> simp_all [LifecycleEvent.isSeal]
  · cases hfin

lemma SealInv.other (h : SealInv s sealed opens) (ho : e.event.isOpening = false)
    (hs : e.event.isSeal = false) (hperm : Permits s e.event) :
    SealInv (apply s e) sealed opens := by
  obtain ⟨hst, hat⟩ := pair_apply (s := s) ho
  have hpair : (apply s e).pair = s.pair := by rw [ChallengeState.pair, hst, hat]; rfl
  have hcompl := complete_apply (s := s) ho hs
  refine ⟨h.nodup, ?_, ?_, fun p hp => ?_, ?_, h.jobs_step hs⟩
  · rw [hpair, hcompl]
    exact h.past
  · rw [hpair, hcompl]
    exact h.now
  · rcases h.opened p hp with hp | ⟨rfl, hopen, ht⟩
    · exact Or.inl hp
    · refine Or.inr ⟨hpair.symm, ?_, ?_⟩
      · rintro (hc | hent)
        · exact hopen (Or.inl (hcompl ▸ hc))
        · rcases h.entered_step ho hent with hent | hc
          · exact hopen (Or.inr hent)
          · exact hopen (Or.inl hc)
      · rw [apply_terminated]
        cases he : e.event with
        | challengeTerminated =>
          rw [he] at hperm
          exact absurd hperm.2 hopen
        | challengeFinishing => rfl
        | _ => exact ht
  · rw [hcompl, hat]
    intro hc hent
    rcases h.entered_step ho hent with hent | hc'
    · exact h.fresh hc hent
    · rw [hc] at hc'
      cases hc'

lemma SealInv.seal (h : SealInv s sealed opens) {stage : Stage} {attempt : Option ℕ}
    {forced : Bool} (he : e.event = .stageSealed stage attempt forced)
    (hcur : SealsCurrent s e.event) (hperm : Permits s e.event) :
    SealInv (apply s e) (sealed ++ [stagePair stage attempt]) opens := by
  obtain ⟨rfl, rfl⟩ := hcur _ _ _ he
  rw [he] at hperm
  have hopen : s.stageState.isComplete = false := hperm
  obtain ⟨hst, hat⟩ := pair_apply (s := s) (e := e) (by rw [he]; rfl)
  have hpair : (apply s e).pair = s.pair := by rw [ChallengeState.pair, hst, hat]; rfl
  have hcompl : (apply s e).stageState.isComplete = true := by rw [apply_isComplete, he]
  have hnew : s.pair ∉ sealed := fun hmem => lt_irrefl _ ((h.past _ hmem).2 hopen)
  refine ⟨?_, fun p hp => ?_, fun _ => ?_, fun p hp => Or.inl ?_, fun hc => ?_, ?_⟩
  · exact List.nodup_append.mpr ⟨h.nodup, List.nodup_singleton _, fun p hp q hq => by
      rw [List.mem_singleton.mp hq]
      rintro rfl
      exact hnew hp⟩
  · rw [hpair, hcompl]
    refine ⟨?_, fun hc => by cases hc⟩
    rcases List.mem_append.mp hp with hp | hp
    · exact (h.past p hp).1
    · rw [List.mem_singleton.mp hp]
      exact le_refl _
  · rw [hpair]
    exact List.mem_append_right _ (List.mem_singleton.mpr rfl)
  · rcases h.opened p hp with hp | ⟨rfl, -⟩
    · exact List.mem_append_left _ hp
    · exact List.mem_append_right _ (List.mem_singleton.mpr rfl)
  · rw [hcompl] at hc
    cases hc
  · intro seq stage attempt hmem
    rcases apply_outstanding hmem with hmem | htrig | hfin
    · exact List.mem_append_left _ (h.jobs seq stage attempt hmem)
    · rw [eventTrigger, he] at htrig
      cases htrig
      exact List.mem_append_right _ (List.mem_singleton.mpr rfl)
    · cases hfin

lemma SealInv.open (h : SealInv s sealed opens) (hs : e.event.isSeal = false)
    (hlt : ∀ p ∈ sealed, p < (apply s e).pair) (hclosed : StageClosed s)
    (hopen : (apply s e).stageState.isComplete = false)
    (hstarted : (apply s e).stageStatus = .started)
    (ht : (apply s e).terminated = false) :
    SealInv (apply s e) sealed (opens ++ [(apply s e).pair]) := by
  refine ⟨h.nodup, fun p hp => ⟨(hlt p hp).le, fun _ => hlt p hp⟩, fun hc => ?_, fun p hp => ?_,
    fun _ hent => ?_, h.jobs_step hs⟩
  · rw [hopen] at hc
    cases hc
  · rcases List.mem_append.mp hp with hp | hp
    · rcases h.opened p hp with hp | ⟨-, hn, -⟩
      · exact Or.inl hp
      · exact absurd hclosed hn
    · refine Or.inr ⟨List.mem_singleton.mp hp, ?_, ht⟩
      rintro (hc | hent)
      · rw [hopen] at hc
        cases hc
      · rw [hstarted] at hent
        cases hent
  · rw [hstarted] at hent
    cases hent

lemma SealInv.lt_started (h : SealInv s sealed opens) {stage : Stage}
    (hperm : (s.stage < stage ∧ StageClosed s) ∨ (stage = s.stage ∧ s.stageStatus = .entered))
    (hfresh : stage = s.stage → s.stageState.isComplete = true →
      stage.isRetriable = true ∧ s.stageAttempt = none) :
    ∀ p ∈ sealed, p < stagePair stage stage.firstAttempt := by
  intro p hp
  obtain ⟨hle, hlt⟩ := h.past p hp
  obtain ⟨hst, -⟩ | ⟨rfl, hent⟩ := hperm
  · exact lt_of_le_of_lt hle (stagePair_lt_of_stage hst _ _)
  · cases hc : s.stageState.isComplete with
    | true =>
      obtain ⟨hre, hnone⟩ := hfresh rfl hc
      refine lt_of_le_of_lt hle ?_
      rw [ChallengeState.pair, hnone, Stage.firstAttempt, if_pos hre]
      exact stagePair_none_lt _ _
    | false =>
      refine lt_of_lt_of_le (hlt hc) ?_
      rw [ChallengeState.pair, h.fresh hc hent]
      exact stagePair_none_le _ _

end Step

/-! ### The run -/

def CreatesFirst (a : Actor) (e : JournalEntry) : Prop :=
  e.event.isCreated = true → a.nextSeq = 0

lemma batch_createsFirst {a : Actor} {i : Input} (h : i.isCreate = true → a.nextSeq = 0) :
    (machine config).Licensed CreatesFirst a ((machine config).decide a i) := by
  have hnone : ∀ (es : List JournalEntry) (b : Actor), (∀ e ∈ es, e.event.isCreated = false) →
      (machine config).Licensed CreatesFirst b es := by
    intro es
    induction es with
    | nil => exact fun _ _ => trivial
    | cons e es ih =>
      refine fun b hes => ⟨fun hc => ?_, ih _ fun f hf => hes f (List.mem_cons_of_mem _ hf)⟩
      rw [hes e List.mem_cons_self] at hc
      cases hc
  by_cases hcr : ∃ e ∈ decide a.state config i.cmd, e.isCreated = true
  · obtain ⟨e, he, hc⟩ := hcr
    obtain ⟨c, hcmd, hdec⟩ := create_of_created he hc
    show (machine config).Licensed CreatesFirst a (stamp a.nextSeq i.time i.cause
      (decide a.state config i.cmd))
    rw [hdec]
    refine ⟨fun _ => h ?_, hnone _ _ (by simp [LifecycleEvent.isCreated])⟩
    rw [Input.isCreate, hcmd]
    rfl
  · refine hnone _ _ fun e he => ?_
    by_contra hc
    exact hcr ⟨e.event, event_of_mem_stamp he, by simpa using hc⟩

/-- What the entries of a run without misreports and restarts are licensed by. -/
structure SealStep (a : Actor) (e : JournalEntry) : Prop where
  follows : Follows a e
  seals : SealsHere a e
  starts : StartsFresh a e
  creates : CreatesFirst a e

/-- An input that neither misreports nor restarts a stage attempt. -/
def Orderly (a : Actor) (i : Input) : Prop :=
  misreports a.state i.cmd = false ∧ restarts a.state i.cmd = false

instance (a : Actor) (i : Input) : Decidable (Orderly a i) := inferInstanceAs (Decidable (_ ∧ _))

lemma batch_sealStep {a : Actor} {i : Input} (h : Orderly a i)
    (hc : i.isCreate = true → a.nextSeq = 0) :
    (machine config).Licensed SealStep a ((machine config).decide a i) := by
  have hfirst := ((batch_follows config a i).and _ (batch_seals h.1)).and _ (batch_fresh h.2)
  exact (hfirst.and _ (batch_createsFirst hc)).mono _ fun _ _ h => ⟨h.1.1.1, h.1.1.2, h.1.2, h.2⟩

/-- The invariant, and that the journal is as long as its next position. -/
def SealRun (a : Actor) (js : List JournalEntry) : Prop :=
  SealInv a.state (seals js) (opened js) ∧ a.nextSeq = js.length

lemma sealRun_step {a : Actor} {js : List JournalEntry} {e : JournalEntry} (h : SealRun a js)
    (he : SealStep a e) : SealRun (a.loadEntry e) (js ++ [e]) := by
  obtain ⟨hinv, hlen⟩ := h
  refine ⟨?_, by simp [Actor.loadEntry, he.follows.seq, hlen]⟩
  rw [seals_snoc, opened_snoc]
  have hperm := he.follows.permits
  show SealInv (apply a.state e) _ _
  cases hev : e.event with
  | challengeCreated u session type mode party stage =>
    -- The first entry there is: nothing has been sealed or opened yet.
    have hnil : js = [] := by
      have := he.creates (by rw [hev]; rfl)
      exact List.eq_nil_of_length_eq_zero (hlen ▸ this)
    have hs : e.event.isSeal = false := by rw [hev]; rfl
    have hempty : seals js ++ seals [e] = [] ∧ opened js ++ opened [e] = [] := by
      rw [hnil, seals_of_not_seal hs]
      exact ⟨rfl, by simp [opened, hev]⟩
    rw [hempty.1, hempty.2]
    have hopen : (apply a.state e).stageState.isComplete = false := by rw [apply_isComplete, hev]
    refine ⟨List.nodup_nil, by simp, fun hc => ?_, by simp, fun _ _ => ?_, ?_⟩
    · rw [hopen] at hc
      cases hc
    · rw [apply_stageAttempt, hev]
    · have hjobs := hinv.jobs_step hs
      rwa [hnil] at hjobs
  | stageStarted stage =>
    have hs : e.event.isSeal = false := by rw [hev]; rfl
    have hpair : (apply a.state e).pair = stagePair stage stage.firstAttempt := by
      rw [ChallengeState.pair, apply_stage, apply_stageAttempt, hev]
    have ho : opened [e] = [(apply a.state e).pair] := by simp [opened, hev, hpair]
    rw [seals_of_not_seal hs, List.append_nil, ho]
    rw [hev] at hperm
    refine hinv.open hs ?_ ?_ ?_ ?_ ?_
    · rw [hpair]
      exact hinv.lt_started hperm (he.starts stage hev)
    · rcases hperm with ⟨-, hcl⟩ | ⟨-, hent⟩
      · exact hcl
      · exact Or.inr hent
    · rw [apply_isComplete, hev]
    · rw [apply_stageStatus, hev]
    · rw [apply_terminated, hev]
      exact he.follows.alive (by rw [hev]; rfl)
  | stageAttemptStarted stage attempt =>
    have hs : e.event.isSeal = false := by rw [hev]; rfl
    rw [hev] at hperm
    obtain ⟨rfl, hc, n, hat, rfl⟩ := hperm
    have hpair : (apply a.state e).pair = stagePair a.state.stage (some (n + 1)) := by
      rw [ChallengeState.pair, apply_stage, apply_stageAttempt, hev]
    have ho : opened [e] = [(apply a.state e).pair] := by simp [opened, hev, hpair]
    rw [seals_of_not_seal hs, List.append_nil, ho]
    refine hinv.open hs (fun p hp => ?_) (Or.inl hc) ?_ ?_ ?_
    · refine lt_of_le_of_lt (hinv.past p hp).1 ?_
      rw [hpair, ChallengeState.pair, hat]
      exact stagePair_succ _ _
    · rw [apply_isComplete, hev]
    · rw [apply_stageStatus, hev]
    · rw [apply_terminated, hev]
      exact he.follows.alive (by rw [hev]; rfl)
  | stageSealed stage attempt forced =>
    have hsl : seals [e] = [stagePair stage attempt] := by simp [seals, hev]
    have ho : e.event.isOpening = false := by rw [hev]; rfl
    rw [hsl, opened_of_not_opening ho, List.append_nil]
    exact hinv.seal hev he.seals hperm
  | _ =>
    have ho : e.event.isOpening = false := by rw [hev]; rfl
    have hs : e.event.isSeal = false := by rw [hev]; rfl
    rw [seals_of_not_seal hs, opened_of_not_opening ho, List.append_nil, List.append_nil]
    exact hinv.other ho hs hperm

/-- Stage attempts are sealed once: only the current one ever is, none twice, and one that was
started exactly once by the time the challenge has left it or is over. -/
structure SealedOnce (uuid : Uuid) (config : LifecycleConfig) (js : List JournalEntry) : Prop where
  current : ∀ pre e post stage attempt forced, js = pre ++ e :: post →
    e.event = .stageSealed stage attempt forced →
    stagePair stage attempt = (Actor.load uuid config pre).state.pair
  once : ∀ p, (seals js).count p ≤ 1
  left : ∀ p ∈ opened js, p ≠ (Actor.load uuid config js).state.pair ∨
    (Actor.load uuid config js).state.terminated = true → (seals js).count p = 1

/-- **Every stage attempt is sealed once**, along every run from the challenge's creation in which
no input misreports or restarts a stage attempt. -/
theorem sealed_once {t : Timestamp} {id : MsgId} {c : Create} {rest : List Input}
    (hrest : ∀ i ∈ rest, i.isCreate = false)
    (hok : (machine config).Meets Orderly (Actor.new uuid config)
      (.message t ⟨id, .create c⟩ rfl :: rest)) {js : List JournalEntry}
    (hjs : js <+: (machine config).journal (Actor.new uuid config)
      (.message t ⟨id, .create c⟩ rfl :: rest)) : SealedOnce uuid config js := by
  have hmeets : (machine config).Meets
      (fun a i => Orderly a i ∧ (i.isCreate = true → a.nextSeq = 0)) (Actor.new uuid config)
      (.message t ⟨id, .create c⟩ rfl :: rest) := by
    refine ⟨⟨hok.1, fun _ => rfl⟩, ?_⟩
    have hmeet : ∀ (is : List Input) (a : Actor), (∀ i ∈ is, i.isCreate = false) →
        (machine config).Meets Orderly a is →
        (machine config).Meets (fun a i => Orderly a i ∧ (i.isCreate = true → a.nextSeq = 0)) a
          is := by
      intro is
      induction is with
      | nil => exact fun _ _ _ => trivial
      | cons i is ih =>
        refine fun a his ho => ⟨⟨ho.1, fun hc => ?_⟩, ih _ (fun j hj => his j
          (List.mem_cons_of_mem _ hj)) ho.2⟩
        rw [his i List.mem_cons_self] at hc
        cases hc
    exact hmeet rest _ hrest hok.2
  have hstep : ∀ a i, Orderly a i ∧ (i.isCreate = true → a.nextSeq = 0) →
      (machine config).Licensed SealStep a ((machine config).decide a i) :=
    fun a i h => batch_sealStep h.1 h.2
  obtain ⟨hinv, -⟩ := (machine config).prefix_inv (P := SealRun) hstep
    (fun _ _ _ => sealRun_step) ⟨sealInv_init, rfl⟩ hmeets hjs
  have hlic := (machine config).licensed_journal hstep hmeets
  obtain ⟨more, hmore⟩ := hjs
  rw [← hmore, Machine.licensed_append] at hlic
  refine ⟨fun pre e post stage attempt forced hpre hev => ?_, List.nodup_iff_count_le_one.mp
    hinv.nodup, fun p hp hleft => List.count_eq_one_of_mem hinv.nodup ?_⟩
  · have hcur := (hlic.1.at _ hpre).seals stage attempt forced hev
    rw [hcur.1, hcur.2]
    rfl
  · rcases hinv.opened p hp with hp | ⟨heq, -, ht⟩
    · exact hp
    · rcases hleft with hne | hterm
      · exact absurd heq hne
      · rw [load_eq_fold, ht] at hterm
        cases hterm

/-- A run that completes its stage before it finishes. -/
theorem sealed_once_solo : SealedOnce 0 soloConfig
    ((machine soloConfig).journal (Actor.new 0 soloConfig)
      [soloCreate, soloReport 2 Stage.tobMaiden .started, soloReport 3 Stage.tobMaiden .completed,
       soloFinish 4]) :=
  sealed_once (by decide) (by decide) (List.prefix_refl _)

/-- The completion of a later room, reported by the only client, seals that room and leaves the
current one unsealed for good. -/
theorem later_room_sealed :
    let journal := (machine soloConfig).journal (Actor.new 0 soloConfig) soloRun
    seals journal = [stagePair Stage.tobBloat none] ∧
      opened journal = [stagePair Stage.tobMaiden none] ∧
      (Actor.load 0 soloConfig journal).state.terminated = true ∧
      ¬ SealedOnce 0 soloConfig journal := by
  intro journal
  have hs : seals journal = [stagePair Stage.tobBloat none] := by decide
  have ho : opened journal = [stagePair Stage.tobMaiden none] := by decide
  have ht : (Actor.load 0 soloConfig journal).state.terminated = true := by decide
  refine ⟨hs, ho, ht, fun h => ?_⟩
  have hone := h.left (stagePair Stage.tobMaiden none) (by simp [ho]) (Or.inr ht)
  rw [hs] at hone
  exact absurd hone (by decide)

end Blert.Lifecycle

import Blert.Lifecycle.Settling

/-!
Crash recovery of a challenge.

The cursor is the position of the last message that was answered. Messages delivered after it
were answered by nothing, and are delivered again to the actor that takes over. Since then only
deadlines and processing reports can have changed the challenge, and these never make it answer
a message it had no answer to: they add no client, and leave the make-up and the position of the
challenge as they are.
-/

namespace Blert.Lifecycle

variable {config : LifecycleConfig}

/-! ### What deadlines and reports leave alone -/

/-- A later state of a challenge that only deadlines and processing have changed since. -/
structure Later (s s' : ChallengeState) : Prop where
  terminated : s.terminated = true → s'.terminated = true
  clients : ∀ id, s'.clients.get id = none ∨ s'.clients.get id = s.clients.get id
  challengeType : s'.challengeType = s.challengeType
  mode : s'.mode = s.mode
  party : s'.party = s.party
  partyChanged : s'.partyChanged = s.partyChanged
  stage : s'.stage = s.stage

lemma Later.rfl {s : ChallengeState} : Later s s :=
  ⟨id, fun _ => Or.inr (Eq.refl _), Eq.refl _, Eq.refl _, Eq.refl _, Eq.refl _, Eq.refl _⟩

lemma Later.trans {s s' s'' : ChallengeState} (h : Later s s') (h' : Later s' s'') :
    Later s s'' where
  terminated := fun ht => h'.terminated (h.terminated ht)
  clients := fun id => by
    rcases h'.clients id with hn | he
    · exact Or.inl hn
    · rw [he]
      exact h.clients id
  challengeType := h'.challengeType.trans h.challengeType
  mode := h'.mode.trans h.mode
  party := h'.party.trans h.party
  partyChanged := h'.partyChanged.trans h.partyChanged
  stage := h'.stage.trans h.stage

/-- The events that deadlines and processing reports are answered with. -/
def LifecycleEvent.isPassive (e : LifecycleEvent) : Bool := e.isFired || e.isProcessing

lemma later_apply {s : ChallengeState} {e : JournalEntry} (h : e.event.isPassive = true) :
    Later s (apply s e) := by
  have hcases : e.event.isPassive = true := h
  refine ⟨fun ht => ?_, fun id => ?_, ?_, ?_, ?_, ?_, ?_⟩
  · rw [apply_terminated]
    cases hev : e.event <;> first | exact ht | rfl | (rw [hev] at hcases; cases hcases)
  · rw [apply_clients]
    cases hev : e.event with
    | clientRemoved k =>
      have hcl : clientsAfter s (.clientRemoved k) = s.clients.erase k := rfl
      rw [hcl, OrdMap.get_erase]
      split_ifs
      · exact Or.inl rfl
      · exact Or.inr rfl
    | stageSealed | challengeTerminated | processingStarted | processingFinished
    | processingFailed | processingTimedOut => exact Or.inr rfl
    | _ => rw [hev] at hcases; cases hcases
  · rw [apply_challengeType]
    cases hev : e.event <;> first | rfl | (rw [hev] at hcases; cases hcases)
  · rw [apply_mode]
    cases hev : e.event <;> first | rfl | (rw [hev] at hcases; cases hcases)
  · rw [apply_party]
    cases hev : e.event <;> first | rfl | (rw [hev] at hcases; cases hcases)
  · rw [apply_partyChanged]
    cases hev : e.event <;> first | rfl | (rw [hev] at hcases; cases hcases)
  · rw [apply_stage]
    cases hev : e.event <;> first | rfl | (rw [hev] at hcases; cases hcases)

lemma later_fold {a : Actor} {es : List JournalEntry}
    (h : ∀ e ∈ es, e.event.isPassive = true) :
    Later a.state ((machine config).fold a es).state := by
  induction es generalizing a with
  | nil => exact Later.rfl
  | cons e es ih =>
    have hstep : Later a.state (a.loadEntry e).state := later_apply (h e List.mem_cons_self)
    exact hstep.trans (ih fun f hf => h f (List.mem_cons_of_mem _ hf))

lemma deadlineFired_passive (s : ChallengeState) (d : Deadline) :
    ∀ e ∈ deadlineFired s config d, e.isPassive = true := by
  intro e he
  by_cases hd : nextDeadline s config = some d
  · unfold LifecycleEvent.isPassive
    rw [(deadlineFired_work hd).1 e he, Bool.true_or]
  · simp [deadlineFired, hd] at he

lemma processed_passive (s : ChallengeState) (r : Processed) :
    ∀ e ∈ processed s r, e.isPassive = true := by
  intro e he
  unfold processed at he
  grind [LifecycleEvent.isPassive, LifecycleEvent.isProcessing]

lemma batch_passive {a : Actor} {i : Input} (hi : i.position = none) :
    ∀ e ∈ (machine config).decide a i, e.event.isPassive = true := by
  intro e he
  have hmem := event_of_mem_stamp he
  unfold decide at hmem
  cases i with
  | message t env h => cases hi
  | deadline t d =>
    split_ifs at hmem <;> exact deadlineFired_passive _ _ _ hmem
  | report t r =>
    split_ifs at hmem <;> exact processed_passive _ _ _ hmem

/-! ### Silence is kept -/

section Silence

variable {s s' : ChallengeState}

lemma contains_later (h : Later s s') {id : ClientId} (hc : s.clients.contains id = false) :
    s'.clients.contains id = false := by
  unfold OrdMap.contains at hc ⊢
  rcases h.clients id with hn | he
  · rw [hn]
    rfl
  · rwa [he]

lemma modeEvents_later (h : Later s s') (u : Update) : modeEvents s' u = modeEvents s u := by
  unfold modeEvents
  rw [h.mode]

lemma partyEvents_later (h : Later s s') (u : Update) : partyEvents s' u = partyEvents s u := by
  unfold partyEvents
  rw [h.party, h.partyChanged]

lemma reportFinished_ne_nil {id : ClientId} {client : ClientState} {progress : StageProgress} :
    reportFinished s id client progress ≠ [] := by
  simp [reportFinished]

lemma reportStarted_ne_nil {id : ClientId} {client : ClientState} {progress : StageProgress} :
    reportStarted s id client progress ≠ [] := by
  unfold reportStarted
  split
  · simp
  · split
    · split <;> simp
    · simp

lemma update_later (h : Later s s') {u : Update} (hu : update s u = []) : update s' u = [] := by
  unfold update at hu ⊢
  rw [modeEvents_later h, partyEvents_later h]
  cases hp : u.stage with
  | none => simpa [hp] using hu
  | some progress =>
    rw [hp] at hu
    dsimp only at hu ⊢
    rcases h.clients u.clientId with hn | he
    · rw [hn]
    · rw [he]
      cases hc : s.clients.get u.clientId with
      | none => rfl
      | some client =>
        rw [hc] at hu
        dsimp only at hu ⊢
        rw [h.stage]
        split_ifs at hu ⊢ with hlt
        · rfl
        · -- A report on the current stage or a later one is always recorded.
          exfalso
          obtain ⟨-, hrep⟩ := List.append_eq_nil_iff.mp hu
          split at hrep
          · exact reportFinished_ne_nil hrep
          · exact reportFinished_ne_nil hrep
          · exact reportStarted_ne_nil hrep
          · cases hrep

lemma clientStatus_later (h : Later s s') {c : ClientStatusChange}
    (hc : clientStatus s c = []) : clientStatus s' c = [] := by
  unfold clientStatus at hc ⊢
  rcases h.clients c.clientId with hn | he
  · rw [hn]
  · rw [he]
    exact hc

lemma finish_later (h : Later s s') {f : Finish} (hf : finish s f = []) : finish s' f = [] := by
  unfold finish at hf ⊢
  rcases h.clients f.clientId with hn | he
  · rw [hn]
  · rw [he]
    cases hc : s.clients.get f.clientId with
    | none => rfl
    | some client =>
      rw [hc] at hf
      dsimp only at hf
      split_ifs at hf <;> simp at hf

/-- **Silence is kept**: a message the challenge had no answer to has none after deadlines and
processing have changed it. -/
lemma decide_later (h : Later s s') {cmd : Command} (hm : cmd.isMessage = true)
    (hs : decide s config cmd = []) : decide s' config cmd = [] := by
  by_cases ht' : s'.terminated = true
  · unfold decide
    rw [if_pos ht']
    cases cmd <;> first | rfl | cases hm
  · have ht : ¬ s.terminated = true := fun ht => ht' (h.terminated ht)
    unfold decide at hs ⊢
    rw [if_neg ht] at hs
    rw [if_neg ht']
    cases cmd with
    | create c =>
      dsimp only [create] at hs ⊢
      split_ifs at hs with hct
      rw [h.challengeType, if_pos hct]
    | join j =>
      dsimp only [join] at hs
      split_ifs at hs
    | update u => exact update_later h hs
    | finish f => exact finish_later h hs
    | clientStatus c => exact clientStatus_later h hs
    | clientMovedOn m =>
      dsimp only [clientMovedOn] at hs ⊢
      split_ifs at hs with hc
      rw [contains_later h (by simpa using hc)]
      rfl
    | processed r => cases hm
    | deadlineFired d => cases hm

end Silence

/-! ### The cursor -/

def Cause.cursorAfter (cause : Cause) (cursor : MsgId) : MsgId :=
  match cause with
  | .command id => id
  | _ => cursor

lemma cursor_fold {a : Actor} {es : List JournalEntry} {c : Cause}
    (h : ∀ e ∈ es, e.causedBy = c) (hne : es ≠ []) :
    ((machine config).fold a es).state.cursor = c.cursorAfter a.state.cursor := by
  induction es generalizing a with
  | nil => exact absurd rfl hne
  | cons e es ih =>
    have he : (a.loadEntry e).state.cursor = c.cursorAfter a.state.cursor := by
      rw [← h e List.mem_cons_self]
      exact apply_cursor a.state e
    cases es with
    | nil => exact he
    | cons f fs =>
      have hload : (machine config).apply a e = a.loadEntry e := rfl
      rw [Machine.fold_cons, ih (fun g hg => h g (List.mem_cons_of_mem _ hg)) (by simp), hload, he]
      cases c <;> rfl

/-- The actor keeps the position of the last message it answered. -/
def cursor (config : LifecycleConfig) : (machine config).Cursor MsgId where
  position := Input.position
  cursor a := a.state.cursor
  moves a i p hp hne := by
    have hcause : i.cause = .command p := by
      cases i with
      | message t env h =>
        cases hp
        rfl
      | _ => cases hp
    have hby : ∀ e ∈ (machine config).decide a i, e.causedBy = .command p := by
      intro e he
      rw [← hcause]
      exact causedBy_of_mem_stamp he
    exact cursor_fold hby hne
  stays a i hi := by
    by_cases hne : (machine config).decide a i = []
    · rw [Machine.step, hne]
      rfl
    · have hby : ∀ e ∈ (machine config).decide a i, e.causedBy = i.cause :=
        fun e he => causedBy_of_mem_stamp he
      have h : ((machine config).step a i).state.cursor = i.cause.cursorAfter a.state.cursor :=
        cursor_fold hby hne
      cases i with
      | message t env hm => cases hi
      | _ => exact h
  silent a i j hi hj hs := by
    have hsilent : decide a.state config i.cmd = [] := stamp_eq_nil.1 hs
    refine stamp_eq_nil.2 (decide_later (later_fold (batch_passive hj)) ?_ hsilent)
    cases i with
    | message t env hm => exact hm
    | _ => exact absurd rfl hi

/-- **Crash recovery is exact.** Wherever an actor stops between two inputs, the actor that
folds its journal is the one that stopped; and when the messages behind its cursor are delivered
to it again, it journals nothing and stays as it is. -/
theorem recovery_exact (uuid : Uuid) (config : LifecycleConfig) (is : List Input)
    (hids : (is.filterMap Input.position).Pairwise (· < ·)) :
    let live := is.foldl (Actor.handleCommand config) (Actor.new uuid config)
    let recovered := Actor.load uuid config ((machine config).journal (Actor.new uuid config) is)
    let redelivered := is.filter fun i => i.position.any (recovered.state.cursor < ·)
    recovered = live ∧ (machine config).journal recovered redelivered = [] ∧
      redelivered.foldl (Actor.handleCommand config) recovered = live := by
  intro live recovered redelivered
  have h := (cursor config).recover (s := Actor.new uuid config) hids
  have hlive : live = (machine config).run (Actor.new uuid config) is :=
    (run_eq_handleCommand config _ is).symm
  have hagain : redelivered.foldl (Actor.handleCommand config) recovered =
      (machine config).run recovered redelivered := (run_eq_handleCommand config _ _).symm
  rw [hagain, hlive]
  exact h

/-- A run that ends with a message the terminated challenge has no answer to. -/
theorem recovery_exact_solo :
    let is := soloRun ++ [soloReport 5 Stage.tobMaiden .started]
    let live := is.foldl (Actor.handleCommand soloConfig) (Actor.new 0 soloConfig)
    let recovered := Actor.load 0 soloConfig
      ((machine soloConfig).journal (Actor.new 0 soloConfig) is)
    let redelivered := is.filter fun i => i.position.any (recovered.state.cursor < ·)
    recovered = live ∧ (machine soloConfig).journal recovered redelivered = [] ∧
      redelivered.foldl (Actor.handleCommand soloConfig) recovered = live :=
  recovery_exact 0 soloConfig _ (by decide)

end Blert.Lifecycle

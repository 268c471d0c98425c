import Blert.Lifecycle.Settling

/-!
Dormancy is tracked exactly.

A challenge knows since when none of its clients is active. The time is that of the journal
entry with which the clients came to be as dormant as they are: the last idled or left, or the
idle ones that were left went too.
-/

namespace Blert.Lifecycle

variable {config : LifecycleConfig} {uuid : Uuid}

/-- How dormant the clients are after a journal. -/
def dormancyAt (uuid : Uuid) (config : LifecycleConfig) (js : List JournalEntry) : Dormancy :=
  Dormancy.of (Actor.load uuid config js).state

/-- The entry of a journal with which the clients came to be as dormant as they are now. -/
def EnteredBy (uuid : Uuid) (config : LifecycleConfig) (js : List JournalEntry)
    (e : JournalEntry) : Prop :=
  ∃ pre post, js = pre ++ e :: post ∧ dormancyAt uuid config pre ≠ dormancyAt uuid config js ∧
    ∀ mid, mid <+: post → dormancyAt uuid config (pre ++ e :: mid) = dormancyAt uuid config js

lemma enteredBy_snoc_of_ne {js : List JournalEntry} {e : JournalEntry}
    (h : dormancyAt uuid config js ≠ dormancyAt uuid config (js ++ [e])) :
    EnteredBy uuid config (js ++ [e]) e := by
  refine ⟨js, [], rfl, h, fun mid hmid => ?_⟩
  rw [List.prefix_nil.mp hmid]

lemma EnteredBy.snoc {js : List JournalEntry} {e f : JournalEntry}
    (h : EnteredBy uuid config js e)
    (hf : dormancyAt uuid config (js ++ [f]) = dormancyAt uuid config js) :
    EnteredBy uuid config (js ++ [f]) e := by
  obtain ⟨pre, post, rfl, hne, hmid⟩ := h
  refine ⟨pre, post ++ [f], by simp, hf ▸ hne, fun mid hpre => ?_⟩
  rw [hf]
  rcases List.prefix_concat_iff.mp (by simpa using hpre) with rfl | hpre
  · rw [← hf]
    simp
  · exact hmid mid hpre

/-- The time a challenge is dormant since is that of the entry it became so with. -/
structure DormancyTracked (uuid : Uuid) (config : LifecycleConfig) (js : List JournalEntry) :
    Prop where
  active : ¬ NoneActive (Actor.load uuid config js).state →
    (Actor.load uuid config js).state.dormantSince = none
  dormant : NoneActive (Actor.load uuid config js).state →
    ∃ e, EnteredBy uuid config js e ∧
      (Actor.load uuid config js).state.dormantSince = some e.time

lemma dormancyAt_snoc (js : List JournalEntry) (e : JournalEntry) :
    dormancyAt uuid config (js ++ [e]) =
      Dormancy.of (apply (Actor.load uuid config js).state e) := by
  unfold dormancyAt
  rw [load_snoc]
  rfl

lemma dormancyTracked_step {js : List JournalEntry} {e : JournalEntry}
    (h : (Actor.load uuid config js).state.recordedBy.Nonempty → DormancyTracked uuid config js)
    (hrec : (Actor.load uuid config (js ++ [e])).state.recordedBy.Nonempty) :
    DormancyTracked uuid config (js ++ [e]) := by
  have hload : (Actor.load uuid config (js ++ [e])).state =
      apply (Actor.load uuid config js).state e := by rw [load_snoc]; rfl
  have hsince := apply_dormantSince (Actor.load uuid config js).state e
  rw [hload] at hrec
  constructor
  · intro hact
    rw [hload] at hact ⊢
    rw [hsince, if_pos (not_not.mp fun hne => hact (dormancy_of_noneActive.1 hne))]
  · intro hnone
    rw [hload] at hnone ⊢
    have hafter := dormancy_of_noneActive.2 hnone
    rw [hsince, if_neg hafter]
    split_ifs with hb
    · refine ⟨e, enteredBy_snoc_of_ne ?_, rfl⟩
      rw [dormancyAt_snoc]
      exact hb.symm
    · -- The clients are as dormant as before, so none of them has just joined.
      have hsame := not_ne_iff.mp hb
      have hbefore : NoneActive (Actor.load uuid config js).state := by
        rw [← dormancy_of_noneActive, ← hsame]
        exact hafter
      have hrec' : (Actor.load uuid config js).state.recordedBy.Nonempty := by
        rw [apply_recordedBy] at hrec
        cases hev : e.event with
        | clientJoined id user token r => exact absurd hnone (not_noneActive_joined hev)
        | _ => rw [hev] at hrec; exact hrec
      obtain ⟨d, hd, htime⟩ := (h hrec').dormant hbefore
      refine ⟨d, hd.snoc ?_, htime⟩
      rw [dormancyAt_snoc]
      exact hsame

lemma dormancyTracked_load (js : List JournalEntry) :
    (Actor.load uuid config js).state.recordedBy.Nonempty → DormancyTracked uuid config js := by
  induction js using List.reverseRecOn with
  | nil =>
    rintro ⟨id, hid⟩
    cases hid
  | append_singleton js e ih => exact dormancyTracked_step ih

/-- **Dormancy is tracked exactly.** In every state a run reaches after the challenge was created,
the time it is dormant since is known if and only if none of its clients is active, and it is the
time of the entry with which the clients last came to be as dormant as they are, none left or
all idle. -/
theorem dormancy_exact {is : List Input} (h : Created config uuid is) :
    let journal := (machine config).journal (Actor.new uuid config) is
    let s := ((machine config).run (Actor.new uuid config) is).state
    (s.dormantSince.isSome = true ↔ NoneActive s) ∧
      ∀ t, s.dormantSince = some t → ∃ e, EnteredBy uuid config journal e ∧ e.time = t := by
  intro journal s
  have hload : s = (Actor.load uuid config journal).state := by
    rw [load_eq_fold, Machine.fold_journal]
  have htr : DormancyTracked uuid config journal := by
    refine dormancyTracked_load journal ?_
    rw [← hload]
    exact recordedBy_of_created h
  rw [hload]
  by_cases hnone : NoneActive (Actor.load uuid config journal).state
  · obtain ⟨e, he, hsince⟩ := htr.dormant hnone
    rw [hsince]
    refine ⟨⟨fun _ => hnone, fun _ => rfl⟩, fun t ht => ⟨e, he, ?_⟩⟩
    exact Option.some.inj ht
  · have hsince := htr.active hnone
    rw [hsince]
    refine ⟨⟨fun hs => (by cases hs), fun hn => absurd hn hnone⟩, fun t ht => by cases ht⟩

/-- The only client starts a challenge and goes idle. -/
theorem dormancy_exact_solo :
    let journal := (machine soloConfig).journal (Actor.new 0 soloConfig)
      [soloCreate, solo 5 (.clientStatus ⟨1, 1, "t", .idle⟩)]
    let s := ((machine soloConfig).run (Actor.new 0 soloConfig)
      [soloCreate, solo 5 (.clientStatus ⟨1, 1, "t", .idle⟩)]).state
    (s.dormantSince.isSome = true ↔ NoneActive s) ∧
      ∀ t, s.dormantSince = some t → ∃ e, EnteredBy 0 soloConfig journal e ∧ e.time = t :=
  dormancy_exact ⟨_, List.mem_cons_self, rfl⟩

/-! ### Timers -/

def LifecycleEvent.cutsOff : LifecycleEvent → Bool
  | .clientRemoved _ | .challengeTerminated => true
  | _ => false

lemma cutsOff_of_deadline {s : ChallengeState} {d : Deadline} {e : LifecycleEvent}
    (he : e ∈ deadlineFired s config d) (hcut : e.cutsOff = true) :
    lifecycleDeadline s config = some d ∧ d.kind ≠ .stageEnd := by
  unfold deadlineFired at he
  split_ifs at he with h
  · cases he
  rcases nextDeadline_cases (not_not.mp h) with hl | hp
  · refine ⟨hl, fun hk => ?_⟩
    rw [hk] at he
    rw [List.mem_singleton.mp he] at hcut
    cases hcut
  · -- the pipeline's deadlines only start and give up attempts
    obtain ⟨run, hrun, ⟨hk, -⟩ | ⟨hk, -⟩⟩ := processingDeadline_cases hp
    all_goals
      simp only [hk, hrun] at he
      rw [List.mem_singleton.mp he] at hcut
      cases hcut

lemma dormant_of_deadline {s : ChallengeState} {d : Deadline} (hphase : s.phase.phase = .active)
    (h : lifecycleDeadline s config = some d) (hk : d.kind ≠ .stageEnd) :
    ∃ since, s.dormantSince = some since ∧ d.time = Timestamp.add since
      (if s.clients.isEmpty then config.reconnectionWindow else config.inactivityTimeout) := by
  unfold lifecycleDeadline at h
  by_cases ht : s.terminated = true
  · simp [ht] at h
  rw [if_neg ht] at h
  split at h
  · cases h
    exact absurd rfl hk
  · split at h
    · rename_i hp
      rw [hp] at hphase
      cases hphase
    · obtain ⟨since, hsince, rfl⟩ := Option.map_eq_some_iff.mp h
      refine ⟨since, hsince, ?_⟩
      split_ifs <;> rfl

/-- **A timer cuts no active client off.** A deadline of an active challenge removes clients or ends
it only when none is active, at the time their reconnection or inactivity window runs out, counted
from the entry with which they came to be as dormant as they are. -/
theorem timer_spares_active {is : List Input} (h : Created config uuid is) {d : Deadline}
    {e : LifecycleEvent}
    (hphase : ((machine config).run (Actor.new uuid config) is).state.phase.phase = .active)
    (he : e ∈ deadlineFired ((machine config).run (Actor.new uuid config) is).state config d)
    (hcut : e.cutsOff = true) :
    let journal := (machine config).journal (Actor.new uuid config) is
    let s := ((machine config).run (Actor.new uuid config) is).state
    NoneActive s ∧ ∃ entered, EnteredBy uuid config journal entered ∧
      d.time = Timestamp.add entered.time
        (if s.clients.isEmpty then config.reconnectionWindow else config.inactivityTimeout) := by
  intro journal s
  have hload : (Actor.load uuid config journal).state = s := by
    rw [load_eq_fold, Machine.fold_journal]
  obtain ⟨hactive, hdormant⟩ : DormancyTracked uuid config journal :=
    dormancyTracked_load journal (by rw [hload]; exact recordedBy_of_created h)
  rw [hload] at hactive hdormant
  obtain ⟨hl, hk⟩ := cutsOff_of_deadline he hcut
  obtain ⟨since, hsince, htime⟩ := dormant_of_deadline hphase hl hk
  have hnone : NoneActive s := by
    by_contra hact
    cases (hactive hact).symm.trans hsince
  obtain ⟨entered, hentered, heq⟩ := hdormant hnone
  cases heq.symm.trans hsince
  exact ⟨hnone, entered, hentered, htime⟩

/-- The only client starts a challenge that is not processed, and goes idle for good. -/
theorem timer_spares_active_solo :
    let config : LifecycleConfig := ⟨10, 10, 10, 20, 0, 10, 10, 2, 10⟩
    let is := [soloCreate, solo 5 (.clientStatus ⟨1, 1, "t", .idle⟩)]
    let s := ((machine config).run (Actor.new 0 config) is).state
    NoneActive s ∧ ∃ entered,
      EnteredBy 0 config ((machine config).journal (Actor.new 0 config) is) entered ∧
      25 = Timestamp.add entered.time (if s.clients.isEmpty then 10 else 20) :=
  timer_spares_active (d := ⟨.cleanupAllIdle, 25⟩) (e := .challengeTerminated)
    ⟨_, List.mem_cons_self, rfl⟩ rfl (by decide) rfl

end Blert.Lifecycle

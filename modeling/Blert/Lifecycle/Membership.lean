import Blert.Lifecycle.Actor

/-!
What a client that is not a member can do to a challenge.

Updates, status changes and finishes are looked up by their client, and those of a stranger are
ignored. The exception is an update that reports no stage: its mode and party are taken before
anyone asks who sent it.
-/

namespace Blert.Lifecycle

variable {config : LifecycleConfig}

/-- The client an update, a status change or a finish is from. -/
def Command.sender : Command → Option ClientId
  | .update u => some u.clientId
  | .clientStatus c => some c.clientId
  | .finish f => some f.clientId
  | _ => none

def bringsMode (s : ChallengeState) (u : Update) : Bool :=
  u.mode.any fun mode => mode ≠ .noMode && mode ≠ s.mode

def bringsParty (s : ChallengeState) (u : Update) : Bool :=
  u.party.any fun party => party ≠ [] && !s.partyChanged && membersChanged party s.party

/-- An update that reports no stage, yet sets the mode or the party. -/
def setsUnasked (s : ChallengeState) (cmd : Command) : Bool :=
  match cmd with
  | .update u => !s.terminated && u.stage.isNone && (bringsMode s u || bringsParty s u)
  | _ => false

/-- The input is answered with nothing, and the challenge is exactly as before. -/
def Ignored (config : LifecycleConfig) (a : Actor) (i : Input) : Prop :=
  (machine config).decide a i = [] ∧ (machine config).step a i = a

lemma modeEvents_eq_nil {s : ChallengeState} {u : Update} :
    modeEvents s u = [] ↔ bringsMode s u = false := by
  unfold modeEvents bringsMode
  cases u.mode with
  | none => simp
  | some mode => by_cases h : mode ≠ .noMode ∧ mode ≠ s.mode <;> simp_all

lemma partyEvents_eq_nil {s : ChallengeState} {u : Update} :
    partyEvents s u = [] ↔ bringsParty s u = false := by
  unfold partyEvents bringsParty
  cases u.party with
  | none => simp
  | some party =>
    by_cases h : party ≠ [] ∧ ¬ s.partyChanged ∧ membersChanged party s.party <;> simp_all

lemma ignored_iff {a : Actor} {i : Input} :
    Ignored config a i ↔ decide a.state config i.cmd = [] := by
  have hdec : (machine config).decide a i =
      stamp a.nextSeq i.time i.cause (decide a.state config i.cmd) := rfl
  unfold Ignored Machine.step
  rw [hdec, stamp_eq_nil]
  refine ⟨fun h => h.1, fun h => ⟨h, ?_⟩⟩
  rw [h, stamp_nil, Machine.fold_nil]

lemma update_stranger {s : ChallengeState} {u : Update} (h : s.clients.get u.clientId = none) :
    update s u = [] ↔ (u.stage.isNone && (bringsMode s u || bringsParty s u)) = false := by
  unfold update
  cases hu : u.stage with
  | none =>
    dsimp only
    rw [List.append_eq_nil_iff, modeEvents_eq_nil, partyEvents_eq_nil]
    simp
  | some progress => simp [h]

/-- **What a stranger can do.** Whatever the state of a challenge, an update, a status change or
a finish from a client that is not among its clients is ignored if and only if it is no update
that reports no stage and brings a mode or a party. -/
theorem stranger_ignored {a : Actor} {i : Input} {id : ClientId} (hi : i.cmd.sender = some id)
    (hid : a.state.clients.contains id = false) :
    Ignored config a i ↔ setsUnasked a.state i.cmd = false := by
  have hget : a.state.clients.get id = none := by
    by_contra hne
    rw [OrdMap.contains_iff.mpr (Option.ne_none_iff_exists'.mp hne)] at hid
    cases hid
  rw [ignored_iff]
  unfold decide setsUnasked
  cases hc : i.cmd with
  | update u =>
    rw [hc] at hi
    cases hi
    dsimp only
    cases ht : a.state.terminated with
    | true => simp
    | false => simpa using update_stranger hget
  | clientStatus c =>
    rw [hc] at hi
    cases hi
    simp [clientStatus, hget]
  | finish f =>
    rw [hc] at hi
    cases hi
    simp [finish, hget]
  | _ => rw [hc] at hi; cases hi

/-- An update from a client that never joined. -/
def strangerUpdate (mode : Option ChallengeMode) (stage : Option StageProgress) : Input :=
  solo 2 <| .update
    { userId := 2, clientId := 2, sessionToken := "u", mode, stage, party := none }

/-- A stranger's stage report is ignored, its mode included. -/
theorem stranger_ignored_stage :
    let a := (machine soloConfig).run (Actor.new 0 soloConfig) [soloCreate]
    let i := strangerUpdate (some .tobHard) (some ⟨Stage.tobMaiden, .started⟩)
    Ignored soloConfig a i ↔ setsUnasked a.state i.cmd = false :=
  stranger_ignored rfl (by decide)

/-- A stranger sets the mode of a challenge that another client started. -/
theorem stranger_sets_mode :
    let a := (machine soloConfig).run (Actor.new 0 soloConfig) [soloCreate]
    let i := strangerUpdate (some .tobHard) none
    i.cmd.sender = some 2 ∧ a.state.clients.contains 2 = false ∧
      ((machine soloConfig).decide a i).map (·.event) = [.modeChanged .tobHard] ∧
      a.state.mode = .tobRegular ∧ ((machine soloConfig).step a i).state.mode = .tobHard ∧
      ¬ Ignored soloConfig a i := by
  refine ⟨rfl, by decide, by decide, by decide, by decide, fun h => ?_⟩
  have hdec := h.1
  revert hdec
  decide

end Blert.Lifecycle

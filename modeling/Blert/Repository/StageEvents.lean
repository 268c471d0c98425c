import Blert.Blobs
import Blert.Fallible
import Blert.Merging.Event

/-!
Stored stage events.

Events travel with the names of players and are stored with their indices in the party. Two
implementations write and read the same files. What else an event, a player and an attack hold is
carried along.
-/

namespace Blert.Repository

open Fallible
open Lifecycle (Stage)
open Merging (EventType)

variable {ρ π ν B : Type}

/-! ### Messages -/

structure Player (π : Type) where
  name : String
  partyIndex : ℕ
  rest : π
  deriving DecidableEq

instance [Inhabited π] : Inhabited (Player π) := ⟨⟨"", 0, default⟩⟩

structure NpcAttacked (ν : Type) where
  target : Option String
  rest : ν
  deriving DecidableEq

structure Event (ρ π ν : Type) where
  challengeId : String
  type : EventType
  player : Option (Player π)
  npcAttack : Option (NpcAttacked ν)
  rest : ρ
  deriving DecidableEq

structure ChallengeEvents (ρ π ν : Type) where
  events : List (Event ρ π ν)
  stage : Stage
  partyNames : List String

/-! ### Paths -/

/-- The path of a challenge file, by the text of the challenge's uuid. -/
def relativePath (uuid file : String) : String :=
  String.ofList (uuid.toList.take 2) ++ "/" ++ String.ofList (uuid.toList.filter (· ≠ '-')) ++
    "/" ++ file

/-- A file name with the attempt at a stage, if it has one. -/
def withAttempt (attempt : Option ℕ) (name : String) : String :=
  match attempt with
  | some attempt => s!"{name}:{attempt}"
  | none => name

/-! ### The events processor -/

namespace Harder

inductive Error
  | unsupportedStage (stage : Stage)
  | notFound (path : String)
  | decode

/-- The name of a stage's file, without the attempt. -/
def stageName (stage : Stage) : Except Error String :=
  if stage = Stage.tobMaiden then .ok "maiden"
  else if stage = Stage.tobBloat then .ok "bloat"
  else if stage = Stage.tobNylocas then .ok "nylocas"
  else if stage = Stage.tobSotetseg then .ok "sotetseg"
  else if stage = Stage.tobXarpus then .ok "xarpus"
  else if stage = Stage.tobVerzik then .ok "verzik"
  else if stage = Stage.mokhaiotlDelve8plus then .ok "delve-8plus"
  else if 50 ≤ stage.value ∧ stage.value ≤ 57 then .ok s!"delve-{stage.value - 50 + 1}"
  else if 100 ≤ stage.value ∧ stage.value ≤ 111 then .ok s!"wave-{stage.value - 100 + 1}"
  else if 200 ≤ stage.value ∧ stage.value ≤ 268 then .ok s!"wave-{stage.value - 200 + 1}"
  else .error (.unsupportedStage stage)

/-- The basename of the file storing a stage's events. -/
def fileForStage (stage : Stage) (attempt : Option ℕ) : Except Error String :=
  (stageName stage).map (withAttempt attempt)

def partyIndex (party : List String) (name : String) : Option ℕ := party.findIdx? (· = name)

/-- Reduces a player to their index in the party. -/
def storePlayer (party : List String) (event : Event ρ π ν) : Event ρ π ν :=
  match event.player with
  | some player =>
    match partyIndex party player.name with
    | some index => { event with player := some { player with partyIndex := index, name := "" } }
    | none => event
  | none => event

/-- Stores the target of an NPC's attack as a player. -/
def storeTarget [Inhabited π] (party : List String) (event : Event ρ π ν) : Event ρ π ν :=
  if event.type = .npcAttack then
    match event.npcAttack with
    | some npcAttack =>
      match npcAttack.target with
      | some target =>
        let player : Player π := match partyIndex party target with
          | some index => { (default : Player π) with partyIndex := index }
          | none => default
        { event with npcAttack := some { npcAttack with target := none }, player := some player }
      | none => event
    | none => event
  else event

def storeEvent [Inhabited π] (party : List String) (event : Event ρ π ν) : Event ρ π ν :=
  storeTarget party (storePlayer party { event with challengeId := "" })

def saveStageEvents [Inhabited π] (codec : Codec (ChallengeEvents ρ π ν) B) (s : Blobs B)
    (uuid : String) (stage : Stage) (attempt : Option ℕ) (party : List String)
    (events : List (Event ρ π ν)) : Except Error (Blobs B) := do
  let file ← fileForStage stage attempt
  return s.write (relativePath uuid file)
    (codec.encode ⟨events.map (storeEvent party), stage, party⟩)

/-- Gives a player without a name the name at their index. -/
def restorePlayer (party : List String) (event : Event ρ π ν) : Event ρ π ν :=
  match event.player with
  | some player =>
    if player.name = "" then
      { event with player := some { player with name := (party[player.partyIndex]?).getD "" } }
    else event
  | none => event

/-- Makes the player stored with an NPC's attack its target. -/
def restoreTarget (event : Event ρ π ν) : Event ρ π ν :=
  if event.type = .npcAttack then
    match event.player with
    | some player =>
      match event.npcAttack with
      | some npcAttack =>
        { event with
          player := none
          npcAttack := some { npcAttack with target := some player.name } }
      | none => { event with player := none }
    | none => event
  else event

def restoreEvent (party : List String) (event : Event ρ π ν) : Event ρ π ν :=
  restoreTarget (restorePlayer party event)

def loadStageEvents (codec : Codec (ChallengeEvents ρ π ν) B) (s : Blobs B) (uuid : String)
    (stage : Stage) (attempt : Option ℕ) : Except Error (List (Event ρ π ν)) := do
  let file ← fileForStage stage attempt
  match s.read (relativePath uuid file) with
  | none => .error (.notFound (relativePath uuid file))
  | some data =>
    match codec.decode data with
    | none => .error .decode
    | some contents => .ok (contents.events.map (restoreEvent contents.partyNames))

end Harder

/-! ### The common data repository -/

namespace Common

inductive Error
  | invalidStage (stage : Stage)
  | notFound (which : String)
  | typeError

/-- The name of a stage's file, without the attempt, other than for a wave of the Inferno. -/
def stageName (stage : Stage) : Except Error String :=
  if stage = Stage.tobMaiden then .ok "maiden"
  else if stage = Stage.tobBloat then .ok "bloat"
  else if stage = Stage.tobNylocas then .ok "nylocas"
  else if stage = Stage.tobSotetseg then .ok "sotetseg"
  else if stage = Stage.tobXarpus then .ok "xarpus"
  else if stage = Stage.tobVerzik then .ok "verzik"
  else if 100 ≤ stage.value ∧ stage.value ≤ 111 then .ok s!"wave-{stage.value - 100 + 1}"
  else if 50 ≤ stage.value ∧ stage.value ≤ 57 then .ok s!"delve-{stage.value - 50 + 1}"
  else if stage = Stage.mokhaiotlDelve8plus then .ok "delve-8plus"
  else .error (.invalidStage stage)

/-- The basename of the file in which a stage's events are stored. -/
def fileForStage (stage : Stage) (attempt : Option ℕ) : Except Error String :=
  if 200 ≤ stage.value ∧ stage.value ≤ 268 then .ok s!"wave-{stage.value - 200 + 1}"
  else (stageName stage).map (withAttempt attempt)

def indexOf (party : List String) (name : String) : ℤ :=
  match party.findIdx? (· = name) with
  | some index => index
  | none => -1

def storePlayer (party : List String) (e : Event ρ π ν) : Event ρ π ν :=
  match e.player with
  | some player =>
    if indexOf party player.name ≠ -1 then
      let index := (indexOf party player.name).toNat
      { e with player := some { player with partyIndex := index, name := "" } }
    else e
  | none => e

/-- Replaces the target of NPC attacks with the party index. -/
def storeTarget [Inhabited π] (party : List String) (e : Event ρ π ν) :
    Except Error (Event ρ π ν) :=
  if e.type = .npcAttack then
    match e.npcAttack with
    | none => .error .typeError
    | some npcAttack =>
      match npcAttack.target with
      | some target =>
        let player : Player π :=
          if indexOf party target ≠ -1 then
            { (default : Player π) with partyIndex := (indexOf party target).toNat }
          else default
        .ok { e with npcAttack := some { npcAttack with target := none }, player := some player }
      | none => .ok e
  else .ok e

/-- Translates an event from its over-the-wire format to an at-rest format. -/
def storeEvent [Inhabited π] (party : List String) (e : Event ρ π ν) :
    Except Error (Event ρ π ν) :=
  storeTarget party (storePlayer party { e with challengeId := "" })

def saveProtoStageEvents [Inhabited π] (codec : Codec (ChallengeEvents ρ π ν) B) (s : Blobs B)
    (uuid : String) (stage : Stage) (party : List String) (events : List (Event ρ π ν))
    (attempt : Option ℕ) : Except Error (Blobs B) := do
  let stored ← events.mapM (storeEvent party)
  let file ← fileForStage stage attempt
  return s.write (relativePath uuid file) (codec.encode ⟨stored, stage, party⟩)

/-- Resolves an index to a name. A setter leaves out what is undefined. -/
def restorePlayer (party : List String) (e : Event ρ π ν) : Event ρ π ν :=
  match e.player with
  | some player =>
    if player.name = "" then
      match party[player.partyIndex]? with
      | some name => { e with player := some { player with name } }
      | none => { e with player := some { player with name := "" } }
    else e
  | none => e

/-- Moves the target of an NPC attack back to it. -/
def restoreTarget (e : Event ρ π ν) : Except Error (Event ρ π ν) :=
  match decide (e.type = .npcAttack), e.player with
  | true, some player =>
    match e.npcAttack with
    | none => .error .typeError
    | some npcAttack =>
      .ok
        { e with
          npcAttack := some { npcAttack with target := some player.name }
          player := none }
  | _, _ => .ok e

def restoreEvent (party : List String) (e : Event ρ π ν) : Except Error (Event ρ π ν) :=
  restoreTarget (restorePlayer party e)

def loadStageEvents (codec : Codec (ChallengeEvents ρ π ν) B) (s : Blobs B) (uuid : String)
    (stage : Stage) (attempt : Option ℕ) : Except Error (List (Event ρ π ν)) := do
  let file ← fileForStage stage attempt
  match (s.read (relativePath uuid file)).bind codec.decode with
  | none => .error (.notFound s!"{uuid}/{file}")
  | some protoEvents => protoEvents.events.mapM (restoreEvent protoEvents.partyNames)

end Common

/-! ### One event -/

/-- An event with its challenge id cleared and the index of its player filled in. -/
def restored (party : List String) (e : Event ρ π ν) : Event ρ π ν :=
  { e with
    challengeId := ""
    player := e.player.map fun player =>
      { player with partyIndex := party.findIdx (· = player.name) } }

/-- An NPC's attack that has no player of its own, and a party member as its target if it has
one. An empty party stands for the target without a name. -/
def Restorable (party : List String) (e : Event ρ π ν) : Prop :=
  e.type = .npcAttack → e.player = none ∧ ∀ npcAttack, e.npcAttack = some npcAttack →
    ∀ target, npcAttack.target = some target → target ∈ party ∨ party = [] ∧ target = ""

/-- Players are party members, and an attack of an NPC says what the attack is. -/
structure WellFormed (party : List String) (e : Event ρ π ν) : Prop where
  player : ∀ player, e.player = some player → player.name ∈ party
  npcAttack : e.type = .npcAttack → e.npcAttack.isSome

lemma partyIndex_of_mem {party : List String} {name : String} (h : name ∈ party) :
    Harder.partyIndex party name = some (party.findIdx (· = name)) ∧
      party[party.findIdx (· = name)]? = some name := by
  have hlt : party.findIdx (· = name) < party.length :=
    List.findIdx_lt_length_of_exists ⟨name, h, by simp⟩
  refine ⟨List.findIdx?_eq_some_of_exists ⟨name, h, by simp⟩, ?_⟩
  rw [List.getElem?_eq_getElem hlt]
  exact congrArg some (of_decide_eq_true (List.findIdx_getElem (w := hlt)))

lemma partyIndex_of_not_mem {party : List String} {name : String} (h : name ∉ party) :
    Harder.partyIndex party name = none :=
  List.findIdx?_eq_none_iff.mpr fun x hx => by
    rw [decide_eq_false_iff_not]
    rintro rfl
    exact h hx

lemma storePlayer_wellFormed {party : List String} {e : Event ρ π ν}
    (h : ∀ player, e.player = some player → player.name ∈ party) :
    Harder.storePlayer party e = { e with player := e.player.map fun player =>
      { player with partyIndex := party.findIdx (· = player.name), name := "" } } := by
  obtain ⟨challengeId, type, player, npcAttack, rest⟩ := e
  cases player with
  | none => rfl
  | some player =>
    unfold Harder.storePlayer
    dsimp only
    rw [(partyIndex_of_mem (h player rfl)).1]
    rfl

lemma restorePlayer_storePlayer {party : List String} {e : Event ρ π ν}
    (h : ∀ player, e.player = some player → player.name ∈ party) :
    Harder.restorePlayer party (Harder.storePlayer party { e with challengeId := "" }) =
      restored party e := by
  rw [storePlayer_wellFormed (by exact h)]
  cases hp : e.player with
  | none => simp [Harder.restorePlayer, restored, hp]
  | some player =>
    have hname := (partyIndex_of_mem (h player hp)).2
    simp [Harder.restorePlayer, restored, hp, hname]

@[simp] lemma storePlayer_type (party : List String) (e : Event ρ π ν) :
    (Harder.storePlayer party e).type = e.type := by
  unfold Harder.storePlayer
  split <;> [split; skip] <;> rfl

@[simp] lemma storePlayer_npcAttack (party : List String) (e : Event ρ π ν) :
    (Harder.storePlayer party e).npcAttack = e.npcAttack := by
  unfold Harder.storePlayer
  split <;> [split; skip] <;> rfl

lemma storeTarget_of_target [Inhabited π] {party : List String} {e : Event ρ π ν}
    {npcAttack : NpcAttacked ν} {target : String} (htype : e.type = .npcAttack)
    (ha : e.npcAttack = some npcAttack) (ht : npcAttack.target = some target) :
    Harder.storeTarget party e =
      { e with
        npcAttack := some { npcAttack with target := none }
        player := some { (default : Player π) with
          partyIndex := (Harder.partyIndex party target).getD 0 } } := by
  unfold Harder.storeTarget
  simp only [if_pos htype, ha, ht]
  cases hindex : Harder.partyIndex party target <;> rfl

lemma storeTarget_of_none [Inhabited π] {party : List String} {e : Event ρ π ν}
    (h : e.type = .npcAttack → ∀ npcAttack, e.npcAttack = some npcAttack →
      npcAttack.target = none) : Harder.storeTarget party e = e := by
  unfold Harder.storeTarget
  split_ifs with htype
  · cases ha : e.npcAttack with
    | none => rfl
    | some npcAttack =>
      dsimp only
      rw [h htype npcAttack ha]
  · rfl

/-- The name that a target is read back as. -/
def readTarget (party : List String) (target : String) : String :=
  (party[(Harder.partyIndex party target).getD 0]?).getD ""

lemma readTarget_eq {party : List String} {target : String} :
    readTarget party target = target ↔ target ∈ party ∨ party = [] ∧ target = "" := by
  unfold readTarget
  by_cases hmem : target ∈ party
  · obtain ⟨hindex, hget⟩ := partyIndex_of_mem hmem
    rw [hindex, Option.getD_some, hget]
    simp [hmem]
  · rw [partyIndex_of_not_mem hmem]
    cases party with
    | nil => simp [eq_comm]
    | cons first party =>
      simp only [Option.getD_none, List.getElem?_cons_zero, Option.getD_some]
      constructor
      · rintro rfl
        exact absurd List.mem_cons_self hmem
      · rintro (h | ⟨h, -⟩)
        · exact absurd h hmem
        · cases h

lemma restoreEvent_storeEvent [Inhabited π] {party : List String} {e : Event ρ π ν}
    (h : WellFormed party e) :
    Harder.restoreEvent party (Harder.storeEvent party e) = restored party e ↔
      Restorable party e := by
  have hplayer := restorePlayer_storePlayer h.player
  by_cases htype : e.type = .npcAttack
  · obtain ⟨npcAttack, ha⟩ := Option.isSome_iff_exists.mp (h.npcAttack htype)
    cases ht : npcAttack.target with
    | none =>
      -- without a target, a player of the attack becomes one
      have hstore : Harder.storeEvent party e =
          Harder.storePlayer party { e with challengeId := "" } :=
        storeTarget_of_none fun _ a hea => by
          rw [storePlayer_npcAttack] at hea
          rw [← Option.some.inj (ha.symm.trans hea), ht]
      rw [hstore, Harder.restoreEvent, hplayer, Harder.restoreTarget,
        if_pos (show (restored party e).type = .npcAttack from htype)]
      cases hp : e.player with
      | none =>
        have hnone : (restored party e).player = none := by simp [restored, hp]
        rw [hnone]
        refine iff_of_true rfl fun _ => ⟨hp, fun a hea target hat => ?_⟩
        rw [← Option.some.inj (ha.symm.trans hea), ht] at hat
        cases hat
      | some player =>
        have hsome : (restored party e).player = some { player with
            partyIndex := party.findIdx (· = player.name) } := by simp [restored, hp]
        have hattack : (restored party e).npcAttack = some npcAttack := ha
        rw [hsome, hattack]
        refine iff_of_false (fun heq => ?_) fun hr => ?_
        · have hnone := congrArg Event.player heq
          rw [hsome] at hnone
          cases hnone
        · have hnone := (hr htype).1
          rw [hp] at hnone
          cases hnone
    | some target =>
      have hstore : Harder.storeEvent party e = _ :=
        storeTarget_of_target (by rw [storePlayer_type]; exact htype)
          (by rw [storePlayer_npcAttack]; exact ha) ht
      have hload : Harder.restoreEvent party (Harder.storeEvent party e) =
          { e with
            challengeId := ""
            player := none
            npcAttack := some { npcAttack with target := some (readTarget party target) } } := by
        have hbefore : Harder.storePlayer party { e with challengeId := "" } =
            { Harder.storePlayer party { e with challengeId := "" } with
              challengeId := "", type := e.type, npcAttack := e.npcAttack, rest := e.rest } := by
          rw [storePlayer_wellFormed (by exact h.player)]
        rw [hstore, hbefore]
        simp [Harder.restoreEvent, Harder.restorePlayer, Harder.restoreTarget, htype, readTarget,
          show (default : Player π).name = "" from rfl]
      rw [hload]
      constructor
      · intro heq
        refine fun _ => ⟨?_, fun a hea target' hat => ?_⟩
        · have hnone := congrArg Event.player heq
          simpa [restored] using hnone.symm
        · have hattack := congrArg Event.npcAttack heq
          simp only [restored, ha, Option.some.injEq] at hattack
          have hname := congrArg NpcAttacked.target hattack
          rw [ht] at hname
          obtain rfl : npcAttack = a := Option.some.inj (ha.symm.trans hea)
          rw [ht] at hat
          cases hat
          exact readTarget_eq.1 (Option.some.inj hname)
      · intro hr
        obtain ⟨hp, htarget⟩ := hr htype
        have hname := readTarget_eq.2 (htarget npcAttack ha target ht)
        have hattack : ({ npcAttack with target := some target } : NpcAttacked ν) = npcAttack := by
          rw [← ht]
        rw [hname, hattack, ← ha, restored, hp]
        rfl
  · have hstore : Harder.storeEvent party e =
        Harder.storePlayer party { e with challengeId := "" } :=
      storeTarget_of_none fun hnpc => absurd (by simpa using hnpc) htype
    rw [hstore, Harder.restoreEvent, hplayer, Harder.restoreTarget,
      if_neg (show ¬ (restored party e).type = .npcAttack from htype)]
    exact iff_of_true rfl fun hnpc => absurd hnpc htype

/-! ### The two implementations -/

lemma indexOf_of_some {party : List String} {name : String} {index : ℕ}
    (h : Harder.partyIndex party name = some index) :
    Common.indexOf party name ≠ -1 ∧ (Common.indexOf party name).toNat = index := by
  have hindex : Common.indexOf party name = index := by
    unfold Common.indexOf
    rw [show party.findIdx? (· = name) = some index from h]
  rw [hindex]
  omega

lemma indexOf_of_none {party : List String} {name : String}
    (h : Harder.partyIndex party name = none) : ¬ Common.indexOf party name ≠ -1 := by
  unfold Common.indexOf
  rw [show party.findIdx? (· = name) = none from h]
  exact not_not.mpr rfl

lemma common_storePlayer (party : List String) (e : Event ρ π ν) :
    Common.storePlayer party e = Harder.storePlayer party e := by
  unfold Common.storePlayer Harder.storePlayer
  cases e.player with
  | none => rfl
  | some player =>
    cases hindex : Harder.partyIndex party player.name with
    | none => simp only [if_neg (indexOf_of_none hindex), hindex]
    | some index =>
      obtain ⟨hne, htoNat⟩ := indexOf_of_some hindex
      simp only [if_pos hne, htoNat, hindex]

lemma common_storeTarget [Inhabited π] {party : List String} {e : Event ρ π ν}
    (h : e.type = .npcAttack → e.npcAttack.isSome) :
    Common.storeTarget party e = .ok (Harder.storeTarget party e) := by
  by_cases htype : e.type = .npcAttack
  · obtain ⟨npcAttack, ha⟩ := Option.isSome_iff_exists.mp (h htype)
    cases ht : npcAttack.target with
    | none =>
      rw [storeTarget_of_none fun _ a hea => by rw [← Option.some.inj (ha.symm.trans hea), ht]]
      simp only [Common.storeTarget, if_pos htype, ha, ht]
    | some target =>
      rw [storeTarget_of_target htype ha ht]
      simp only [Common.storeTarget, if_pos htype, ha, ht]
      cases hindex : Harder.partyIndex party target with
      | none =>
        rw [if_neg (indexOf_of_none hindex)]
        rfl
      | some index =>
        obtain ⟨hne, htoNat⟩ := indexOf_of_some hindex
        rw [if_pos hne, htoNat]
        rfl
  · rw [storeTarget_of_none fun hnpc => absurd hnpc htype]
    simp only [Common.storeTarget, if_neg htype]

lemma common_storeEvent [Inhabited π] {party : List String} {e : Event ρ π ν}
    (h : e.type = .npcAttack → e.npcAttack.isSome) :
    Common.storeEvent party e = .ok (Harder.storeEvent party e) := by
  unfold Common.storeEvent
  rw [common_storePlayer]
  exact common_storeTarget (by simpa using h)

lemma common_restorePlayer (party : List String) (e : Event ρ π ν) :
    Common.restorePlayer party e = Harder.restorePlayer party e := by
  unfold Common.restorePlayer Harder.restorePlayer
  cases e.player with
  | none => rfl
  | some player =>
    dsimp only
    cases party[player.partyIndex]? <;> rfl

@[simp] lemma restorePlayer_type (party : List String) (e : Event ρ π ν) :
    (Harder.restorePlayer party e).type = e.type := by
  unfold Harder.restorePlayer
  split <;> [split; skip] <;> rfl

@[simp] lemma restorePlayer_npcAttack (party : List String) (e : Event ρ π ν) :
    (Harder.restorePlayer party e).npcAttack = e.npcAttack := by
  unfold Harder.restorePlayer
  split <;> [split; skip] <;> rfl

lemma common_restoreEvent {party : List String} {e : Event ρ π ν}
    (h : e.type = .npcAttack → e.npcAttack.isSome) :
    Common.restoreEvent party e = .ok (Harder.restoreEvent party e) := by
  unfold Common.restoreEvent Harder.restoreEvent
  rw [common_restorePlayer]
  unfold Common.restoreTarget Harder.restoreTarget
  rw [restorePlayer_type, restorePlayer_npcAttack]
  by_cases htype : e.type = .npcAttack
  · obtain ⟨npcAttack, ha⟩ := Option.isSome_iff_exists.mp (h htype)
    simp only [htype, ha, decide_true, if_true]
    cases (Harder.restorePlayer party e).player <;> rfl
  · simp [htype]

lemma storeEvent_npcAttack [Inhabited π] {party : List String} {e : Event ρ π ν}
    (h : e.type = .npcAttack → e.npcAttack.isSome)
    (hstored : (Harder.storeEvent party e).type = .npcAttack) :
    (Harder.storeEvent party e).npcAttack.isSome := by
  unfold Harder.storeEvent at hstored ⊢
  set e' := Harder.storePlayer party { e with challengeId := "" } with he'
  have htype : e'.type = e.type := storePlayer_type _ _
  have hattack : e'.npcAttack = e.npcAttack := storePlayer_npcAttack _ _
  by_cases hsome : ∃ a t, e'.type = .npcAttack ∧ e'.npcAttack = some a ∧ a.target = some t
  · obtain ⟨a, t, hnpc, ha, ht⟩ := hsome
    rw [storeTarget_of_target hnpc ha ht]
    rfl
  · have hsame : Harder.storeTarget party e' = e' := storeTarget_of_none fun hnpc a ha => by
      cases ht : a.target with
      | none => rfl
      | some t => exact absurd ⟨a, t, hnpc, ha, ht⟩ hsome
    rw [hsame] at hstored ⊢
    rw [hattack]
    exact h (htype.symm.trans hstored)

lemma stageName_agree {stage : Stage} (h : ¬ (200 ≤ stage.value ∧ stage.value ≤ 268))
    (name : String) :
    Harder.stageName stage = .ok name ↔ Common.stageName stage = .ok name := by
  by_cases h8plus : stage = Stage.mokhaiotlDelve8plus
  · subst h8plus
    have hharder : Harder.stageName Stage.mokhaiotlDelve8plus = .ok "delve-8plus" := rfl
    have hcommon : Common.stageName Stage.mokhaiotlDelve8plus = .ok "delve-8plus" := rfl
    rw [hharder, hcommon, Except.ok.injEq, Except.ok.injEq]
  unfold Harder.stageName Common.stageName
  rw [if_neg h8plus, if_neg h8plus, if_neg h]
  by_cases hdelve : 50 ≤ stage.value ∧ stage.value ≤ 57
  · have hwave : ¬ (100 ≤ stage.value ∧ stage.value ≤ 111) := by omega
    rw [if_pos hdelve, if_neg hwave, if_pos hdelve]
    split_ifs <;> simp
  · rw [if_neg hdelve, if_neg hdelve]
    split_ifs <;> simp

lemma fileForStage_agree {stage : Stage} {attempt : Option ℕ}
    (hattempt : attempt.isSome → stage.isRetriable) {file : String} :
    Harder.fileForStage stage attempt = .ok file ↔
      Common.fileForStage stage attempt = .ok file := by
  unfold Harder.fileForStage Common.fileForStage
  by_cases hinferno : 200 ≤ stage.value ∧ stage.value ≤ 268
  · have hnone : attempt = none := by
      by_contra hsome
      have hretriable := hattempt (Option.isSome_iff_ne_none.mpr hsome)
      obtain rfl : stage = Stage.mokhaiotlDelve8plus := by
        simpa [Stage.isRetriable] using hretriable
      exact absurd hinferno (by decide)
    have hne : ∀ s : Stage, s.value < 200 → stage ≠ s := by
      rintro s hs rfl
      omega
    have hname : Harder.stageName stage = .ok s!"wave-{stage.value - 200 + 1}" := by
      unfold Harder.stageName
      rw [if_neg (hne _ (by decide)), if_neg (hne _ (by decide)), if_neg (hne _ (by decide)),
        if_neg (hne _ (by decide)), if_neg (hne _ (by decide)), if_neg (hne _ (by decide)),
        if_neg (hne _ (by decide)), if_neg (by omega), if_neg (by omega), if_pos hinferno]
    rw [hname, if_pos hinferno, hnone, map_eq_ok]
    simp [withAttempt]
  · rw [if_neg hinferno, map_eq_ok, map_eq_ok]
    simp only [stageName_agree hinferno]

/-! ### Files -/

section Files

variable [Inhabited π] {codec : Codec (ChallengeEvents ρ π ν) B} {s : Blobs B} {uuid file : String}
  {stage : Stage} {attempt : Option ℕ} {party : List String} {events : List (Event ρ π ν)}

def stored (codec : Codec (ChallengeEvents ρ π ν) B) (s : Blobs B) (uuid file : String)
    (stage : Stage) (party : List String) (events : List (Event ρ π ν)) : Blobs B :=
  s.write (relativePath uuid file)
    (codec.encode ⟨events.map (Harder.storeEvent party), stage, party⟩)

lemma harder_save (hfile : Harder.fileForStage stage attempt = .ok file) :
    Harder.saveStageEvents codec s uuid stage attempt party events =
      .ok (stored codec s uuid file stage party events) := by
  unfold Harder.saveStageEvents
  rw [hfile]
  rfl

lemma common_save (hfile : Common.fileForStage stage attempt = .ok file)
    (hevents : ∀ e ∈ events, WellFormed party e) :
    Common.saveProtoStageEvents codec s uuid stage party events attempt =
      .ok (stored codec s uuid file stage party events) := by
  unfold Common.saveProtoStageEvents
  rw [mapM_eq_ok fun e he => common_storeEvent (hevents e he).npcAttack, hfile]
  rfl

lemma harder_load (hfile : Harder.fileForStage stage attempt = .ok file) :
    Harder.loadStageEvents codec (stored codec s uuid file stage party events) uuid stage attempt =
      .ok (events.map fun e => Harder.restoreEvent party (Harder.storeEvent party e)) := by
  unfold Harder.loadStageEvents stored
  rw [hfile]
  change (match (Blobs.read _ _ : Option B) with
    | none => (_ : Except Harder.Error _)
    | some data => _) = _
  simp only [Blobs.read_write, codec.decode_encode, List.map_map]
  rfl

lemma common_load (hfile : Common.fileForStage stage attempt = .ok file)
    (hevents : ∀ e ∈ events, WellFormed party e) :
    Common.loadStageEvents codec (stored codec s uuid file stage party events) uuid stage attempt =
      .ok (events.map fun e => Harder.restoreEvent party (Harder.storeEvent party e)) := by
  unfold Common.loadStageEvents stored
  rw [hfile]
  change (match (Option.bind (Blobs.read _ _) _ : Option (ChallengeEvents ρ π ν)) with
    | none => (_ : Except Common.Error _)
    | some data => _) = _
  simp only [Blobs.read_write, Option.bind_some, codec.decode_encode]
  have hread : ∀ e ∈ events.map (Harder.storeEvent party),
      Common.restoreEvent party e = .ok (Harder.restoreEvent party e) := by
    intro e he
    obtain ⟨e', he', rfl⟩ := List.mem_map.mp he
    exact common_restoreEvent (storeEvent_npcAttack (hevents e' he').npcAttack)
  rw [mapM_eq_ok hread, List.map_map]
  rfl

end Files

/-- **Stored stage events read back**, exactly if no target of an attack is lost; and each
implementation reads a file as the other does, whichever wrote it. -/
theorem stored_events_read_back [Inhabited π] (codec : Codec (ChallengeEvents ρ π ν) B)
    (s : Blobs B) (uuid file : String) (stage : Stage) (attempt : Option ℕ) (party : List String)
    (events : List (Event ρ π ν)) (hfile : Harder.fileForStage stage attempt = .ok file)
    (hattempt : attempt.isSome → stage.isRetriable)
    (hevents : ∀ e ∈ events, WellFormed party e) :
    (∃ f g, Harder.saveStageEvents codec s uuid stage attempt party events = .ok f ∧
      Common.saveProtoStageEvents codec s uuid stage party events attempt = .ok g ∧
      Harder.loadStageEvents codec f uuid stage attempt = .ok (events.map (restored party)) ∧
      Common.loadStageEvents codec g uuid stage attempt = .ok (events.map (restored party)) ∧
      ∀ h ∈ [f, g], ∃ loaded, Harder.loadStageEvents codec h uuid stage attempt = .ok loaded ∧
        Common.loadStageEvents codec h uuid stage attempt = .ok loaded) ↔
      ∀ e ∈ events, Restorable party e := by
  have hfile' := (fileForStage_agree hattempt).mp hfile
  have hall : (∀ e ∈ events, Restorable party e) ↔
      events.map (fun e => Harder.restoreEvent party (Harder.storeEvent party e)) =
        events.map (restored party) := by
    rw [map_eq_map]
    exact forall₂_congr fun e he => (restoreEvent_storeEvent (hevents e he)).symm
  rw [hall]
  constructor
  · rintro ⟨f, g, hf, -, hload, -⟩
    cases (harder_save hfile).symm.trans hf
    exact Except.ok.inj ((harder_load hfile).symm.trans hload)
  · intro heq
    refine ⟨_, _, harder_save hfile, common_save hfile' hevents, ?_, ?_, fun h hh => ?_⟩
    · rw [harder_load hfile, heq]
    · rw [common_load hfile' hevents, heq]
    · obtain rfl : h = stored codec s uuid file stage party events := by simpa using hh
      exact ⟨_, harder_load hfile, common_load hfile' hevents⟩

section Examples

def plainCodec : Codec (ChallengeEvents Unit Unit Unit) (ChallengeEvents Unit Unit Unit) :=
  ⟨id, some, fun _ => rfl⟩

def duo : List String := ["1Ogp", "WWWWWWWWWWQQ"]

def attackOn (target : String) : Event Unit Unit Unit :=
  ⟨"d6a81e14", .npcAttack, none, some ⟨some target, ()⟩, ()⟩

theorem stored_events_read_back_member :
    ∃ f, Harder.saveStageEvents plainCodec ⟨∅⟩ "d6a81e14" Stage.tobMaiden none duo
        [attackOn "WWWWWWWWWWQQ"] = .ok f ∧
      Harder.loadStageEvents plainCodec f "d6a81e14" Stage.tobMaiden none =
        .ok [{ attackOn "WWWWWWWWWWQQ" with challengeId := "" }] := by
  obtain ⟨f, -, hf, -, hload, -⟩ := (stored_events_read_back plainCodec ⟨∅⟩ "d6a81e14" "maiden"
    Stage.tobMaiden none duo [attackOn "WWWWWWWWWWQQ"] rfl nofun
    (fun e he => by
      obtain rfl := List.mem_singleton.mp he
      exact ⟨nofun, fun _ => rfl⟩)).mpr (fun e he _ => by
      obtain rfl := List.mem_singleton.mp he
      refine ⟨rfl, fun a ha target ht => Or.inl ?_⟩
      cases ha
      cases ht
      decide)
  exact ⟨f, hf, hload⟩

/-- An attack on somebody outside the party is read back as one on its first member. -/
theorem bystander_reads_back_as_member :
    ∃ f, Harder.saveStageEvents plainCodec ⟨∅⟩ "d6a81e14" Stage.tobMaiden none duo
        [attackOn "Bystander"] = .ok f ∧
      Common.saveProtoStageEvents plainCodec ⟨∅⟩ "d6a81e14" Stage.tobMaiden duo
        [attackOn "Bystander"] none = .ok f ∧
      Harder.loadStageEvents plainCodec f "d6a81e14" Stage.tobMaiden none =
        .ok [{ attackOn "1Ogp" with challengeId := "" }] ∧
      Common.loadStageEvents plainCodec f "d6a81e14" Stage.tobMaiden none =
        .ok [{ attackOn "1Ogp" with challengeId := "" }] ∧
      [attackOn "Bystander"].map (restored duo) ≠ [{ attackOn "1Ogp" with challengeId := "" }] :=
  ⟨_, rfl, rfl, rfl, rfl, by decide⟩

end Examples

end Blert.Repository

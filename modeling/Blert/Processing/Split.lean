import Blert.Lifecycle.Types

/-!
Challenge splits.

A split type is identified by its value. The Theatre's splits come in consecutive triples, one
for each mode in the order entry, regular, hard.
-/

namespace Blert.Processing

open Lifecycle

def SplitType.Declared (n : ℕ) : Prop :=
  n ≤ 113 ∨ (150 ≤ n ∧ n ≤ 173) ∨ (200 ≤ n ∧ n ≤ 215) ∨ (220 ≤ n ∧ n ≤ 303)

instance : DecidablePred SplitType.Declared := fun _ => by
  unfold SplitType.Declared; infer_instance

structure SplitType where
  value : ℕ
  declared : SplitType.Declared value

namespace SplitType

lemma value_injective : Function.Injective SplitType.value := by
  rintro ⟨a, _⟩ ⟨b, _⟩ h
  cases h; rfl

instance : DecidableEq SplitType := fun s t =>
  decidable_of_iff (s.value = t.value) value_injective.eq_iff

instance : LinearOrder SplitType := LinearOrder.lift' SplitType.value value_injective

def tobEntryChallenge : SplitType := ⟨0, by decide⟩
def tobEntryOverall : SplitType := ⟨3, by decide⟩
def tobEntryMaiden : SplitType := ⟨6, by decide⟩
def tobEntryMaiden70s : SplitType := ⟨9, by decide⟩
def tobEntryMaiden50s : SplitType := ⟨12, by decide⟩
def tobEntryMaiden30s : SplitType := ⟨15, by decide⟩
def tobEntryMaiden70s50s : SplitType := ⟨18, by decide⟩
def tobEntryMaiden50s30s : SplitType := ⟨21, by decide⟩
def tobEntryMaiden30sEnd : SplitType := ⟨24, by decide⟩
def tobEntryBloat : SplitType := ⟨27, by decide⟩
def tobEntryNyloRoom : SplitType := ⟨30, by decide⟩
def tobEntryNyloCap : SplitType := ⟨33, by decide⟩
def tobEntryNyloWaves : SplitType := ⟨36, by decide⟩
def tobEntryNyloCleanup : SplitType := ⟨39, by decide⟩
def tobEntryNyloBossSpawn : SplitType := ⟨42, by decide⟩
def tobEntryNyloBoss : SplitType := ⟨45, by decide⟩
def tobEntrySotetseg : SplitType := ⟨48, by decide⟩
def tobEntrySotetseg66 : SplitType := ⟨51, by decide⟩
def tobEntrySotetseg33 : SplitType := ⟨54, by decide⟩
def tobEntrySotetsegMaze1 : SplitType := ⟨57, by decide⟩
def tobEntrySotetsegMaze2 : SplitType := ⟨60, by decide⟩
def tobEntrySotetsegP2 : SplitType := ⟨63, by decide⟩
def tobEntrySotetsegP3 : SplitType := ⟨66, by decide⟩
def tobEntryXarpus : SplitType := ⟨69, by decide⟩
def tobEntryXarpusExhumes : SplitType := ⟨72, by decide⟩
def tobEntryXarpusScreech : SplitType := ⟨75, by decide⟩
def tobEntryXarpusP2 : SplitType := ⟨78, by decide⟩
def tobEntryXarpusP3 : SplitType := ⟨81, by decide⟩
def tobEntryVerzikRoom : SplitType := ⟨84, by decide⟩
def tobEntryVerzikP1End : SplitType := ⟨87, by decide⟩
def tobEntryVerzikReds : SplitType := ⟨90, by decide⟩
def tobEntryVerzikP2End : SplitType := ⟨93, by decide⟩
def tobEntryVerzikP2 : SplitType := ⟨96, by decide⟩
def tobEntryVerzikP3 : SplitType := ⟨99, by decide⟩
def tobEntryNyloStart : SplitType := ⟨102, by decide⟩
def tobEntrySotetsegStart : SplitType := ⟨105, by decide⟩
def tobEntryXarpusStart : SplitType := ⟨108, by decide⟩
def tobEntryVerzikStart : SplitType := ⟨111, by decide⟩
def tobHmVerzikStart : SplitType := ⟨113, by decide⟩
def colosseumChallenge : SplitType := ⟨150, by decide⟩
def colosseumWave1 : SplitType := ⟨152, by decide⟩
def colosseumWave3Start : SplitType := ⟨164, by decide⟩
def tryFrom (n : ℤ) : Option SplitType :=
  if h : 0 ≤ n ∧ Declared n.toNat then some ⟨n.toNat, h.2⟩ else none

def isTobSplit (s : SplitType) : Bool :=
  decide (tobEntryChallenge ≤ s ∧ s ≤ tobHmVerzikStart)

lemma isTobSplit_iff (s : SplitType) : s.isTobSplit ↔ s.value ≤ 113 := by
  unfold isTobSplit
  rw [decide_eq_true_iff]
  exact and_iff_right (Nat.zero_le _)

/-- The generic version of a mode-specific split. -/
def generalize (s : SplitType) : SplitType :=
  if h : s.isTobSplit then
    ⟨s.value - s.value % 3, Or.inl (by have := (isTobSplit_iff s).mp h; omega)⟩
  else s

/-- How far a mode's splits are from the generic ones. -/
def modeOffset : ChallengeMode → ℕ
  | .tobRegular => 1
  | .tobHard => 2
  | .noMode | .tobEntry | .coxRegular | .coxChallenge | .toaEntry | .toaNormal | .toaExpert => 0

lemma modeOffset_lt (mode : ChallengeMode) : modeOffset mode < 3 := by
  cases mode <;> decide

lemma generalize_value (s : SplitType) :
    s.generalize.value = if s.isTobSplit then s.value - s.value % 3 else s.value := by
  unfold generalize
  split_ifs <;> rfl

/-- Converts a split type to another mode. Splits that lack modes are returned unchanged. -/
def adjustTo (s : SplitType) (mode : ChallengeMode) : SplitType :=
  if h : s.isTobSplit then
    ⟨s.generalize.value + modeOffset mode, Or.inl (by
      have hle := (isTobSplit_iff s).mp h
      have hlt := modeOffset_lt mode
      rw [generalize_value, if_pos h]
      omega)⟩
  else s

end SplitType

/-- A recorded split whose timer is local to a single stage. -/
structure StageSplit where
  tick : ℕ
  start : ℕ
  /-- The split lasts until the end of its stage. -/
  requiresCompletion : Bool

/-- A recorded split whose timer spans the entire challenge. -/
structure ChallengeSplit where
  ticks : ℕ
  /-- If set, overrides the default challenge accuracy computation. -/
  accurate : Option Bool

structure SavedSplit where
  split : SplitType
  ticks : ℕ
  accurate : Bool

end Blert.Processing

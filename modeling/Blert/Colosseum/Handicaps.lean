import Blert.Colosseum.Processor

/-!
Handicaps of the Colosseum.

The processor keeps the handicaps that have been chosen as a list of leveled ids, and beside it how
often each has been chosen. Both follow from the choices: each handicap is listed once, where it was
first chosen, at the level of its last choice.
-/

namespace Blert.Colosseum

open Lifecycle Checked Fallible ReadCommitted
open Processing (Attempt Database Gone HasId MergedEvents Naming Runs StageContext castUnsigned)

/-! ### Choices -/

/-- The base handicaps chosen in some events, in order. -/
def choicesIn (events : List Event) : List ℕ :=
  (events.filter fun e => e.type = .colosseumHandicapChoice ∧ ¬isSkipped e).map
    fun e => castUnsigned (e.handicap.getD 0)

/-- The id of a base handicap that had been chosen before so often. -/
def leveled (base times : ℕ) : ℕ := base + handicapLevelIncrement * times

def firstChoices (choices : List ℕ) : List ℕ := choices.reverse.dedup.reverse

/-- What a wave with some choices records after earlier ones: its last choice, at the level it had
when chosen. -/
def recordedHandicap (earlier wave : List ℕ) : Option ℕ :=
  wave.getLast?.map fun base => leveled base ((earlier ++ wave.dropLast).count base)

/-- What waves record one after the other. A wave without a choice records zero. -/
def recordedHandicaps : (earlier : List ℕ) → (waves : List (List ℕ)) → List ℕ
  | _, [] => []
  | earlier, wave :: waves =>
    (recordedHandicap earlier wave).getD 0 :: recordedHandicaps (earlier ++ wave) waves

lemma leveled_inj {a b m n : ℕ} (ha : a < numHandicaps) (hb : b < numHandicaps)
    (h : leveled a m = leveled b n) : a = b := by
  unfold leveled handicapLevelIncrement at h
  unfold numHandicaps at ha hb
  omega

lemma mem_firstChoices {choices : List ℕ} {base : ℕ} :
    base ∈ firstChoices choices ↔ base ∈ choices := by
  unfold firstChoices
  rw [List.mem_reverse, List.mem_dedup, List.mem_reverse]

lemma nodup_firstChoices (choices : List ℕ) : (firstChoices choices).Nodup :=
  List.nodup_reverse.mpr (List.nodup_dedup _)

lemma firstChoices_append (choices : List ℕ) (base : ℕ) : firstChoices (choices ++ [base]) =
    if base ∈ choices then firstChoices choices else firstChoices choices ++ [base] := by
  unfold firstChoices
  rw [List.reverse_append, List.reverse_singleton, List.singleton_append]
  split_ifs with h
  · rw [List.dedup_cons_of_mem (List.mem_reverse.mpr h)]
  · rw [List.dedup_cons_of_notMem (fun hmem => h (List.mem_reverse.mp hmem)), List.reverse_cons]

lemma recordedHandicap_cons (earlier : List ℕ) (base : ℕ) (wave : List ℕ) :
    recordedHandicap earlier (base :: wave) =
      (recordedHandicap (earlier ++ [base]) wave).or
        (some (leveled base (earlier.count base))) := by
  unfold recordedHandicap
  cases wave with
  | nil => simp
  | cons b wave => simp [List.getLast?_cons]

lemma recordedHandicaps_append (earlier : List ℕ) (waves : List (List ℕ)) (wave : List ℕ) :
    recordedHandicaps earlier (waves ++ [wave]) = recordedHandicaps earlier waves ++
      [(recordedHandicap (earlier ++ waves.flatten) wave).getD 0] := by
  induction waves generalizing earlier with
  | nil => simp [recordedHandicaps]
  | cons w waves ih => simp [recordedHandicaps, ih]

/-! ### Packed lists -/

/-- The list of leveled ids that is kept after some choices. -/
def packed (choices : List ℕ) : List ℕ :=
  (firstChoices choices).map fun base => leveled base (choices.count base - 1)

structure Keeps (choices : List ℕ) (data : CustomData) : Prop where
  levels : ∀ base, data.handicapLevels base = choices.count (base : ℕ)
  handicaps : data.handicaps = packed choices

lemma Keeps.level {choices : List ℕ} {data : CustomData} (h : Keeps choices data)
    (hknown : ∀ base ∈ choices, base < numHandicaps) (base : ℕ) :
    data.level base = choices.count base := by
  unfold CustomData.level
  split_ifs with hbase
  · exact h.levels _
  · exact (List.count_eq_zero.mpr fun hmem => hbase (hknown base hmem)).symm

def upgraded (base selected : ℕ) (handicaps : List ℕ) : List ℕ :=
  match handicaps.findIdx? fun handicap => handicap + handicapLevelIncrement = selected with
  | some index => handicaps.set index selected
  | none => handicaps ++ [base]

lemma upgraded_map {base selected : ℕ} {f : ℕ → ℕ} {bases : List ℕ} (hnodup : bases.Nodup)
    (hf : ∀ b ∈ bases, f b + handicapLevelIncrement = selected ↔ b = base) :
    upgraded base selected (bases.map f) =
      if base ∈ bases then bases.map (Function.update f base selected)
      else bases.map f ++ [base] := by
  induction bases with
  | nil => rfl
  | cons b bases ih =>
    obtain ⟨hb, hnodup⟩ := List.nodup_cons.mp hnodup
    have hhead := hf b List.mem_cons_self
    have ih := ih hnodup fun c hc => hf c (List.mem_cons_of_mem _ hc)
    unfold upgraded at ih ⊢
    rw [List.map_cons, List.findIdx?_cons]
    by_cases hsel : f b + handicapLevelIncrement = selected
    · obtain rfl := hhead.mp hsel
      have hrest : bases.map (Function.update f b selected) = bases.map f := by
        refine List.map_congr_left fun c hc => Function.update_of_ne ?_ _ _
        rintro rfl
        exact hb hc
      simp [hsel, hrest]
    · have hne : b ≠ base := fun heq => hsel (hhead.mpr heq)
      rw [if_neg (by simpa using hsel)]
      cases hfind : (bases.map f).findIdx? fun handicap =>
          handicap + handicapLevelIncrement = selected with
      | none =>
        rw [hfind] at ih
        dsimp only at ih
        simp only [Option.map_none, List.cons_append, List.mem_cons, Ne.symm hne, false_or,
          List.map_cons, Function.update_of_ne hne]
        rw [ih]
        split_ifs <;> rfl
      | some index =>
        rw [hfind] at ih
        dsimp only at ih
        simp only [Option.map_some, List.set_cons_succ, List.cons_append, List.mem_cons,
          Ne.symm hne, false_or, List.map_cons, Function.update_of_ne hne]
        rw [ih]
        split_ifs <;> rfl

lemma packed_append {choices : List ℕ} {base : ℕ} :
    packed (choices ++ [base]) = if base ∈ choices then
      (firstChoices choices).map (Function.update (fun b => leveled b (choices.count b - 1)) base
        (leveled base (choices.count base)))
    else packed choices ++ [base] := by
  unfold packed
  rw [firstChoices_append]
  have hother : ∀ b, b ≠ base → (choices ++ [base]).count b = choices.count b := by
    intro b hb
    simp [List.count_append, Ne.symm hb]
  have hself : (choices ++ [base]).count base = choices.count base + 1 := by
    simp [List.count_append]
  split_ifs with hmem
  · refine List.map_congr_left fun b _ => ?_
    by_cases hb : b = base
    · rw [hb, Function.update_self, hself, Nat.add_sub_cancel]
    · rw [Function.update_of_ne hb, hother b hb]
  · rw [List.map_append, List.map_singleton, hself, List.count_eq_zero.mpr hmem]
    congr 1
    refine List.map_congr_left fun b hb => ?_
    rw [hother b]
    rintro rfl
    exact hmem (mem_firstChoices.1 hb)

lemma upgraded_packed {choices : List ℕ} {base : ℕ} (hbase : base < numHandicaps)
    (hknown : ∀ b ∈ choices, b < numHandicaps) :
    upgraded base (leveled base (choices.count base)) (packed choices) =
      packed (choices ++ [base]) := by
  rw [packed_append]
  unfold packed
  rw [upgraded_map (nodup_firstChoices choices)]
  · simp only [mem_firstChoices]
  · intro b hb
    have hb := mem_firstChoices.1 hb
    have hcount : 0 < choices.count b := List.count_pos_iff.mpr hb
    have hup : leveled b (choices.count b - 1) + handicapLevelIncrement =
        leveled b (choices.count b) := by
      unfold leveled handicapLevelIncrement
      omega
    rw [hup]
    constructor
    · exact leveled_inj (hknown b hb) hbase
    · rintro rfl
      rfl

lemma count_repeatedHandicaps {choices : List ℕ} (hknown : ∀ b ∈ choices, b < numHandicaps)
    (base : ℕ) : (repeatedHandicaps (packed choices)).count base = choices.count base := by
  have hrepeat : ∀ bases : List ℕ, bases.Nodup → (∀ b ∈ bases, b ∈ choices) →
      (repeatedHandicaps (bases.map fun b => leveled b (choices.count b - 1))).count base =
        if base ∈ bases then choices.count base else 0 := by
    intro bases hnodup hmem
    induction bases with
    | nil => rfl
    | cons b bases ih =>
      obtain ⟨hb, hnodup⟩ := List.nodup_cons.mp hnodup
      have hrest := ih hnodup fun c hc => hmem c (List.mem_cons_of_mem _ hc)
      have hcount : 0 < choices.count b := List.count_pos_iff.mpr (hmem b List.mem_cons_self)
      have hlt := hknown b (hmem b List.mem_cons_self)
      have hlevel : leveled b (choices.count b - 1) / handicapLevelIncrement + 1 =
          choices.count b := by
        unfold leveled handicapLevelIncrement
        unfold numHandicaps at hlt
        omega
      have hbase : leveled b (choices.count b - 1) % handicapLevelIncrement = b := by
        unfold leveled handicapLevelIncrement
        unfold numHandicaps at hlt
        omega
      unfold repeatedHandicaps at hrest ⊢
      rw [List.map_cons, List.flatMap_cons, List.count_append, hrest, hlevel, hbase,
        List.count_replicate]
      by_cases heq : b = base
      · subst heq
        simp [hb]
      · simp [heq, Ne.symm heq]
  unfold packed
  rw [hrepeat _ (nodup_firstChoices choices) fun b hb => mem_firstChoices.1 hb]
  split_ifs with hmem
  · rfl
  · exact (List.count_eq_zero.mpr fun h => hmem (mem_firstChoices.2 h)).symm

/-! ### The event loop -/

section

variable {choices options : List ℕ} {base : ℕ} {data data' : CustomData}
  {p p' : ColosseumProcessor} {events : List Event}

lemma levelHandicap_eq_ok (h : Keeps choices data) (hknown : ∀ b ∈ choices, b < numHandicaps)
    {selected : ℕ} (hlevel : levelHandicap data base = .ok selected) :
    selected = leveled base (choices.count base) := by
  unfold levelHandicap at hlevel
  obtain ⟨increment, hincrement, hlevel⟩ := bind_eq_ok.1 hlevel
  obtain ⟨-, rfl⟩ := u32_eq_ok.1 hincrement
  obtain ⟨-, rfl⟩ := u32_eq_ok.1 hlevel
  rw [h.level hknown, mul_comm]
  rfl

lemma incrementLevel_eq_ok (h : Keeps choices data) (hbase : base < numHandicaps)
    (hdata : data.incrementLevel base = .ok data') :
    (∀ b, data'.handicapLevels b = (choices ++ [base]).count (b : ℕ)) ∧
      data'.handicaps = data.handicaps ∧ data'.waves = data.waves := by
  unfold CustomData.incrementLevel at hdata
  rw [dif_pos hbase] at hdata
  obtain ⟨level, hlevel, hdata⟩ := bind_eq_ok.1 hdata
  obtain ⟨-, rfl⟩ := u32_eq_ok.1 hlevel
  cases hdata
  refine ⟨fun b => ?_, rfl, rfl⟩
  dsimp only
  by_cases hb : b = ⟨base, hbase⟩
  · rw [hb, Function.update_self, h.levels]
    simp [List.count_append]
  · have hne : base ≠ b := fun heq => hb (Fin.ext heq.symm)
    rw [Function.update_of_ne hb, h.levels]
    simp [List.count_append, hne]

lemma positionBelow_eq_ok {selected : ℕ} {handicaps : List ℕ} {index : Option ℕ}
    (h : positionBelow selected handicaps = .ok index) :
    index = handicaps.findIdx? fun handicap => handicap + handicapLevelIncrement = selected := by
  induction handicaps generalizing index with
  | nil =>
    cases h
    rfl
  | cons handicap handicaps ih =>
    rw [positionBelow] at h
    obtain ⟨next, hnext, h⟩ := bind_eq_ok.1 h
    obtain ⟨-, rfl⟩ := u32_eq_ok.1 hnext
    rw [List.findIdx?_cons]
    split_ifs at h with hsel
    · cases h
      simp [hsel]
    · obtain ⟨index', hindex', h⟩ := bind_eq_ok.1 h
      cases h
      rw [ih hindex', if_neg (by simpa using hsel)]

lemma placeHandicap_eq_ok {selected : ℕ} {handicaps handicaps' : List ℕ}
    (h : placeHandicap base selected handicaps = .ok handicaps') :
    handicaps' = upgraded base selected handicaps := by
  unfold placeHandicap at h
  obtain ⟨index, hindex, h⟩ := bind_eq_ok.1 h
  unfold upgraded
  rw [← positionBelow_eq_ok hindex]
  cases index <;> cases h <;> rfl

lemma chooseHandicap_eq_ok (h : Keeps choices p.data) (hknown : ∀ b ∈ choices, b < numHandicaps)
    (hbase : base < numHandicaps) (hchoose : chooseHandicap p base options = .ok p') :
    Keeps (choices ++ [base]) p'.data ∧
      p'.selectedHandicap = some (leveled base (choices.count base)) ∧
      p'.data.waves = p.data.waves := by
  unfold chooseHandicap at hchoose
  obtain ⟨selected, hselected, hchoose⟩ := bind_eq_ok.1 hchoose
  obtain ⟨options, -, hchoose⟩ := bind_eq_ok.1 hchoose
  obtain ⟨data, hdata, hchoose⟩ := bind_eq_ok.1 hchoose
  obtain ⟨handicaps, hplace, hchoose⟩ := bind_eq_ok.1 hchoose
  cases hchoose
  obtain rfl := levelHandicap_eq_ok h hknown hselected
  obtain ⟨hlevels, hhandicaps, hwaves⟩ := incrementLevel_eq_ok h hbase hdata
  rw [hhandicaps, h.handicaps] at hplace
  refine ⟨⟨hlevels, ?_⟩, rfl, hwaves⟩
  rw [placeHandicap_eq_ok hplace, upgraded_packed hbase hknown]

lemma step_cases (event : Event) :
    (choicesIn [event] = [] ∧ step p event = .ok p) ∨
      ∃ base options, choicesIn [event] = [base] ∧ (∀ b ∈ options, b < 2 ^ 32) ∧
        step p event = chooseHandicap p base options := by
  unfold choicesIn step processChallengeEvent
  by_cases hskip : isSkipped event
  · exact .inl ⟨by simp [hskip], if_pos hskip⟩
  · rw [if_neg hskip]
    split_ifs with htype
    · refine .inr ⟨_, _, by simp [htype, hskip], fun b hb => ?_, rfl⟩
      obtain ⟨option, -, rfl⟩ := List.mem_map.mp hb
      unfold castUnsigned
      omega
    · exact .inl ⟨by simp [htype], rfl⟩

lemma choicesIn_cons (event : Event) (events : List Event) :
    choicesIn (event :: events) = choicesIn [event] ++ choicesIn events := by
  unfold choicesIn
  rw [← List.singleton_append, List.filter_append, List.map_append]

lemma interpret_eq_ok (h : Keeps choices p.data) (hknown : ∀ b ∈ choices, b < numHandicaps)
    (hevents : ∀ b ∈ choicesIn events, b < numHandicaps) (hp : interpret p events = .ok p') :
    Keeps (choices ++ choicesIn events) p'.data ∧
      p'.selectedHandicap = (recordedHandicap choices (choicesIn events)).or p.selectedHandicap ∧
      p'.data.waves = p.data.waves := by
  induction events generalizing p choices with
  | nil =>
    cases hp
    simpa [choicesIn, recordedHandicap] using h
  | cons event events ih =>
    unfold interpret at hp
    rw [List.foldlM_cons] at hp
    obtain ⟨p₁, hp₁, hp⟩ := bind_eq_ok.1 hp
    rw [choicesIn_cons] at hevents ⊢
    rcases step_cases (p := p) event with ⟨hnone, hstep⟩ | ⟨base, options, hsome, -, hstep⟩
    · cases hstep.symm.trans hp₁
      rw [hnone] at hevents ⊢
      exact ih h hknown hevents hp
    · rw [hsome] at hevents ⊢
      have hbase := hevents base List.mem_cons_self
      obtain ⟨hkeeps, hselected, hwaves⟩ :=
        chooseHandicap_eq_ok h hknown hbase (hstep.symm.trans hp₁)
      have hknown' : ∀ b ∈ choices ++ [base], b < numHandicaps := by
        intro b hb
        rcases List.mem_append.mp hb with hb | hb
        · exact hknown b hb
        · rwa [List.mem_singleton.mp hb]
      obtain ⟨hkeeps', hselected', hwaves'⟩ := ih hkeeps hknown'
        (fun b hb => hevents b (List.mem_append_right _ hb)) hp
      refine ⟨?_, ?_, hwaves'.trans hwaves⟩
      · rwa [← List.append_assoc]
      · rw [hselected', hselected, List.singleton_append, recordedHandicap_cons,
          Option.or_assoc, Option.some_or]

/-! ### Overflow -/

lemma mem_packed {handicap : ℕ} : handicap ∈ packed choices ↔
    ∃ base ∈ choices, handicap = leveled base (choices.count base - 1) := by
  unfold packed
  rw [List.mem_map]
  constructor
  · rintro ⟨b, hb, rfl⟩
    exact ⟨b, mem_firstChoices.1 hb, rfl⟩
  · rintro ⟨b, hb, rfl⟩
    exact ⟨b, mem_firstChoices.2 hb, rfl⟩

end

end Blert.Colosseum

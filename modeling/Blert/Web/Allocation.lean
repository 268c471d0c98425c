import Mathlib.Data.List.Range
import Mathlib.Data.Rat.Defs
import Blert.Budgets

/-!
How a tick budget is split among rooms.

The chance that every room is done within its part of the budget is to be as large as possible. It
is computed room by room for every budget up to the whole one, and only the ticks at which some
recorded time ends are tried for a room. The parts are then traced back from the last room, and the
first room takes what remains.
-/

namespace Blert.SplitCalc

open Budgets

structure DistributionBin where
  ticks : ℕ
  count : ℕ

structure Room where
  key : String
  bins : List DistributionBin
  total : ℕ

structure RoomAllocation where
  key : String
  ticks : ℕ
  deriving DecidableEq

/-! ### Probabilities -/

/-- The times counted up to a tick, of bins that ascend. -/
def cumulative (ticks : ℕ) (acc : ℕ) : List DistributionBin → ℕ
  | [] => acc
  | bin :: bins => if ticks < bin.ticks then acc else cumulative ticks (acc + bin.count) bins

def cdf (bins : List DistributionBin) (total : ℕ) (ticks : ℕ) : ℚ :=
  if total = 0 then 0 else (cumulative ticks 0 bins : ℚ) / total

/-- The ticks of the bins ascend, and their counts are positive and add up to the total. -/
structure Room.Valid (r : Room) : Prop where
  ascending : (r.bins.map DistributionBin.ticks).Pairwise (· < ·)
  positive : ∀ bin ∈ r.bins, 0 < bin.count
  total : (r.bins.map DistributionBin.count).sum = r.total

def Room.cdf (r : Room) : ℕ → ℚ := SplitCalc.cdf r.bins r.total

lemma cumulative_le_cumulative {t t' : ℕ} (h : t ≤ t') (acc : ℕ) (bins : List DistributionBin) :
    cumulative t acc bins ≤ cumulative t' acc bins := by
  have hacc : ∀ (bins : List DistributionBin) (acc : ℕ), acc ≤ cumulative t' acc bins := by
    intro bins
    induction bins with
    | nil => exact fun _ => le_rfl
    | cons bin bins ih =>
      intro acc
      rw [cumulative]
      split_ifs
      · exact le_rfl
      · exact (Nat.le_add_right _ _).trans (ih _)
  induction bins generalizing acc with
  | nil => exact le_rfl
  | cons bin bins ih =>
    rw [cumulative, cumulative]
    split_ifs with hlt hlt'
    · exact le_rfl
    · exact (Nat.le_add_right _ _).trans (hacc bins _)
    · omega
    · exact ih _

lemma Room.cdf_nonneg (r : Room) (t : ℕ) : 0 ≤ r.cdf t := by
  unfold Room.cdf SplitCalc.cdf
  split_ifs
  · exact le_rfl
  · positivity

lemma Room.cdf_monotone (r : Room) : Monotone r.cdf := by
  intro t t' h
  unfold Room.cdf SplitCalc.cdf
  split_ifs
  · exact le_rfl
  · have hle : (cumulative t 0 r.bins : ℚ) ≤ cumulative t' 0 r.bins := by
      exact_mod_cast cumulative_le_cumulative h 0 r.bins
    gcongr

/-! ### The tables -/

/-- The ticks of a budget at which a room's distribution steps up. -/
def breakpoints (budget : ℕ) (r : Room) : List ℕ :=
  0 :: (r.bins.filter fun bin => 0 < bin.ticks && bin.ticks ≤ budget).map DistributionBin.ticks

/-- A room's breakpoints, with the distribution at each. -/
def cdfAt (budget : ℕ) (r : Room) : List (ℕ × ℚ) :=
  (breakpoints budget r).map fun t => (t, r.cdf t)

/-- Goes on to the last breakpoint up to a tick. -/
def advance (j : ℕ) : List (ℕ × ℚ) → List (ℕ × ℚ)
  | a :: b :: rest => if b.1 ≤ j then advance j (b :: rest) else a :: b :: rest
  | bps => bps

/-- The entries for budgets from `j` on, of which there are `n`. -/
def firstEntries (bps : List (ℕ × ℚ)) (j : ℕ) : ℕ → List ℚ
  | 0 => []
  | n + 1 =>
    let bps := advance j bps
    (bps.head?.map Prod.snd).getD 0 :: firstEntries bps (j + 1) n

/-- The best of the breakpoints up to a tick, with what the rooms before make of the rest. -/
def bestChoice (dp : List ℚ) (j : ℕ) (best : ℚ × ℕ) : List (ℕ × ℚ) → ℚ × ℕ
  | [] => best
  | (bp, c) :: bps =>
    if j < bp then best
    else
      let val := dp.getD (j - bp) 0 * c
      bestChoice dp j (if best.1 < val then (val, bp) else best) bps

structure Tables where
  dp : List ℚ
  traces : List (List ℕ)

def addRoom (budget : ℕ) (s : Tables) (r : Room) : Tables :=
  let row := (List.range (budget + 1)).map fun j => bestChoice s.dp j (-1, 0) (cdfAt budget r)
  { dp := row.map Prod.fst, traces := s.traces ++ [row.map Prod.snd] }

/-- The parts of the rooms, traced back from the last. -/
def backtrack (remaining : ℕ) (ticks : List ℕ) : List (List ℕ) → List ℕ
  | [] => remaining :: ticks
  | trace :: traces =>
    let t := trace.getD remaining 0
    backtrack (remaining - t) (t :: ticks) traces

def tables (budget : ℕ) (first : Room) (rest : List Room) : Tables :=
  rest.foldl (addRoom budget) ⟨firstEntries (cdfAt budget first) 0 (budget + 1), []⟩

def optimizeAllocation (rooms : List Room) (budget : ℕ) : Option (List RoomAllocation) :=
  match rooms with
  | [] => none
  | [r] =>
    if budget = 0 then none
    else if cdf r.bins r.total budget = 0 then none
    else some [{ key := r.key, ticks := budget }]
  | first :: rest =>
    if budget = 0 then none
    else
      let t := tables budget first rest
      if t.dp.getD budget 0 = 0 then none
      else
        some (List.zipWith (fun r ticks => { key := r.key, ticks }) (first :: rest)
          (backtrack budget [] t.traces.reverse))

/-! ### Breakpoints -/

lemma cumulative_eq {bins : List DistributionBin}
    (h : (bins.map DistributionBin.ticks).Pairwise (· < ·)) (t acc : ℕ) :
    cumulative t acc bins = acc + ((bins.filter (·.ticks ≤ t)).map DistributionBin.count).sum := by
  induction bins generalizing acc with
  | nil => simp [cumulative]
  | cons bin bins ih =>
    obtain ⟨hfirst, hrest⟩ := List.pairwise_cons.mp h
    rw [cumulative]
    split_ifs with hlt
    · have hnone : bins.filter (·.ticks ≤ t) = [] := by
        refine List.filter_eq_nil_iff.mpr fun b hb => ?_
        have hb' := hfirst b.ticks (List.mem_map_of_mem hb)
        simp only [decide_eq_true_eq]
        omega
      rw [List.filter_cons_of_neg (by simpa using hlt), hnone]
      simp
    · rw [ih hrest, List.filter_cons_of_pos (by simpa using hlt), List.map_cons, List.sum_cons]
      omega

lemma mem_breakpoints {budget t : ℕ} {r : Room} :
    t ∈ breakpoints budget r ↔ t = 0 ∨ (0 < t ∧ t ≤ budget ∧ ∃ bin ∈ r.bins, bin.ticks = t) := by
  simp only [breakpoints, List.mem_cons, List.mem_map, List.mem_filter, Bool.and_eq_true,
    decide_eq_true_eq]
  constructor
  · rintro (h | ⟨bin, ⟨hbin, hpos, hle⟩, rfl⟩)
    · exact Or.inl h
    · exact Or.inr ⟨hpos, hle, bin, hbin, rfl⟩
  · rintro (h | ⟨hpos, hle, bin, hbin, rfl⟩)
    · exact Or.inl h
    · exact Or.inr ⟨bin, ⟨hbin, hpos, hle⟩, rfl⟩

lemma cdf_eq_of_last {r : Room} (hr : r.Valid) {budget b t : ℕ} (ht : t ≤ budget) (hbt : b ≤ t)
    (hlast : ∀ x ∈ breakpoints budget r, x ≤ t → x ≤ b) : r.cdf b = r.cdf t := by
  have hfilter : r.bins.filter (·.ticks ≤ b) = r.bins.filter (·.ticks ≤ t) := by
    refine List.filter_congr fun bin hbin => decide_eq_decide.mpr ⟨fun h => h.trans hbt, fun h => ?_⟩
    rcases Nat.eq_zero_or_pos bin.ticks with hzero | hpos
    · omega
    · exact hlast _ (mem_breakpoints.2 (Or.inr ⟨hpos, h.trans ht, bin, hbin, rfl⟩)) h
  unfold Room.cdf cdf
  rw [cumulative_eq hr.ascending, cumulative_eq hr.ascending, hfilter]

lemma exists_last_breakpoint (r : Room) (budget t : ℕ) :
    ∃ b ∈ breakpoints budget r, b ≤ t ∧ ∀ x ∈ breakpoints budget r, x ≤ t → x ≤ b := by
  have hne : ((breakpoints budget r).filter (· ≤ t)).toFinset.Nonempty :=
    ⟨0, by simp [breakpoints]⟩
  obtain ⟨b, hb, hmax⟩ := Finset.exists_max_image _ id hne
  simp only [List.mem_toFinset, List.mem_filter, decide_eq_true_eq, id] at hb hmax
  exact ⟨b, hb.1, hb.2, fun x hx hxt => hmax x ⟨hx, hxt⟩⟩

lemma stepsAt_breakpoints {r : Room} (hr : r.Valid) (budget : ℕ) {j : ℕ} (hj : j ≤ budget) :
    StepsAt r.cdf j (breakpoints budget r) := by
  intro t ht
  obtain ⟨b, hb, hbt, hlast⟩ := exists_last_breakpoint r budget t
  exact ⟨b, hb, hbt, cdf_eq_of_last hr (ht.trans hj) hbt hlast⟩

lemma ascending_cdfAt {r : Room} (hr : r.Valid) (budget : ℕ) :
    (cdfAt budget r).Pairwise (·.1 < ·.1) := by
  refine List.pairwise_map.mpr (List.pairwise_cons.mpr ⟨fun t ht => ?_, ?_⟩)
  · obtain ⟨bin, hbin, rfl⟩ := List.mem_map.mp ht
    have hpos := (List.mem_filter.mp hbin).2
    simp only [Bool.and_eq_true, decide_eq_true_eq] at hpos
    exact hpos.1
  · refine List.pairwise_map.mpr ?_
    exact (List.pairwise_map.mp hr.ascending).filter _

/-! ### The first room -/

lemma advance_spec {j : ℕ} {bps : List (ℕ × ℚ)} (h : bps.Pairwise (·.1 < ·.1)) {a : ℕ × ℚ}
    {rest : List (ℕ × ℚ)} (ha : bps = a :: rest) (haj : a.1 ≤ j) :
    ∃ b rest', advance j bps = b :: rest' ∧ (b :: rest') <:+ bps ∧ b.1 ≤ j ∧
      ∀ x ∈ bps, x.1 ≤ j → x.1 ≤ b.1 := by
  induction rest generalizing bps a with
  | nil =>
    subst ha
    refine ⟨a, [], rfl, List.suffix_refl _, haj, fun x hx _ => ?_⟩
    rw [List.mem_singleton.mp hx]
  | cons b rest ih =>
    subst ha
    obtain ⟨hfirst, hrest⟩ := List.pairwise_cons.mp h
    rw [advance]
    split_ifs with hbj
    · obtain ⟨c, rest', heq, hsuffix, hcj, hlast⟩ := ih hrest rfl hbj
      refine ⟨c, rest', heq, hsuffix.trans (List.suffix_cons _ _), hcj, fun x hx hxj => ?_⟩
      rcases List.mem_cons.mp hx with rfl | hx
      · have hb := hlast b List.mem_cons_self hbj
        have hxb := hfirst b List.mem_cons_self
        omega
      · exact hlast x hx hxj
    · refine ⟨a, b :: rest, rfl, List.suffix_refl _, haj, fun x hx hxj => ?_⟩
      rcases List.mem_cons.mp hx with rfl | hx
      · exact le_rfl
      · rcases List.mem_cons.mp hx with rfl | hx
        · omega
        · have hbx := (List.pairwise_cons.mp hrest).1 x hx
          omega

lemma firstEntries_eq {r : Room} (hr : r.Valid) {budget : ℕ} {n j : ℕ} {bps : List (ℕ × ℚ)}
    (hsuffix : bps <:+ cdfAt budget r) {a : ℕ × ℚ} {rest : List (ℕ × ℚ)} (ha : bps = a :: rest)
    (haj : a.1 ≤ j) (hn : j + n ≤ budget + 1) :
    firstEntries bps j n = (List.range' j n).map r.cdf := by
  induction n generalizing j bps a rest with
  | zero => rfl
  | succ n ih =>
    have hasc := (ascending_cdfAt hr budget).sublist hsuffix.sublist
    obtain ⟨b, rest', heq, hsuffix', hbj, hlast⟩ := advance_spec hasc ha haj
    have hfull : ∀ x ∈ breakpoints budget r, x ≤ j → x ≤ b.1 := by
      intro x hx hxj
      obtain ⟨front, hfront⟩ := hsuffix
      have hmem : (x, r.cdf x) ∈ front ++ bps := hfront ▸ List.mem_map_of_mem hx
      rcases List.mem_append.mp hmem with hmem | hmem
      · have hb : b ∈ bps := hsuffix'.subset List.mem_cons_self
        have hpair := ascending_cdfAt hr budget
        rw [← hfront] at hpair
        exact ((List.pairwise_append.mp hpair).2.2 _ hmem b hb).le
      · exact hlast _ hmem hxj
    have hb : b.2 = r.cdf b.1 := by
      obtain ⟨t, -, ht⟩ := List.mem_map.mp (hsuffix.subset (hsuffix'.subset List.mem_cons_self))
      rw [← ht]
    have hvalue : r.cdf b.1 = r.cdf j := cdf_eq_of_last hr (by omega) hbj hfull
    rw [firstEntries, heq, List.range'_succ, List.map_cons]
    simp only [List.head?_cons, Option.map_some, Option.getD_some, hb, hvalue]
    rw [ih (hsuffix'.trans hsuffix) rfl (hbj.trans (Nat.le_succ j)) (by omega)]

/-! ### One more room -/

lemma bestChoice_spec (dp : List ℚ) {j : ℕ} {bps : List (ℕ × ℚ)}
    (h : bps.Pairwise (·.1 < ·.1)) (best : ℚ × ℕ) :
    best.1 ≤ (bestChoice dp j best bps).1 ∧
    (∀ p ∈ bps, p.1 ≤ j → dp.getD (j - p.1) 0 * p.2 ≤ (bestChoice dp j best bps).1) ∧
    (bestChoice dp j best bps = best ∨ ∃ p ∈ bps, p.1 ≤ j ∧
      bestChoice dp j best bps = (dp.getD (j - p.1) 0 * p.2, p.1)) := by
  induction bps generalizing best with
  | nil => exact ⟨le_rfl, by simp, Or.inl rfl⟩
  | cons p bps ih =>
    obtain ⟨bp, c⟩ := p
    obtain ⟨hfirst, hrest⟩ := List.pairwise_cons.mp h
    rw [bestChoice]
    dsimp only
    split_ifs with hlt hval
    · refine ⟨le_rfl, fun p hp hpj => ?_, Or.inl rfl⟩
      rcases List.mem_cons.mp hp with rfl | hp
      · omega
      · have := hfirst p hp
        omega
    · obtain ⟨hle, hmax, hattained⟩ := ih hrest (dp.getD (j - bp) 0 * c, bp)
      refine ⟨hval.le.trans hle, fun p hp hpj => ?_, Or.inr ?_⟩
      · rcases List.mem_cons.mp hp with rfl | hp
        · exact hle
        · exact hmax p hp hpj
      · rcases hattained with heq | ⟨p, hp, hpj, heq⟩
        · exact ⟨(bp, c), List.mem_cons_self, not_lt.mp hlt, heq⟩
        · exact ⟨p, List.mem_cons_of_mem _ hp, hpj, heq⟩
    · obtain ⟨hle, hmax, hattained⟩ := ih hrest best
      refine ⟨hle, fun p hp hpj => ?_, ?_⟩
      · rcases List.mem_cons.mp hp with rfl | hp
        · exact (not_lt.mp hval).trans hle
        · exact hmax p hp hpj
      · exact hattained.imp_right fun ⟨p, hp, hpj, heq⟩ => ⟨p, List.mem_cons_of_mem _ hp, hpj, heq⟩

lemma backtrack_append (remaining : ℕ) (ticks : List ℕ) (traces : List (List ℕ)) :
    backtrack remaining ticks traces = backtrack remaining [] traces ++ ticks := by
  induction traces generalizing remaining ticks with
  | nil => rfl
  | cons trace traces ih =>
    rw [backtrack, backtrack, ih, ih _ [_], List.append_assoc]
    rfl

structure Sound (budget : ℕ) (rooms : List Room) (s : Tables) : Prop where
  nonneg : ∀ j ≤ budget, 0 ≤ s.dp.getD j 0
  bounds : ∀ j ≤ budget, Bounds (rooms.map Room.cdf) j (s.dp.getD j 0)
  length : ∀ j ≤ budget, (backtrack j [] s.traces.reverse).length = rooms.length
  sum : ∀ j ≤ budget, (backtrack j [] s.traces.reverse).sum = j
  value : ∀ j ≤ budget,
    value (rooms.map Room.cdf) (backtrack j [] s.traces.reverse) = s.dp.getD j 0

lemma sound_first {first : Room} (hfirst : first.Valid) (budget : ℕ) :
    Sound budget [first] (tables budget first []) := by
  have hentry : ∀ j ≤ budget, (tables budget first []).dp.getD j 0 = first.cdf j := by
    intro j hj
    have heq : (tables budget first []).dp = (List.range' 0 (budget + 1)).map first.cdf :=
      firstEntries_eq hfirst (List.suffix_refl _) rfl le_rfl (by omega)
    rw [heq, List.getD_eq_getElem?_getD, List.getElem?_map, List.getElem?_range' (by omega)]
    simp
  refine ⟨fun j hj => ?_, fun j hj => ?_, fun j _ => rfl, fun j _ => ?_, fun j hj => ?_⟩
  · rw [hentry j hj]
    exact first.cdf_nonneg j
  · rw [hentry j hj]
    exact bounds_singleton first.cdf_monotone j
  · simp [tables, backtrack]
  · rw [hentry j hj]
    simp [tables, backtrack, Budgets.value]

lemma exists_choice {budget : ℕ} {rooms : List Room} {s : Tables} (h : Sound budget rooms s)
    {r : Room} (hr : r.Valid) {j : ℕ} (hj : j ≤ budget) :
    ∃ t ≤ j, bestChoice s.dp j (-1, 0) (cdfAt budget r) = (s.dp.getD (j - t) 0 * r.cdf t, t) ∧
      ∀ b ∈ breakpoints budget r, b ≤ j →
        s.dp.getD (j - b) 0 * r.cdf b ≤ s.dp.getD (j - t) 0 * r.cdf t := by
  obtain ⟨-, hmax, hattained⟩ :=
    bestChoice_spec s.dp (j := j) (ascending_cdfAt hr budget) (-1, 0)
  have hbest : ∀ b ∈ breakpoints budget r, b ≤ j → s.dp.getD (j - b) 0 * r.cdf b ≤
      (bestChoice s.dp j (-1, 0) (cdfAt budget r)).1 := fun b hb hbj =>
    hmax (b, r.cdf b) (List.mem_map_of_mem hb) hbj
  rcases hattained with heq | ⟨p, hp, hpj, heq⟩
  · have hzero := hbest 0 List.mem_cons_self (Nat.zero_le j)
    have hnonneg : 0 ≤ s.dp.getD (j - 0) 0 * r.cdf 0 :=
      mul_nonneg (h.nonneg _ (by omega)) (r.cdf_nonneg 0)
    rw [heq] at hzero
    norm_num at hzero hnonneg
    linarith
  · obtain ⟨t, -, rfl⟩ := List.mem_map.mp hp
    refine ⟨t, hpj, heq, fun b hb hbj => ?_⟩
    have hle := hbest b hb hbj
    rwa [heq] at hle

lemma getD_addRoom (budget : ℕ) (s : Tables) (r : Room) {j : ℕ} (hj : j ≤ budget) :
    (addRoom budget s r).dp.getD j 0 = (bestChoice s.dp j (-1, 0) (cdfAt budget r)).1 ∧
    backtrack j [] (addRoom budget s r).traces.reverse =
      backtrack (j - (bestChoice s.dp j (-1, 0) (cdfAt budget r)).2)
        [(bestChoice s.dp j (-1, 0) (cdfAt budget r)).2] s.traces.reverse := by
  have hrange : (List.range (budget + 1))[j]? = some j := by
    rw [List.getElem?_range (by omega)]
  constructor
  · simp [addRoom, List.getD_eq_getElem?_getD, hrange]
  · simp [addRoom, backtrack, List.getD_eq_getElem?_getD, hrange]

lemma Sound.addRoom {budget : ℕ} {rooms : List Room} {s : Tables} (h : Sound budget rooms s)
    {r : Room} (hr : r.Valid) : Sound budget (rooms ++ [r]) (addRoom budget s r) := by
  have hentry : ∀ j ≤ budget, ∃ t ≤ j,
      (SplitCalc.addRoom budget s r).dp.getD j 0 = s.dp.getD (j - t) 0 * r.cdf t ∧
      backtrack j [] (SplitCalc.addRoom budget s r).traces.reverse =
        backtrack (j - t) [] s.traces.reverse ++ [t] ∧
      ∀ b ∈ breakpoints budget r, b ≤ j →
        s.dp.getD (j - b) 0 * r.cdf b ≤ s.dp.getD (j - t) 0 * r.cdf t := by
    intro j hj
    obtain ⟨t, htj, heq, hmax⟩ := exists_choice h hr hj
    obtain ⟨hdp, htrace⟩ := getD_addRoom budget s r hj
    rw [heq] at hdp htrace
    exact ⟨t, htj, hdp, htrace.trans (backtrack_append _ _ _), hmax⟩
  refine ⟨fun j hj => ?_, fun j hj => ?_, fun j hj => ?_, fun j hj => ?_, fun j hj => ?_⟩
  all_goals obtain ⟨t, htj, hdp, htrace, hmax⟩ := hentry j hj
  · rw [hdp]
    exact mul_nonneg (h.nonneg _ (by omega)) (r.cdf_nonneg t)
  · rw [hdp, List.map_append]
    have hbounds : ∀ i ≤ j, Bounds _ i ((fun i => s.dp.getD i 0) i) :=
      fun i hi => h.bounds i (hi.trans hj)
    exact Bounds.append hbounds r.cdf_nonneg (stepsAt_breakpoints hr budget hj) hmax
  · rw [htrace, List.length_append, h.length _ (by omega), List.length_append]
    rfl
  · rw [htrace, List.sum_append, h.sum _ (by omega), List.sum_singleton]
    omega
  · have hlength := h.length (j - t) (by omega)
    rw [htrace, hdp, List.map_append, List.map_singleton, value_append (by simpa using hlength),
      h.value _ (by omega)]

lemma sound_tables {first : Room} (hfirst : first.Valid) (rest : List Room)
    (hrest : ∀ r ∈ rest, r.Valid) (budget : ℕ) :
    Sound budget (first :: rest) (tables budget first rest) := by
  induction rest using List.reverseRecOn with
  | nil => exact sound_first hfirst budget
  | append_singleton rest r ih =>
    have hsound := ih fun r' hr' => hrest r' (List.mem_append_left _ hr')
    have hlast := hsound.addRoom (hrest r (List.mem_append_right _ (List.mem_singleton_self r)))
    unfold tables at hlast ⊢
    rw [List.foldl_append]
    exact hlast

/-! ### The allocation -/

/-- The chance that every room is done within its part of the budget. -/
def chance (rooms : List Room) (parts : List ℕ) : ℚ := value (rooms.map Room.cdf) parts

def Splits (rooms : List Room) (budget : ℕ) (parts : List ℕ) : Prop :=
  parts.length = rooms.length ∧ parts.sum = budget

/-- What an allocation of a budget among rooms should be: the parts are the best there are, and
there is none if no parts have a chance. -/
structure Optimal (rooms : List Room) (budget : ℕ) (result : Option (List RoomAllocation)) :
    Prop where
  keys : ∀ allocs ∈ result, allocs.map RoomAllocation.key = rooms.map Room.key
  splits : ∀ allocs ∈ result, Splits rooms budget (allocs.map RoomAllocation.ticks)
  best : ∀ allocs ∈ result, ∀ parts, Splits rooms budget parts →
    chance rooms parts ≤ chance rooms (allocs.map RoomAllocation.ticks)
  none_iff : result = none ↔ ∀ parts, Splits rooms budget parts → chance rooms parts = 0

lemma chance_nonneg (rooms : List Room) (parts : List ℕ) : 0 ≤ chance rooms parts := by
  unfold chance value
  induction rooms generalizing parts with
  | nil => simp
  | cons r rooms ih =>
    cases parts with
    | nil => simp
    | cons t parts =>
      rw [List.map_cons, List.zipWith_cons_cons, List.prod_cons]
      exact mul_nonneg (r.cdf_nonneg t) (ih parts)

lemma map_ticks_zipWith {rooms : List Room} {ticks : List ℕ} (h : ticks.length = rooms.length) :
    (List.zipWith (fun r t => RoomAllocation.mk r.key t) rooms ticks).map RoomAllocation.ticks =
      ticks := by
  rw [List.map_zipWith, ← List.map_uncurry_zip_eq_zipWith]
  exact List.map_snd_zip h.le

lemma map_key_zipWith {rooms : List Room} {ticks : List ℕ} (h : ticks.length = rooms.length) :
    (List.zipWith (fun r t => RoomAllocation.mk r.key t) rooms ticks).map RoomAllocation.key =
      rooms.map Room.key := by
  rw [List.map_zipWith, ← List.map_uncurry_zip_eq_zipWith]
  have hfst : (rooms.zip ticks).map Prod.fst = rooms := List.map_fst_zip h.ge
  calc (rooms.zip ticks).map (Function.uncurry fun r _ => r.key)
      = ((rooms.zip ticks).map Prod.fst).map Room.key := by rw [List.map_map]; rfl
    _ = rooms.map Room.key := by rw [hfst]

lemma optimal_of_best {rooms : List Room} {budget : ℕ} {ticks : List ℕ}
    (hsplits : Splits rooms budget ticks)
    (hbest : ∀ parts, Splits rooms budget parts → chance rooms parts ≤ chance rooms ticks) :
    Optimal rooms budget (if chance rooms ticks = 0 then none
      else some (List.zipWith (fun r t => RoomAllocation.mk r.key t) rooms ticks)) := by
  have hticks := map_ticks_zipWith hsplits.1
  have hallocs : ∀ allocs ∈ (if chance rooms ticks = 0 then none
      else some (List.zipWith (fun r t => RoomAllocation.mk r.key t) rooms ticks)),
      allocs = List.zipWith (fun r t => RoomAllocation.mk r.key t) rooms ticks := by
    intro allocs h
    split_ifs at h
    · cases h
    · exact (Option.some.inj h).symm
  refine ⟨fun allocs h => ?_, fun allocs h => ?_, fun allocs h parts hparts => ?_, ?_⟩
  · rw [hallocs allocs h]
    exact map_key_zipWith hsplits.1
  · rw [hallocs allocs h, hticks]
    exact hsplits
  · rw [hallocs allocs h, hticks]
    exact hbest parts hparts
  · split_ifs with hzero
    · refine iff_of_true rfl fun parts hparts => ?_
      exact le_antisymm (hzero ▸ hbest parts hparts) (chance_nonneg rooms parts)
    · exact iff_of_false (by simp) fun hall => hzero (hall ticks hsplits)

/-- **The allocation is optimal.** An allocation that is returned gives each room a part of the
budget, and no other parts have a better chance. None is returned exactly if no parts have any. -/
theorem optimizeAllocation_optimal {rooms : List Room} (hrooms : rooms ≠ [])
    (hvalid : ∀ r ∈ rooms, r.Valid) {budget : ℕ} (hbudget : 0 < budget) :
    Optimal rooms budget (optimizeAllocation rooms budget) := by
  rcases rooms with _ | ⟨first, _ | ⟨second, rest⟩⟩
  · exact absurd rfl hrooms
  · have hsplits : Splits [first] budget [budget] := ⟨rfl, by simp⟩
    have hbest := optimal_of_best hsplits fun parts hparts => by
      obtain ⟨t, rfl⟩ := List.length_eq_one_iff.mp hparts.1
      have ht : t = budget := by simpa using hparts.2
      rw [ht]
    have hchance : chance [first] [budget] = cdf first.bins first.total budget := by
      simp [chance, value, Room.cdf]
    rw [hchance] at hbest
    simp only [optimizeAllocation, if_neg hbudget.ne']
    exact hbest
  · have hsound := sound_tables (hvalid first List.mem_cons_self) (second :: rest)
      (fun r hr => hvalid r (List.mem_cons_of_mem _ hr)) budget
    have hvalue := hsound.value budget le_rfl
    have hsplits : Splits (first :: second :: rest) budget _ :=
      ⟨hsound.length budget le_rfl, hsound.sum budget le_rfl⟩
    have hbest := optimal_of_best hsplits fun parts hparts => by
      have hle := hsound.bounds budget le_rfl parts (by simpa using hparts.1) hparts.2.le
      rwa [← hvalue] at hle
    rw [chance, hvalue] at hbest
    simp only [optimizeAllocation, if_neg hbudget.ne']
    exact hbest

/-- Two rooms, of which the first is done in ten ticks or twenty and the second in fifteen. -/
def twoRooms : List Room :=
  [{ key := "maiden", bins := [⟨10, 1⟩, ⟨20, 3⟩], total := 4 },
    { key := "bloat", bins := [⟨15, 2⟩], total := 2 }]

theorem twoRooms_optimal : Optimal twoRooms 30 (optimizeAllocation twoRooms 30) :=
  optimizeAllocation_optimal (by simp [twoRooms])
    (by simp only [twoRooms, List.forall_mem_cons]
        exact ⟨⟨by decide, by decide, by decide⟩, ⟨by decide, by decide, by decide⟩, by simp⟩)
    (by decide)

end Blert.SplitCalc

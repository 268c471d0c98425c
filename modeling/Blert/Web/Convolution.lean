import Blert.Draws
import Blert.Web.Allocation
import Mathlib.Data.List.GetD

/-!
The distribution of the sum of room times.

The distributions of the rooms are convolved one after another, in arrays that end at the greatest
sum asked about. The bins of a room ascend, so those past the end of the array are passed over at
the first of them, and an entry of the array depends on entries before it only.
-/

namespace Blert.SplitCalc

open Draws Polynomial

structure Distribution where
  bins : List DistributionBin
  total : ℕ

/-- The ticks of the bins ascend, and their counts are positive and add up to the total. -/
structure Distribution.Valid (d : Distribution) : Prop where
  ascending : (d.bins.map DistributionBin.ticks).Pairwise (· < ·)
  positive : ∀ bin ∈ d.bins, 0 < bin.count
  total : (d.bins.map DistributionBin.count).sum = d.total
  total_pos : 0 < d.total

/-! ### Convolution -/

def zeros (maxSum : ℕ) : List ℚ := List.replicate (maxSum + 1) 0

def first (maxSum : ℕ) (d : Distribution) : List ℚ :=
  d.bins.foldl (fun current bin =>
    if bin.ticks ≤ maxSum then current.set bin.ticks (bin.count / d.total) else current)
    (zeros maxSum)

/-- Adds what a sum of the rooms before contributes, up to the first bin past the end. -/
def addBins (maxSum i : ℕ) (c : ℚ) (total : ℕ) : List DistributionBin → List ℚ → List ℚ
  | [], next => next
  | bin :: bins, next =>
    let sum := i + bin.ticks
    if maxSum < sum then next
    else addBins maxSum i c total bins (next.modify sum (· + c * (bin.count / total)))

def convolve (maxSum : ℕ) (current : List ℚ) (dist : Distribution) : List ℚ :=
  (List.range (maxSum + 1)).foldl (fun next i =>
    if current.getD i 0 = 0 then next
    else addBins maxSum i (current.getD i 0) dist.total dist.bins next)
    (zeros maxSum)

def convolveDistributions (distributions : List Distribution) (maxSum : ℕ) : List ℚ :=
  match distributions with
  | [] => (zeros maxSum).set 0 1
  | d :: rest => rest.foldl (convolve maxSum) (first maxSum d)

def targetProbability (convolved : List ℚ) (target : ℕ) : ℚ :=
  (List.range (min (target + 1) convolved.length)).foldl (fun sum i => sum + convolved.getD i 0) 0

/-- Goes on from a tick, with the chance of the ticks before it. -/
def percentileFrom (threshold : ℚ) (i : ℕ) (cumulative : ℚ) : List ℚ → Option ℕ
  | [] => none
  | p :: ps =>
    if threshold ≤ cumulative + p then some i
    else percentileFrom threshold (i + 1) (cumulative + p) ps

def convolvedPercentile (convolved : List ℚ) (threshold : ℚ) : Option ℕ :=
  percentileFrom threshold 0 0 convolved

/-! ### Entries -/

/-- The bins with the share of the recorded times that each has. -/
def Distribution.shares (d : Distribution) : List (ℕ × ℚ) :=
  d.bins.map fun bin => (bin.ticks, (bin.count : ℚ) / d.total)

/-- The entries up to the greatest sum are the coefficients of a polynomial. -/
structure Entries (maxSum : ℕ) (current : List ℚ) (f : ℚ[X]) : Prop where
  length : current.length = maxSum + 1
  getD : ∀ t ≤ maxSum, current.getD t 0 = f.coeff t

lemma entries_zeros (maxSum : ℕ) : Entries maxSum (zeros maxSum) 0 where
  length := List.length_replicate
  getD t ht := by
    rw [zeros, List.getD_eq_getElem _ _ (by simpa using Nat.lt_succ_of_le ht),
      List.getElem_replicate, coeff_zero]

variable {maxSum : ℕ} {current next : List ℚ} {f g : ℚ[X]}

lemma Entries.congr (h : Entries maxSum current f)
    (hfg : ∀ t ≤ maxSum, f.coeff t = g.coeff t) : Entries maxSum current g where
  length := h.length
  getD t ht := (h.getD t ht).trans (hfg t ht)

lemma Entries.modify (h : Entries maxSum next f) {s : ℕ} (v : ℚ) :
    Entries maxSum (next.modify s (· + v)) (f + monomial s v) where
  length := by rw [List.length_modify, h.length]
  getD t ht := by
    have ht' : t < next.length := by rw [h.length]; omega
    have hget := h.getD t ht
    rw [List.getD_eq_getElem?_getD, List.getElem?_eq_getElem ht', Option.getD_some] at hget
    rw [List.getD_eq_getElem?_getD, List.getElem?_modify, List.getElem?_eq_getElem ht', coeff_add,
      coeff_monomial]
    split_ifs with hs <;> simp [hget]

lemma coeff_past {i total t : ℕ} {c : ℚ} {bins : List DistributionBin}
    (h : ∀ bin ∈ bins, t < i + bin.ticks) :
    (monomial i c * gen (bins.map fun bin => (bin.ticks, (bin.count : ℚ) / total))).coeff t =
      0 := by
  induction bins with
  | nil => simp
  | cons bin bins ih =>
    rw [List.forall_mem_cons] at h
    rw [List.map_cons, gen_cons, mul_add, coeff_add, ih h.2, monomial_mul_monomial, coeff_monomial,
      if_neg h.1.ne', add_zero]

lemma entries_addBins {i total : ℕ} {c : ℚ} {bins : List DistributionBin}
    (hbins : (bins.map DistributionBin.ticks).Pairwise (· < ·)) (h : Entries maxSum next f) :
    Entries maxSum (addBins maxSum i c total bins next)
      (f + monomial i c * gen (bins.map fun bin => (bin.ticks, (bin.count : ℚ) / total))) := by
  induction bins generalizing next f with
  | nil => simpa [addBins] using h
  | cons bin bins ih =>
    rw [List.map_cons, List.pairwise_cons] at hbins
    rw [addBins]
    split_ifs with hpast
    · refine h.congr fun t ht => ?_
      rw [coeff_add, coeff_past, add_zero]
      rintro b hb
      rcases List.mem_cons.mp hb with rfl | hb
      · omega
      · have := hbins.1 _ (List.mem_map_of_mem hb)
        omega
    · have hadd := ih hbins.2 (h.modify (s := i + bin.ticks) (c * (bin.count / total)))
      rw [List.map_cons, gen_cons, mul_add, monomial_mul_monomial, ← add_assoc]
      exact hadd

/-- The part of a polynomial up to a degree. -/
noncomputable def front (f : ℚ[X]) (n : ℕ) : ℚ[X] := ∑ i ∈ Finset.range n, monomial i (f.coeff i)

lemma coeff_front (f : ℚ[X]) {n i : ℕ} (h : i < n) : (front f n).coeff i = f.coeff i := by
  simp [front, coeff_monomial, h]

lemma entries_convolve {d : Distribution} (hd : d.Valid) (h : Entries maxSum current f) :
    Entries maxSum (convolve maxSum current d) (f * gen d.shares) := by
  have hrun : ∀ n ≤ maxSum + 1, Entries maxSum
      ((List.range n).foldl (fun next i => if current.getD i 0 = 0 then next
        else addBins maxSum i (current.getD i 0) d.total d.bins next) (zeros maxSum))
      (front f n * gen d.shares) := by
    intro n hn
    induction n with
    | zero => simpa [front] using entries_zeros maxSum
    | succ n ih =>
      have hcoeff : current.getD n 0 = f.coeff n := h.getD n (by omega)
      have hfront : front f (n + 1) = front f n + monomial n (f.coeff n) :=
        Finset.sum_range_succ _ _
      rw [List.range_succ, List.foldl_append, List.foldl_cons, List.foldl_nil, hfront, add_mul,
        hcoeff]
      split_ifs with hzero
      · simpa [hzero] using ih (by omega)
      · exact entries_addBins hd.ascending (ih (by omega))
  refine (hrun _ le_rfl).congr fun t ht => ?_
  exact coeff_mul_congr (fun i hi => coeff_front f (by omega)) _

lemma Entries.set (h : Entries maxSum current f) {s : ℕ} (v : ℚ) (hzero : f.coeff s = 0) :
    Entries maxSum (if s ≤ maxSum then current.set s v else current) (f + monomial s v) where
  length := by split_ifs <;> simp [h.length]
  getD t ht := by
    have hget := h.getD t ht
    rw [coeff_add, coeff_monomial]
    split_ifs with hs hst hst
    · subst hst
      rw [hzero, zero_add, List.getD_eq_getElem _ _ (by rw [List.length_set, h.length]; omega),
        List.getElem_set_self]
    · rw [List.getD_eq_getElem?_getD, List.getElem?_set_ne hst, ← List.getD_eq_getElem?_getD, hget,
        add_zero]
    · omega
    · rw [hget, add_zero]

lemma entries_first {d : Distribution} (hd : d.Valid) :
    Entries maxSum (first maxSum d) (gen d.shares) := by
  have hrun (bins : List DistributionBin) (current : List ℚ) (f : ℚ[X])
      (hbins : (bins.map DistributionBin.ticks).Pairwise (· < ·))
      (hzero : ∀ bin ∈ bins, f.coeff bin.ticks = 0) (h : Entries maxSum current f) :
      Entries maxSum (bins.foldl (fun current bin => if bin.ticks ≤ maxSum
          then current.set bin.ticks ((bin.count : ℚ) / d.total) else current) current)
        (f + gen (bins.map fun bin => (bin.ticks, (bin.count : ℚ) / d.total))) := by
    induction bins generalizing current f with
    | nil => simpa using h
    | cons bin bins ih =>
      rw [List.map_cons, List.pairwise_cons] at hbins
      rw [List.forall_mem_cons] at hzero
      rw [List.foldl_cons, List.map_cons, gen_cons, ← add_assoc]
      refine ih _ _ hbins.2 (fun b hb => ?_) (h.set _ hzero.1)
      have hlt := hbins.1 _ (List.mem_map_of_mem hb)
      rw [coeff_add, hzero.2 b hb, zero_add, coeff_monomial, if_neg hlt.ne]
  have hfirst := hrun d.bins (zeros maxSum) 0 hd.ascending (fun _ _ => coeff_zero _)
    (entries_zeros maxSum)
  rwa [zero_add] at hfirst

lemma entries_convolveDistributions {ds : List Distribution} (hds : ∀ d ∈ ds, d.Valid) :
    Entries maxSum (convolveDistributions ds maxSum)
      ((ds.map Distribution.shares).map gen).prod := by
  have hrun (rest : List Distribution) (current : List ℚ) (f : ℚ[X])
      (hrest : ∀ d ∈ rest, d.Valid) (h : Entries maxSum current f) :
      Entries maxSum (rest.foldl (convolve maxSum) current)
        (f * ((rest.map Distribution.shares).map gen).prod) := by
    induction rest generalizing current f with
    | nil => simpa using h
    | cons d rest ih =>
      rw [List.forall_mem_cons] at hrest
      rw [List.foldl_cons, List.map_cons, List.map_cons, List.prod_cons, ← mul_assoc]
      exact ih _ _ hrest.2 (entries_convolve hrest.1 h)
  cases ds with
  | nil =>
    have hset := (entries_zeros maxSum).set (s := 0) 1 (coeff_zero _)
    rwa [if_pos (Nat.zero_le _), zero_add] at hset
  | cons d rest =>
    rw [List.forall_mem_cons] at hds
    exact hrun rest _ _ hds.2 (entries_first hds.1)

/-! ### The sum of room times -/

/-- The chance that times drawn independently from the distributions have a sum as asked for. -/
def sumChance (ds : List Distribution) (p : ℕ → Bool) : ℚ :=
  Draws.chance (ds.map Distribution.shares) p

lemma getD_convolveDistributions {ds : List Distribution} (hds : ∀ d ∈ ds, d.Valid) {t : ℕ}
    (ht : t ≤ maxSum) :
    (convolveDistributions ds maxSum).getD t 0 = sumChance ds fun s => s = t := by
  rw [(entries_convolveDistributions hds).getD t ht, coeff_prod_gen, sumChance]

lemma length_convolveDistributions {ds : List Distribution} (hds : ∀ d ∈ ds, d.Valid)
    (maxSum : ℕ) : (convolveDistributions ds maxSum).length = maxSum + 1 :=
  (entries_convolveDistributions hds).length

lemma foldl_range (ds : List Distribution) (convolved : List ℚ) {n : ℕ}
    (h : ∀ t < n, convolved.getD t 0 = sumChance ds fun s => s = t) :
    (List.range n).foldl (fun sum i => sum + convolved.getD i 0) 0 =
      ∑ i ∈ Finset.range n, sumChance ds fun s => s = i := by
  induction n with
  | zero => rfl
  | succ n ih =>
    rw [List.range_succ, List.foldl_append, List.foldl_cons, List.foldl_nil,
      ih fun t ht => h t (by omega), h n (by omega), Finset.sum_range_succ]

lemma targetProbability_convolveDistributions {ds : List Distribution}
    (hds : ∀ d ∈ ds, d.Valid) {t : ℕ} (ht : t ≤ maxSum) :
    targetProbability (convolveDistributions ds maxSum) t = sumChance ds fun s => s ≤ t := by
  rw [targetProbability, length_convolveDistributions hds, min_eq_left (by omega),
    foldl_range ds _ fun s hs => getD_convolveDistributions hds (by omega), sumChance, chance_le]
  rfl

lemma percentileFrom_eq (cdf : ℕ → ℚ) {threshold c : ℚ} {i : ℕ} {ps : List ℚ}
    (hc : ∀ n < ps.length, c + (ps.take (n + 1)).sum = cdf (i + n)) :
    percentileFrom threshold i c ps =
      (List.range' i ps.length).find? fun t => threshold ≤ cdf t := by
  induction ps generalizing i c with
  | nil => rfl
  | cons p ps ih =>
    have hzero : c + p = cdf i := by simpa using hc 0 (by simp)
    rw [percentileFrom, List.length_cons, List.range'_succ, List.find?_cons, hzero]
    by_cases h : threshold ≤ cdf i
    · simp [h]
    · rw [if_neg h, decide_eq_false h, ← hzero]
      refine ih fun n hn => ?_
      have hn' := hc (n + 1) (by simpa using hn)
      rw [List.take_succ_cons, List.sum_cons, ← add_assoc] at hn'
      rw [hn', Nat.succ_add_eq_add_succ]

lemma sum_take_convolveDistributions {ds : List Distribution} (hds : ∀ d ∈ ds, d.Valid) {n : ℕ}
    (hn : n ≤ maxSum + 1) : ((convolveDistributions ds maxSum).take n).sum =
      ∑ i ∈ Finset.range n, sumChance ds fun s => s = i := by
  induction n with
  | zero => rfl
  | succ n ih =>
    have hlt : n < (convolveDistributions ds maxSum).length := by
      rw [length_convolveDistributions hds]
      omega
    rw [List.take_succ_eq_append_getElem hlt, List.sum_append, List.sum_singleton, ih (by omega),
      Finset.sum_range_succ, ← getD_convolveDistributions hds (Nat.le_of_lt_succ hn),
      List.getD_eq_getElem _ _ hlt]

lemma convolvedPercentile_convolveDistributions {ds : List Distribution}
    (hds : ∀ d ∈ ds, d.Valid) (threshold : ℚ) :
    convolvedPercentile (convolveDistributions ds maxSum) threshold =
      (List.range (maxSum + 1)).find? fun t => threshold ≤ sumChance ds fun s => s ≤ t := by
  have hlength := length_convolveDistributions hds maxSum
  rw [convolvedPercentile, percentileFrom_eq fun t => sumChance ds fun s => s ≤ t,
    hlength, List.range_eq_range']
  intro n hn
  rw [zero_add, zero_add, sum_take_convolveDistributions hds (by omega), sumChance, chance_le]
  rfl

/-- The entries, the chance of a target and the percentiles are those of the sum of independent
room times. -/
theorem convolution_exact {ds : List Distribution} (hds : ∀ d ∈ ds, d.Valid) (maxSum : ℕ) :
    (∀ t ≤ maxSum,
      (convolveDistributions ds maxSum)[t]? = some (sumChance ds fun s => s = t) ∧
        targetProbability (convolveDistributions ds maxSum) t = sumChance ds fun s => s ≤ t) ∧
    ∀ threshold : ℚ,
      (∀ t, convolvedPercentile (convolveDistributions ds maxSum) threshold = some t ↔
        IsLeast {t | t ≤ maxSum ∧ threshold ≤ sumChance ds fun s => s ≤ t} t) ∧
      (convolvedPercentile (convolveDistributions ds maxSum) threshold = none ↔
        ∀ t ≤ maxSum, (sumChance ds fun s => s ≤ t) < threshold) := by
  refine ⟨fun t ht => ⟨?_, targetProbability_convolveDistributions hds ht⟩,
    fun threshold => ⟨fun t => ?_, ?_⟩⟩
  · have hlt : t < (convolveDistributions ds maxSum).length := by
      rw [length_convolveDistributions hds]
      omega
    rw [← getD_convolveDistributions hds ht, List.getD_eq_getElem _ _ hlt,
      List.getElem?_eq_getElem hlt]
  · rw [convolvedPercentile_convolveDistributions hds, List.find?_range_eq_some]
    constructor
    · rintro ⟨hp, ht, hbefore⟩
      refine ⟨⟨by simpa [Nat.lt_succ_iff] using ht, by simpa using hp⟩, fun s hs => ?_⟩
      by_contra hlt
      have hnot := hbefore s (by omega)
      simp [hs.2] at hnot
    · rintro ⟨⟨ht, hp⟩, hleast⟩
      refine ⟨by simpa using hp, by simpa [Nat.lt_succ_iff] using ht, fun s hs => ?_⟩
      by_contra hnot
      have hle := hleast (a := s) ⟨by omega, by simpa using hnot⟩
      omega
  · rw [convolvedPercentile_convolveDistributions hds, List.find?_range_eq_none]
    simp

/-- Two rooms, the first done in ten ticks once and in twelve three times. -/
def roomTimes : List Distribution := [⟨[⟨10, 1⟩, ⟨12, 3⟩], 4⟩, ⟨[⟨5, 2⟩, ⟨7, 2⟩], 4⟩]

lemma roomTimes_valid : ∀ d ∈ roomTimes, d.Valid := by
  rintro d hd
  obtain rfl | rfl := by simpa [roomTimes] using hd
  · exact ⟨by decide, by decide, by decide, by decide⟩
  · exact ⟨by decide, by decide, by decide, by decide⟩

theorem convolution_roomTimes :
    (∀ t ≤ 18,
      (convolveDistributions roomTimes 18)[t]? = some (sumChance roomTimes fun s => s = t) ∧
      targetProbability (convolveDistributions roomTimes 18) t =
        sumChance roomTimes fun s => s ≤ t) ∧
    ∀ threshold : ℚ,
      (∀ t, convolvedPercentile (convolveDistributions roomTimes 18) threshold = some t ↔
        IsLeast {t | t ≤ 18 ∧ threshold ≤ sumChance roomTimes fun s => s ≤ t} t) ∧
      (convolvedPercentile (convolveDistributions roomTimes 18) threshold = none ↔
        ∀ t ≤ 18, (sumChance roomTimes fun s => s ≤ t) < threshold) :=
  convolution_exact roomTimes_valid 18

end Blert.SplitCalc

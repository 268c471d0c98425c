import Blert.Merging.Aligner

/-!
The alignments that the aligner returns.

Each of them is read off a matrix whose cells hold the similarities of the pairs of ticks in its
range, and goes from one merge to another without leaving out a tick. The aligner goes on where
fewer ticks of the base are left, before the alignment and after it, so that it comes to an end and
its alignments neither overlap nor cross.
-/

namespace Blert.Merging

/-! ### The cells of a matrix -/

lemma fill_similarity {gap diagonal above left : ℚ} {similarity : Similarity} :
    (Cell.fill gap diagonal above left similarity).similarity = similarity := by
  unfold Cell.fill
  dsimp only
  split_ifs <;> rfl

section Matrix

variable {gap : ℚ}

lemma length_fillRow (diagonal left : ℚ) (above : List ℚ) (sims : List Similarity) :
    (fillRow gap diagonal left above sims).length = min above.length sims.length := by
  induction sims generalizing diagonal left above with
  | nil => cases above <;> simp [fillRow]
  | cons s sims ih =>
    cases above with
    | nil => simp [fillRow]
    | cons a above => simp [fillRow, ih]

lemma isSome_cellAt {above : List ℚ} {rows : List (List Similarity)}
    (hrows : ∀ sims ∈ rows, sims.length = above.length) {i j : ℕ} (hi : i < rows.length)
    (hj : j < above.length) : (cellAt (fillRows gap above rows) i j).isSome := by
  induction rows generalizing above i with
  | nil => exact absurd hi (Nat.not_lt_zero i)
  | cons sims rows ih =>
    have hlen : (fillRow gap 0 0 above sims).length = above.length := by
      rw [length_fillRow, hrows sims List.mem_cons_self, min_self]
    cases i with
    | zero => simpa [cellAt, fillRows, hlen] using hj
    | succ i =>
      have hlen' : ((fillRow gap 0 0 above sims).map Cell.score).length = above.length := by
        rw [List.length_map, hlen]
      have hrest : ∀ sims' ∈ rows,
          sims'.length = ((fillRow gap 0 0 above sims).map Cell.score).length := by
        intro sims' hmem
        rw [hlen', hrows sims' (List.mem_cons_of_mem _ hmem)]
      have := ih hrest (Nat.lt_of_succ_lt_succ hi) (by rw [hlen']; exact hj)
      simpa [cellAt, fillRows] using this

end Matrix

section Aligner

variable {τ : Type*} (score : τ → τ → Similarity) (base target : List (Option τ))
  (config : AlignmentConfig)

/-- The similarity of a tick of the base and a tick of the target. -/
def similarityAt (b t : ℕ) : Similarity :=
  scoreSimilarity score (base[b]?.bind id) (target[t]?.bind id)

variable {score base target config} {range : AlignmentRange}

lemma getElem?_ticksIn {ticks : List (Option τ)} {start stop i : ℕ} :
    (ticksIn ticks start stop)[i]? = if i < stop - start then ticks[i + start]? else none := by
  rw [ticksIn, List.getElem?_take, List.getElem?_drop, Nat.add_comm]

lemma cell_fillMatrices {i j : ℕ} {c : Cell}
    (hc : cellAt (fillMatrices score base target config range) i j = some c) :
    c = Cell.fill config.gapOpenPenalty
      (scoreBefore (fillMatrices score base target config range) i j)
      (scoreBefore (fillMatrices score base target config range) i (j + 1))
      (scoreBefore (fillMatrices score base target config range) (i + 1) j)
      (similarityAt score base target (i + range.baseStart) (j + range.targetStart)) := by
  obtain ⟨s, hs, hfill⟩ := cell_fillRows hc
  obtain ⟨sims, hsims, hs⟩ := Option.bind_eq_some_iff.mp hs
  rw [List.getElem?_map] at hsims
  obtain ⟨b, hb, rfl⟩ := Option.map_eq_some_iff.mp hsims
  rw [List.getElem?_map] at hs
  obtain ⟨t, ht, rfl⟩ := Option.map_eq_some_iff.mp hs
  rw [getElem?_ticksIn] at hb ht
  rw [Option.ite_none_right_eq_some] at hb ht
  rw [similarityAt, hb.2, ht.2]
  exact hfill

lemma exists_cell (score : τ → τ → Similarity) (config : AlignmentConfig)
    (hbase : range.baseEnd ≤ base.length) (htarget : range.targetEnd ≤ target.length) {i j : ℕ}
    (hi : i + range.baseStart < range.baseEnd)
    (hj : j + range.targetStart < range.targetEnd) :
    ∃ c, cellAt (fillMatrices score base target config range) i j = some c := by
  have hlen : ∀ {ticks : List (Option τ)} {start stop k : ℕ}, stop ≤ ticks.length →
      k + start < stop → k < (ticksIn ticks start stop).length := by
    intro ticks start stop k hstop hk
    rw [ticksIn, List.length_take, List.length_drop]
    omega
  refine Option.isSome_iff_exists.mp (isSome_cellAt ?_ ?_ ?_)
  · intro sims hsims
    obtain ⟨b, -, rfl⟩ := List.mem_map.mp hsims
    rw [List.length_map, List.length_replicate]
  · rw [List.length_map]
    exact hlen hbase hi
  · rw [List.length_replicate]
    exact hlen htarget hj

/-! ### What is merged -/

/-- Each merge of an alignment is of two ticks that are not incompatible, scored by how alike they
are. -/
def MergesAlike (score : τ → τ → Similarity) (base target : List (Option τ)) (es : Alignment) :
    Prop :=
  ∀ b t s, .merge b t s ∈ es → s = similarityAt score base target b t ∧ s ≠ ⊥

lemma mergesAlike_nil : MergesAlike score base target [] := fun _ _ _ h => by cases h

lemma MergesAlike.cons_gap {es : Alignment} {e : AlignmentEntry}
    (he : ∀ b t s, e ≠ .merge b t s) (hes : MergesAlike score base target es) :
    MergesAlike score base target (e :: es) := by
  intro b t s hmem
  rcases List.mem_cons.mp hmem with h | h
  · exact absurd h.symm (he b t s)
  · exact hes b t s h

lemma mergesAlike_traceBack (i j : ℕ) : MergesAlike score base target
    (traceBack range (fillMatrices score base target config range) i j) := by
  induction i, j using traceBack.induct (fillMatrices score base target config range) with
  | case1 i j c hc hd =>
    rw [traceBack_cell hc, hd]
    exact mergesAlike_nil
  | case2 i j c hc hd ih =>
    rw [traceBack_cell hc, hd]
    intro b t s hmem
    rcases List.mem_cons.mp hmem with h | h
    · cases h
      have hfill := cell_fillMatrices hc
      refine ⟨?_, ?_⟩
      · rw [hfill, fill_similarity]
      · rw [hfill]
        exact fill_matched (hfill ▸ hd)
    · exact ih b t s h
  | case3 i j c hc hd ih =>
    rw [traceBack_cell hc, hd]
    exact ih.cons_gap fun _ _ _ => by simp
  | case4 i j c hc hd ih =>
    rw [traceBack_cell hc, hd]
    exact ih.cons_gap fun _ _ _ => by simp
  | case5 i j hc =>
    rw [traceBack, hc]
    exact mergesAlike_nil
  | case6 i j hij =>
    unfold traceBack
    split
    · exact absurd rfl (hij _ _ rfl)
    · exact mergesAlike_nil

lemma mergesAlike_alignLocal {loc : LocalAlignment}
    (h : alignLocal score base target config range = some loc) :
    MergesAlike score base target loc.entries ∧ loc.range = range := by
  unfold alignLocal at h
  dsimp only at h
  split at h
  · cases h
  · rename_i es hes
    split_ifs at h
    cases h
    unfold backtrackBest at hes
    dsimp only at hes
    split_ifs at hes
    cases hes
    exact ⟨fun b t s hmem => mergesAlike_traceBack _ _ b t s (List.mem_reverse.mp hmem), rfl⟩

/-! ### Local alignments -/

structure AlignmentRange.Within (range : AlignmentRange) (base target : List (Option τ)) :
    Prop where
  base_le : range.baseStart ≤ range.baseEnd
  base_length : range.baseEnd ≤ base.length
  target_le : range.targetStart ≤ range.targetEnd
  target_length : range.targetEnd ≤ target.length

/-- A local alignment goes from one merge to another within its range, tick by tick, and merges no
ticks that are incompatible. -/
structure LocalAlignment.WellFormed (score : τ → τ → Similarity) (base target : List (Option τ))
    (loc : LocalAlignment) : Prop where
  within : loc.range.Within base target
  spans : ∃ b t b' t', loc.range.baseStart ≤ b ∧ loc.range.targetStart ≤ t ∧
    b' < loc.range.baseEnd ∧ t' < loc.range.targetEnd ∧ Spans loc.entries b t b' t'
  merges : MergesAlike score base target loc.entries

lemma wellFormed_alignLocal (hrange : range.Within base target) {loc : LocalAlignment}
    (h : alignLocal score base target config range = some loc) :
    loc.WellFormed score base target := by
  obtain ⟨hmerges, hr⟩ := mergesAlike_alignLocal h
  exact ⟨hr ▸ hrange, hr ▸ spans_alignLocal score base target config h, hmerges⟩

/-- After a local alignment of a range, the aligner goes on in the range before it and in the range
after it. -/
inductive Continues (score : τ → τ → Similarity) (base target : List (Option τ))
    (config : AlignmentConfig) : AlignmentRange → AlignmentRange → Prop
  | before {range : AlignmentRange} {loc : LocalAlignment}
    (h : alignLocal score base target config range = some loc) :
    Continues score base target config
      { range with baseEnd := (firstMerge loc.entries).1
                   targetEnd := (firstMerge loc.entries).2 } range
  | after {range : AlignmentRange} {loc : LocalAlignment}
    (h : alignLocal score base target config range = some loc) :
    Continues score base target config
      { range with baseStart := (lastMerge loc.entries).1 + 1
                   targetStart := (lastMerge loc.entries).2 + 1 } range

lemma Continues.next {range' : AlignmentRange}
    (h : Continues score base target config range' range) :
    range'.baseEnd - range'.baseStart < range.baseEnd - range.baseStart ∧
      (range.Within base target → range'.Within base target) := by
  cases h with
  | before h =>
    obtain ⟨b, t, b', t', hb, ht, hb', ht', hsp⟩ := spans_alignLocal score base target config h
    have hle := hsp.le
    rw [hsp.firstMerge]
    exact ⟨by dsimp only; omega, fun hw => ⟨hb, by have := hw.base_length; dsimp only; omega, ht,
      by have := hw.target_length; dsimp only; omega⟩⟩
  | after h =>
    obtain ⟨b, t, b', t', hb, ht, hb', ht', hsp⟩ := spans_alignLocal score base target config h
    have hle := hsp.le
    rw [hsp.lastMerge]
    exact ⟨by dsimp only; omega, fun hw => ⟨hb', hw.base_length, ht', hw.target_length⟩⟩

lemma wellFounded_continues : WellFounded (Continues score base target config) :=
  Subrelation.wf (fun h => h.next.1)
    (measure fun range : AlignmentRange => range.baseEnd - range.baseStart).wf

lemma wellFormed_alignOver (hrange : range.Within base target) :
    ∀ loc ∈ alignOver score base target config range, loc.WellFormed score base target := by
  induction range using alignOver.induct score base target config with
  | case1 range hshort =>
    rw [alignOver, if_pos hshort]
    exact fun _ h => by cases h
  | case2 range hlong hnone =>
    rw [alignOver, if_neg hlong]
    split
    · exact fun _ h => by cases h
    · rename_i loc hloc
      rw [hnone] at hloc
      cases hloc
  | case3 range hlong loc hloc first last ih₁ ih₂ =>
    rw [alignOver, if_neg hlong]
    split
    · exact fun _ h => by cases h
    · rename_i loc' hloc'
      rw [hloc] at hloc'
      cases hloc'
      intro l hl
      rcases List.mem_append.mp hl with hl | hl
      · exact ih₁ ((Continues.before hloc).next.2 hrange) l hl
      · rcases List.mem_cons.mp hl with rfl | hl
        · exact wellFormed_alignLocal hrange hloc
        · exact ih₂ ((Continues.after hloc).next.2 hrange) l hl

/-! ### One before the other -/

/-- The tick of the base that an action places. -/
def AlignmentEntry.baseIndex? : AlignmentEntry → Option ℕ
  | .merge baseIndex _ _ => some baseIndex
  | .insert _ => none
  | .keep baseIndex => some baseIndex

/-- The tick of the target that an action places. -/
def AlignmentEntry.targetIndex? : AlignmentEntry → Option ℕ
  | .merge _ targetIndex _ => some targetIndex
  | .insert targetIndex => some targetIndex
  | .keep _ => none

/-- All the ticks that an alignment places come before those that the other one places, in the base
as in the target. -/
def Precedes (es es' : Alignment) : Prop :=
  ∀ e ∈ es, ∀ e' ∈ es',
    (∀ b ∈ e.baseIndex?, ∀ b' ∈ e'.baseIndex?, b < b') ∧
      ∀ t ∈ e.targetIndex?, ∀ t' ∈ e'.targetIndex?, t < t'

lemma Walk.bounds {b t b' t' : ℕ} {es : Alignment} (h : Walk b t es b' t') :
    ∀ e ∈ es, (∀ k ∈ e.baseIndex?, b ≤ k ∧ k < b') ∧ ∀ k ∈ e.targetIndex?, t ≤ k ∧ k < t' := by
  induction h with
  | nil => exact fun _ h => by cases h
  | merge hw ih =>
    have hle := hw.le
    intro e he
    rcases List.mem_cons.mp he with rfl | he
    · simp only [AlignmentEntry.baseIndex?, AlignmentEntry.targetIndex?, Option.mem_some_iff,
        forall_eq']
      omega
    · obtain ⟨hb, ht⟩ := ih e he
      exact ⟨fun k hk => ⟨by have := hb k hk; omega, (hb k hk).2⟩,
        fun k hk => ⟨by have := ht k hk; omega, (ht k hk).2⟩⟩
  | keep hw ih =>
    have hle := hw.le
    intro e he
    rcases List.mem_cons.mp he with rfl | he
    · simp only [AlignmentEntry.baseIndex?, AlignmentEntry.targetIndex?, Option.mem_some_iff,
        forall_eq', Option.not_mem_none, false_imp_iff, implies_true, and_true]
      omega
    · obtain ⟨hb, ht⟩ := ih e he
      exact ⟨fun k hk => ⟨by have := hb k hk; omega, (hb k hk).2⟩, ht⟩
  | insert hw ih =>
    have hle := hw.le
    intro e he
    rcases List.mem_cons.mp he with rfl | he
    · simp only [AlignmentEntry.baseIndex?, AlignmentEntry.targetIndex?, Option.mem_some_iff,
        forall_eq', Option.not_mem_none, false_imp_iff, implies_true, true_and]
      omega
    · obtain ⟨hb, ht⟩ := ih e he
      exact ⟨hb, fun k hk => ⟨by have := ht k hk; omega, (ht k hk).2⟩⟩

lemma Ordered.bounds {n m b t : ℕ} {as : List Alignment} (h : Ordered n m b t as) :
    ∀ es ∈ as, ∀ e ∈ es, (∀ k ∈ e.baseIndex?, b ≤ k) ∧ ∀ k ∈ e.targetIndex?, t ≤ k := by
  induction h with
  | nil => exact fun _ h => by cases h
  | cons hb ht hes has ih =>
    have hle := hes.le
    intro es hmem e he
    rcases List.mem_cons.mp hmem with rfl | hmem
    · obtain ⟨hbase, htarget⟩ := hes.walk.bounds e he
      exact ⟨fun k hk => hb.trans (hbase k hk).1, fun k hk => ht.trans (htarget k hk).1⟩
    · obtain ⟨hbase, htarget⟩ := ih es hmem e he
      exact ⟨fun k hk => by have := hbase k hk; omega, fun k hk => by have := htarget k hk; omega⟩

lemma Ordered.pairwise {n m b t : ℕ} {as : List Alignment} (h : Ordered n m b t as) :
    as.Pairwise Precedes := by
  induction h with
  | nil => exact .nil
  | cons _ _ hes has ih =>
    refine .cons (fun es' hes' e he e' he' => ?_) ih
    obtain ⟨hb, ht⟩ := hes.walk.bounds e he
    obtain ⟨hb', ht'⟩ := has.bounds es' hes' e' he'
    exact ⟨fun k hk k' hk' => (hb k hk).2.trans_le (hb' k' hk'),
      fun k hk k' hk' => (ht k hk).2.trans_le (ht' k' hk')⟩

/-- **The aligner comes to an end with alignments that are well formed**, each before the next in
the base and in the target. -/
theorem align_wellFormed (score : τ → τ → Similarity) (base target : List (Option τ))
    (config : AlignmentConfig) :
    WellFounded (Continues score base target config) ∧
      (∀ loc ∈ (align score base target config).alignments,
        loc.WellFormed score base target) ∧
      (align score base target config).alignments.Pairwise fun loc loc' =>
        Precedes loc.entries loc'.entries := by
  refine ⟨wellFounded_continues, ?_, ?_⟩
  · exact wellFormed_alignOver
      ⟨Nat.zero_le _, le_refl _, Nat.zero_le _, le_refl _⟩
  · exact List.pairwise_map.mp (ordered_align score base target config).pairwise

end Aligner

end Blert.Merging

import Blert.Merging.Alignments

/-!
The best local alignment of a range.

A local alignment is a walk within the range, scored by the similarities of what it merges less a
penalty for each gap. The score before a place of the matrix is the best score of a walk that ends
there, since each cell takes the best of its neighbours, and the walk traced back from a cell has
exactly its score, since it follows where the score came from.
-/

namespace Blert.Merging

/-! ### Cells and their neighbours -/

section Cell

variable {gap diagonal above left : ℚ} {similarity : Similarity}

lemma fill_score : (Cell.fill gap diagonal above left similarity).score =
    max (max 0 ((matchScore diagonal similarity).unbotD 0)) (max (above - gap) (left - gap)) := by
  unfold Cell.fill
  dsimp only
  split_ifs <;> rfl

lemma above_le_fill : above - gap ≤ (Cell.fill gap diagonal above left similarity).score := by
  rw [fill_score]
  exact (le_max_left _ _).trans (le_max_right _ _)

lemma left_le_fill : left - gap ≤ (Cell.fill gap diagonal above left similarity).score := by
  rw [fill_score]
  exact (le_max_right _ _).trans (le_max_right _ _)

lemma diagonal_le_fill :
    (diagonal : Similarity) + similarity ≤
      (Cell.fill gap diagonal above left similarity).score := by
  rw [fill_score]
  induction similarity using WithBot.recBotCoe with
  | bot => exact bot_le
  | coe s =>
    rw [← WithBot.coe_add, WithBot.coe_le_coe]
    exact (le_max_right _ _).trans (le_max_left _ _)

lemma fill_matched_score
    (h : (Cell.fill gap diagonal above left similarity).direction = .matched) :
    (diagonal : Similarity) + similarity =
      (Cell.fill gap diagonal above left similarity).score := by
  unfold Cell.fill at h ⊢
  dsimp only at h ⊢
  split_ifs at h ⊢ with hd
  exact hd.1

end Cell

section Aligner

variable {τ : Type*} {score : τ → τ → Similarity} {base target : List (Option τ)}
  {config : AlignmentConfig} {range : AlignmentRange}

/-! ### Scores of paths -/

/-- What an action adds to the score of a path. -/
def entryScore (score : τ → τ → Similarity) (base target : List (Option τ))
    (config : AlignmentConfig) : AlignmentEntry → Similarity
  | .merge b t _ => similarityAt score base target b t
  | .insert _ => (-config.gapOpenPenalty : ℚ)
  | .keep _ => (-config.gapOpenPenalty : ℚ)

/-- The score of a path of merges and gaps. -/
def pathScore (score : τ → τ → Similarity) (base target : List (Option τ))
    (config : AlignmentConfig) (es : Alignment) : Similarity :=
  (es.map (entryScore score base target config)).sum

@[simp] lemma pathScore_nil : pathScore score base target config [] = 0 := rfl

@[simp] lemma pathScore_cons {e : AlignmentEntry} {es : Alignment} :
    pathScore score base target config (e :: es) =
      entryScore score base target config e + pathScore score base target config es :=
  List.sum_cons

lemma pathScore_reverse {es : Alignment} : pathScore score base target config es.reverse =
    pathScore score base target config es := by
  rw [pathScore, List.map_reverse, List.sum_reverse, pathScore]

/-- A path of merges and gaps goes through a part of the base and a part of the target within a
range. -/
def LocalPath (range : AlignmentRange) (es : Alignment) : Prop :=
  ∃ b t b' t', range.baseStart ≤ b ∧ range.targetStart ≤ t ∧ b' ≤ range.baseEnd ∧
    t' ≤ range.targetEnd ∧ Walk b t es b' t'

lemma scoreBefore_nonneg (i j : ℕ) :
    0 ≤ scoreBefore (fillMatrices score base target config range) i j := by
  unfold scoreBefore
  split
  · rename_i i j
    cases hc : cellAt (fillMatrices score base target config range) i j with
    | none => exact le_refl _
    | some c =>
      rw [cell_fillMatrices hc]
      exact fill_nonneg
  · exact le_refl _

/-! ### No path is better -/

lemma keep_le (score : τ → τ → Similarity) (config : AlignmentConfig)
    (hrange : range.Within base target) {i j : ℕ}
    (hi : i + 1 + range.baseStart ≤ range.baseEnd)
    (hj : j + range.targetStart ≤ range.targetEnd) :
    scoreBefore (fillMatrices score base target config range) i j - config.gapOpenPenalty ≤
      scoreBefore (fillMatrices score base target config range) (i + 1) j := by
  cases j with
  | zero =>
    rw [scoreBefore, scoreBefore]
    · linarith [config.gapOpenPenalty_pos]
    · exact fun _ _ _ h => by cases h
    · exact fun _ _ _ h => by cases h
  | succ j =>
    obtain ⟨c, hc⟩ := exists_cell score config hrange.base_length hrange.target_length (i := i)
      (j := j) (by omega) (by omega)
    have hfill := cell_fillMatrices hc
    have hscore : scoreBefore (fillMatrices score base target config range) (i + 1) (j + 1) =
        c.score := by rw [scoreBefore, hc]; rfl
    rw [hscore, hfill]
    exact above_le_fill

lemma insert_le (score : τ → τ → Similarity) (config : AlignmentConfig)
    (hrange : range.Within base target) {i j : ℕ}
    (hi : i + range.baseStart ≤ range.baseEnd)
    (hj : j + 1 + range.targetStart ≤ range.targetEnd) :
    scoreBefore (fillMatrices score base target config range) i j - config.gapOpenPenalty ≤
      scoreBefore (fillMatrices score base target config range) i (j + 1) := by
  cases i with
  | zero =>
    rw [scoreBefore, scoreBefore]
    · linarith [config.gapOpenPenalty_pos]
    · exact fun _ _ h => by cases h
    · exact fun _ _ h => by cases h
  | succ i =>
    obtain ⟨c, hc⟩ := exists_cell score config hrange.base_length hrange.target_length (i := i)
      (j := j) (by omega) (by omega)
    have hfill := cell_fillMatrices hc
    have hscore : scoreBefore (fillMatrices score base target config range) (i + 1) (j + 1) =
        c.score := by rw [scoreBefore, hc]; rfl
    rw [hscore, hfill]
    exact left_le_fill

lemma merge_le (score : τ → τ → Similarity) (config : AlignmentConfig)
    (hrange : range.Within base target) {i j : ℕ}
    (hi : i + 1 + range.baseStart ≤ range.baseEnd)
    (hj : j + 1 + range.targetStart ≤ range.targetEnd) :
    (scoreBefore (fillMatrices score base target config range) i j : Similarity) +
        similarityAt score base target (i + range.baseStart) (j + range.targetStart) ≤
      scoreBefore (fillMatrices score base target config range) (i + 1) (j + 1) := by
  obtain ⟨c, hc⟩ := exists_cell score config hrange.base_length hrange.target_length (i := i)
    (j := j) (by omega) (by omega)
  have hfill := cell_fillMatrices hc
  have hscore : scoreBefore (fillMatrices score base target config range) (i + 1) (j + 1) =
      c.score := by rw [scoreBefore, hc]; rfl
  rw [hscore, hfill]
  exact diagonal_le_fill

lemma Walk.score_le (score : τ → τ → Similarity) (config : AlignmentConfig)
    (hrange : range.Within base target) {b t b' t' : ℕ} {es : Alignment}
    (h : Walk b t es b' t') :
    ∀ i j i' j', b = i + range.baseStart → t = j + range.targetStart →
      b' = i' + range.baseStart → t' = j' + range.targetStart → b' ≤ range.baseEnd →
      t' ≤ range.targetEnd →
      (scoreBefore (fillMatrices score base target config range) i j : Similarity) +
          pathScore score base target config es ≤
        scoreBefore (fillMatrices score base target config range) i' j' := by
  induction h with
  | nil =>
    intro i j i' j' hb ht hb' ht' _ _
    obtain rfl : i = i' := by omega
    obtain rfl : j = j' := by omega
    rw [pathScore_nil, add_zero]
  | merge hw ih =>
    intro i j i' j' hb ht hb' ht' hbe hte
    have hle := hw.le
    have hstep := merge_le score config hrange (i := i) (j := j) (by omega) (by omega)
    rw [pathScore_cons, entryScore, hb, ht, ← add_assoc]
    exact (add_le_add_left hstep _).trans
      (ih (i + 1) (j + 1) i' j' (by omega) (by omega) hb' ht' hbe hte)
  | keep hw ih =>
    intro i j i' j' hb ht hb' ht' hbe hte
    have hle := hw.le
    have hstep := keep_le score config hrange (i := i) (j := j) (by omega) (by omega)
    rw [pathScore_cons, entryScore, ← add_assoc, ← WithBot.coe_add, ← sub_eq_add_neg]
    exact (add_le_add_left (WithBot.coe_le_coe.mpr hstep) _).trans
      (ih (i + 1) j i' j' (by omega) ht hb' ht' hbe hte)
  | insert hw ih =>
    intro i j i' j' hb ht hb' ht' hbe hte
    have hle := hw.le
    have hstep := insert_le score config hrange (i := i) (j := j) (by omega) (by omega)
    rw [pathScore_cons, entryScore, ← add_assoc, ← WithBot.coe_add, ← sub_eq_add_neg]
    exact (add_le_add_left (WithBot.coe_le_coe.mpr hstep) _).trans
      (ih i (j + 1) i' j' hb (by omega) hb' ht' hbe hte)

/-! ### The path that is traced back -/

lemma pathScore_traceBack (i j : ℕ) :
    pathScore score base target config
        (traceBack range (fillMatrices score base target config range) i j) =
      (scoreBefore (fillMatrices score base target config range) i j : Similarity) := by
  induction i, j using traceBack.induct (fillMatrices score base target config range) with
  | case1 i j c hc hd =>
    have hfill := cell_fillMatrices hc
    have hzero := fill_none (hfill ▸ hd)
    rw [← hfill] at hzero
    rw [traceBack_cell hc, hd, scoreBefore, hc]
    simp [hzero]
  | case2 i j c hc hd ih =>
    have hfill := cell_fillMatrices hc
    have hscore := fill_matched_score (hfill ▸ hd)
    rw [← hfill] at hscore
    rw [traceBack_cell hc, hd, scoreBefore, hc]
    simp only [pathScore_cons, entryScore, ih, Option.map_some, Option.getD_some]
    rw [add_comm, hscore]
  | case3 i j c hc hd ih =>
    have hfill := cell_fillMatrices hc
    have hscore := fill_gapTarget (hfill ▸ hd)
    rw [← hfill] at hscore
    rw [traceBack_cell hc, hd, scoreBefore, hc]
    simp only [pathScore_cons, entryScore, ih, Option.map_some, Option.getD_some]
    rw [← WithBot.coe_add, hscore, neg_add_eq_sub]
  | case4 i j c hc hd ih =>
    have hfill := cell_fillMatrices hc
    have hscore := fill_gapBase (hfill ▸ hd)
    rw [← hfill] at hscore
    rw [traceBack_cell hc, hd, scoreBefore, hc]
    simp only [pathScore_cons, entryScore, ih, Option.map_some, Option.getD_some]
    rw [← WithBot.coe_add, hscore, neg_add_eq_sub]
  | case5 i j hc =>
    rw [traceBack, hc, scoreBefore, hc]
    rfl
  | case6 i j hij =>
    unfold traceBack scoreBefore
    split
    · exact absurd rfl (hij _ _ rfl)
    · rfl

/-! ### The best path -/

/-- The global maximum of the matrix of a range, with its place. -/
def bestCell (score : τ → τ → Similarity) (base target : List (Option τ))
    (config : AlignmentConfig) (range : AlignmentRange) : Best :=
  bestInRows { score := 0, row := 0, col := 0 } 0 (fillMatrices score base target config range)

/-- The path that is traced back from the maximum. -/
def tracedPath (score : τ → τ → Similarity) (base target : List (Option τ))
    (config : AlignmentConfig) (range : AlignmentRange) : Alignment :=
  (traceBack range (fillMatrices score base target config range)
    ((bestCell score base target config range).row + 1)
    ((bestCell score base target config range).col + 1)).reverse

lemma scoreBefore_le_best (i j : ℕ) :
    scoreBefore (fillMatrices score base target config range) i j ≤
      (bestCell score base target config range).score := by
  have hof := best_inRows ⟨0, 0, 0⟩ 0 (fillMatrices score base target config range)
  unfold scoreBefore
  split
  · rename_i i j
    cases hc : cellAt (fillMatrices score base target config range) i j with
    | none => exact hof.start_le
    | some c => exact hof.le (i, j, c) (mem_placesInRows.2 ⟨i, (Nat.zero_add i).symm, hc⟩)
  · exact hof.start_le

lemma scoreBefore_best : scoreBefore (fillMatrices score base target config range)
    ((bestCell score base target config range).row + 1)
    ((bestCell score base target config range).col + 1) =
      (bestCell score base target config range).score := by
  have hof := best_inRows ⟨0, 0, 0⟩ 0 (fillMatrices score base target config range)
  rcases hof.mem with h | ⟨c, hc, hs⟩
  · refine le_antisymm (scoreBefore_le_best _ _) ?_
    have hzero : (bestCell score base target config range).score = 0 := by rw [bestCell, h]
    rw [hzero]
    exact scoreBefore_nonneg _ _
  · obtain ⟨k, hk, hcell⟩ := mem_placesInRows.1 hc
    simp only [Nat.zero_add] at hk
    rw [← hk] at hcell
    rw [scoreBefore, bestCell, hcell]
    exact hs

lemma localPath_tracedPath (score : τ → τ → Similarity) (config : AlignmentConfig)
    (hrange : range.Within base target) :
    LocalPath range (tracedPath score base target config range) := by
  have hstart := hrange.base_le
  have hstart' := hrange.target_le
  cases hc : cellAt (fillMatrices score base target config range)
      (bestCell score base target config range).row
      (bestCell score base target config range).col with
  | none =>
    refine ⟨range.baseStart, range.targetStart, _, _, le_refl _, le_refl _, hstart, hstart', ?_⟩
    rw [tracedPath, traceBack, hc]
    exact .nil
  | some c =>
    obtain ⟨b, t, -, -, hw⟩ := walk_traceBack range (fillMatrices score base target config range)
      ((bestCell score base target config range).row + 1)
      ((bestCell score base target config range).col + 1)
    obtain ⟨hi, hj⟩ := cell_inRange score base target config (by rw [hc]; rfl)
    exact ⟨_, _, _, _, Nat.le_add_left _ _, Nat.le_add_left _ _, by omega, by omega, hw⟩

lemma pathScore_tracedPath : pathScore score base target config
    (tracedPath score base target config range) =
      ((bestCell score base target config range).score : Similarity) := by
  rw [tracedPath, pathScore_reverse, pathScore_traceBack, scoreBefore_best]

lemma LocalPath.score_le (hrange : range.Within base target) {es : Alignment}
    (h : LocalPath range es) : pathScore score base target config es ≤
      (bestCell score base target config range).score := by
  obtain ⟨b, t, b', t', hb, ht, hb', ht', hw⟩ := h
  have hle := hw.le
  have hscore := hw.score_le score config hrange (b - range.baseStart) (t - range.targetStart)
    (b' - range.baseStart) (t' - range.targetStart) (by omega) (by omega) (by omega) (by omega)
    hb' ht'
  have hzero : (0 : Similarity) ≤ scoreBefore (fillMatrices score base target config range)
      (b - range.baseStart) (t - range.targetStart) :=
    WithBot.coe_le_coe.mpr (scoreBefore_nonneg _ _)
  calc pathScore score base target config es
      ≤ _ + pathScore score base target config es := le_add_of_nonneg_left hzero
    _ ≤ _ := hscore
    _ ≤ _ := WithBot.coe_le_coe.mpr (scoreBefore_le_best _ _)

lemma backtrackBest_eq :
    backtrackBest config range (fillMatrices score base target config range) =
      if (bestCell score base target config range).score < config.minScore then none
      else some (tracedPath score base target config range) := rfl

lemma alignLocal_eq_none : alignLocal score base target config range = none ↔
    (bestCell score base target config range).score < config.minScore ∨
      (tracedPath score base target config range).length < config.minLength := by
  unfold alignLocal
  dsimp only
  rw [backtrackBest_eq]
  by_cases hscore : (bestCell score base target config range).score < config.minScore
  · rw [if_pos hscore]
    exact ⟨fun _ => .inl hscore, fun _ => rfl⟩
  · rw [if_neg hscore]
    dsimp only
    split_ifs with hlen
    · exact ⟨fun _ => .inr hlen, fun _ => rfl⟩
    · exact ⟨nofun, fun h => (h.elim hscore hlen).elim⟩

lemma entries_alignLocal {loc : LocalAlignment}
    (h : alignLocal score base target config range = some loc) :
    loc.entries = tracedPath score base target config range := by
  unfold alignLocal at h
  dsimp only at h
  rw [backtrackBest_eq] at h
  by_cases hscore : (bestCell score base target config range).score < config.minScore
  · rw [if_pos hscore] at h
    cases h
  · rw [if_neg hscore] at h
    dsimp only at h
    split_ifs at h with hlen
    cases h
    rfl

/-- **The local alignment of a range is a best one**: what is traced back scores the maximum of the
matrix, and no other path of the range scores more. There is none just when the maximum is too low
or the path too short. -/
theorem alignLocal_optimal (hrange : range.Within base target) :
    (LocalPath range (tracedPath score base target config range) ∧
      pathScore score base target config (tracedPath score base target config range) =
        ((bestCell score base target config range).score : Similarity)) ∧
    IsGreatest {s | ∃ es, LocalPath range es ∧ pathScore score base target config es = s}
      ((bestCell score base target config range).score : Similarity) ∧
    (alignLocal score base target config range = none ↔
      (bestCell score base target config range).score < config.minScore ∨
        (tracedPath score base target config range).length < config.minLength) ∧
    ∀ loc, alignLocal score base target config range = some loc →
      loc.entries = tracedPath score base target config range := by
  have htraced := localPath_tracedPath score config hrange
  refine ⟨⟨htraced, pathScore_tracedPath⟩, ⟨⟨_, htraced, pathScore_tracedPath⟩, ?_⟩,
    alignLocal_eq_none, fun _ => entries_alignLocal⟩
  rintro _ ⟨es, hes, rfl⟩
  exact hes.score_le hrange

/-- Two timelines of one tick each, which are best merged. -/
theorem oneTick_optimal : IsGreatest
    {s | ∃ es, LocalPath ⟨0, 1, 0, 1⟩ es ∧
      pathScore (fun _ _ => ((7 : ℚ) : Similarity)) [some ()] [some ()] .default es = s}
    ((7 : ℚ) : Similarity) := by
  have hseven : (7 : ℚ) = (bestCell (fun _ _ => ((7 : ℚ) : Similarity)) [some ()] [some ()]
      .default ⟨0, 1, 0, 1⟩).score := by decide +kernel
  have hrange : AlignmentRange.Within ⟨0, 1, 0, 1⟩ [some ()] [some ()] :=
    ⟨by decide, by decide, by decide, by decide⟩
  exact (congrArg (IsGreatest _) (congrArg WithBot.some hseven)).mpr
    (alignLocal_optimal hrange).2.1

end Aligner

end Blert.Merging

import Blert.Merging.Alignment

/-!
The tick aligner, and why it comes to an end.

A local alignment read off the matrix walks through base and target without leaving out a tick,
from one merge to another. The aligner goes on before and after it, where fewer ticks are left,
so its alignments come in order and do not overlap.
-/

namespace Blert.Merging

/-! ### What a cell says of its neighbours -/

section Cell

variable {gap diagonal above left : ℚ} {similarity : Similarity}

lemma fill_nonneg : 0 ≤ (Cell.fill gap diagonal above left similarity).score := by
  unfold Cell.fill
  dsimp only
  split_ifs <;> simp

lemma fill_none (h : (Cell.fill gap diagonal above left similarity).direction = .none) :
    (Cell.fill gap diagonal above left similarity).score = 0 := by
  unfold Cell.fill at h ⊢
  dsimp only at h ⊢
  split_ifs at h ⊢ with hd ha hl
  · dsimp only
    set m := max (max 0 ((matchScore diagonal similarity).unbotD 0)) (max (above - gap) (left - gap))
      with hm
    rcases max_choice (max 0 ((matchScore diagonal similarity).unbotD 0))
      (max (above - gap) (left - gap)) with h1 | h1
    · rw [← hm] at h1
      rcases max_choice 0 ((matchScore diagonal similarity).unbotD 0) with h2 | h2
      · rw [h1, h2]
      · rw [h2] at h1
        induction similarity using WithBot.recBotCoe with
        | bot => exact h1
        | coe s =>
          refine absurd ⟨?_, WithBot.coe_ne_bot⟩ hd
          rw [h1]
          exact (WithBot.coe_add diagonal s).symm
    · rw [← hm] at h1
      rcases max_choice (above - gap) (left - gap) with h2 | h2
      · exact absurd (h1.trans h2) ha
      · exact absurd (h1.trans h2) hl

lemma fill_matched (h : (Cell.fill gap diagonal above left similarity).direction = .matched) :
    (Cell.fill gap diagonal above left similarity).similarity ≠ ⊥ := by
  unfold Cell.fill at h ⊢
  dsimp only at h ⊢
  split_ifs at h ⊢ with hd
  exact hd.2

lemma fill_gapTarget (h : (Cell.fill gap diagonal above left similarity).direction = .gapTarget) :
    (Cell.fill gap diagonal above left similarity).score = above - gap := by
  unfold Cell.fill at h ⊢
  dsimp only at h ⊢
  split_ifs at h ⊢ with hd ha
  exact ha

lemma fill_gapBase (h : (Cell.fill gap diagonal above left similarity).direction = .gapBase) :
    (Cell.fill gap diagonal above left similarity).score = left - gap := by
  unfold Cell.fill at h ⊢
  dsimp only at h ⊢
  split_ifs at h ⊢ with hd ha hl
  exact hl

end Cell

/-! ### What a matrix holds -/

section Matrix

variable {gap : ℚ}

lemma fillRow_cell {diagonal left : ℚ} {above : List ℚ} {sims : List Similarity} {j : ℕ} {c : Cell}
    (h : (fillRow gap diagonal left above sims)[j]? = some c) :
    ∃ s, sims[j]? = some s ∧ c = Cell.fill gap ((diagonal :: above)[j]?.getD 0) (above[j]?.getD 0)
      ((left :: (fillRow gap diagonal left above sims).map Cell.score)[j]?.getD 0) s := by
  induction sims generalizing diagonal left above j with
  | nil => cases above <;> simp [fillRow] at h
  | cons s sims ih =>
    cases above with
    | nil => simp [fillRow] at h
    | cons a above =>
      cases j with
      | zero =>
        simp only [fillRow, List.getElem?_cons_zero, Option.some.injEq] at h
        exact ⟨s, rfl, by simp [← h]⟩
      | succ j =>
        simp only [fillRow, List.getElem?_cons_succ] at h
        obtain ⟨s', hs, hc⟩ := ih h
        exact ⟨s', hs, by simpa [fillRow] using hc⟩

lemma fillRows_row {above : List ℚ} {rows : List (List Similarity)} {i : ℕ} {row : List Cell}
    (h : (fillRows gap above rows)[i]? = some row) :
    ∃ sims, rows[i]? = some sims ∧ row = fillRow gap 0 0
      ((above :: (fillRows gap above rows).map (·.map Cell.score))[i]?.getD []) sims := by
  induction rows generalizing above i with
  | nil => simp [fillRows] at h
  | cons sims rows ih =>
    cases i with
    | zero =>
      simp only [fillRows, List.getElem?_cons_zero, Option.some.injEq] at h
      exact ⟨sims, rfl, by simp [← h]⟩
    | succ i =>
      simp only [fillRows, List.getElem?_cons_succ] at h
      obtain ⟨sims', hs, hc⟩ := ih h
      exact ⟨sims', hs, by simpa [fillRows] using hc⟩

def Filled (gap : ℚ) (matrix : List (List Cell)) : Prop :=
  ∀ i j c, cellAt matrix i j = some c → ∃ s, c = Cell.fill gap (scoreBefore matrix i j)
    (scoreBefore matrix i (j + 1)) (scoreBefore matrix (i + 1) j) s

lemma cell_fillRows {n : ℕ} {rows : List (List Similarity)} {i j : ℕ} {c : Cell}
    (hc : cellAt (fillRows gap (List.replicate n 0) rows) i j = some c) :
    ∃ s, rows[i]?.bind (·[j]?) = some s ∧
      c = Cell.fill gap (scoreBefore (fillRows gap (List.replicate n 0) rows) i j)
        (scoreBefore (fillRows gap (List.replicate n 0) rows) i (j + 1))
        (scoreBefore (fillRows gap (List.replicate n 0) rows) (i + 1) j) s := by
  set m := fillRows gap (List.replicate n 0) rows with hm
  obtain ⟨row, hrow, hcell⟩ := Option.bind_eq_some_iff.mp hc
  obtain ⟨sims, hsims, hfill⟩ := fillRows_row hrow
  rw [← hm] at hfill
  -- The scores of the row above, zero before the first row.
  have habove : ∀ k, ((List.replicate n 0 :: m.map (·.map Cell.score))[i]?.getD [])[k]?.getD 0 =
      scoreBefore m i (k + 1) := by
    intro k
    cases i with
    | zero =>
      by_cases hk : k < n <;> simp [scoreBefore, hk]
    | succ i => cases hi : m[i]? <;> simp [scoreBefore, cellAt, hi]
  have hleft : ∀ k, ((0 : ℚ) :: row.map Cell.score)[k]?.getD 0 = scoreBefore m (i + 1) k := by
    intro k
    cases k with
    | zero => rfl
    | succ k => simp [scoreBefore, cellAt, hrow]
  have hdiag : ∀ k, ((0 : ℚ) :: (List.replicate n 0 ::
      m.map (·.map Cell.score))[i]?.getD [])[k]?.getD 0 = scoreBefore m i k := by
    intro k
    cases k with
    | zero => cases i <;> rfl
    | succ k => simpa using habove k
  rw [hfill] at hcell
  obtain ⟨s, hs, hcs⟩ := fillRow_cell hcell
  rw [← hfill, hleft, habove, hdiag] at hcs
  exact ⟨s, Option.bind_eq_some_iff.mpr ⟨sims, hsims, hs⟩, hcs⟩

lemma filled_fillRows (gap : ℚ) (n : ℕ) (rows : List (List Similarity)) :
    Filled gap (fillRows gap (List.replicate n 0) rows) := by
  intro i j c hc
  obtain ⟨s, -, hcs⟩ := cell_fillRows hc
  exact ⟨s, hcs⟩

variable {matrix : List (List Cell)}

lemma Filled.of_pos (hm : Filled gap matrix) {i j : ℕ} (h : 0 < scoreBefore matrix i j) :
    ∃ i' j' c, i = i' + 1 ∧ j = j' + 1 ∧ cellAt matrix i' j' = some c ∧ c.direction ≠ .none := by
  cases i with
  | zero => exact absurd h (lt_irrefl _)
  | succ i =>
    cases j with
    | zero => exact absurd h (lt_irrefl _)
    | succ j =>
      cases hc : cellAt matrix i j with
      | none => simp [scoreBefore, hc] at h
      | some c =>
        refine ⟨i, j, c, rfl, rfl, hc, fun hnone => ?_⟩
        obtain ⟨s, rfl⟩ := hm i j c hc
        rw [scoreBefore, hc] at h
        exact h.ne' (fill_none hnone)

end Matrix

/-! ### Walks -/

/-- The actions go through the base from `b` to `b'` and through the target from `t` to `t'`, tick
by tick. -/
inductive Walk : ℕ → ℕ → Alignment → ℕ → ℕ → Prop
  | nil {b t : ℕ} : Walk b t [] b t
  | merge {b t b' t' : ℕ} {es : Alignment} {score : Similarity} (h : Walk (b + 1) (t + 1) es b' t') :
    Walk b t (.merge b t score :: es) b' t'
  | keep {b t b' t' : ℕ} {es : Alignment} (h : Walk (b + 1) t es b' t') :
    Walk b t (.keep b :: es) b' t'
  | insert {b t b' t' : ℕ} {es : Alignment} (h : Walk b (t + 1) es b' t') :
    Walk b t (.insert t :: es) b' t'

lemma Walk.append {b t b' t' b'' t'' : ℕ} {es fs : Alignment} (h : Walk b t es b' t')
    (h' : Walk b' t' fs b'' t'') : Walk b t (es ++ fs) b'' t'' := by
  induction h with
  | nil => exact h'
  | merge _ ih => exact .merge (ih h')
  | keep _ ih => exact .keep (ih h')
  | insert _ ih => exact .insert (ih h')

lemma Walk.le {b t b' t' : ℕ} {es : Alignment} (h : Walk b t es b' t') : b ≤ b' ∧ t ≤ t' := by
  induction h with
  | nil => exact ⟨le_refl _, le_refl _⟩
  | merge _ ih => omega
  | keep _ ih => omega
  | insert _ ih => omega

/-- A local alignment from one merge to another. The walk ends one past its last merge. -/
structure Spans (es : Alignment) (b t b' t' : ℕ) : Prop where
  walk : Walk b t es (b' + 1) (t' + 1)
  first : ∃ score, es.head? = some (.merge b t score)
  last : ∃ score, es.getLast? = some (.merge b' t' score)

lemma Spans.le {es : Alignment} {b t b' t' : ℕ} (h : Spans es b t b' t') : b ≤ b' ∧ t ≤ t' := by
  obtain ⟨score, hf⟩ := h.first
  obtain ⟨es, rfl⟩ := List.head?_eq_some_iff.mp hf
  cases h.walk with
  | merge hw =>
    have := hw.le
    omega

/-! ### Tracing back -/

section Trace

variable {gap : ℚ} {matrix : List (List Cell)} {range : AlignmentRange}

lemma traceBack_cell {i j : ℕ} {c : Cell} (hc : cellAt matrix i j = some c) :
    traceBack range matrix (i + 1) (j + 1) =
      match c.direction with
      | .none => []
      | .matched =>
        .merge (i + range.baseStart) (j + range.targetStart) c.similarity ::
          traceBack range matrix i j
      | .gapTarget => .keep (i + range.baseStart) :: traceBack range matrix i (j + 1)
      | .gapBase => .insert (j + range.targetStart) :: traceBack range matrix (i + 1) j := by
  cases hd : c.direction <;> simp only [traceBack, hc, hd]

lemma traceBack_ne_nil {i j : ℕ} {c : Cell} (hc : cellAt matrix i j = some c)
    (hd : c.direction ≠ .none) : traceBack range matrix (i + 1) (j + 1) ≠ [] := by
  rw [traceBack_cell hc]
  cases h : c.direction with
  | none => exact absurd h hd
  | _ => exact List.cons_ne_nil _ _

lemma walk_traceBack (range : AlignmentRange) (matrix : List (List Cell)) (i j : ℕ) :
    ∃ b t, b ≤ i ∧ t ≤ j ∧ Walk (b + range.baseStart) (t + range.targetStart)
      (traceBack range matrix i j).reverse (i + range.baseStart) (j + range.targetStart) := by
  induction i, j using traceBack.induct matrix with
  | case1 i j c hc hd =>
    rw [traceBack_cell hc, hd]
    exact ⟨i + 1, j + 1, le_refl _, le_refl _, .nil⟩
  | case2 i j c hc hd ih =>
    obtain ⟨b, t, hb, ht, hw⟩ := ih
    rw [traceBack_cell hc, hd, List.reverse_cons]
    refine ⟨b, t, by omega, by omega, hw.append ?_⟩
    rw [Nat.succ_add, Nat.succ_add]
    exact .merge .nil
  | case3 i j c hc hd ih =>
    obtain ⟨b, t, hb, ht, hw⟩ := ih
    rw [traceBack_cell hc, hd, List.reverse_cons]
    refine ⟨b, t, by omega, ht, hw.append ?_⟩
    rw [Nat.succ_add i]
    exact .keep .nil
  | case4 i j c hc hd ih =>
    obtain ⟨b, t, hb, ht, hw⟩ := ih
    rw [traceBack_cell hc, hd, List.reverse_cons]
    refine ⟨b, t, hb, by omega, hw.append ?_⟩
    rw [Nat.succ_add j]
    exact .insert .nil
  | case5 i j hc =>
    rw [traceBack, hc]
    exact ⟨i + 1, j + 1, le_refl _, le_refl _, .nil⟩
  | case6 i j hij =>
    refine ⟨i, j, le_refl _, le_refl _, ?_⟩
    unfold traceBack
    split
    · exact absurd rfl (hij _ _ rfl)
    · exact .nil

lemma getLast_traceBack (hgap : 0 < gap) (hm : Filled gap matrix) (i j : ℕ)
    (hne : traceBack range matrix i j ≠ []) :
    ∃ b t score, (traceBack range matrix i j).getLast? = some (.merge b t score) := by
  -- A gap is only reached from a cell above zero, at which no alignment restarts.
  have hgapped : ∀ {i j : ℕ}, 0 ≤ scoreBefore matrix i j - gap → traceBack range matrix i j ≠ [] := by
    intro i j hle
    obtain ⟨i, j, c, rfl, rfl, hc, hd⟩ := hm.of_pos (i := i) (j := j) (by linarith)
    exact traceBack_ne_nil hc hd
  induction i, j using traceBack.induct matrix with
  | case1 i j c hc hd =>
    rw [traceBack_cell hc, hd] at hne
    exact absurd rfl hne
  | case2 i j c hc hd ih =>
    rw [traceBack_cell hc, hd]
    by_cases hrest : traceBack range matrix i j = []
    · rw [hrest]
      exact ⟨_, _, _, rfl⟩
    · obtain ⟨b, t, score, hl⟩ := ih hrest
      exact ⟨b, t, score, by rw [List.getLast?_cons, hl]; rfl⟩
  | case3 i j c hc hd ih =>
    obtain ⟨s, hs⟩ := hm i j c hc
    have hscore := fill_gapTarget (hs ▸ hd)
    obtain ⟨b, t, score, hl⟩ := ih (hgapped (hscore ▸ fill_nonneg))
    rw [traceBack_cell hc, hd]
    exact ⟨b, t, score, by rw [List.getLast?_cons, hl]; rfl⟩
  | case4 i j c hc hd ih =>
    obtain ⟨s, hs⟩ := hm i j c hc
    have hscore := fill_gapBase (hs ▸ hd)
    obtain ⟨b, t, score, hl⟩ := ih (hgapped (hscore ▸ fill_nonneg))
    rw [traceBack_cell hc, hd]
    exact ⟨b, t, score, by rw [List.getLast?_cons, hl]; rfl⟩
  | case5 i j hc =>
    rw [traceBack, hc] at hne
    exact absurd rfl hne
  | case6 i j hij =>
    unfold traceBack at hne
    split at hne
    · exact absurd rfl (hij _ _ rfl)
    · exact absurd rfl hne

end Trace

/-! ### The best cell -/

section Best

variable {matrix : List (List Cell)}

/-- The best cell is no worse than the cells met so far, and is one of them or what it was to
begin with. -/
structure Best.Of (best start : Best) (cells : List (ℕ × ℕ × Cell)) : Prop where
  start_le : start.score ≤ best.score
  le : ∀ x ∈ cells, x.2.2.score ≤ best.score
  mem : best = start ∨ ∃ c, (best.row, best.col, c) ∈ cells ∧ c.score = best.score

lemma Best.Of.refl (best : Best) : Best.Of best best [] where
  start_le := le_refl _
  le := by simp
  mem := Or.inl rfl

lemma Best.Of.trans {a b c : Best} {xs ys : List (ℕ × ℕ × Cell)} (h : Best.Of b a xs)
    (h' : Best.Of c b ys) : Best.Of c a (xs ++ ys) where
  start_le := h.start_le.trans h'.start_le
  le := by
    intro x hx
    rcases List.mem_append.mp hx with hx | hx
    · exact (h.le x hx).trans h'.start_le
    · exact h'.le x hx
  mem := by
    rcases h'.mem with rfl | ⟨d, hd, hs⟩
    · rcases h.mem with rfl | ⟨d, hd, hs⟩
      · exact Or.inl rfl
      · exact Or.inr ⟨d, List.mem_append_left _ hd, hs⟩
    · exact Or.inr ⟨d, List.mem_append_right _ hd, hs⟩

lemma best_next (best : Best) (row col : ℕ) (cell : Cell) :
    Best.Of (best.next row col cell) best [(row, col, cell)] := by
  unfold Best.next
  split_ifs with h
  · exact ⟨h.le, by simp, Or.inr ⟨cell, by simp, rfl⟩⟩
  · exact ⟨le_refl _, by simpa using h, Or.inl rfl⟩

def placesInRow (row : ℕ) : ℕ → List Cell → List (ℕ × ℕ × Cell)
  | _, [] => []
  | col, cell :: cells => (row, col, cell) :: placesInRow row (col + 1) cells

def placesInRows : ℕ → List (List Cell) → List (ℕ × ℕ × Cell)
  | _, [] => []
  | row, cells :: rows => placesInRow row 0 cells ++ placesInRows (row + 1) rows

lemma best_inRow (row : ℕ) (best : Best) (col : ℕ) (cells : List Cell) :
    Best.Of (bestInRow row best col cells) best (placesInRow row col cells) := by
  induction cells generalizing best col with
  | nil => exact .refl best
  | cons cell cells ih => exact (best_next best row col cell).trans (ih _ _)

lemma best_inRows (best : Best) (row : ℕ) (rows : List (List Cell)) :
    Best.Of (bestInRows best row rows) best (placesInRows row rows) := by
  induction rows generalizing best row with
  | nil => exact .refl best
  | cons cells rows ih => exact (best_inRow row best 0 cells).trans (ih _ _)

lemma mem_placesInRow {row col : ℕ} {cells : List Cell} {x : ℕ × ℕ × Cell} :
    x ∈ placesInRow row col cells ↔ x.1 = row ∧ ∃ k, x.2.1 = col + k ∧ cells[k]? = some x.2.2 := by
  induction cells generalizing col with
  | nil => simp [placesInRow]
  | cons cell cells ih =>
    rw [placesInRow, List.mem_cons, ih]
    constructor
    · rintro (rfl | ⟨hr, k, hk, hc⟩)
      · exact ⟨rfl, 0, rfl, rfl⟩
      · exact ⟨hr, k + 1, by omega, hc⟩
    · rintro ⟨hr, k, hk, hc⟩
      cases k with
      | zero =>
        left
        obtain ⟨a, b, c⟩ := x
        simp_all
      | succ k => exact Or.inr ⟨hr, k, by omega, hc⟩

lemma mem_placesInRows {row : ℕ} {rows : List (List Cell)} {x : ℕ × ℕ × Cell} :
    x ∈ placesInRows row rows ↔ ∃ k, x.1 = row + k ∧ cellAt rows k x.2.1 = some x.2.2 := by
  induction rows generalizing row with
  | nil => simp [placesInRows, cellAt]
  | cons cells rows ih =>
    rw [placesInRows, List.mem_append, mem_placesInRow, ih]
    constructor
    · rintro (⟨hr, k, hk, hc⟩ | ⟨k, hk, hc⟩)
      · refine ⟨0, hr, ?_⟩
        rw [Nat.zero_add] at hk
        rw [hk]
        exact hc
      · exact ⟨k + 1, by omega, hc⟩
    · rintro ⟨k, hk, hc⟩
      cases k with
      | zero => exact Or.inl ⟨hk, x.2.1, (Nat.zero_add _).symm, hc⟩
      | succ k => exact Or.inr ⟨k, by omega, hc⟩

lemma best_cell (h : 0 < (bestInRows ⟨0, 0, 0⟩ 0 matrix).score) :
    ∃ c, cellAt matrix (bestInRows ⟨0, 0, 0⟩ 0 matrix).row (bestInRows ⟨0, 0, 0⟩ 0 matrix).col =
        some c ∧ c.score = (bestInRows ⟨0, 0, 0⟩ 0 matrix).score ∧
      ∀ i j d, cellAt matrix i j = some d → d.score ≤ c.score := by
  have hof := best_inRows ⟨0, 0, 0⟩ 0 matrix
  rcases hof.mem with heq | ⟨c, hc, hs⟩
  · rw [heq] at h
    exact absurd h (lt_irrefl _)
  · obtain ⟨k, hk, hcell⟩ := mem_placesInRows.1 hc
    simp only [Nat.zero_add] at hk
    rw [← hk] at hcell
    refine ⟨c, hcell, hs, fun i j d hd => ?_⟩
    rw [hs]
    exact hof.le (i, j, d) (mem_placesInRows.2 ⟨i, (Nat.zero_add _).symm, hd⟩)

end Best

/-! ### Local alignments -/

section Local

variable {config : AlignmentConfig} {range : AlignmentRange} {matrix : List (List Cell)}
  {es : Alignment}

lemma scoreBefore_le {c : Cell} (hc : 0 ≤ c.score)
    (hbest : ∀ i j d, cellAt matrix i j = some d → d.score ≤ c.score) (i j : ℕ) :
    scoreBefore matrix i j ≤ c.score := by
  unfold scoreBefore
  split
  · rename_i i j
    cases hd : cellAt matrix i j with
    | none => exact hc
    | some d => exact hbest i j d hd
  · exact hc

/-- **What is read off the matrix** is a walk from one merge to another, which lies within the
matrix. -/
lemma spans_backtrackBest (hm : Filled config.gapOpenPenalty matrix)
    (h : backtrackBest config range matrix = some es) :
    ∃ b t i j, range.baseStart ≤ b ∧ range.targetStart ≤ t ∧ (cellAt matrix i j).isSome ∧
      Spans es b t (i + range.baseStart) (j + range.targetStart) := by
  unfold backtrackBest at h
  set best := bestInRows { score := 0, row := 0, col := 0 } 0 matrix with hb
  dsimp only at h
  split_ifs at h with hlow
  cases h
  have hpos : 0 < best.score := lt_of_lt_of_le config.minScore_pos (not_lt.mp hlow)
  rw [hb] at hpos
  obtain ⟨c, hc, hs, hmax⟩ := best_cell hpos
  rw [← hb] at hc hs hpos
  obtain ⟨s, hfill⟩ := hm _ _ c hc
  have hcpos : 0 < c.score := hs ▸ hpos
  have hle := scoreBefore_le hcpos.le hmax
  -- A gap at the best cell would come from a better one.
  have hdir : c.direction = .matched := by
    cases hd : c.direction with
    | none =>
      have h0 := fill_none (hfill ▸ hd)
      rw [← hfill] at h0
      exact absurd h0 hcpos.ne'
    | matched => rfl
    | gapTarget =>
      have h0 := fill_gapTarget (hfill ▸ hd)
      rw [← hfill] at h0
      linarith [hle best.row (best.col + 1), config.gapOpenPenalty_pos]
    | gapBase =>
      have h0 := fill_gapBase (hfill ▸ hd)
      rw [← hfill] at h0
      linarith [hle (best.row + 1) best.col, config.gapOpenPenalty_pos]
  have hne : traceBack range matrix (best.row + 1) (best.col + 1) ≠ [] :=
    traceBack_ne_nil hc (by rw [hdir]; exact nofun)
  obtain ⟨b, t, -, -, hw⟩ := walk_traceBack range matrix (best.row + 1) (best.col + 1)
  obtain ⟨b', t', score, hlast⟩ := getLast_traceBack config.gapOpenPenalty_pos hm _ _ hne
  have hhead : (traceBack range matrix (best.row + 1) (best.col + 1)).reverse.head? =
      some (.merge b' t' score) := by rw [List.head?_reverse, hlast]
  -- The walk begins where its first action is.
  have hstart : b' = b + range.baseStart ∧ t' = t + range.targetStart := by
    obtain ⟨rest, hrest⟩ := List.head?_eq_some_iff.mp hhead
    rw [hrest] at hw
    cases hw
    exact ⟨rfl, rfl⟩
  refine ⟨b', t', best.row, best.col, by omega, by omega, by rw [hc]; rfl, ?_, ⟨score, hhead⟩, ?_⟩
  · rw [hstart.1, hstart.2]
    rw [Nat.add_right_comm best.row, Nat.add_right_comm best.col] at hw
    exact hw
  · rw [List.getLast?_reverse, traceBack_cell hc, hdir]
    exact ⟨_, rfl⟩

end Local

section Aligner

variable {τ : Type*} (score : τ → τ → Similarity) (base target : List (Option τ))
  (config : AlignmentConfig)

lemma length_ticksIn_le (ticks : List (Option τ)) (start stop : ℕ) :
    (ticksIn ticks start stop).length ≤ stop - start := by
  unfold ticksIn
  exact List.length_take_le _ _

lemma filled_fillMatrices (range : AlignmentRange) :
    Filled config.gapOpenPenalty (fillMatrices score base target config range) :=
  filled_fillRows _ _ _

lemma cell_inRange {range : AlignmentRange} {i j : ℕ}
    (h : (cellAt (fillMatrices score base target config range) i j).isSome) :
    i < range.baseEnd - range.baseStart ∧ j < range.targetEnd - range.targetStart := by
  obtain ⟨c, hc⟩ := Option.isSome_iff_exists.mp h
  obtain ⟨row, hrow, hcell⟩ := Option.bind_eq_some_iff.mp hc
  obtain ⟨sims, hsims, hfill⟩ := fillRows_row hrow
  rw [hfill] at hcell
  obtain ⟨s, hs, -⟩ := fillRow_cell hcell
  obtain ⟨b, hb, hrows⟩ := List.mem_map.mp (List.mem_of_getElem? hsims)
  have hi := (List.getElem?_eq_some_iff.mp hsims).1
  have hj := (List.getElem?_eq_some_iff.mp hs).1
  rw [← hrows] at hj
  rw [List.length_map] at hi hj
  exact ⟨hi.trans_le (length_ticksIn_le _ _ _), hj.trans_le (length_ticksIn_le _ _ _)⟩

lemma spans_alignLocal {range : AlignmentRange} {loc : LocalAlignment}
    (h : alignLocal score base target config range = some loc) :
    ∃ b t b' t', range.baseStart ≤ b ∧ range.targetStart ≤ t ∧ b' < range.baseEnd ∧
      t' < range.targetEnd ∧ Spans loc.entries b t b' t' := by
  unfold alignLocal at h
  dsimp only at h
  split at h
  · cases h
  · rename_i es hes
    split_ifs at h
    cases h
    obtain ⟨b, t, i, j, hb, ht, hc, hsp⟩ :=
      spans_backtrackBest (filled_fillMatrices score base target config range) hes
    obtain ⟨hi, hj⟩ := cell_inRange score base target config hc
    exact ⟨b, t, _, _, hb, ht, by omega, by omega, hsp⟩

/-! ### The aligner -/

def firstMerge (entries : Alignment) : ℕ × ℕ :=
  match entries.head? with
  | some (.merge baseIndex targetIndex _) => (baseIndex, targetIndex)
  | _ => (0, 0)

def lastMerge (entries : Alignment) : ℕ × ℕ :=
  match entries.getLast? with
  | some (.merge baseIndex targetIndex _) => (baseIndex, targetIndex)
  | _ => (0, 0)

lemma Spans.firstMerge {es : Alignment} {b t b' t' : ℕ} (h : Spans es b t b' t') :
    firstMerge es = (b, t) := by
  obtain ⟨score, hf⟩ := h.first
  rw [Merging.firstMerge, hf]

lemma Spans.lastMerge {es : Alignment} {b t b' t' : ℕ} (h : Spans es b t b' t') :
    lastMerge es = (b', t') := by
  obtain ⟨score, hl⟩ := h.last
  rw [Merging.lastMerge, hl]

/-- Aligns a range: its best local alignment, and what is left before and after that. -/
def alignOver (range : AlignmentRange) : List LocalAlignment :=
  if range.baseEnd - range.baseStart < config.minContext ∨
      range.targetEnd - range.targetStart < config.minContext then []
  else
    match _hloc : alignLocal score base target config range with
    | none => []
    | some loc =>
      let first := firstMerge loc.entries
      let last := lastMerge loc.entries
      alignOver { range with baseEnd := first.1, targetEnd := first.2 } ++
        loc :: alignOver { range with baseStart := last.1 + 1, targetStart := last.2 + 1 }
termination_by range.baseEnd - range.baseStart
decreasing_by
  all_goals
    obtain ⟨b, t, b', t', hb, -, hb', -, hsp⟩ := spans_alignLocal score base target config _hloc
    have hle := hsp.le
    simp only [hsp.firstMerge, hsp.lastMerge]
    omega

structure AlignmentResult where
  alignments : List LocalAlignment
  baseCoverage : ℚ
  targetCoverage : ℚ
  gapCount : ℕ

def countEntries (alignments : List LocalAlignment) (kind : AlignmentEntry → Bool) : ℕ :=
  (alignments.map fun a => a.entries.countP kind).sum

/-- The fraction of a timeline's ticks that were placed. -/
def coverage (placed : ℕ) (ticks : List (Option τ)) : ℚ :=
  if ticks.length > 0 then placed / ticks.length else 0

def align : AlignmentResult :=
  let alignments := alignOver score base target config
    { baseStart := 0, baseEnd := base.length, targetStart := 0, targetEnd := target.length }
  let mergeCount := countEntries alignments fun e => match e with | .merge _ _ _ => true | _ => false
  let keepCount := countEntries alignments fun e => match e with | .keep _ => true | _ => false
  let insertCount := countEntries alignments fun e => match e with | .insert _ => true | _ => false
  { alignments
    baseCoverage := coverage (mergeCount + keepCount) base
    targetCoverage := coverage (mergeCount + insertCount) target
    gapCount := keepCount + insertCount }

/-! ### Alignments in order -/

/-- The alignments lie one after the other between `b` and `n` in the base and between `t` and
`m` in the target. -/
inductive Ordered (n m : ℕ) : ℕ → ℕ → List Alignment → Prop
  | nil {b t : ℕ} (hb : b ≤ n) (ht : t ≤ m) : Ordered n m b t []
  | cons {b t b₁ t₁ b₂ t₂ : ℕ} {es : Alignment} {as : List Alignment} (hb : b ≤ b₁) (ht : t ≤ t₁)
    (hes : Spans es b₁ t₁ b₂ t₂) (has : Ordered n m (b₂ + 1) (t₂ + 1) as) : Ordered n m b t (es :: as)

lemma Ordered.append {n m n' m' b t : ℕ} {as bs : List Alignment} (h : Ordered n m b t as)
    (h' : Ordered n' m' n m bs) : Ordered n' m' b t (as ++ bs) := by
  induction h with
  | nil hb ht =>
    cases h' with
    | nil hb' ht' => exact .nil (hb.trans hb') (ht.trans ht')
    | cons hb' ht' hes has => exact .cons (hb.trans hb') (ht.trans ht') hes has
  | cons hb ht hes _ ih => exact .cons hb ht hes ih

lemma ordered_alignOver {range : AlignmentRange} (hb : range.baseStart ≤ range.baseEnd)
    (ht : range.targetStart ≤ range.targetEnd) :
    Ordered range.baseEnd range.targetEnd range.baseStart range.targetStart
      ((alignOver score base target config range).map LocalAlignment.entries) := by
  induction range using alignOver.induct score base target config with
  | case1 range hshort =>
    rw [alignOver, if_pos hshort]
    exact .nil hb ht
  | case2 range hlong hnone =>
    rw [alignOver, if_neg hlong]
    split
    · exact .nil hb ht
    · rename_i loc hloc
      rw [hnone] at hloc
      cases hloc
  | case3 range hlong loc hloc first last ih₁ ih₂ =>
    rw [alignOver, if_neg hlong]
    split
    · rename_i hnone
      exact .nil hb ht
    · rename_i loc' hloc'
      rw [hloc] at hloc'
      cases hloc'
      obtain ⟨b, t, b', t', hb₁, ht₁, hb', ht', hsp⟩ :=
        spans_alignLocal score base target config hloc
      simp only [first, last, hsp.firstMerge, hsp.lastMerge] at ih₁ ih₂
      simp only [List.map_append, List.map_cons, hsp.firstMerge, hsp.lastMerge]
      refine (ih₁ hb₁ ht₁).append (.cons (le_refl _) (le_refl _) hsp (ih₂ ?_ ?_))
      · exact hb'
      · exact ht'

/-- **The aligner's alignments** come in order within the two timelines. -/
theorem ordered_align : Ordered base.length target.length 0 0
    ((align score base target config).alignments.map LocalAlignment.entries) :=
  @ordered_alignOver τ score base target config ⟨0, base.length, 0, target.length⟩
    (Nat.zero_le _) (Nat.zero_le _)

end Aligner

end Blert.Merging

import Blert.Merging.TickMapping

/-!
Tick mappings are exact.

The merged timeline is a list of columns, each with a base tick, a target tick or both. Numbering
the ticks through an alignment places the columns one after the other; where a tick went and
where a merged tick came from are then inverse to one another, and both are read off the columns.
-/

namespace Blert.Merging

/-- The base and the target tick of a merged tick. -/
abbrev Column := Option ℕ × Option ℕ

namespace Numbering

/-- The ticks of a column go to the next merged tick. -/
def place (w : Numbering) (c : Column) : Numbering :=
  { w with
    baseToMerged := match c.1 with
      | some i => w.baseToMerged.set i (some w.mergedPos)
      | none => w.baseToMerged
    targetToMerged := match c.2 with
      | some i => w.targetToMerged.set i (some w.mergedPos)
      | none => w.targetToMerged
    mergedPos := w.mergedPos + 1 }

end Numbering

/-! ### Placing columns -/

/-- One side of the columns placed so far: where its ticks went is inverse to the columns, which
have its ticks in order, all of them below `k`. -/
structure Side (n : ℕ) (toMerged column : List (Option ℕ)) (k : ℕ) : Prop where
  length : toMerged.length = n
  inverse : Inverse toMerged column
  increasing : Increasing column
  lt : ∀ p i, slot column p = some i → i < k
  le : k ≤ n

lemma Side.skip {n k k' : ℕ} {toMerged column : List (Option ℕ)} (h : Side n toMerged column k)
    (hk : k ≤ k') (hn : k' ≤ n) : Side n toMerged (column ++ [none]) k' where
  length := h.length
  inverse := h.inverse.skip
  increasing := h.increasing.skip
  lt p i hp := by
    rw [slot_append] at hp
    split_ifs at hp
    exact (h.lt p i hp).trans_le hk
  le := hn

lemma Side.put {n k i : ℕ} {toMerged column : List (Option ℕ)} (h : Side n toMerged column k)
    (hk : k ≤ i) (hi : i < n) :
    Side n (toMerged.set i (some column.length)) (column ++ [some i]) (i + 1) where
  length := by simpa using h.length
  inverse := h.inverse.set (by rw [h.length]; exact hi) fun p hp =>
    absurd (h.lt p i hp) (not_lt.mpr hk)
  increasing := h.increasing.snoc fun p j hp => (h.lt p j hp).trans_le hk
  lt p j hp := by
    rw [slot_append] at hp
    split_ifs at hp
    · cases hp
      exact Nat.lt_succ_self i
    · have := h.lt p j hp
      omega
  le := hi

/-- What has been numbered after some columns: the base ticks below `b`, all of them, and target
ticks below `t`. -/
structure Placed (n m : ℕ) (w : Numbering) (cs : List Column) (b t : ℕ) : Prop where
  pos : w.mergedPos = cs.length
  base : Side n w.baseToMerged (cs.map Prod.fst) b
  target : Side m w.targetToMerged (cs.map Prod.snd) t
  all : ∀ i < b, ∃ p, slot (cs.map Prod.fst) p = some i
  filled : ∀ c ∈ cs, c ≠ (none, none)

section Place

variable {n m b t : ℕ} {w : Numbering} {cs : List Column}

lemma Placed.tight {c : Column} (h : Placed n m w cs b t) (hc : c ≠ (none, none)) :
    ∀ d ∈ cs ++ [c], d ≠ (none, none) := by
  intro d hd
  rcases List.mem_append.mp hd with hd | hd
  · exact h.filled d hd
  · rw [List.mem_singleton.mp hd]
    exact hc

lemma Placed.all_skip (h : Placed n m w cs b t) (c : Column) :
    ∀ i < b, ∃ p, slot ((cs ++ [c]).map Prod.fst) p = some i := by
  intro i hi
  obtain ⟨p, hp⟩ := h.all i hi
  have hlt := lt_of_slot hp
  refine ⟨p, ?_⟩
  rw [List.map_append, List.map_singleton, slot_append, if_neg hlt.ne]
  exact hp

lemma Placed.all_put {c : Column} (h : Placed n m w cs b t) (hc : c.1 = some b) :
    ∀ i < b + 1, ∃ p, slot ((cs ++ [c]).map Prod.fst) p = some i := by
  intro i hi
  rw [List.map_append, List.map_singleton, hc]
  rcases Nat.lt_succ_iff_lt_or_eq.mp hi with hi | rfl
  · obtain ⟨p, hp⟩ := h.all i hi
    have hlt := lt_of_slot hp
    refine ⟨p, ?_⟩
    rw [slot_append, if_neg hlt.ne]
    exact hp
  · exact ⟨(cs.map Prod.fst).length, by rw [slot_append, if_pos rfl]⟩

lemma Placed.base_only (h : Placed n m w cs b t) (hb : b < n) :
    Placed n m (w.place (some b, none)) (cs ++ [(some b, none)]) (b + 1) t where
  pos := by simp [Numbering.place, h.pos]
  base := by
    have hput := h.base.put (le_refl b) hb
    rw [List.length_map, ← h.pos] at hput
    simpa [Numbering.place] using hput
  target := by simpa [Numbering.place] using h.target.skip (le_refl t) h.target.le
  all := h.all_put rfl
  filled := h.tight (by simp)

lemma Placed.target_only {i : ℕ} (h : Placed n m w cs b t) (ht : t ≤ i) (hi : i < m) :
    Placed n m (w.place (none, some i)) (cs ++ [(none, some i)]) b (i + 1) where
  pos := by simp [Numbering.place, h.pos]
  base := by simpa [Numbering.place] using h.base.skip (le_refl b) h.base.le
  target := by
    have hput := h.target.put ht hi
    rw [List.length_map, ← h.pos] at hput
    simpa [Numbering.place] using hput
  all := h.all_skip _
  filled := h.tight (by simp)

lemma Placed.both {i : ℕ} (h : Placed n m w cs b t) (hb : b < n) (ht : t ≤ i) (hi : i < m) :
    Placed n m (w.place (some b, some i)) (cs ++ [(some b, some i)]) (b + 1) (i + 1) where
  pos := by simp [Numbering.place, h.pos]
  base := by
    have hput := h.base.put (le_refl b) hb
    rw [List.length_map, ← h.pos] at hput
    simpa [Numbering.place] using hput
  target := by
    have hput := h.target.put ht hi
    rw [List.length_map, ← h.pos] at hput
    simpa [Numbering.place] using hput
  all := h.all_put rfl
  filled := h.tight (by simp)

lemma Placed.target_le {t' : ℕ} (h : Placed n m w cs b t) (ht : t ≤ t') (hm : t' ≤ m) :
    Placed n m w cs b t' where
  pos := h.pos
  base := h.base
  target :=
    { length := h.target.length, inverse := h.target.inverse, increasing := h.target.increasing
      lt := fun p i hp => (h.target.lt p i hp).trans_le ht, le := hm }
  all := h.all
  filled := h.filled

end Place

/-! ### The columns of an alignment -/

def baseColumns (b ticks : ℕ) : List Column := (List.range' b ticks).map fun i => (some i, none)

def targetColumns (t ticks : ℕ) : List Column := (List.range' t ticks).map fun i => (none, some i)

def AlignmentEntry.column : AlignmentEntry → Column
  | .merge baseIndex targetIndex _ => (some baseIndex, some targetIndex)
  | .keep baseIndex => (some baseIndex, none)
  | .insert targetIndex => (none, some targetIndex)

lemma Numbering.placeEntry_eq (w : Numbering) (e : AlignmentEntry) :
    w.placeEntry e = w.place e.column := by
  cases e <;> rfl

/-- The columns of the alignments from base tick `b` on, without the base ticks after the last
one. -/
def bodyColumns : ℕ → List Alignment → List Column
  | _, [] => []
  | b, es :: as =>
    baseColumns b ((firstMerge es).1 - b) ++ es.map AlignmentEntry.column ++
      bodyColumns ((lastMerge es).1 + 1) as

section Run

variable {n m b t : ℕ} {w : Numbering} {cs : List Column}

lemma Placed.withBasePos (h : Placed n m w cs b t) (k : ℕ) :
    Placed n m { w with basePos := k } cs b t :=
  ⟨h.pos, h.base, h.target, h.all, h.filled⟩

lemma placed_copyBase (ticks : ℕ) (h : Placed n m w cs w.basePos t) (hn : w.basePos + ticks ≤ n) :
    Placed n m (w.copyBase ticks) (cs ++ baseColumns w.basePos ticks) (w.basePos + ticks) t ∧
      (w.copyBase ticks).basePos = w.basePos + ticks := by
  induction ticks generalizing w cs with
  | zero => exact ⟨by simpa [baseColumns, Numbering.copyBase] using h, rfl⟩
  | succ ticks ih =>
    have hstep := (h.base_only (by omega)).withBasePos (w.basePos + 1)
    obtain ⟨hp, hpos⟩ := ih hstep (by dsimp only; omega)
    have hcols : cs ++ baseColumns w.basePos (ticks + 1) =
        cs ++ [(some w.basePos, none)] ++ baseColumns (w.basePos + 1) ticks := by
      simp [baseColumns, List.range'_succ]
    rw [Numbering.copyBase, hcols, ← Nat.add_assoc, Nat.add_right_comm]
    exact ⟨hp, hpos⟩

lemma placed_copyTarget {i : ℕ} (ticks : ℕ) (h : Placed n m w cs b t) (ht : t ≤ i)
    (hm : i + ticks ≤ m) :
    ∃ t', t' ≤ i + ticks ∧
      Placed n m (w.copyTarget i ticks) (cs ++ targetColumns i ticks) b t' := by
  induction ticks generalizing w cs t i with
  | zero =>
    exact ⟨t, ht, by simpa [targetColumns, Numbering.copyTarget] using h⟩
  | succ ticks ih =>
    obtain ⟨t', ht', hp⟩ := ih (h.target_only ht (by omega)) (le_refl _) (by omega)
    have hcols : cs ++ targetColumns i (ticks + 1) =
        cs ++ [(none, some i)] ++ targetColumns (i + 1) ticks := by
      simp [targetColumns, List.range'_succ]
    rw [Numbering.copyTarget, hcols]
    exact ⟨t', by omega, hp⟩

lemma placed_walk {es : Alignment} {b' t' : ℕ} (hw : Walk b t es b' t') (hb : b' ≤ n) (ht : t' ≤ m)
    (h : Placed n m w cs b t) :
    Placed n m (es.foldl Numbering.placeEntry w) (cs ++ es.map AlignmentEntry.column) b' t' := by
  induction hw generalizing w cs with
  | nil => simpa using h
  | merge hw ih =>
    have hle := hw.le
    have hp := ih hb ht (h.both (by omega) (le_refl _) (by omega))
    simpa [AlignmentEntry.column, Numbering.placeEntry_eq] using hp
  | keep hw ih =>
    have hle := hw.le
    have hp := ih hb ht (h.base_only (by omega))
    simpa [AlignmentEntry.column, Numbering.placeEntry_eq] using hp
  | insert hw ih =>
    have hle := hw.le
    have hp := ih hb ht (h.target_only (le_refl _) (by omega))
    simpa [AlignmentEntry.column, Numbering.placeEntry_eq] using hp

lemma placed_placeAlignment {es : Alignment} {b₁ t₁ b₂ t₂ : ℕ} (hes : Spans es b₁ t₁ b₂ t₂)
    (h : Placed n m w cs w.basePos t) (hb : w.basePos ≤ b₁) (ht : t ≤ t₁) (hn : b₂ < n)
    (hm : t₂ < m) :
    Placed n m (w.placeAlignment es)
      (cs ++ baseColumns w.basePos ((firstMerge es).1 - w.basePos) ++ es.map AlignmentEntry.column)
      (b₂ + 1) (t₂ + 1) ∧ (w.placeAlignment es).basePos = b₂ + 1 := by
  have hle := hes.le
  have hadd : w.basePos + (b₁ - w.basePos) = b₁ := by omega
  obtain ⟨hp, -⟩ := placed_copyBase (b₁ - w.basePos) h (by omega)
  rw [hadd] at hp
  have hwalk := placed_walk hes.walk hn hm (hp.target_le ht (by omega))
  unfold Numbering.placeAlignment
  rw [hes.firstMerge, hes.lastMerge]
  exact ⟨hwalk.withBasePos _, rfl⟩

/-- One past the last merge, in base and target, of alignments that begin at `b` and `t`. -/
def bodyEnd : ℕ × ℕ → List Alignment → ℕ × ℕ
  | p, [] => p
  | _, es :: as => bodyEnd ((lastMerge es).1 + 1, (lastMerge es).2 + 1) as

lemma bodyEnd_of_getLast {as : List Alignment} {es : Alignment} (p : ℕ × ℕ)
    (h : as.getLast? = some es) : bodyEnd p as = ((lastMerge es).1 + 1, (lastMerge es).2 + 1) := by
  induction as generalizing p with
  | nil => cases h
  | cons a as ih =>
    cases as with
    | nil =>
      cases h
      rfl
    | cons c as => exact ih ((lastMerge a).1 + 1, (lastMerge a).2 + 1) (by simpa using h)

lemma Ordered.le {as : List Alignment} (h : Ordered n m b t as) : b ≤ n ∧ t ≤ m := by
  induction h with
  | nil hb ht => exact ⟨hb, ht⟩
  | cons hb ht hes _ ih =>
    have := hes.le
    omega

lemma placed_body {as : List Alignment} (has : Ordered n m w.basePos t as)
    (h : Placed n m w cs w.basePos t) :
    let e := bodyEnd (w.basePos, t) as
    Placed n m (as.foldl Numbering.placeAlignment w) (cs ++ bodyColumns w.basePos as) e.1 e.2 ∧
      (as.foldl Numbering.placeAlignment w).basePos = e.1 := by
  induction as generalizing w cs t with
  | nil => exact ⟨by simpa [bodyColumns, bodyEnd] using h, rfl⟩
  | cons es as ih =>
    cases has with
    | @cons _ _ b₁ t₁ b₂ t₂ _ _ hb ht hes has =>
      have hend := has.le
      obtain ⟨hp, hpos⟩ := placed_placeAlignment hes h hb ht hend.1 hend.2
      rw [← hpos] at has hp
      have hbody := ih has hp
      rw [hpos] at hbody
      simpa [bodyColumns, bodyEnd, hes.lastMerge] using hbody

end Run

/-! ### The columns of the merged timeline -/

def headColumns (as : List Alignment) : List Column :=
  match as.head? with
  | some es =>
    if (firstMerge es).1 = 0 ∧ (firstMerge es).2 > 0 then targetColumns 0 (firstMerge es).2 else []
  | none => []

/-- Base or target ticks after the last merge. -/
def tailColumns (n m : ℕ) (as : List Alignment) : List Column :=
  baseColumns (bodyEnd (0, 0) as).1 (n - (bodyEnd (0, 0) as).1) ++
    match as.getLast? with
    | some es =>
      if (lastMerge es).1 + 1 = n ∧ (lastMerge es).2 + 1 < m then
        targetColumns ((lastMerge es).2 + 1) (m - ((lastMerge es).2 + 1))
      else []
    | none => []

/-- The columns of the merged timeline of `n` base ticks and `m` target ticks. -/
def columns (n m : ℕ) (as : List Alignment) : List Column :=
  headColumns as ++ bodyColumns 0 as ++ tailColumns n m as

section Columns

variable {n m : ℕ} {as : List Alignment}

lemma placed_empty (n m : ℕ) : Placed n m
    { baseToMerged := List.replicate n none, targetToMerged := List.replicate m none
      mergedPos := 0, basePos := 0 } [] 0 0 where
  pos := rfl
  base := ⟨by simp, inverse_empty n, .nil, by simp [slot], Nat.zero_le _⟩
  target := ⟨by simp, inverse_empty m, .nil, by simp [slot], Nat.zero_le _⟩
  all := by simp
  filled := by simp

lemma copyTarget_basePos (w : Numbering) (i ticks : ℕ) :
    (w.copyTarget i ticks).basePos = w.basePos := by
  induction ticks generalizing w i with
  | zero => rfl
  | succ ticks ih => exact ih _ _

lemma placed_prepend {w : Numbering} (has : Ordered n m 0 0 as) (h : Placed n m w [] 0 0)
    (hb : w.basePos = 0) :
    (w.prepend as).basePos = 0 ∧
      ∃ t, Ordered n m 0 t as ∧ Placed n m (w.prepend as) (headColumns as) 0 t := by
  unfold Numbering.prepend headColumns
  cases has with
  | nil hb' ht => exact ⟨hb, 0, .nil hb' ht, h⟩
  | @cons _ _ b₁ t₁ b₂ t₂ es as hb' ht hes has =>
    have hm := has.le
    have hle := hes.le
    simp only [List.head?_cons, hes.firstMerge]
    split_ifs with hfirst
    · obtain ⟨t, ht', hp⟩ := placed_copyTarget (i := 0) t₁ h (le_refl _) (by omega)
      refine ⟨(copyTarget_basePos _ _ _).trans hb, t, ?_, by simpa using hp⟩
      exact .cons hb' (by omega) hes has
    · exact ⟨hb, 0, .cons hb' ht hes has, h⟩

lemma placed_append {w : Numbering} {cs : List Column} {t : ℕ} (h : Placed n m w cs n t)
    (ht : ∀ es, as.getLast? = some es → t = (lastMerge es).2 + 1) :
    ∃ t', Placed n m (w.append n m as)
      (cs ++ match as.getLast? with
        | some es =>
          if (lastMerge es).1 + 1 = n ∧ (lastMerge es).2 + 1 < m then
            targetColumns ((lastMerge es).2 + 1) (m - ((lastMerge es).2 + 1))
          else []
        | none => []) n t' := by
  unfold Numbering.append
  cases hl : as.getLast? with
  | none => exact ⟨t, by simpa using h⟩
  | some es =>
    dsimp only
    split_ifs with hlast
    · obtain ⟨t', -, hp⟩ := placed_copyTarget (i := (lastMerge es).2 + 1)
        (m - ((lastMerge es).2 + 1)) h (ht es hl).le (by omega)
      exact ⟨t', hp⟩
    · exact ⟨t, by simpa using h⟩

lemma bodyEnd_fst (t : ℕ) : (bodyEnd (0, t) as).1 = (bodyEnd (0, 0) as).1 := by
  cases as <;> rfl

/-- **Numbering the ticks** through alignments in order places every column of the merged
timeline. -/
lemma placed_numberTicks (has : Ordered n m 0 0 as) :
    ∃ t, Placed n m (numberTicks n m as) (columns n m as) n t := by
  obtain ⟨hbase, t, hord, hhead⟩ := placed_prepend has (placed_empty n m) rfl
  unfold numberTicks columns tailColumns
  dsimp only
  set w := Numbering.prepend _ as with hw
  rw [← hbase] at hhead hord
  obtain ⟨hbody, hpos⟩ := placed_body hord hhead
  rw [hbase] at hbody hpos
  have hle := hbody.base.le
  rw [← hpos] at hbody
  obtain ⟨hcopy, -⟩ := placed_copyBase (n - (as.foldl Numbering.placeAlignment w).basePos) hbody
    (by omega)
  have hn : (as.foldl Numbering.placeAlignment w).basePos +
      (n - (as.foldl Numbering.placeAlignment w).basePos) = n := by omega
  rw [hn] at hcopy
  obtain ⟨t', happ⟩ := placed_append hcopy fun es hl => by rw [bodyEnd_of_getLast _ hl]
  rw [← bodyEnd_fst t, ← hpos, ← List.append_assoc]
  exact ⟨t', happ⟩

end Columns

/-! ### Exact mappings -/

/-- The mappings number the merged ticks of `n` base ticks and `m` target ticks through the
alignments: all base ticks and some target ticks, each in order, so that every merged tick has one
of them, and has both exactly where the alignments merge them. -/
structure Mappings.Exact (maps : Mappings) (n m : ℕ) (as : List Alignment) : Prop where
  base_total : ∀ i, (∃ p, maps.base.toMerged i = some p) ↔ i < n
  base_increasing : ∀ i j p q, i < j → maps.base.toMerged i = some p →
    maps.base.toMerged j = some q → p < q
  target_partial : ∀ i p, maps.target.toMerged i = some p → i < m
  target_increasing : ∀ i j p q, i < j → maps.target.toMerged i = some p →
    maps.target.toMerged j = some q → p < q
  base_inverse : ∀ i p, maps.base.toMerged i = some p ↔ maps.base.toClient p = some i
  target_inverse : ∀ i p, maps.target.toMerged i = some p ↔ maps.target.toClient p = some i
  covered : ∀ p, p < maps.mergedTickCount ↔
    (∃ i, maps.base.toMerged i = some p) ∨ ∃ i, maps.target.toMerged i = some p
  shared : ∀ i j, (∃ p, maps.base.toMerged i = some p ∧ maps.target.toMerged j = some p) ↔
    ∃ es ∈ as, ∃ score, .merge i j score ∈ es

section Exact

variable {n m : ℕ} {as : List Alignment}

lemma not_both_base {i j b ticks : ℕ} : (some i, some j) ∉ baseColumns b ticks := by
  unfold baseColumns
  simp

lemma not_both_target {i j t ticks : ℕ} : (some i, some j) ∉ targetColumns t ticks := by
  unfold targetColumns
  simp

lemma column_both {e : AlignmentEntry} {i j : ℕ} :
    e.column = (some i, some j) ↔ ∃ score, e = .merge i j score := by
  cases e <;> simp [AlignmentEntry.column]

lemma both_bodyColumns {i j : ℕ} (b : ℕ) : (some i, some j) ∈ bodyColumns b as ↔
    ∃ es ∈ as, ∃ score, .merge i j score ∈ es := by
  induction as generalizing b with
  | nil => simp [bodyColumns]
  | cons es as ih =>
    rw [bodyColumns, List.mem_append, List.mem_append, ih]
    simp only [not_both_base, false_or, List.exists_mem_cons_iff]
    refine or_congr_left ?_
    rw [List.mem_map]
    constructor
    · rintro ⟨e, he, hc⟩
      obtain ⟨score, rfl⟩ := column_both.1 hc
      exact ⟨score, he⟩
    · rintro ⟨score, he⟩
      exact ⟨_, he, rfl⟩

lemma both_columns {i j : ℕ} : (some i, some j) ∈ columns n m as ↔
    ∃ es ∈ as, ∃ score, .merge i j score ∈ es := by
  have hhead : (some i, some j) ∉ headColumns as := by
    unfold headColumns
    split
    · split_ifs
      · exact not_both_target
      · exact List.not_mem_nil
    · exact List.not_mem_nil
  have htail : (some i, some j) ∉ tailColumns n m as := by
    unfold tailColumns
    rw [List.mem_append]
    rintro (hb | ht)
    · exact not_both_base hb
    · split at ht
      · split_ifs at ht
        · exact not_both_target ht
        · cases ht
      · cases ht
  unfold columns
  rw [List.mem_append, List.mem_append, both_bodyColumns]
  simp [hhead, htail]

lemma exact_of_placed {w : Numbering} {t : ℕ} (h : Placed n m w (columns n m as) n t) :
    Mappings.Exact
      { base := { forward := w.baseToMerged, reverse := invert w.mergedPos w.baseToMerged }
        target := { forward := w.targetToMerged, reverse := invert w.mergedPos w.targetToMerged }
        mergedTickCount := w.mergedPos } n m as := by
  have hbase : invert w.mergedPos w.baseToMerged = (columns n m as).map Prod.fst := by
    have hinv := invert_eq h.base.inverse
    rwa [List.length_map, ← h.pos] at hinv
  have htarget : invert w.mergedPos w.targetToMerged = (columns n m as).map Prod.snd := by
    have hinv := invert_eq h.target.inverse
    rwa [List.length_map, ← h.pos] at hinv
  -- A slot of either side belongs to a column.
  have hslot : ∀ {f : Column → Option ℕ} {p i : ℕ}, slot ((columns n m as).map f) p = some i ↔
      ∃ c, (columns n m as)[p]? = some c ∧ f c = some i := by
    intro f p i
    rw [slot_eq_some, List.getElem?_map, Option.map_eq_some_iff]
  refine
    { base_total := fun i => ⟨fun ⟨p, hp⟩ => ?_, fun hi => ?_⟩
      base_increasing := h.base.inverse.increasing h.base.increasing
      target_partial := fun i p hp => ?_
      target_increasing := h.target.inverse.increasing h.target.increasing
      base_inverse := fun i p => ?_
      target_inverse := fun i p => ?_
      covered := fun p => ⟨fun hp => ?_, ?_⟩
      shared := fun i j => ?_ }
  · exact (lt_of_slot hp).trans_eq h.base.length
  · obtain ⟨p, hp⟩ := h.all i hi
    exact ⟨p, (h.base.inverse i p).mpr hp⟩
  · exact (lt_of_slot hp).trans_eq h.target.length
  · show slot _ i = some p ↔ slot _ p = some i
    rw [hbase]
    exact h.base.inverse i p
  · show slot _ i = some p ↔ slot _ p = some i
    rw [htarget]
    exact h.target.inverse i p
  · have hp : p < (columns n m as).length := h.pos ▸ hp
    have hget := List.getElem?_eq_getElem hp
    have hne := h.filled _ (List.mem_of_getElem? hget)
    cases hx : ((columns n m as)[p]).1 with
    | some i => exact Or.inl ⟨i, (h.base.inverse i p).mpr (hslot.mpr ⟨_, hget, hx⟩)⟩
    | none =>
      cases hy : ((columns n m as)[p]).2 with
      | some i => exact Or.inr ⟨i, (h.target.inverse i p).mpr (hslot.mpr ⟨_, hget, hy⟩)⟩
      | none => exact absurd (Prod.ext hx hy) hne
  · show _ → p < w.mergedPos
    rw [h.pos]
    rintro (⟨i, hi⟩ | ⟨i, hi⟩)
    · simpa using lt_of_slot ((h.base.inverse i p).mp hi)
    · simpa using lt_of_slot ((h.target.inverse i p).mp hi)
  · rw [← both_columns (n := n) (m := m), List.mem_iff_getElem?]
    refine exists_congr fun p => ?_
    show slot _ i = some p ∧ slot _ j = some p ↔ _
    rw [h.base.inverse i p, h.target.inverse j p, hslot, hslot]
    constructor
    · rintro ⟨⟨c, hc, hi⟩, c', hc', hj⟩
      rw [hc] at hc'
      cases hc'
      rw [hc, ← hi, ← hj]
    · intro hp
      exact ⟨⟨_, hp, rfl⟩, _, hp, rfl⟩

lemma exact_fromAlignment (has : Ordered n m 0 0 as) : (fromAlignment n m as).Exact n m as := by
  obtain ⟨t, hp⟩ := placed_numberTicks has
  exact exact_of_placed hp

end Exact

/-- **Tick mappings are exact**: the mappings built from what the aligner makes of any two
timelines are increasing, total on the base, inverse to one another and complete, and share a
merged tick exactly where the alignment merges two ticks. -/
theorem align_exact {τ : Type*} (score : τ → τ → Similarity) (base target : List (Option τ))
    (config : AlignmentConfig) :
    let alignments := (align score base target config).alignments.map LocalAlignment.entries
    (fromAlignment base.length target.length alignments).Exact base.length target.length
      alignments :=
  exact_fromAlignment (ordered_align score base target config)

end Blert.Merging

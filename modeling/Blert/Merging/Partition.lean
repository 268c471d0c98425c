import Blert.Merging.Alignments
import Blert.Merging.Confidence

/-!
A local alignment falls into anchors and segments.

Going through the entries, those since the last anchor are pending. Among them, the merges that are
not null are ambiguous, and trimming takes away none of these. A segment lies between the anchors
before and after it, so that its region does too.
-/

namespace Blert.Merging

def AlignmentEntry.cell? : AlignmentEntry → Option (ℕ × ℕ)
  | .merge baseIndex targetIndex _ => some (baseIndex, targetIndex)
  | _ => none

/-- The merges of an alignment go forward, in the base as in the target. -/
def Ascending (es : Alignment) : Prop :=
  (es.filterMap AlignmentEntry.cell?).Pairwise fun c c' => c.1 < c'.1 ∧ c.2 < c'.2

instance (es : Alignment) : Decidable (Ascending es) :=
  inferInstanceAs (Decidable (List.Pairwise _ _))

namespace Confidence

variable {la : LocalAlignment}

/-! ### Merges that are classified -/

def isClassified (la : LocalAlignment) (e : AlignmentEntry) : Bool := (entryBounds la e).isSome

/-- The cells of the merges that are not null. -/
def classified (la : LocalAlignment) (es : Alignment) : List (ℕ × ℕ) :=
  (es.filter (isClassified la)).filterMap AlignmentEntry.cell?

lemma classified_append (es es' : Alignment) :
    classified la (es ++ es') = classified la es ++ classified la es' := by
  unfold classified
  rw [List.filter_append, List.filterMap_append]

def AlignmentPartition.merges (la : LocalAlignment) : AlignmentPartition → List (ℕ × ℕ)
  | .anchor baseIndex targetIndex => [(baseIndex, targetIndex)]
  | .segment s => classified la s.entries

lemma plateau_pos {e : AlignmentEntry} (h : isClassified la e = true) : 0 < plateau la e := by
  unfold isClassified at h
  obtain ⟨bounds, hbounds⟩ := Option.isSome_iff_exists.mp h
  unfold plateau
  rw [hbounds]
  exact Nat.succ_pos _

lemma plateau_eq_zero {e : AlignmentEntry} (h : isClassified la e = false) :
    plateau la e = 0 := by
  unfold isClassified at h
  unfold plateau
  rw [Option.isSome_eq_false_iff.mp h |> Option.isNone_iff_eq_none.mp]
  rfl

lemma anchorOf_some {e : AlignmentEntry} {c : ℕ × ℕ} (h : anchorOf la e = some c) :
    e.cell? = some c ∧ isClassified la e = true := by
  cases e with
  | merge baseIndex targetIndex score =>
    unfold anchorOf at h
    simp only at h
    split_ifs at h with hp
    refine ⟨h, ?_⟩
    by_contra hnot
    rw [plateau_eq_zero (Bool.eq_false_iff.mpr hnot)] at hp
    cases hp
  | insert targetIndex => cases h
  | keep baseIndex => cases h

lemma isClassified_of_pending {e : AlignmentEntry} (h : anchorOf la e = none) :
    isClassified la e = isAmbiguousMerge la e := by
  unfold isAmbiguousMerge
  cases hc : isClassified la e with
  | false => simp [plateau_eq_zero hc]
  | true =>
    have hpos := plateau_pos hc
    have hone : plateau la e ≠ 1 := by
      intro hp
      cases e with
      | merge baseIndex targetIndex score => simp [anchorOf, hp] at h
      | insert targetIndex => cases hc
      | keep baseIndex => cases hc
    exact (decide_eq_true (by omega)).symm

/-! ### Trimming -/

lemma filter_dropWhile {α : Type*} (p : α → Bool) (l : List α) :
    (l.dropWhile fun a => !p a).filter p = l.filter p := by
  induction l with
  | nil => rfl
  | cons a l ih =>
    cases h : p a with
    | false =>
      rw [List.dropWhile_cons_of_pos (by simp [h]), ih, List.filter_cons_of_neg (by simp [h])]
    | true => rw [List.dropWhile_cons_of_neg (by simp [h])]

lemma filter_trim (pending : Alignment) :
    (trim la pending).filter (isAmbiguousMerge la) = pending.filter (isAmbiguousMerge la) := by
  unfold trim List.rdropWhile
  rw [List.filter_reverse, filter_dropWhile, ← List.filter_reverse, List.reverse_reverse,
    filter_dropWhile]

lemma trim_within (pending : Alignment) : trim la pending <:+: pending :=
  (List.rdropWhile_prefix _ _).isInfix.trans (List.dropWhile_suffix _).isInfix

lemma classified_trim {pending : Alignment} (h : ∀ e ∈ pending, anchorOf la e = none) :
    classified la (trim la pending) = classified la pending := by
  unfold classified
  have hfilter : ∀ es : Alignment, (∀ e ∈ es, anchorOf la e = none) →
      es.filter (isClassified la) = es.filter (isAmbiguousMerge la) :=
    fun es hes => List.filter_congr fun e he => isClassified_of_pending (hes e he)
  rw [hfilter _ fun e he => h e ((trim_within pending).mem he), hfilter _ h, filter_trim]

lemma trim_ends {pending : Alignment} (h : trim la pending ≠ []) :
    (∃ e, (trim la pending).head? = some e ∧ isAmbiguousMerge la e = true) ∧
      ∃ e, (trim la pending).getLast? = some e ∧ isAmbiguousMerge la e = true := by
  constructor
  · obtain ⟨rest, hrest⟩ := List.rdropWhile_prefix (fun e => !isAmbiguousMerge la e)
      (pending.dropWhile fun e => !isAmbiguousMerge la e)
    obtain ⟨e, es, htrim⟩ := List.exists_cons_of_ne_nil h
    have hhead := List.head?_dropWhile_not (fun e => !isAmbiguousMerge la e) pending
    rw [← hrest, show List.rdropWhile _ _ = trim la pending from rfl, htrim] at hhead
    exact ⟨e, by rw [htrim]; rfl, by simpa using hhead⟩
  · refine ⟨(trim la pending).getLast h, List.getLast?_eq_some_getLast h, ?_⟩
    have hlast := List.rdropWhile_last_not (fun e => !isAmbiguousMerge la e) _ h
    change isAmbiguousMerge la (List.getLast (List.rdropWhile _ _) h) = true
    simpa using hlast

/-! ### Segments -/

def AlignmentPartition.segment? : AlignmentPartition → Option Segment
  | .anchor _ _ => none
  | .segment s => some s

def segments (parts : List AlignmentPartition) : List Segment :=
  parts.filterMap AlignmentPartition.segment?

structure Ambiguous (la : LocalAlignment) (s : Segment) : Prop where
  first : ∃ e, s.entries.head? = some e ∧ isAmbiguousMerge la e = true
  last : ∃ e, s.entries.getLast? = some e ∧ isAmbiguousMerge la e = true

/-- The region of a segment lies before that of another, in the base as in the target. -/
def Segment.Before (s s' : Segment) : Prop :=
  s.region.baseEnd ≤ s'.region.baseStart ∧ s.region.targetEnd ≤ s'.region.targetStart

variable (la) in
lemma flushPending_cases (left right : Option (ℕ × ℕ)) (pending : Alignment) :
    (trim la pending = [] ∧ flushPending la left right pending = []) ∨
      trim la pending ≠ [] ∧ ∃ s, flushPending la left right pending = [.segment s] ∧
        s.entries = trim la pending ∧
        (∀ a ∈ left, s.region.baseStart = a.1 + 1 ∧ s.region.targetStart = a.2 + 1) ∧
        ∀ a ∈ right, s.region.baseEnd = a.1 ∧ s.region.targetEnd = a.2 := by
  unfold flushPending
  cases htrim : trim la pending with
  | nil => exact Or.inl ⟨rfl, rfl⟩
  | cons e es =>
    refine Or.inr ⟨List.cons_ne_nil _ _, _, rfl, rfl, ?_, ?_⟩
    · rintro a ha
      rw [ha]
      exact ⟨rfl, rfl⟩
    · rintro a ha
      rw [ha]
      exact ⟨rfl, rfl⟩

lemma merges_flushPending (left right : Option (ℕ × ℕ)) {pending : Alignment}
    (h : ∀ e ∈ pending, anchorOf la e = none) :
    (flushPending la left right pending).flatMap (AlignmentPartition.merges la) =
      classified la pending := by
  rw [← classified_trim h]
  rcases flushPending_cases la left right pending with ⟨htrim, hflush⟩ | ⟨-, s, hflush, hs, -⟩
  · rw [hflush, htrim]
    rfl
  · rw [hflush, ← hs]
    exact List.flatMap_singleton _ _

lemma merges_partitionFrom (prev : Option (ℕ × ℕ)) (entries : Alignment) {pending : Alignment}
    (h : ∀ e ∈ pending, anchorOf la e = none) :
    (partitionFrom la prev pending entries).flatMap (AlignmentPartition.merges la) =
      classified la pending ++ classified la entries := by
  induction entries generalizing prev pending with
  | nil =>
    rw [partitionFrom, merges_flushPending prev none h]
    exact (List.append_nil _).symm
  | cons e entries ih =>
    rw [partitionFrom]
    cases hanchor : anchorOf la e with
    | none =>
      have hpending : ∀ e' ∈ pending ++ [e], anchorOf la e' = none := by
        intro e' he'
        rcases List.mem_append.mp he' with he' | he'
        · exact h e' he'
        · rw [List.mem_singleton.mp he']
          exact hanchor
      simp only [ih prev hpending, classified_append, List.append_assoc]
      rw [← classified_append, List.singleton_append]
    | some anchor =>
      obtain ⟨hcell, hclassified⟩ := anchorOf_some hanchor
      have hcons : classified la (e :: entries) = anchor :: classified la entries := by
        unfold classified
        rw [List.filter_cons_of_pos hclassified, List.filterMap_cons_some hcell]
      simp only [List.flatMap_append, List.flatMap_cons, merges_flushPending prev (some anchor) h]
      rw [ih (some anchor) (fun _ h => by cases h), hcons]
      rfl

lemma mem_flushPending {left right : Option (ℕ × ℕ)} {pending : Alignment} {s : Segment}
    (h : .segment s ∈ flushPending la left right pending) :
    (s.entries <:+: pending ∧ Ambiguous la s) ∧
      (∀ a ∈ left, s.region.baseStart = a.1 + 1 ∧ s.region.targetStart = a.2 + 1) ∧
      ∀ a ∈ right, s.region.baseEnd = a.1 ∧ s.region.targetEnd = a.2 := by
  rcases flushPending_cases la left right pending with
    ⟨-, hflush⟩ | ⟨htrim, s', hflush, hs, hleft, hright⟩
  · rw [hflush] at h
    cases h
  · rw [hflush] at h
    cases List.mem_singleton.mp h
    obtain ⟨hfirst, hlast⟩ := trim_ends htrim
    exact ⟨⟨hs ▸ trim_within pending, ⟨hs ▸ hfirst, hs ▸ hlast⟩⟩, hleft, hright⟩

lemma segment_partitionFrom {prev : Option (ℕ × ℕ)} {pending entries : Alignment} {s : Segment}
    (h : .segment s ∈ partitionFrom la prev pending entries) :
    s.entries <:+: pending ++ entries ∧ Ambiguous la s := by
  induction entries generalizing prev pending with
  | nil =>
    rw [partitionFrom] at h
    rw [List.append_nil]
    exact (mem_flushPending h).1
  | cons e entries ih =>
    rw [partitionFrom] at h
    cases hanchor : anchorOf la e with
    | none =>
      simp only [hanchor] at h
      obtain ⟨hpart, hs⟩ := ih h
      rw [List.append_assoc] at hpart
      exact ⟨hpart, hs⟩
    | some anchor =>
      simp only [hanchor] at h
      rcases List.mem_append.mp h with h | h
      · obtain ⟨⟨hpart, hs⟩, -⟩ := mem_flushPending h
        exact ⟨hpart.trans (List.prefix_append _ _).isInfix, hs⟩
      · obtain ⟨hpart, hs⟩ := ih ((List.mem_cons.mp h).resolve_left (by rintro ⟨⟩))
        refine ⟨hpart.trans ?_, hs⟩
        rw [List.nil_append]
        exact ((List.suffix_cons _ _).trans (List.suffix_append _ _)).isInfix

lemma cells_cons {e : AlignmentEntry} {c : ℕ × ℕ} (h : anchorOf la e = some c)
    (entries : Alignment) :
    (e :: entries).filterMap AlignmentEntry.cell? =
      c :: entries.filterMap AlignmentEntry.cell? :=
  List.filterMap_cons_some (anchorOf_some h).1

lemma cells_sublist (e : AlignmentEntry) (entries : Alignment) :
    (entries.filterMap AlignmentEntry.cell?).Sublist
      ((e :: entries).filterMap AlignmentEntry.cell?) :=
  (List.sublist_cons_self e entries).filterMap _

lemma after_flushPending {anchor : ℕ × ℕ} {right : Option (ℕ × ℕ)} {pending : Alignment}
    {s : Segment} (h : .segment s ∈ flushPending la (some anchor) right pending) :
    anchor.1 < s.region.baseStart ∧ anchor.2 < s.region.targetStart := by
  obtain ⟨hbase, htarget⟩ := (mem_flushPending h).2.1 anchor rfl
  omega

lemma after_anchor {anchor : ℕ × ℕ} {pending entries : Alignment}
    (h : (anchor :: entries.filterMap AlignmentEntry.cell?).Pairwise
      fun c c' => c.1 < c'.1 ∧ c.2 < c'.2) {s : Segment}
    (hs : .segment s ∈ partitionFrom la (some anchor) pending entries) :
    anchor.1 < s.region.baseStart ∧ anchor.2 < s.region.targetStart := by
  induction entries generalizing anchor pending with
  | nil => exact after_flushPending (by rwa [partitionFrom] at hs)
  | cons e entries ih =>
    rw [partitionFrom] at hs
    cases hanchor : anchorOf la e with
    | none =>
      simp only [hanchor] at hs
      exact ih (h.sublist ((cells_sublist e entries).cons_cons anchor)) hs
    | some c =>
      simp only [hanchor] at hs
      rw [cells_cons hanchor] at h
      obtain ⟨hanchor', hrest⟩ := List.pairwise_cons.mp h
      rcases List.mem_append.mp hs with hs | hs
      · exact after_flushPending hs
      · have hc := hanchor' c List.mem_cons_self
        have hafter := ih hrest ((List.mem_cons.mp hs).resolve_left (by rintro ⟨⟩))
        omega

lemma mem_segments {parts : List AlignmentPartition} {s : Segment} :
    s ∈ segments parts ↔ .segment s ∈ parts := by
  unfold segments
  rw [List.mem_filterMap]
  constructor
  · rintro ⟨part, hpart, hs⟩
    cases part with
    | anchor b t => cases hs
    | segment s' =>
      cases hs
      exact hpart
  · exact fun h => ⟨_, h, rfl⟩

variable (la) in
lemma segments_flushPending (left right : Option (ℕ × ℕ)) (pending : Alignment) :
    (segments (flushPending la left right pending)).Pairwise Segment.Before := by
  rcases flushPending_cases la left right pending with ⟨-, hflush⟩ | ⟨-, s, hflush, -⟩
  · rw [hflush]
    exact .nil
  · rw [hflush]
    exact List.pairwise_singleton _ _

lemma segments_partitionFrom {prev : Option (ℕ × ℕ)} {pending entries : Alignment}
    (h : Ascending entries) :
    (segments (partitionFrom la prev pending entries)).Pairwise Segment.Before := by
  induction entries generalizing prev pending with
  | nil =>
    rw [partitionFrom]
    exact segments_flushPending la prev none pending
  | cons e entries ih =>
    rw [partitionFrom]
    cases hanchor : anchorOf la e with
    | none =>
      exact ih (List.Pairwise.sublist (cells_sublist e entries) h)
    | some c =>
      have hcells := h
      unfold Ascending at hcells
      rw [cells_cons hanchor] at hcells
      have hflush := segments_flushPending la prev (some c) pending
      have hrest : (segments (partitionFrom la (some c) [] entries)).Pairwise Segment.Before :=
        ih (List.pairwise_cons.mp hcells).2
      unfold segments at hflush hrest ⊢
      rw [List.filterMap_append, List.filterMap_cons_none rfl]
      refine List.pairwise_append.mpr ⟨hflush, hrest, fun s hs s' hs' => ?_⟩
      obtain ⟨-, -, hright⟩ := mem_flushPending (mem_segments.1 hs)
      obtain ⟨hbase, htarget⟩ := hright c rfl
      have hafter := after_anchor hcells (mem_segments.1 hs')
      exact ⟨by omega, by omega⟩

/-! ### The partition -/

/-- Every merge of an alignment, null or not, lies in one of the parts, in the order of the
alignment. -/
def PlacesAll (la : LocalAlignment) : Prop :=
  (partitionAlignment la).flatMap (fun
    | .anchor baseIndex targetIndex => [(baseIndex, targetIndex)]
    | .segment s => s.entries.filterMap AlignmentEntry.cell?) =
  la.entries.filterMap AlignmentEntry.cell?

instance (la : LocalAlignment) : Decidable (PlacesAll la) :=
  inferInstanceAs (Decidable (_ = _))

/-- **An alignment is partitioned into anchors and segments**: each merge that is not null lies in
one of them, in the order of the alignment, segments are runs from an ambiguous merge to an
ambiguous merge, and their regions come one after the other. -/
theorem partitionAlignment_partitions (la : LocalAlignment) (h : Ascending la.entries) :
    (partitionAlignment la).flatMap (AlignmentPartition.merges la) = classified la la.entries ∧
      (classified la la.entries).Nodup ∧
      (∀ s, .segment s ∈ partitionAlignment la → s.entries <:+: la.entries ∧ Ambiguous la s) ∧
      (segments (partitionAlignment la)).Pairwise Segment.Before := by
  refine ⟨merges_partitionFrom none la.entries (fun _ h => by cases h), ?_,
    fun s hs => segment_partitionFrom hs, segments_partitionFrom h⟩
  have hsub : (classified la la.entries).Sublist (la.entries.filterMap AlignmentEntry.cell?) :=
    (List.filter_sublist).filterMap _
  refine hsub.nodup (List.Pairwise.imp (fun hlt heq => ?_) h)
  rw [heq] at hlt
  exact hlt.1.false

def nullBetween : LocalAlignment where
  entries := [.merge 0 0 (some 1), .merge 1 1 (some 0), .merge 2 2 (some 1)]
  range := ⟨0, 3, 0, 3⟩
  similarity := [[some 1, some 0, none], [some 0, some 0, some 0], [none, some 0, some 1]]
  margin := []
  baseNull := [1]
  targetNull := [1]

theorem partitionAlignment_nullBetween :
    ((partitionAlignment nullBetween).flatMap (AlignmentPartition.merges nullBetween) =
        classified nullBetween nullBetween.entries ∧
      (classified nullBetween nullBetween.entries).Nodup ∧
      (∀ s, .segment s ∈ partitionAlignment nullBetween →
        s.entries <:+: nullBetween.entries ∧ Ambiguous nullBetween s) ∧
      (segments (partitionAlignment nullBetween)).Pairwise Segment.Before) ∧
    partitionAlignment nullBetween = [.anchor 0 0, .anchor 2 2] :=
  ⟨partitionAlignment_partitions nullBetween (by decide), by decide⟩

/-- The null merge lies in no part. -/
theorem not_placesAll_nullBetween : ¬ PlacesAll nullBetween := by
  decide

end Confidence

end Blert.Merging

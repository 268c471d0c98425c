import Blert.Merging.Atomicity
import Blert.Merging.Consolidation

/-!
The length of a merged timeline.

Aligning a client numbers the ticks of the timeline and, between them, those of the client that
align with none. A step that is accepted therefore never shortens the timeline, and lengthens it
exactly if it places a tick of its client alone, whether or not the timeline was accurate.
-/

namespace Blert.Merging

open Fallible

/-! ### Ticks of the target alone -/

/-- Ticks of the target are placed alone: by an insertion, before a first merge at the start of
the base, or after a last merge at its end. -/
def PlacesAlone (n m : ℕ) (as : List Alignment) : Prop :=
  (∃ es ∈ as, ∃ targetIndex, .insert targetIndex ∈ es) ∨
  (∃ es, as.head? = some es ∧ (firstMerge es).1 = 0 ∧ 0 < (firstMerge es).2) ∨
  ∃ es, as.getLast? = some es ∧ (lastMerge es).1 + 1 = n ∧ (lastMerge es).2 + 1 < m

section Columns

variable {n m : ℕ} {as : List Alignment}

lemma fst_baseColumns {b ticks : ℕ} {c : Column} (h : c ∈ baseColumns b ticks) : c.1 ≠ none := by
  obtain ⟨i, -, rfl⟩ := List.mem_map.mp h
  nofun

lemma fst_targetColumns {t ticks : ℕ} :
    (∃ c ∈ targetColumns t ticks, c.1 = none) ↔ 0 < ticks := by
  unfold targetColumns
  cases ticks with
  | zero => simp
  | succ ticks => simp [List.range'_succ]

lemma fst_column {e : AlignmentEntry} :
    e.column.1 = none ↔ ∃ targetIndex, e = .insert targetIndex := by
  cases e <;> simp [AlignmentEntry.column]

lemma fst_bodyColumns (b : ℕ) : (∃ c ∈ bodyColumns b as, c.1 = none) ↔
    ∃ es ∈ as, ∃ targetIndex, .insert targetIndex ∈ es := by
  induction as generalizing b with
  | nil => simp [bodyColumns]
  | cons es as ih =>
    rw [bodyColumns, List.exists_mem_cons_iff, ← ih ((lastMerge es).1 + 1)]
    simp only [List.mem_append, or_and_right, exists_or]
    refine or_congr_left ?_
    constructor
    · rintro (⟨c, hc, hnone⟩ | ⟨c, hc, hnone⟩)
      · exact absurd hnone (fst_baseColumns hc)
      · obtain ⟨e, he, rfl⟩ := List.mem_map.mp hc
        obtain ⟨i, rfl⟩ := fst_column.1 hnone
        exact ⟨i, he⟩
    · rintro ⟨i, hi⟩
      exact .inr ⟨_, List.mem_map_of_mem hi, rfl⟩

lemma fst_headColumns : (∃ c ∈ headColumns as, c.1 = none) ↔
    ∃ es, as.head? = some es ∧ (firstMerge es).1 = 0 ∧ 0 < (firstMerge es).2 := by
  unfold headColumns
  cases as.head? with
  | none => simp
  | some es =>
    dsimp only
    split_ifs with hfirst
    · rw [fst_targetColumns]
      exact ⟨fun h => ⟨es, rfl, hfirst⟩, fun _ => hfirst.2⟩
    · refine ⟨by simp, ?_⟩
      rintro ⟨_, ⟨⟩, h⟩
      exact absurd h hfirst

lemma fst_tailColumns : (∃ c ∈ tailColumns n m as, c.1 = none) ↔
    ∃ es, as.getLast? = some es ∧ (lastMerge es).1 + 1 = n ∧ (lastMerge es).2 + 1 < m := by
  unfold tailColumns
  simp only [List.mem_append, or_and_right, exists_or]
  rw [or_iff_right (fun ⟨c, hc, hnone⟩ => fst_baseColumns hc hnone)]
  cases as.getLast? with
  | none => simp
  | some es =>
    dsimp only
    split_ifs with hlast
    · rw [fst_targetColumns]
      exact ⟨fun _ => ⟨es, rfl, hlast⟩, fun _ => Nat.sub_pos_of_lt hlast.2⟩
    · refine ⟨by simp, ?_⟩
      rintro ⟨_, ⟨⟩, h⟩
      exact absurd h hlast

lemma fst_columns : (∃ c ∈ columns n m as, c.1 = none) ↔ PlacesAlone n m as := by
  unfold columns PlacesAlone
  rw [← fst_headColumns, ← fst_bodyColumns 0, ← fst_tailColumns]
  simp only [List.mem_append, or_and_right, exists_or]
  exact or_assoc.trans or_left_comm

/-! ### Counting columns -/

lemma countP_baseColumns (b ticks : ℕ) :
    (baseColumns b ticks).countP (·.1.isSome) = ticks := by
  unfold baseColumns
  rw [List.countP_map]
  exact (List.countP_eq_length.mpr fun _ _ => rfl).trans List.length_range'

lemma countP_targetColumns (t ticks : ℕ) :
    (targetColumns t ticks).countP (·.1.isSome) = 0 := by
  unfold targetColumns
  rw [List.countP_map]
  exact List.countP_eq_zero.mpr fun _ _ => nofun

lemma countP_walk {es : Alignment} {b t b' t' : ℕ} (hw : Walk b t es b' t') :
    (es.map AlignmentEntry.column).countP (·.1.isSome) = b' - b := by
  induction hw with
  | nil => simp
  | merge hw ih =>
    have hle := hw.le
    rw [List.map_cons, List.countP_cons, ih]
    simp only [AlignmentEntry.column, Option.isSome_some, if_true]
    omega
  | keep hw ih =>
    have hle := hw.le
    rw [List.map_cons, List.countP_cons, ih]
    simp only [AlignmentEntry.column, Option.isSome_some, if_true]
    omega
  | insert hw ih =>
    rw [List.map_cons, List.countP_cons, ih]
    simp [AlignmentEntry.column]

lemma countP_bodyColumns {b t : ℕ} (has : Ordered n m b t as) :
    b + (bodyColumns b as).countP (·.1.isSome) = (bodyEnd (b, t) as).1 ∧
      (bodyEnd (b, t) as).1 ≤ n := by
  induction has with
  | nil hb _ => exact ⟨rfl, hb⟩
  | @cons b t b₁ t₁ b₂ t₂ es as hb _ hes has ih =>
    have hle := hes.le
    rw [bodyColumns, bodyEnd, List.countP_append, List.countP_append, countP_baseColumns,
      countP_walk hes.walk, hes.firstMerge, hes.lastMerge]
    refine ⟨?_, ih.2⟩
    rw [← ih.1]
    dsimp only
    omega

lemma countP_columns (has : Ordered n m 0 0 as) :
    (columns n m as).countP (·.1.isSome) = n := by
  have hhead : (headColumns as).countP (·.1.isSome) = 0 := by
    unfold headColumns
    split
    · split_ifs
      · exact countP_targetColumns _ _
      · rfl
    · rfl
  have htail : (tailColumns n m as).countP (·.1.isSome) = n - (bodyEnd (0, 0) as).1 := by
    unfold tailColumns
    rw [List.countP_append, countP_baseColumns]
    split
    · split_ifs
      · rw [countP_targetColumns, Nat.add_zero]
      · rfl
    · rfl
  obtain ⟨hbody, hle⟩ := countP_bodyColumns has
  unfold columns
  rw [List.countP_append, List.countP_append, hhead, htail]
  omega

/-- **The length of an aligned timeline** is at least that of the base, and equal to it exactly if
no target tick is placed alone. -/
lemma mergedTickCount_fromAlignment (has : Ordered n m 0 0 as) :
    n ≤ (fromAlignment n m as).mergedTickCount ∧
      ((fromAlignment n m as).mergedTickCount = n ↔ ¬PlacesAlone n m as) := by
  obtain ⟨t, hplaced⟩ := placed_numberTicks has
  have hlen : (fromAlignment n m as).mergedTickCount = (columns n m as).length := hplaced.pos
  have hcount := List.length_eq_countP_add_countP (fun c : Column => c.1.isSome)
    (l := columns n m as)
  rw [countP_columns has] at hcount
  rw [hlen, hcount, ← fst_columns]
  refine ⟨Nat.le_add_right _ _, ?_⟩
  rw [Nat.add_eq_left, List.countP_eq_zero, not_exists]
  refine forall_congr' fun c => ?_
  cases h : c.1 <;> simp

end Columns

/-! ### A step -/

section Run

variable {env : MergeEnv} {alignMismatched : Bool} {client : ClientEvents}

namespace MergedTimeline

variable {w : MergedTimeline}

/-- A step is accepted that places ticks of its client alone. -/
def Lengthens (env : MergeEnv) (alignMismatched : Bool) (w : MergedTimeline)
    (client : ClientEvents) : Prop :=
  ∃ alignment maps result,
    w.stepMappings env client alignMismatched = some (some alignment, maps) ∧
    w.Accepts env client (some alignment) maps result ∧
    PlacesAlone w.ticks.length client.tickStates.length
      (alignment.alignments.map LocalAlignment.entries)

lemma stepMappings_cases {alignment : Option AlignmentResult} {maps : Mappings}
    (h : w.stepMappings env client alignMismatched = some (alignment, maps)) :
    maps.Fits ∧ w.ticks.length ≤ maps.mergedTickCount ∧
      (maps.mergedTickCount = w.ticks.length ↔ ∀ a, alignment = some a →
        ¬PlacesAlone w.ticks.length client.tickStates.length
          (a.alignments.map LocalAlignment.entries)) := by
  unfold stepMappings at h
  dsimp only at h
  split_ifs at h
  · cases h
    exact ⟨fits_identity _ _, le_rfl, iff_of_true rfl (by rintro _ ⟨⟩)⟩
  · cases h
    have hlen := mergedTickCount_fromAlignment
      (ordered_align (SimilarityScorer.score env.defs env.exp) w.ticks client.tickStates .default)
    refine ⟨fits_aligned _ _ _ _, hlen.1, hlen.2.trans ⟨?_, fun h => h _ rfl⟩⟩
    rintro hnot _ ⟨⟩
    exact hnot

lemma not_lengthens_of_accurate (hw : w.inheritedAccurate = true)
    (hclient : client.isAccurate = true) : ¬w.Lengthens env alignMismatched client := by
  rintro ⟨alignment, maps, result, hmaps, -⟩
  unfold stepMappings at hmaps
  rw [hw, hclient] at hmaps
  cases hmaps

lemma length_accept {alignment : Option AlignmentResult} {maps : Mappings}
    {result : ConsolidationResult} (hfits : maps.Fits)
    (h : w.Accepts env client alignment maps result) :
    (w.accept client.clientId maps result).ticks.length = maps.mergedTickCount :=
  @length_consolidate _ _ _ _ ⟨client.clientId, maps⟩ _ rfl hfits h.consolidated

end MergedTimeline

/-- A step with a client that is accepted and places ticks of it alone. -/
def MergeStep.Lengthens (env : MergeEnv) (alignMismatched : Bool) (w : MergedTimeline) :
    MergeStep → Prop
  | .merge client _ => w.Lengthens env alignMismatched client
  | .skip _ => False

namespace MergeRun

variable {run : MergeRun} {base : ClientId} {done : List MergeStep}

lemma length_exec (hidle : run.timeline.ctx.mapping.inFlight = none) (step : MergeStep) :
    run.timeline.ticks.length ≤ (run.exec env alignMismatched step).timeline.ticks.length ∧
      ((run.exec env alignMismatched step).timeline.ticks.length = run.timeline.ticks.length ↔
        ¬step.Lengthens env alignMismatched run.timeline) := by
  cases step with
  | skip client => exact ⟨le_rfl, iff_of_true rfl id⟩
  | merge client classification =>
    show _ ≤ (run.mergeFrom env alignMismatched client classification).timeline.ticks.length ∧
      ((run.mergeFrom env alignMismatched client classification).timeline.ticks.length = _ ↔
        ¬run.timeline.Lengthens env alignMismatched client)
    obtain ⟨hnot, outcome, -, h⟩ | ⟨alignment, maps, result, confidence, hmaps, haccepts, h⟩ :=
      mergeFrom_cases hidle
        classification
    · rw [h]
      refine ⟨le_rfl, iff_of_true rfl ?_⟩
      rintro ⟨alignment, maps, result, hmaps, haccepts, -⟩
      exact hnot _ _ _ hmaps haccepts
    · obtain ⟨hfits, hle, hiff⟩ := MergedTimeline.stepMappings_cases hmaps
      have hlen : (run.mergeFrom env alignMismatched client classification).timeline.ticks.length =
          maps.mergedTickCount := by
        rw [h]
        exact MergedTimeline.length_accept hfits haccepts
      rw [hlen]
      refine ⟨hle, hiff.trans ⟨?_, ?_⟩⟩
      · rintro hnot ⟨a, maps', result', hmaps', -, halone⟩
        rw [hmaps] at hmaps'
        cases hmaps'
        exact hnot a rfl halone
      · rintro hnot a rfl halone
        exact hnot ⟨a, maps, result, hmaps, haccepts, halone⟩

lemma length_execAll (h : Settled base done run) (steps : List MergeStep) :
    run.timeline.ticks.length ≤ (run.execAll env alignMismatched steps).timeline.ticks.length ∧
      ((run.execAll env alignMismatched steps).timeline.ticks.length =
        run.timeline.ticks.length ↔
        ∀ before step after, steps = before ++ step :: after →
          ¬step.Lengthens env alignMismatched
            (run.execAll env alignMismatched before).timeline) := by
  induction steps generalizing done run with
  | nil => exact ⟨le_rfl, iff_of_true rfl (by simp)⟩
  | cons step steps ih =>
    obtain ⟨hle, hiff⟩ := length_exec h.idle step
    obtain ⟨hle', hiff'⟩ := ih (h.exec step)
    refine ⟨hle.trans hle', fun heq => ?_, fun hall => ?_⟩
    · have hstep := hiff.mp (le_antisymm (hle'.trans heq.le) hle)
      have hrest := hiff'.mp (le_antisymm (heq.le.trans hle) hle')
      intro before s after hsplit
      cases before with
      | nil =>
        cases hsplit
        exact hstep
      | cons s' before =>
        cases hsplit
        exact hrest before s after rfl
    · have hstep := hiff.mpr (hall [] step steps rfl)
      have hrest := hiff'.mpr fun before s after hsplit =>
        hall (step :: before) s after (by rw [hsplit, List.cons_append])
      exact hrest.trans hstep

lemma reference_execAll (h : Settled base done run) (steps : List MergeStep) :
    (run.execAll env alignMismatched steps).timeline.reference = run.timeline.reference ∧
      (run.execAll env alignMismatched steps).timeline.inheritedAccurate =
        run.timeline.inheritedAccurate := by
  induction steps generalizing done run with
  | nil => exact ⟨rfl, rfl⟩
  | cons step steps ih =>
    have hstep : (run.exec env alignMismatched step).timeline.reference = run.timeline.reference ∧
        (run.exec env alignMismatched step).timeline.inheritedAccurate =
          run.timeline.inheritedAccurate := by
      obtain ⟨_, _, -, heq⟩ | ⟨_, _, _, _, heq⟩ := exec_cases h.idle step
      · rw [heq]
        exact ⟨rfl, rfl⟩
      · rw [heq]
        exact ⟨rfl, rfl⟩
    obtain ⟨href, hacc⟩ := ih (h.exec step)
    exact ⟨href.trans hstep.1, hacc.trans hstep.2⟩

end MergeRun

end Run

/-! ### A merge -/

section Merge

variable {stage : Lifecycle.Stage} {clients : List ClientEvents} {start : MergeStart}

lemma length_start (h : startMerge stage clients = some start)
    (hmode : start.run.timeline.reference.method = .accurateModal) :
    start.run.timeline.ticks.length = start.run.timeline.reference.count + 1 ∧
      start.run.timeline.inheritedAccurate = true := by
  obtain ⟨classified, hclass, h⟩ := Option.bind_eq_some_iff.mp h
  cases h
  obtain ⟨haccurate, hcount⟩ := accurate_base hclass hmode
  refine ⟨?_, haccurate⟩
  show (classified.base.tickStates.map _).length = classified.referenceTicks.count + 1
  rw [List.length_map, classified.base.length_tickStates, ← hcount]
  rfl

lemma finalizeMerge_long {w : MergedTimeline} {events : MergedEventsMetadata}
    (hlong : w.reference.count + 1 ≤ w.ticks.length) (haccurate : w.inheritedAccurate = true)
    (h : w.finalizeMerge = .ok events) :
    events.lastTick = w.ticks.length - 1 ∧ events.accurateUntil = w.ticks.length := by
  unfold MergedTimeline.finalizeMerge at h
  obtain ⟨⟨w', offset⟩, halign, h⟩ := bind_eq_ok.1 h
  unfold MergedTimeline.endAlignToReference at halign
  dsimp only at halign
  rw [if_pos (Or.inr (by omega))] at halign
  cases halign
  cases h
  exact ⟨rfl, accurateUntil_inherited _ haccurate⟩

/-- **An accurate base keeps its length** exactly if no step that is accepted places ticks of its
client alone. -/
theorem accurate_length (env : MergeEnv) (alignMismatched : Bool) (stage : Lifecycle.Stage)
    (clients : List ClientEvents) {result : MergeResult}
    (hmerge : merge env alignMismatched stage clients = .ok (some result))
    (hmode : result.referenceSelection.method = .accurateModal) :
    (result.events.lastTick + 1 = result.referenceSelection.count + 1 ∧
      result.events.accurateUntil = result.referenceSelection.count + 1) ↔
    ∀ start, startMerge stage clients = some start → ∀ before step after,
      start.steps = before ++ step :: after →
        ¬step.Lengthens env alignMismatched
          (start.run.execAll env alignMismatched before).timeline := by
  unfold merge at hmerge
  cases hstart : startMerge stage clients with
  | none =>
    rw [hstart] at hmerge
    cases hmerge
  | some start =>
    rw [hstart] at hmerge
    obtain ⟨events, hfinal, hmerge⟩ := bind_eq_ok.1 hmerge
    cases hmerge
    obtain ⟨href, hacc⟩ := @MergeRun.reference_execAll env alignMismatched _ _ _
      (settled_start hstart) start.steps
    obtain ⟨hle, hiff⟩ := @MergeRun.length_execAll env alignMismatched _ _ _
      (settled_start hstart) start.steps
    dsimp only at hmode ⊢
    rw [href] at hmode ⊢
    obtain ⟨hlen, haccurate⟩ := length_start hstart hmode
    have hlong : (start.run.execAll env alignMismatched start.steps).timeline.reference.count + 1 ≤
        (start.run.execAll env alignMismatched start.steps).timeline.ticks.length := by
      rw [href]
      omega
    obtain ⟨hlast, huntil⟩ := finalizeMerge_long hlong (hacc.trans haccurate) hfinal
    rw [hlast, huntil]
    constructor
    · rintro ⟨hcount, huntil⟩ _ ⟨⟩
      exact hiff.mp (huntil.trans hlen.symm)
    · intro hall
      have heq := hiff.mpr (hall start rfl)
      omega

end Merge

/-- Two accurate clients that saw the same single tick. -/
theorem accurate_length_matching :
    ∃ result, merge Sample.env true .tobMaiden [Sample.client 1 [], Sample.client 2 []] =
        .ok (some result) ∧
      result.events.lastTick + 1 = result.referenceSelection.count + 1 ∧
      result.events.accurateUntil = result.referenceSelection.count + 1 := by
  have hmode : (merge Sample.env true .tobMaiden [Sample.client 1 [], Sample.client 2 []]
      ).toOption.join.map (·.referenceSelection.method) = some .accurateModal := by
    decide +kernel
  rcases hmerge : merge Sample.env true .tobMaiden [Sample.client 1 [], Sample.client 2 []] with
    _ | _ | result
  · rw [hmerge] at hmode
    cases hmode
  · rw [hmerge] at hmode
    cases hmode
  · rw [hmerge] at hmode
    refine ⟨result, rfl, (accurate_length _ _ _ _ hmerge (Option.some.inj hmode)).mpr ?_⟩
    rintro start ⟨⟩ before step after hsteps
    cases before with
    | nil =>
      cases hsteps
      exact MergedTimeline.not_lengthens_of_accurate rfl rfl
    | cons first before =>
      have hlength : 1 = before.length + 1 + (after.length + 1) :=
        (congrArg List.length hsteps).trans List.length_append
      omega

namespace Longer

/-- A tick of a player who stands on a tile of its own. -/
def tick (clientId : ClientId) (x : ℤ) (i : ℕ) : Option TickState :=
  some (.new i [] ((∅ : InsertionMap String (Option PlayerState)).set "player"
    (some { source := .secondary, username := "player", position := ⟨x, 0⟩,
            equipment := fun _ => none, overheads := [], attack := none, spell := none,
            sourceClientId := clientId })) ∅ ∅)

def client (clientId : ClientId) (accurate : Bool) (n : ℕ) (x : ℕ → ℤ) : ClientEvents where
  clientId
  recordedTicks := n
  accurate
  serverTicks := none
  primaryPlayer := none
  badData := false
  consistencyIssues := []
  corrections := []
  tickStates := (List.range (n + 1)).map fun i => tick clientId (x i) i
  length_tickStates := by simp

/-- An accurate client, and one that has a tick before those of the other. -/
def clients : List ClientEvents :=
  [client 1 true 9 fun i => i, client 2 false 10 fun i => if i = 0 then 100 else i - 1]

/-- The timeline of an accurate base with ten ticks ends up with eleven. -/
theorem base_lengthened :
    ∃ result, merge Sample.env true .tobMaiden clients = .ok (some result) ∧
      result.referenceSelection = { count := 9, method := .accurateModal } ∧
      result.events.lastTick + 1 = 11 ∧ result.events.accurateUntil = 11 := by
  have hresult : (merge Sample.env true .tobMaiden clients).toOption.join.map
      (fun r => (r.referenceSelection, r.events.lastTick + 1, r.events.accurateUntil)) =
      some ({ count := 9, method := .accurateModal }, 11, 11) := by
    decide +kernel
  rcases hmerge : merge Sample.env true .tobMaiden clients with _ | _ | result
  · rw [hmerge] at hresult
    cases hresult
  · rw [hmerge] at hresult
    cases hresult
  · rw [hmerge] at hresult
    have heq := Option.some.inj hresult
    simp only [Prod.mk.injEq] at heq
    exact ⟨result, rfl, heq⟩

end Longer

end Blert.Merging

import Blert.Merging.Composition
import Blert.Merging.Consolidator

/-!
Where the ticks and events of a merge step go.

Every merged tick has what the base recorded there, or else what the target recorded there, but
for the events that are buffered; and the buffers hold those events, of each client at each merged
tick. The three loops of building and walking the timeline each go on with this.
-/

namespace Blert.Merging

/-- The mappings of a merge step into a merged timeline that has room for the base. -/
structure Mappings.Fits (maps : Mappings) : Prop where
  invertible : maps.Invertible
  base_lt : ∀ i m, maps.base.toMerged i = some m → m < maps.mergedTickCount

lemma fits_identity (baseTickCount targetTickCount : ℕ) :
    (StepMappings.identity baseTickCount targetTickCount baseTickCount).1.Fits where
  invertible := (StepMappings.identity _ _ _).2
  base_lt i m h := by
    have hslot : slot ((List.range baseTickCount).map some) i = some m := h
    rw [slot_eq_some, List.getElem?_map, Option.map_eq_some_iff] at hslot
    obtain ⟨j, hj, hm⟩ := hslot
    cases hm
    exact List.mem_range.mp (List.mem_of_getElem? hj)

lemma fits_aligned {τ : Type*} (score : τ → τ → Similarity) (base target : List (Option τ))
    (config : AlignmentConfig) : (StepMappings.aligned score base target config).1.Fits where
  invertible := (StepMappings.aligned score base target config).2
  base_lt i m h := ((align_exact score base target config).covered m).mpr (Or.inl ⟨i, h⟩)

/-! ### The events of a tick -/

lemma nodup_bufferedTypes : EventType.bufferedTypes.Nodup := by decide

lemma not_isTickState_of_buffered :
    ∀ type ∈ EventType.bufferedTypes, type.isTickState = false := by decide

namespace TickState

lemma byType_clone (state : TickState) {type : EventType} (h : type.isTickState = false) :
    state.clone.getTaggedEventsByType type = state.getTaggedEventsByType type := by
  unfold clone new getTaggedEventsByType
  rw [List.filter_filter]
  refine List.filter_congr fun t _ => ?_
  by_cases ht : t.event.type = type
  · simp [ht, h]
  · simp [ht]

/-- The events of a tick that stay on it when it is placed in the merged timeline. -/
def kept (state : TickState) : List TaggedEvent :=
  (state.clone.extractEvents EventType.bufferedTypes).2.events

lemma mem_kept {state : TickState} {t : TaggedEvent} (h : t ∈ state.kept) :
    t ∈ state.events ∧ t.event.type ∉ EventType.bufferedTypes := by
  unfold kept extractEvents clone new at h
  simp only [List.mem_filter, decide_eq_true_eq] at h
  exact ⟨h.1.1, h.2⟩

lemma filter_flatMap_byType (state : TickState) (type : EventType) {types : List EventType}
    (hnd : types.Nodup) :
    (types.flatMap state.getTaggedEventsByType).filter (·.event.type = type) =
      if type ∈ types then state.getTaggedEventsByType type else [] := by
  induction types with
  | nil => rfl
  | cons t types ih =>
    obtain ⟨ht, hnd⟩ := List.nodup_cons.mp hnd
    rw [List.flatMap_cons, List.filter_append, ih hnd]
    unfold getTaggedEventsByType
    rw [List.filter_filter]
    by_cases h : type = t
    · subst h
      simp [ht]
    · have hnone : state.events.filter (fun e => e.event.type = type && e.event.type = t) = [] := by
        refine List.filter_eq_nil_iff.mpr fun e _ he => h ?_
        simp only [Bool.and_eq_true, decide_eq_true_eq] at he
        exact he.1.symm.trans he.2
      simp [hnone, h]

end TickState

def bufferedAt (type : EventType) (m : ℕ) : Option (ℕ × TickState) → List BufferedEvent
  | some (clientTick, state) =>
    (state.getTaggedEventsByType type).map ({ tagged := ·, mergedTick := m, clientTick })
  | none => []

lemma mem_bufferedAt {type : EventType} {m : ℕ} {x : Option (ℕ × TickState)} {e : BufferedEvent}
    (h : e ∈ bufferedAt type m x) :
    e.mergedTick = m ∧ e.tagged.event.type = type ∧
      ∃ state, x = some (e.clientTick, state) ∧ e.tagged ∈ state.events := by
  match x with
  | some (clientTick, state) =>
    obtain ⟨t, ht, rfl⟩ := List.mem_map.mp h
    obtain ⟨hmem, htype⟩ := List.mem_filter.mp ht
    exact ⟨rfl, by simpa using htype, state, rfl, hmem⟩

lemma group_bufferEvents (buffer : EventBuffer) (state : TickState) (m i : ℕ) {type : EventType}
    (h : type ∈ EventType.bufferedTypes) :
    (bufferEvents buffer (state.clone.extractEvents EventType.bufferedTypes).1 m i).group type =
      buffer.group type ++ bufferedAt type m (some (i, state)) := by
  unfold bufferEvents
  rw [InsertionMap.group_pushAll]
  congr 1
  have hf := state.clone.filter_flatMap_byType type nodup_bufferedTypes
  rw [if_pos h, state.byType_clone (not_isTickState_of_buffered type h)] at hf
  unfold InsertionMap.withKey
  rw [List.filter_map, List.map_map]
  show _ = (state.getTaggedEventsByType type).map _
  rw [← hf]
  rfl

/-! ### Placing ticks -/

/-- What has been placed and buffered so far at each merged tick, of the base and of the
target. -/
structure Placing (count : ℕ) (w : Consolidator) (base target : ℕ → Option (ℕ × TickState)) :
    Prop where
  length : w.mergedTicks.length = count
  events : ∀ m < count, (w.mergedTicks[m]?.join).map TickState.events =
    match base m with
    | some (_, state) => some state.kept
    | none => (target m).map (·.2.kept)
  baseBuffer : ∀ type ∈ EventType.bufferedTypes, ∀ m,
    (w.baseBuffer.group type).filter (·.mergedTick = m) = bufferedAt type m (base m)
  targetBuffer : ∀ type ∈ EventType.bufferedTypes, ∀ m,
    (w.targetBuffer.group type).filter (·.mergedTick = m) = bufferedAt type m (target m)

section Placing

variable {count m₀ i : ℕ} {w : Consolidator} {base target : ℕ → Option (ℕ × TickState)}
  {state : TickState}

lemma filter_bufferEvents {buffer : EventBuffer} {side side' : ℕ → Option (ℕ × TickState)}
    (hbuf : ∀ type ∈ EventType.bufferedTypes, ∀ m,
      (buffer.group type).filter (·.mergedTick = m) = bufferedAt type m (side m))
    (hfree : side m₀ = none) (hnew : side' m₀ = some (i, state))
    (hsame : ∀ m ≠ m₀, side' m = side m) :
    ∀ type ∈ EventType.bufferedTypes, ∀ m,
      ((bufferEvents buffer (state.clone.extractEvents EventType.bufferedTypes).1 m₀ i).group
        type).filter (·.mergedTick = m) = bufferedAt type m (side' m) := by
  intro type htype m
  rw [group_bufferEvents buffer state m₀ i htype, List.filter_append, hbuf type htype m]
  by_cases hm : m = m₀
  · subst hm
    rw [hfree, hnew]
    show [] ++ _ = _
    rw [List.nil_append]
    exact List.filter_eq_self.mpr fun e he => by simpa using (mem_bufferedAt he).1
  · rw [hsame m hm]
    have hnone : (bufferedAt type m₀ (some (i, state))).filter (·.mergedTick = m) = [] := by
      refine List.filter_eq_nil_iff.mpr fun e he h => hm ?_
      rw [← (mem_bufferedAt he).1]
      exact (of_decide_eq_true h).symm
    rw [hnone, List.append_nil]

lemma join_set {ticks : TickStateArray} (h : m₀ < ticks.length) (m : ℕ) (tick : TickState) :
    (ticks.set m₀ (some tick))[m]?.join = if m = m₀ then some tick else ticks[m]?.join := by
  rw [List.getElem?_set]
  by_cases hm : m₀ = m
  · subst hm
    simp [h]
  · have hm' : m ≠ m₀ := fun h => hm h.symm
    simp [hm, hm']

lemma Placing.placeBase (h : Placing count w base target) (hlt : m₀ < count)
    {base' : ℕ → Option (ℕ × TickState)} (hfree : base m₀ = none)
    (hnew : base' m₀ = some (i, state)) (hsame : ∀ m ≠ m₀, base' m = base m) :
    Placing count
      { w with
        baseBuffer := bufferEvents w.baseBuffer
          (state.clone.extractEvents EventType.bufferedTypes).1 m₀ i
        mergedTicks := w.mergedTicks.set m₀
          (some (state.clone.extractEvents EventType.bufferedTypes).2) } base' target where
  length := by simpa using h.length
  events m hm := by
    rw [join_set (by rw [h.length]; exact hlt)]
    by_cases hmm : m = m₀
    · subst hmm
      rw [if_pos rfl, hnew]
      rfl
    · rw [if_neg hmm, hsame m hmm]
      exact h.events m hm
  baseBuffer := filter_bufferEvents h.baseBuffer hfree hnew hsame
  targetBuffer := h.targetBuffer

lemma Placing.placeTarget (h : Placing count w base target) (hlt : m₀ < count)
    {target' : ℕ → Option (ℕ × TickState)} (hbase : base m₀ = none) (hfree : target m₀ = none)
    (hnew : target' m₀ = some (i, state)) (hsame : ∀ m ≠ m₀, target' m = target m) :
    Placing count
      { w with
        targetBuffer := bufferEvents w.targetBuffer
          (state.clone.extractEvents EventType.bufferedTypes).1 m₀ i
        mergedTicks := w.mergedTicks.set m₀
          (some (state.clone.extractEvents EventType.bufferedTypes).2) } base target' where
  length := by simpa using h.length
  events m hm := by
    rw [join_set (by rw [h.length]; exact hlt)]
    by_cases hmm : m = m₀
    · subst hmm
      rw [if_pos rfl, hbase, hnew]
      rfl
    · rw [if_neg hmm, hsame m hmm]
      exact h.events m hm
  baseBuffer := h.baseBuffer
  targetBuffer := filter_bufferEvents h.targetBuffer hfree hnew hsame

lemma Placing.mergeTarget (h : Placing count w base target) (hlt : m₀ < count)
    {target' : ℕ → Option (ℕ × TickState)} (hbase : (base m₀).isSome) (hfree : target m₀ = none)
    (hnew : target' m₀ = some (i, state)) (hsame : ∀ m ≠ m₀, target' m = target m)
    {merged merged' : TickState} (hmerged : w.mergedTicks[m₀]?.join = some merged)
    (hevents : merged'.events = merged.events) {flags : List QualityFlag}
    {counters : ReconciliationCounters} :
    Placing count
      { w with
        targetBuffer := bufferEvents w.targetBuffer
          (state.clone.extractEvents EventType.bufferedTypes).1 m₀ i
        mergedTicks := w.mergedTicks.set m₀ (some merged')
        qualityFlags := flags
        counters := counters } base target' where
  length := by simpa using h.length
  events m hm := by
    rw [join_set (by rw [h.length]; exact hlt)]
    have hm' := h.events m hm
    by_cases hmm : m = m₀
    · subst hmm
      obtain ⟨x, hx⟩ := Option.isSome_iff_exists.mp hbase
      rw [hmerged, hx] at hm'
      rw [if_pos rfl, hx]
      show some merged'.events = _
      rw [hevents]
      exact hm'
    · rw [if_neg hmm, hsame m hmm]
      exact hm'
  baseBuffer := h.baseBuffer
  targetBuffer := filter_bufferEvents h.targetBuffer hfree hnew hsame

end Placing

/-! ### The loops -/

/-- A tick of a client, if it is among the client's first ones. -/
def upTo (k : ℕ) (x : Option (ℕ × TickState)) : Option (ℕ × TickState) := x.filter (·.1 < k)

lemma upTo_zero (x : Option (ℕ × TickState)) : upTo 0 x = none := by
  cases x <;> simp [upTo]

lemma upTo_succ_self (k : ℕ) (state : TickState) :
    upTo k (some (k, state)) = none ∧ upTo (k + 1) (some (k, state)) = some (k, state) := by
  simp [upTo, Option.filter]

lemma upTo_succ_of_ne {k : ℕ} {x : Option (ℕ × TickState)} (h : ∀ state, x ≠ some (k, state)) :
    upTo (k + 1) x = upTo k x := by
  match x with
  | none => rfl
  | some (i, state) =>
    have hi : i ≠ k := fun hik => h state (by rw [hik])
    have hiff : i < k + 1 ↔ i < k := by omega
    simp [upTo, Option.filter, hiff]

section Loops

variable {maps : Mappings} {baseTicks targetTicks : TickStateArray}

lemma tickAt_eq_some {mapping : TickMapping} {ticks : TickStateArray} {m i : ℕ}
    {state : TickState} :
    tickAt mapping ticks m = some (i, state) ↔
      mapping.toClient m = some i ∧ ticks[i]?.join = some state := by
  unfold tickAt
  constructor
  · intro h
    obtain ⟨j, hj, h⟩ := Option.bind_eq_some_iff.mp h
    obtain ⟨s, hs, h⟩ := Option.map_eq_some_iff.mp h
    cases h
    exact ⟨hj, hs⟩
  · rintro ⟨hi, hs⟩
    rw [hi, Option.bind_some, hs]
    rfl

lemma lt_of_tickAt {mapping : TickMapping} {ticks : TickStateArray} {m i : ℕ} {state : TickState}
    (h : tickAt mapping ticks m = some (i, state)) : i < ticks.length := by
  have hs := (tickAt_eq_some.1 h).2
  by_contra hi
  rw [List.getElem?_eq_none (not_lt.mp hi)] at hs
  cases hs

lemma upTo_length (mapping : TickMapping) (ticks : TickStateArray) (m : ℕ) :
    upTo ticks.length (tickAt mapping ticks m) = tickAt mapping ticks m := by
  cases h : tickAt mapping ticks m with
  | none => rfl
  | some x =>
    obtain ⟨i, state⟩ := x
    have hlt := lt_of_tickAt h
    simp [upTo, Option.filter, hlt]

def baseAt (maps : Mappings) (baseTicks : TickStateArray) (m : ℕ) : Option (ℕ × TickState) :=
  tickAt maps.base baseTicks m

/-- The target ticks of a merge step that are in the merged timeline. -/
def targetAt (maps : Mappings) (targetTicks : TickStateArray) (m : ℕ) : Option (ℕ × TickState) :=
  if m < maps.mergedTickCount then tickAt maps.target targetTicks m else none

lemma placing_empty : Placing maps.mergedTickCount
    { mergedTicks := List.replicate maps.mergedTickCount none } (fun _ => none) fun _ => none where
  length := List.length_replicate
  events m hm := by
    rw [List.getElem?_replicate, if_pos hm]
    rfl
  baseBuffer _ _ _ := rfl
  targetBuffer _ _ _ := rfl

lemma placing_base (h : maps.Fits) (k : ℕ) :
    Placing maps.mergedTickCount
      ((List.range k).foldl (placeBaseTick maps baseTicks)
        { mergedTicks := List.replicate maps.mergedTickCount none })
      (fun m => upTo k (baseAt maps baseTicks m)) fun _ => none := by
  induction k with
  | zero =>
    have h0 : (fun m => upTo 0 (baseAt maps baseTicks m)) = fun _ => none :=
      funext fun m => upTo_zero _
    rw [h0]
    exact placing_empty
  | succ k ih =>
    rw [List.range_succ, List.foldl_append, List.foldl_cons, List.foldl_nil]
    set w := (List.range k).foldl (placeBaseTick maps baseTicks) _
    have hskip : (∀ m state, baseAt maps baseTicks m ≠ some (k, state)) →
        Placing maps.mergedTickCount w (fun m => upTo (k + 1) (baseAt maps baseTicks m))
          fun _ => none := by
      intro hne
      simpa only [upTo_succ_of_ne (hne _)] using ih
    have hat : ∀ m state, baseAt maps baseTicks m = some (k, state) ↔
        maps.base.toMerged k = some m ∧ baseTicks[k]?.join = some state := fun m state =>
      tickAt_eq_some.trans (and_congr_left' (h.invertible.1 k m).symm)
    unfold placeBaseTick
    cases hm : maps.base.toMerged k with
    | none => exact hskip fun m state hs => by simpa [hm] using (hat m state).mp hs
    | some m₀ =>
      cases hs : baseTicks[k]?.join with
      | none => exact hskip fun m state h' => by simpa [hs] using (hat m state).mp h'
      | some state =>
        have h₀ := (hat m₀ state).mpr ⟨hm, hs⟩
        refine ih.placeBase (h.base_lt k m₀ hm) ?_ ?_
          fun m hne => upTo_succ_of_ne fun state' h' => ?_
        · show upTo k (baseAt maps baseTicks m₀) = none
          rw [h₀]
          exact (upTo_succ_self k state).1
        · show upTo (k + 1) (baseAt maps baseTicks m₀) = some (k, state)
          rw [h₀]
          exact (upTo_succ_self k state).2
        · have hm' := ((hat m state').mp h').1
          rw [hm] at hm'
          exact hne (Option.some.inj hm').symm

def filled (maps : Mappings) (baseTicks targetTicks : TickStateArray) (k m : ℕ) :
    Option (ℕ × TickState) :=
  if (baseAt maps baseTicks m).isNone then upTo k (targetAt maps targetTicks m) else none

lemma targetAt_eq_some (h : maps.Fits) {m i : ℕ} {state : TickState} :
    targetAt maps targetTicks m = some (i, state) ↔
      m < maps.mergedTickCount ∧ maps.target.toMerged i = some m ∧
        targetTicks[i]?.join = some state := by
  unfold targetAt
  split_ifs with hm
  · rw [tickAt_eq_some]
    exact ⟨fun h' => ⟨hm, (h.invertible.2 i m).mpr h'.1, h'.2⟩,
      fun h' => ⟨(h.invertible.2 i m).mp h'.2.1, h'.2.2⟩⟩
  · simp [hm]

lemma placing_target (h : maps.Fits) (k : ℕ) :
    Placing maps.mergedTickCount
      ((List.range k).foldl (placeTargetTick maps targetTicks)
        ((List.range baseTicks.length).foldl (placeBaseTick maps baseTicks)
          { mergedTicks := List.replicate maps.mergedTickCount none }))
      (baseAt maps baseTicks) (filled maps baseTicks targetTicks k) := by
  induction k with
  | zero =>
    have hb : (fun m => upTo baseTicks.length (baseAt maps baseTicks m)) = baseAt maps baseTicks :=
      funext fun m => upTo_length maps.base baseTicks m
    have hbase := @placing_base maps baseTicks h baseTicks.length
    have ht : filled maps baseTicks targetTicks 0 = fun _ => none := by
      funext m
      unfold filled
      rw [upTo_zero, ite_self]
    rw [hb] at hbase
    rw [ht]
    exact hbase
  | succ k ih =>
    rw [List.range_succ, List.foldl_append, List.foldl_cons, List.foldl_nil]
    set w := (List.range k).foldl (placeTargetTick maps targetTicks) _
    -- A target tick whose merged tick is free has not been placed yet.
    have hfree : ∀ m state, baseAt maps baseTicks m = none →
        targetAt maps targetTicks m = some (k, state) →
        w.mergedTicks[m]? = some none ∧ filled maps baseTicks targetTicks k m = none := by
      intro m state hb ht
      have hlt := ((targetAt_eq_some h).mp ht).1
      have hnone : filled maps baseTicks targetTicks k m = none := by
        unfold filled
        rw [hb, ht, (upTo_succ_self k state).1, ite_self]
      have hev := ih.events m hlt
      rw [hb, hnone] at hev
      refine ⟨?_, hnone⟩
      have hm : m < w.mergedTicks.length := by rw [ih.length]; exact hlt
      rw [List.getElem?_eq_getElem hm] at hev ⊢
      cases hw : w.mergedTicks[m] with
      | none => rfl
      | some state => simp [hw] at hev
    have hskip : (∀ m state, baseAt maps baseTicks m = none →
        targetAt maps targetTicks m ≠ some (k, state)) →
        Placing maps.mergedTickCount w (baseAt maps baseTicks)
          (filled maps baseTicks targetTicks (k + 1)) := by
      intro hne
      have hsame : filled maps baseTicks targetTicks (k + 1) =
          filled maps baseTicks targetTicks k := by
        funext m
        unfold filled
        split_ifs with hb
        · exact upTo_succ_of_ne fun state => hne m state (Option.isNone_iff_eq_none.mp hb)
        · rfl
      rw [hsame]
      exact ih
    unfold placeTargetTick
    cases hm : maps.target.toMerged k with
    | none => exact hskip fun m state hb ht => by simpa [hm] using ((targetAt_eq_some h).mp ht).2.1
    | some m₀ =>
      dsimp only
      split
      · next state hw hs =>
        have hlt : m₀ < maps.mergedTickCount := by
          rw [← ih.length]
          exact (List.getElem?_eq_some_iff.mp hw).1
        have hev := ih.events m₀ hlt
        rw [hw] at hev
        have hb : baseAt maps baseTicks m₀ = none := by
          cases hb : baseAt maps baseTicks m₀ with
          | none => rfl
          | some x => simp [hb] at hev
        have ht : targetAt maps targetTicks m₀ = some (k, state) :=
          (targetAt_eq_some h).mpr ⟨hlt, hm, hs⟩
        refine ih.placeTarget hlt hb (hfree m₀ state hb ht).2 ?_ fun m hne => ?_
        · unfold filled
          rw [hb, ht, (upTo_succ_self k state).2]
          rfl
        · unfold filled
          rw [upTo_succ_of_ne fun state' h' => ?_]
          have hm' := ((targetAt_eq_some h).mp h').2.1
          rw [hm] at hm'
          exact hne (Option.some.inj hm').symm
      · next hno =>
        refine hskip fun m state hb ht => ?_
        obtain ⟨-, hm', hs⟩ := (targetAt_eq_some h).mp ht
        rw [hm] at hm'
        cases hm'
        exact hno state (hfree m₀ state hb ht).1 hs

lemma filled_length (m : ℕ) :
    filled maps baseTicks targetTicks targetTicks.length m =
      if (baseAt maps baseTicks m).isNone then targetAt maps targetTicks m else none := by
  unfold filled targetAt
  by_cases hm : m < maps.mergedTickCount
  · rw [if_pos hm, upTo_length]
  · rw [if_neg hm]
    rfl

lemma placing_buildTimeline (h : maps.Fits) :
    Placing maps.mergedTickCount (buildTimeline maps baseTicks targetTicks)
      (baseAt maps baseTicks) fun m =>
        if (baseAt maps baseTicks m).isNone then targetAt maps targetTicks m else none := by
  have ht := @placing_target maps baseTicks targetTicks h targetTicks.length
  rw [funext filled_length] at ht
  exact ht

end Loops

/-! ### Walking the timeline -/

section Walk

variable {defs : Definitions} {ctx : MergeContext} {target : TickState}

lemma mergePlayerAttack_events (w : TickMerge) (entry : String × Option PlayerState) :
    (mergePlayerAttack defs ctx target w entry).state.events = w.state.events := by
  unfold mergePlayerAttack
  repeat' split
  all_goals rfl

lemma mergePlayerSpell_events (w : TickMerge) (entry : String × Option PlayerState) :
    (mergePlayerSpell defs target w entry).state.events = w.state.events := by
  unfold mergePlayerSpell
  repeat' split
  all_goals rfl

lemma mergeNpcAttack_events (w : TickMerge) (entry : ℤ × NpcState) :
    (mergeNpcAttack defs ctx target w entry).state.events = w.state.events := by
  unfold mergeNpcAttack
  repeat' split
  all_goals rfl

lemma foldl_events {α : Type*} {f : TickMerge → α → TickMerge}
    (hf : ∀ w a, (f w a).state.events = w.state.events) (w : TickMerge) (xs : List α) :
    (xs.foldl f w).state.events = w.state.events := by
  induction xs generalizing w with
  | nil => rfl
  | cons x xs ih => rw [List.foldl_cons, ih, hf]

lemma mergeTicks_events (w : TickMerge) :
    (mergeTicks defs ctx target w).state.events = w.state.events := by
  unfold mergeTicks mergeNpcAttacks mergePlayerSpells mergePlayerAttacks
  rw [foldl_events mergeNpcAttack_events, foldl_events mergePlayerSpell_events,
    foldl_events mergePlayerAttack_events]
  rfl

variable {maps : Mappings} {baseTicks targetTicks : TickStateArray}

/-- What the walk has buffered of the target: what was placed, and what is merged before `k`. -/
def walked (maps : Mappings) (baseTicks targetTicks : TickStateArray) (k m : ℕ) :
    Option (ℕ × TickState) :=
  if (baseAt maps baseTicks m).isNone ∨ m < k then targetAt maps targetTicks m else none

lemma placing_walk {w₀ : Consolidator}
    (hw₀ : Placing maps.mergedTickCount w₀ (baseAt maps baseTicks)
      (walked maps baseTicks targetTicks 0)) {k : ℕ} (hk : k ≤ maps.mergedTickCount) :
    Placing maps.mergedTickCount
      ((List.range k).foldl (consolidateTick defs ctx maps baseTicks targetTicks) w₀)
      (baseAt maps baseTicks) (walked maps baseTicks targetTicks k) := by
  induction k with
  | zero => exact hw₀
  | succ k ih =>
    have ih := ih (by omega)
    rw [List.range_succ, List.foldl_append, List.foldl_cons, List.foldl_nil]
    set w := (List.range k).foldl (consolidateTick defs ctx maps baseTicks targetTicks) w₀
    have hsame : ∀ m ≠ k,
        walked maps baseTicks targetTicks (k + 1) m = walked maps baseTicks targetTicks k m := by
      intro m hm
      have hiff : m < k + 1 ↔ m < k := by omega
      unfold walked
      simp only [hiff]
    have hat : targetAt maps targetTicks k = tickAt maps.target targetTicks k := if_pos (by omega)
    have hskip : (baseAt maps baseTicks k = none ∨ targetAt maps targetTicks k = none) →
        Placing maps.mergedTickCount w (baseAt maps baseTicks)
          (walked maps baseTicks targetTicks (k + 1)) := by
      intro hno
      have heq : walked maps baseTicks targetTicks (k + 1) =
          walked maps baseTicks targetTicks k := by
        funext m
        by_cases hm : m = k
        · subst hm
          unfold walked
          rcases hno with hb | ht
          · simp [hb]
          · simp [ht]
        · exact hsame m hm
      rw [heq]
      exact ih
    unfold consolidateTick
    cases hb : tickAt maps.base baseTicks k with
    | none => exact hskip (Or.inl hb)
    | some x =>
      cases ht : tickAt maps.target targetTicks k with
      | none => exact hskip (Or.inr (hat.trans ht))
      | some y =>
        obtain ⟨i, state⟩ := y
        have hev := ih.events k (by omega)
        rw [show baseAt maps baseTicks k = some x from hb] at hev
        cases hw : w.mergedTicks[k]?.join with
        | none => simp [hw] at hev
        | some merged =>
          refine ih.mergeTarget (by omega) (by rw [show baseAt maps baseTicks k = _ from hb]; rfl)
            ?_ ?_ hsame hw (mergeTicks_events _)
          · unfold walked
            rw [show baseAt maps baseTicks k = _ from hb]
            simp
          · unfold walked
            rw [if_pos (Or.inr (Nat.lt_succ_self k)), hat, ht]

/-- **The timeline is walked**: every merged tick has what the base recorded there, or else what
the target did, and the buffers hold what both recorded. -/
lemma placing_consolidateTicks (h : maps.Fits) :
    Placing maps.mergedTickCount
      (consolidateTicks defs ctx maps baseTicks targetTicks
        (buildTimeline maps baseTicks targetTicks))
      (baseAt maps baseTicks) (targetAt maps targetTicks) := by
  have hbuild := @placing_buildTimeline maps baseTicks targetTicks h
  have hw₀ : walked maps baseTicks targetTicks 0 = fun m =>
      if (baseAt maps baseTicks m).isNone then targetAt maps targetTicks m else none := by
    funext m
    unfold walked
    simp
  have hend : walked maps baseTicks targetTicks maps.mergedTickCount =
      targetAt maps targetTicks := by
    funext m
    unfold walked targetAt
    by_cases hm : m < maps.mergedTickCount <;> simp [hm]
  rw [← hw₀] at hbuild
  have hwalk := @placing_walk defs ctx maps baseTicks targetTicks _ hbuild _ le_rfl
  rw [hend] at hwalk
  unfold consolidateTicks
  rw [hbuild.length]
  exact hwalk

end Walk

end Blert.Merging

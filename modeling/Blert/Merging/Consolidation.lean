import Blert.Merging.Placing
import Blert.Merging.Reconciling

/-!
What consolidation keeps of two timelines.

The events on the ticks that the mappings place are taken up by the buffers, reconciled type by
type, and inserted into the merged timeline, where they are remapped. Every event of the merged
timeline is a copy of one that a client recorded, but for the ticks it refers to.
-/

namespace Blert.Merging

open Fallible

/-! ### The content of events -/

/-- An event but for the ticks it refers to. -/
def Event.content (e : Event) : Event :=
  { e with
    tick := 0
    xarpusExhumed := e.xarpusExhumed.map fun x =>
      { spawnTick := 0, healTicks := x.healTicks.map fun _ => 0 }
    verzikAttackStyle := e.verzikAttackStyle.map ({ · with npcAttackTick := 0 })
    verzikBounce := e.verzikBounce.map ({ · with npcAttackTick := 0 })
    verzikDawn := e.verzikDawn.map ({ · with attackTick := 0 })
    mokhaiotlAttackStyle := e.mokhaiotlAttackStyle.map ({ · with npcAttackTick := 0 }) }

def TaggedEvent.content (t : TaggedEvent) : TaggedEvent := { t with event := t.event.content }

lemma type_of_content {t t' : TaggedEvent} (h : t'.content = t.content) :
    t'.event.type = t.event.type := congrArg (·.event.type) h

abbrev Remapping := StateT (List QualityFlag) (Except MergeError)

lemma run_require {α : Type} {x : Option α} {a : α} {s s' : List QualityFlag}
    (h : (liftExcept (require x) : Remapping α).run s = .ok (a, s')) : x = some a := by
  cases x with
  | none => cases h
  | some b =>
    cases h
    rfl

lemma content_remapEventTick {tagged tagged' : TaggedEvent} {remap : ℤ → Remapping ℤ}
    {s s' : List QualityFlag} (h : (remapEventTick tagged remap).run s = .ok (tagged', s')) :
    tagged'.content = tagged.content ∧ tagged.event.type.isTickState = false := by
  unfold remapEventTick at h
  dsimp only at h
  cases htick : tagged.event.type.isTickState with
  | true =>
    rw [htick] at h
    cases h
  | false =>
    rw [htick] at h
    simp only [Bool.false_eq_true, ↓reduceIte] at h
    refine ⟨?_, rfl⟩
    obtain ⟨tick, s₁, -, h⟩ := run_bind_ok.1 h
    split at h
    · obtain ⟨exhumed, _, hreq, h⟩ := run_bind_ok.1 h
      obtain ⟨spawnTick, _, -, h⟩ := run_bind_ok.1 h
      obtain ⟨healTicks, _, hheal, h⟩ := run_bind_ok.1 h
      cases h
      have hlen := (run_mapM_ok hheal).length_eq
      simp [TaggedEvent.content, Event.content, run_require hreq, List.map_const', hlen]
    · obtain ⟨style, _, hreq, h⟩ := run_bind_ok.1 h
      obtain ⟨npcAttackTick, _, -, h⟩ := run_bind_ok.1 h
      cases h
      simp [TaggedEvent.content, Event.content, run_require hreq]
    · obtain ⟨bounce, _, hreq, h⟩ := run_bind_ok.1 h
      obtain ⟨npcAttackTick, _, -, h⟩ := run_bind_ok.1 h
      cases h
      simp [TaggedEvent.content, Event.content, run_require hreq]
    · obtain ⟨dawn, _, hreq, h⟩ := run_bind_ok.1 h
      obtain ⟨attackTick, _, -, h⟩ := run_bind_ok.1 h
      cases h
      simp [TaggedEvent.content, Event.content, run_require hreq]
    · obtain ⟨style, _, hreq, h⟩ := run_bind_ok.1 h
      obtain ⟨npcAttackTick, _, -, h⟩ := run_bind_ok.1 h
      cases h
      simp [TaggedEvent.content, Event.content, run_require hreq]
    · cases h
      rfl

/-! ### Remapping -/

section Remap

variable {targetClientId : ClientId} {maps : Mappings}

lemma remapEvent_ok {i : ℕ} {t t' : TaggedEvent} {s s' : List QualityFlag}
    (h : (remapEvent targetClientId maps i t).run s = .ok (t', s')) :
    t'.content = t.content ∧ t.event.type.isTickState = false := by
  unfold remapEvent at h
  obtain ⟨remapped, s₁, hr, h⟩ := run_bind_ok.1 h
  cases h
  obtain ⟨hc, htype⟩ := content_remapEventTick hr
  refine ⟨?_, htype⟩
  rw [← hc]
  rfl

lemma remapEvents_ok {i : ℕ} {events events' : List TaggedEvent} {s s' : List QualityFlag}
    (h : (events.mapM (remapEvent targetClientId maps i)).run s = .ok (events', s')) :
    events'.map TaggedEvent.content = events.map TaggedEvent.content ∧
      events'.filter (fun t => !t.event.type.isTickState) = events' := by
  have hall := run_mapM_ok h
  clear h
  induction hall with
  | nil => exact ⟨rfl, rfl⟩
  | cons ht _ ih =>
    obtain ⟨s, s', ht⟩ := ht
    obtain ⟨hc, htype⟩ := remapEvent_ok ht
    rw [← type_of_content hc] at htype
    exact ⟨by rw [List.map_cons, List.map_cons, hc, ih.1],
      by rw [List.filter_cons_of_pos (by simp [htype]), ih.2]⟩

lemma remapTickState_ok {i : ℕ} {tick tick' : Option TickState} {s s' : List QualityFlag}
    (h : (remapTickState targetClientId maps (tick, i)).run s = .ok (tick', s')) :
    tick'.map TickState.actors = tick.map TickState.actors ∧
      tick'.map (·.events.map TaggedEvent.content) =
        tick.map (·.events.map TaggedEvent.content) := by
  cases tick with
  | none =>
    cases h
    exact ⟨rfl, rfl⟩
  | some state =>
    unfold remapTickState at h
    obtain ⟨events, s₁, hev, h⟩ := run_bind_ok.1 h
    cases h
    obtain ⟨hc, hfilter⟩ := remapEvents_ok hev
    refine ⟨rfl, ?_⟩
    show some ((events.filter _).map _) = _
    rw [hfilter, hc]
    rfl

lemma length_remapToMergedSpace {ticks ticks' : TickStateArray} {s s' : List QualityFlag}
    (h : (remapToMergedSpace targetClientId maps ticks).run s = .ok (ticks', s')) :
    ticks'.length = ticks.length := by
  simpa using (run_mapM_ok h).length_eq.symm

lemma remapToMergedSpace_ok {ticks ticks' : TickStateArray} {s s' : List QualityFlag}
    (h : (remapToMergedSpace targetClientId maps ticks).run s = .ok (ticks', s')) (m : ℕ) :
    (ticks'[m]?.join).map TickState.actors = (ticks[m]?.join).map TickState.actors ∧
      (ticks'[m]?.join).map (·.events.map TaggedEvent.content) =
        (ticks[m]?.join).map (·.events.map TaggedEvent.content) := by
  have hall := run_mapM_ok h
  have hlen := length_remapToMergedSpace h
  by_cases hm : m < ticks.length
  · have hget := List.forall₂_iff_get.mp hall
    obtain ⟨s, s', hrun⟩ := hget.2 m (by simpa using hm) (by omega)
    rw [List.getElem?_eq_getElem hm, List.getElem?_eq_getElem (by omega)]
    simp only [List.get_eq_getElem, List.getElem_zipIdx, Nat.zero_add] at hrun
    exact remapTickState_ok hrun
  · rw [List.getElem?_eq_none (by omega), List.getElem?_eq_none (by omega)]
    exact ⟨rfl, rfl⟩

end Remap

/-! ### Reconciling all types -/

structure Inserting (w₀ w : Consolidator) (zs : List (EventType × List (ℕ × TaggedEvent))) :
    Prop where
  ticks : w.mergedTicks = insertAll w₀.mergedTicks (zs.flatMap Prod.snd)
  baseBuffer : w.baseBuffer = w₀.baseBuffer
  targetBuffer : w.targetBuffer = w₀.targetBuffer

lemma Inserting.step {w₀ w w' : Consolidator} {zs : List (EventType × List (ℕ × TaggedEvent))}
    {z : EventType × List (ℕ × TaggedEvent)} (h : Inserting w₀ w zs) (h' : Inserting w w' [z]) :
    Inserting w₀ w' (zs ++ [z]) where
  ticks := by
    rw [h'.ticks, h.ticks, ← insertAll_append, List.flatMap_append]
  baseBuffer := h'.baseBuffer.trans h.baseBuffer
  targetBuffer := h'.targetBuffer.trans h.targetBuffer

lemma inserting_foldlM {f : Consolidator → EventType → Except MergeError Consolidator}
    {w₀ w w' : Consolidator} {Spec : EventType → List (ℕ × TaggedEvent) → Prop}
    {types : List EventType}
    (hf : ∀ type ∈ types, ∀ w w' zs, Inserting w₀ w zs → f w type = .ok w' →
      ∃ ins, Spec type ins ∧ Inserting w w' [(type, ins)])
    {zs : List (EventType × List (ℕ × TaggedEvent))} (h : Inserting w₀ w zs)
    (hok : types.foldlM f w = .ok w') :
    ∃ zs', zs'.map Prod.fst = types ∧ (∀ z ∈ zs', Spec z.1 z.2) ∧ Inserting w₀ w' (zs ++ zs') := by
  induction types generalizing w zs with
  | nil =>
    cases hok
    exact ⟨[], rfl, nofun, by rwa [List.append_nil]⟩
  | cons type types ih =>
    rw [List.foldlM_cons] at hok
    obtain ⟨w₁, h₁, hok⟩ := bind_eq_ok.1 hok
    obtain ⟨ins, hspec, hins⟩ := hf type List.mem_cons_self w w₁ zs h h₁
    obtain ⟨zs', hfst, hall, hrest⟩ := ih (fun t ht => hf t (List.mem_cons_of_mem _ ht))
      (h.step hins) hok
    refine ⟨(type, ins) :: zs', by rw [List.map_cons, hfst], fun z hz => ?_, ?_⟩
    · rcases List.mem_cons.mp hz with rfl | hz
      · exact hspec
      · exact hall z hz
    · rwa [List.append_assoc] at hrest

section Reconcile

variable {defs : Definitions} {ctx : MergeContext} {maps : Mappings} {stage : Lifecycle.Stage}

def StreamInserts (stage : Lifecycle.Stage) (w : Consolidator) (type : EventType)
    (ins : List (ℕ × TaggedEvent)) : Prop :=
  match streamEventConfigForStage stage type with
  | none => ins = []
  | some config => ∃ rs, deduplicateStreamEvents config (w.baseBuffer.group type)
      (w.targetBuffer.group type) = .ok rs ∧
    ins = rs.map fun r => (r.winner.mergedTick, r.winner.tagged)

/-- The buffered events of an attack-mapped type that refer to the attack on a merged tick. -/
def bufferedGroup (defs : Definitions) (maps : Mappings) (w : Consolidator) (type : EventType) :
    ℕ → List TaggedEvent :=
  attackGroup defs w.mergedTicks maps (w.baseBuffer.group type) (w.targetBuffer.group type)

def AttackInserts (defs : Definitions) (maps : Mappings) (w : Consolidator) (type : EventType)
    (ins : List (ℕ × TaggedEvent)) : Prop :=
  ∃ groups, Grouped groups (bufferedGroup defs maps w type) ∧
    List.Forall₂ (fun x e => e.1 = x.1 + 1 ∧ e.2 ∈ x.2.map AttackMappedCandidate.tagged)
      groups.entries ins

lemma reconcileStream_ok {w₀ w w' : Consolidator} {type : EventType}
    {zs : List (EventType × List (ℕ × TaggedEvent))} (hw : Inserting w₀ w zs)
    (h : reconcileStream stage w type = .ok w') :
    ∃ ins, StreamInserts stage w₀ type ins ∧ Inserting w w' [(type, ins)] := by
  unfold reconcileStream at h
  unfold StreamInserts
  cases hc : streamEventConfigForStage stage type with
  | none =>
    rw [hc] at h
    cases h
    exact ⟨[], rfl, rfl, rfl, rfl⟩
  | some config =>
    rw [hc] at h
    obtain ⟨rs, hrs, h⟩ := bind_eq_ok.1 h
    cases h
    rw [hw.baseBuffer, hw.targetBuffer] at hrs
    refine ⟨_, ⟨rs, hrs, rfl⟩, ?_, rfl, rfl⟩
    rw [List.flatMap_singleton]

lemma actors_insertAll (ticks : TickStateArray) (es : List (ℕ × TaggedEvent)) (m : ℕ) :
    ((insertAll ticks es)[m]?.join).map TickState.actors =
      (ticks[m]?.join).map TickState.actors := by
  rw [join_insertAll, Option.map_map]
  rfl

lemma attackGroup_congr {ticks ticks' : TickStateArray}
    (h : ∀ m : ℕ, (ticks[m]?.join).map TickState.actors = (ticks'[m]?.join).map TickState.actors)
    (base target : List BufferedEvent) :
    attackGroup defs ticks maps base target = attackGroup defs ticks' maps base target := by
  funext g
  unfold attackGroup
  simp only [attackOf_congr h]

lemma reconcileAttackMapped_ok {w₀ w w' : Consolidator} {type : EventType}
    {zs : List (EventType × List (ℕ × TaggedEvent))} (hw : Inserting w₀ w zs)
    (h : reconcileAttackMapped defs ctx maps w type = .ok w') :
    ∃ ins, AttackInserts defs maps w₀ type ins ∧ Inserting w w' [(type, ins)] := by
  unfold reconcileAttackMapped at h
  obtain ⟨grouped, hgroup, h⟩ := bind_eq_ok.1 h
  obtain ⟨⟨ins, flags⟩, hres, h⟩ := bind_eq_ok.1 h
  cases h
  have hg := grouped_groupAttackMappedEvents hgroup
  have hres := forall₂_resolveAttackMappedEvents hg.nonempty hres
  have hactors : ∀ m : ℕ, (w.mergedTicks[m]?.join).map TickState.actors =
      (w₀.mergedTicks[m]?.join).map TickState.actors := by
    intro m
    rw [hw.ticks, actors_insertAll]
  rw [attackGroup_congr hactors, hw.baseBuffer, hw.targetBuffer] at hg
  refine ⟨ins, ⟨grouped.groups, hg, hres⟩, ?_, rfl, rfl⟩
  rw [List.flatMap_singleton]

lemma reconcileStreams_ok {w w' : Consolidator} (h : reconcileStreams defs ctx maps w = .ok w') :
    ∃ zs, zs.map Prod.fst = EventType.bufferedTypes ∧ Inserting w w' zs ∧
      (∀ z ∈ zs, z.1 ∈ EventType.streamTypes → StreamInserts ctx.stage w z.1 z.2) ∧
      ∀ z ∈ zs, z.1 ∈ EventType.attackMappedTypes → AttackInserts defs maps w z.1 z.2 := by
  have hdisj : ∀ type ∈ EventType.streamTypes, type ∉ EventType.attackMappedTypes := by decide
  unfold reconcileStreams at h
  obtain ⟨w₁, h₁, h⟩ := bind_eq_ok.1 h
  have hw : Inserting w w [] := ⟨rfl, rfl, rfl⟩
  obtain ⟨zs₁, hfst₁, hall₁, hins₁⟩ := inserting_foldlM
    (fun type _ _ _ _ hw h => reconcileStream_ok hw h) hw h₁
  obtain ⟨zs₂, hfst₂, hall₂, hins₂⟩ := inserting_foldlM
    (fun type _ _ _ _ hw h => reconcileAttackMapped_ok hw h) hins₁ h
  have hmem₁ : ∀ z ∈ zs₁, z.1 ∈ EventType.streamTypes := fun z hz =>
    hfst₁ ▸ List.mem_map_of_mem hz
  have hmem₂ : ∀ z ∈ zs₂, z.1 ∈ EventType.attackMappedTypes := fun z hz =>
    hfst₂ ▸ List.mem_map_of_mem hz
  refine ⟨zs₁ ++ zs₂, by rw [List.map_append, hfst₁, hfst₂]; rfl, hins₂, fun z hz ht => ?_,
    fun z hz ht => ?_⟩
  · rcases List.mem_append.mp hz with hz | hz
    · exact hall₁ z hz
    · exact absurd (hmem₂ z hz) (hdisj _ ht)
  · rcases List.mem_append.mp hz with hz | hz
    · exact absurd ht (hdisj _ (hmem₁ z hz))
    · exact hall₂ z hz

lemma mem_streamInserts {w : Consolidator} {type : EventType} {ins : List (ℕ × TaggedEvent)}
    (h : StreamInserts stage w type ins) {e : ℕ × TaggedEvent} (he : e ∈ ins) :
    ∃ b, (b ∈ w.baseBuffer.group type ∨ b ∈ w.targetBuffer.group type) ∧ b.tagged = e.2 ∧
      b.mergedTick = e.1 := by
  unfold StreamInserts at h
  split at h
  · rw [h] at he
    cases he
  · obtain ⟨rs, hrs, rfl⟩ := h
    obtain ⟨r, hr, rfl⟩ := List.mem_map.mp he
    exact ⟨r.winner, winner_deduplicate hrs hr, rfl, rfl⟩

lemma mem_attackGroup {ticks : TickStateArray} {base target : List BufferedEvent} {g : ℕ}
    {t : TaggedEvent} (h : t ∈ attackGroup defs ticks maps base target g) :
    ∃ b, (b ∈ base ∨ b ∈ target) ∧ b.tagged = t := by
  rcases List.mem_append.mp h with h | h
  · obtain ⟨b, hb, rfl⟩ := List.mem_map.mp h
    exact ⟨b, Or.inl (List.mem_filter.mp hb).1, rfl⟩
  · obtain ⟨b, hb, rfl⟩ := List.mem_map.mp h
    exact ⟨b, Or.inr (List.mem_filter.mp hb).1, rfl⟩

lemma insertedAt_attackInserts {w : Consolidator} {type : EventType} {ins : List (ℕ × TaggedEvent)}
    (h : AttackInserts defs maps w type ins) (m : ℕ) :
    (insertedAt m ins = [] ∧ ∀ g, m = g + 1 → bufferedGroup defs maps w type g = []) ∨
      ∃ g, m = g + 1 ∧ ∃ t ∈ bufferedGroup defs maps w type g, insertedAt m ins = [t] := by
  obtain ⟨groups, hgrouped, hall⟩ := h
  have hentry : ∀ x ∈ groups.entries,
      x.2.map AttackMappedCandidate.tagged = bufferedGroup defs maps w type x.1 := by
    intro x hx
    rw [← hgrouped.tagged, InsertionMap.group, InsertionMap.get_eq_some.mpr hx]
    rfl
  rcases insertedAt_resolved groups.nodup hall m with ⟨hnone, hno⟩ | ⟨x, hx, hm, t, ht, hone⟩
  · refine Or.inl ⟨hnone, fun g hg => ?_⟩
    rw [← hgrouped.tagged, InsertionMap.group]
    cases hget : groups.get g with
    | none => rfl
    | some cs => exact absurd hg (hno (g, cs) (InsertionMap.get_eq_some.mp hget))
  · exact Or.inr ⟨x.1, hm, t, hentry x hx ▸ ht, hone⟩

lemma mem_insertedAt {ins : List (ℕ × TaggedEvent)} {e : ℕ × TaggedEvent} :
    e.2 ∈ insertedAt e.1 ins ↔ e ∈ ins := by
  unfold insertedAt InsertionMap.withKey
  simp only [List.mem_map, List.mem_filter, decide_eq_true_eq]
  constructor
  · rintro ⟨e', ⟨he, h₁⟩, h₂⟩
    rwa [← Prod.ext h₁ h₂]
  · exact fun he => ⟨e, ⟨he, rfl⟩, rfl⟩

lemma mem_attackInserts {w : Consolidator} {type : EventType} {ins : List (ℕ × TaggedEvent)}
    (h : AttackInserts defs maps w type ins) {e : ℕ × TaggedEvent} (he : e ∈ ins) :
    ∃ b, (b ∈ w.baseBuffer.group type ∨ b ∈ w.targetBuffer.group type) ∧ b.tagged = e.2 := by
  rw [← mem_insertedAt] at he
  rcases insertedAt_attackInserts h e.1 with ⟨hnone, -⟩ | ⟨g, -, t, ht, hone⟩
  · rw [hnone] at he
    cases he
  · rw [hone, List.mem_singleton] at he
    exact mem_attackGroup (he ▸ ht)

end Reconcile

/-! ### The events of a timeline -/

def eventsOf (ticks : TickStateArray) (type : EventType) (m : ℕ) : List TaggedEvent :=
  (ticks[m]?.join).elim [] (·.getTaggedEventsByType type)

def placedEvents (mapping : TickMapping) (mergedTickCount : ℕ) (ticks : TickStateArray)
    (type : EventType) : List BufferedEvent :=
  (List.range ticks.length).flatMap fun i =>
    match (mapping.toMerged i).filter (· < mergedTickCount) with
    | some m => bufferedAt type m ((ticks[i]?.join).map (i, ·))
    | none => []

section Placed

lemma perm_of_filter {α κ : Type*} [DecidableEq α] [DecidableEq κ] (key : α → κ) {xs ys : List α}
    (h : ∀ k, xs.filter (key · = k) = ys.filter (key · = k)) : xs.Perm ys := by
  refine List.perm_iff_count.mpr fun a => ?_
  have hcount : ∀ zs : List α, zs.count a = (zs.filter (key · = key a)).count a := by
    intro zs
    rw [List.count_filter]
    exact decide_eq_true rfl
  rw [hcount xs, h, ← hcount]

lemma flatMap_range_single {α : Type*} {f : ℕ → List α} {i n : ℕ} (hf : ∀ j ≠ i, f j = []) :
    (List.range n).flatMap f = if i < n then f i else [] := by
  induction n with
  | zero => rfl
  | succ n ih =>
    rw [List.range_succ, List.flatMap_append, ih, List.flatMap_singleton]
    by_cases hi : i = n
    · subst hi
      simp
    · rw [hf n (Ne.symm hi), List.append_nil]
      exact if_congr (by omega) rfl rfl

lemma filter_bufferedAt (type : EventType) (m m' : ℕ) (x : Option (ℕ × TickState)) :
    (bufferedAt type m x).filter (·.mergedTick = m') =
      if m = m' then bufferedAt type m x else [] := by
  split_ifs with h
  · refine List.filter_eq_self.mpr fun e he => ?_
    rw [(mem_bufferedAt he).1, h]
    exact decide_eq_true rfl
  · refine List.filter_eq_nil_iff.mpr fun e he => ?_
    rw [(mem_bufferedAt he).1]
    simpa using h

variable {mapping : TickMapping} {count : ℕ} {ticks : TickStateArray} {type : EventType}

lemma filter_placedEvents (h : ∀ i m, mapping.toMerged i = some m ↔ mapping.toClient m = some i)
    (m : ℕ) : (placedEvents mapping count ticks type).filter (·.mergedTick = m) =
      if m < count then bufferedAt type m (tickAt mapping ticks m) else [] := by
  unfold placedEvents
  rw [List.filter_flatMap]
  have hone : ∀ i, (match (mapping.toMerged i).filter (· < count) with
      | some m' => bufferedAt type m' ((ticks[i]?.join).map (i, ·))
      | none => []).filter (·.mergedTick = m) =
      if m < count ∧ mapping.toMerged i = some m then
        bufferedAt type m ((ticks[i]?.join).map (i, ·)) else [] := by
    intro i
    cases hm : mapping.toMerged i with
    | none => simp
    | some m' =>
      by_cases hlt : m' < count
      · simp only [Option.filter_some, hlt, decide_true, if_true, filter_bufferedAt]
        by_cases hmm : m' = m
        · subst hmm
          simp [hlt]
        · simp [hmm]
      · simp only [Option.filter_some, hlt, decide_false, Bool.false_eq_true, if_false]
        by_cases hmm : m' = m
        · subst hmm
          simp [hlt]
        · simp [hmm]
  simp only [hone]
  cases hi : mapping.toClient m with
  | none =>
    have hno : ∀ i, mapping.toMerged i ≠ some m := fun i hm => by simp [(h i m).mp hm] at hi
    simp [hno, tickAt, hi, bufferedAt]
  | some i₀ =>
    have hother : ∀ i ≠ i₀, ¬(m < count ∧ mapping.toMerged i = some m) := by
      rintro i hne ⟨-, hm⟩
      rw [(h i m).mp hm] at hi
      exact hne (Option.some.inj hi)
    rw [flatMap_range_single fun i hne => if_neg (hother i hne)]
    simp only [(h i₀ m).mpr hi, and_true, tickAt, hi, Option.bind_some]
    by_cases hlt : i₀ < ticks.length
    · rw [if_pos hlt]
    · rw [if_neg hlt, List.getElem?_eq_none (by omega)]
      simp [bufferedAt]

end Placed

section Buffers

variable {maps : Mappings} {baseTicks targetTicks : TickStateArray} {w : Consolidator}
  {type : EventType}

lemma perm_baseBuffer (hfits : maps.Fits)
    (h : Placing maps.mergedTickCount w (baseAt maps baseTicks) (targetAt maps targetTicks))
    (htype : type ∈ EventType.bufferedTypes) :
    (w.baseBuffer.group type).Perm
      (placedEvents maps.base maps.mergedTickCount baseTicks type) := by
  refine perm_of_filter BufferedEvent.mergedTick fun m => ?_
  rw [h.baseBuffer type htype, filter_placedEvents hfits.invertible.1]
  unfold baseAt
  split_ifs with hm
  · rfl
  · cases hat : tickAt maps.base baseTicks m with
    | none => rfl
    | some x =>
      obtain ⟨hc, -⟩ := tickAt_eq_some.1 hat
      exact absurd (hfits.base_lt x.1 m ((hfits.invertible.1 x.1 m).mpr hc)) hm

lemma perm_targetBuffer (hfits : maps.Fits)
    (h : Placing maps.mergedTickCount w (baseAt maps baseTicks) (targetAt maps targetTicks))
    (htype : type ∈ EventType.bufferedTypes) :
    (w.targetBuffer.group type).Perm
      (placedEvents maps.target maps.mergedTickCount targetTicks type) := by
  refine perm_of_filter BufferedEvent.mergedTick fun m => ?_
  rw [h.targetBuffer type htype, filter_placedEvents hfits.invertible.2]
  unfold targetAt
  split_ifs with hm
  · rfl
  · rfl

lemma placed_of_buffered
    (h : Placing maps.mergedTickCount w (baseAt maps baseTicks) (targetAt maps targetTicks))
    (htype : type ∈ EventType.bufferedTypes) {b : BufferedEvent}
    (hb : b ∈ w.baseBuffer.group type ∨ b ∈ w.targetBuffer.group type) :
    b.tagged.event.type = type ∧ ∃ state, b.tagged ∈ state.events ∧
      (baseAt maps baseTicks b.mergedTick = some (b.clientTick, state) ∨
        targetAt maps targetTicks b.mergedTick = some (b.clientTick, state)) := by
  have hself : ∀ {xs : List BufferedEvent}, b ∈ xs → b ∈ xs.filter (·.mergedTick = b.mergedTick) :=
    fun hmem => List.mem_filter.mpr ⟨hmem, decide_eq_true rfl⟩
  rcases hb with hb | hb
  · have hmem := hself hb
    rw [h.baseBuffer type htype] at hmem
    obtain ⟨-, ht, state, hat, he⟩ := mem_bufferedAt hmem
    exact ⟨ht, state, he, Or.inl hat⟩
  · have hmem := hself hb
    rw [h.targetBuffer type htype] at hmem
    obtain ⟨-, ht, state, hat, he⟩ := mem_bufferedAt hmem
    exact ⟨ht, state, he, Or.inr hat⟩

lemma Placing.isSome (hfits : maps.Fits)
    (h : Placing maps.mergedTickCount w (baseAt maps baseTicks) (targetAt maps targetTicks))
    {m : ℕ} {x : ℕ × TickState}
    (hx : baseAt maps baseTicks m = some x ∨ targetAt maps targetTicks m = some x) :
    (w.mergedTicks[m]?.join).isSome := by
  have hlt : m < maps.mergedTickCount := by
    rcases hx with hx | hx
    · obtain ⟨hc, -⟩ := tickAt_eq_some.1 hx
      exact hfits.base_lt x.1 m ((hfits.invertible.1 x.1 m).mpr hc)
    · by_contra hm
      unfold targetAt at hx
      rw [if_neg hm] at hx
      cases hx
  rw [← Option.isSome_map (f := TickState.events), h.events m hlt]
  rcases hx with hx | hx
  · rw [hx]
    rfl
  · cases hb : baseAt maps baseTicks m with
    | none =>
      rw [hx]
      rfl
    | some y => rfl

lemma Placing.events_kept
    (h : Placing maps.mergedTickCount w (baseAt maps baseTicks) (targetAt maps targetTicks))
    {m : ℕ} {state : TickState} (hstate : w.mergedTicks[m]?.join = some state) :
    ∃ x, (baseAt maps baseTicks m = some x ∨ targetAt maps targetTicks m = some x) ∧
      state.events = TickState.kept x.2 := by
  have hlt : m < maps.mergedTickCount := by
    by_contra hge
    rw [← h.length, not_lt] at hge
    rw [List.getElem?_eq_none hge] at hstate
    cases hstate
  have hev := h.events m hlt
  rw [hstate] at hev
  cases hb : baseAt maps baseTicks m with
  | some x =>
    rw [hb] at hev
    exact ⟨x, Or.inl rfl, Option.some.inj hev⟩
  | none =>
    rw [hb] at hev
    obtain ⟨x, hx, hxe⟩ := Option.map_eq_some_iff.mp hev.symm
    exact ⟨x, Or.inr hx, hxe.symm⟩

lemma recorded_of_at {m : ℕ} {x : ℕ × TickState}
    (hx : baseAt maps baseTicks m = some x ∨ targetAt maps targetTicks m = some x) :
    baseTicks[x.1]?.join = some x.2 ∨ targetTicks[x.1]?.join = some x.2 := by
  rcases hx with hx | hx
  · exact Or.inl (tickAt_eq_some.1 hx).2
  · unfold targetAt at hx
    split_ifs at hx
    exact Or.inr (tickAt_eq_some.1 hx).2

end Buffers

/-! ### Consolidation -/

lemma eventsOf_insertAll (ticks : TickStateArray) (es : List (ℕ × TaggedEvent)) (type : EventType)
    (m : ℕ) : eventsOf (insertAll ticks es) type m = eventsOf ticks type m ++
      if (ticks[m]?.join).isSome then (insertedAt m es).filter (·.event.type = type) else [] := by
  unfold eventsOf
  rw [join_insertAll]
  cases ticks[m]?.join with
  | none => rfl
  | some state => simp [TickState.getTaggedEventsByType, TickState.addTaggedEvents]

lemma filter_insertedAt {zs : List (EventType × List (ℕ × TaggedEvent))}
    (hnd : (zs.map Prod.fst).Nodup) (htypes : ∀ z ∈ zs, ∀ e ∈ z.2, e.2.event.type = z.1)
    {type : EventType} {ins : List (ℕ × TaggedEvent)} (h : (type, ins) ∈ zs) (m : ℕ) :
    (insertedAt m (zs.flatMap Prod.snd)).filter (·.event.type = type) = insertedAt m ins := by
  have hkey := InsertionMap.filter_flatMap_key hnd htypes h
  unfold insertedAt InsertionMap.withKey
  rw [List.filter_map, List.filter_filter, ← hkey, List.filter_filter]
  simp only [Function.comp_def, Bool.and_comm]

lemma map_content_eventsOf (ticks : TickStateArray) (type : EventType) (m : ℕ) :
    (eventsOf ticks type m).map TaggedEvent.content =
      (((ticks[m]?.join).map (·.events.map TaggedEvent.content)).getD []).filter
        (·.event.type = type) := by
  unfold eventsOf
  cases ticks[m]?.join with
  | none => rfl
  | some state =>
    simp only [Option.elim_some, Option.map_some, Option.getD_some, TickState.getTaggedEventsByType,
      List.filter_map]
    rfl

lemma length_consolidate {defs : Definitions} {ctx : MergeContext}
    {baseTicks targetTicks : TickStateArray} {entry : MappingChainEntry}
    {result : ConsolidationResult} (hentry : ctx.mapping.inFlight = some entry)
    (hfits : entry.mappings.Fits) (h : consolidate defs ctx baseTicks targetTicks = .ok result) :
    result.ticks.length = entry.mappings.mergedTickCount := by
  unfold consolidate at h
  rw [hentry] at h
  obtain ⟨_, he, h⟩ := bind_eq_ok.1 h
  cases he
  obtain ⟨w', hw', h⟩ := bind_eq_ok.1 h
  obtain ⟨⟨ticks, flags⟩, hticks, h⟩ := bind_eq_ok.1 h
  cases h
  obtain ⟨zs, -, hins, -⟩ := reconcileStreams_ok hw'
  rw [length_remapToMergedSpace hticks, hins.ticks, length_insertAll]
  exact (placing_consolidateTicks hfits).length

structure Consolidated (defs : Definitions) (ctx : MergeContext) (maps : Mappings)
    (baseTicks targetTicks ticks : TickStateArray) (w w' : Consolidator)
    (zs : List (EventType × List (ℕ × TaggedEvent))) : Prop where
  placing : Placing maps.mergedTickCount w (baseAt maps baseTicks) (targetAt maps targetTicks)
  types : zs.map Prod.fst = EventType.bufferedTypes
  inserting : Inserting w w' zs
  stream : ∀ z ∈ zs, z.1 ∈ EventType.streamTypes → StreamInserts ctx.stage w z.1 z.2
  attackMapped : ∀ z ∈ zs, z.1 ∈ EventType.attackMappedTypes → AttackInserts defs maps w z.1 z.2
  actors : ∀ m : ℕ, (ticks[m]?.join).map TickState.actors =
    (w'.mergedTicks[m]?.join).map TickState.actors
  content : ∀ m : ℕ, (ticks[m]?.join).map (·.events.map TaggedEvent.content) =
    (w'.mergedTicks[m]?.join).map (·.events.map TaggedEvent.content)

lemma consolidated_consolidate {defs : Definitions} {ctx : MergeContext}
    {baseTicks targetTicks : TickStateArray} {entry : MappingChainEntry}
    {result : ConsolidationResult} (hentry : ctx.mapping.inFlight = some entry)
    (hfits : entry.mappings.Fits) (h : consolidate defs ctx baseTicks targetTicks = .ok result) :
    ∃ w w' zs, Consolidated defs ctx entry.mappings baseTicks targetTicks result.ticks w w' zs := by
  unfold consolidate at h
  rw [hentry] at h
  obtain ⟨_, he, h⟩ := bind_eq_ok.1 h
  cases he
  obtain ⟨w', hw', h⟩ := bind_eq_ok.1 h
  obtain ⟨⟨ticks, flags⟩, hticks, h⟩ := bind_eq_ok.1 h
  cases h
  obtain ⟨zs, htypes, hins, hstream, hattack⟩ := reconcileStreams_ok hw'
  have hremap := remapToMergedSpace_ok hticks
  exact ⟨_, w', zs, placing_consolidateTicks hfits, htypes, hins, hstream, hattack,
    fun m => (hremap m).1, fun m => (hremap m).2⟩

section Consolidated

variable {defs : Definitions} {ctx : MergeContext} {maps : Mappings}
  {baseTicks targetTicks ticks : TickStateArray} {w w' : Consolidator}
  {zs : List (EventType × List (ℕ × TaggedEvent))}
  (h : Consolidated defs ctx maps baseTicks targetTicks ticks w w' zs)
include h

namespace Consolidated

lemma mem_inserted {z : EventType × List (ℕ × TaggedEvent)} (hz : z ∈ zs) {e : ℕ × TaggedEvent}
    (he : e ∈ z.2) : ∃ b, (b ∈ w.baseBuffer.group z.1 ∨ b ∈ w.targetBuffer.group z.1) ∧
      b.tagged = e.2 := by
  have hmem : z.1 ∈ EventType.bufferedTypes := h.types ▸ List.mem_map_of_mem hz
  rcases List.mem_append.mp hmem with hstream | hattack
  · obtain ⟨b, hb, hbe, -⟩ := mem_streamInserts (h.stream z hz hstream) he
    exact ⟨b, hb, hbe⟩
  · exact mem_attackInserts (h.attackMapped z hz hattack) he

lemma isSome_ticks (m : ℕ) : (ticks[m]?.join).isSome = (w.mergedTicks[m]?.join).isSome := by
  rw [← Option.isSome_map (f := TickState.actors), h.actors, h.inserting.ticks, actors_insertAll,
    Option.isSome_map]

lemma eventsOf_placed {type : EventType} (htype : type ∈ EventType.bufferedTypes) (m : ℕ) :
    eventsOf w.mergedTicks type m = [] := by
  unfold eventsOf
  cases hm : w.mergedTicks[m]?.join with
  | none => rfl
  | some state =>
    obtain ⟨x, -, hevents⟩ := h.placing.events_kept hm
    refine List.filter_eq_nil_iff.mpr fun t ht hty => ?_
    rw [hevents] at ht
    exact (TickState.mem_kept ht).2 (of_decide_eq_true hty ▸ htype)

lemma content_eventsOf {type : EventType} {ins : List (ℕ × TaggedEvent)} (hz : (type, ins) ∈ zs)
    (m : ℕ) : (eventsOf ticks type m).map TaggedEvent.content =
      if (w.mergedTicks[m]?.join).isSome then (insertedAt m ins).map TaggedEvent.content
      else [] := by
  have htype : type ∈ EventType.bufferedTypes := h.types ▸ List.mem_map_of_mem hz
  have htypes : ∀ z ∈ zs, ∀ e ∈ z.2, e.2.event.type = z.1 := by
    intro z hz e he
    obtain ⟨b, hb, hbe⟩ := h.mem_inserted hz he
    exact hbe ▸ (placed_of_buffered h.placing (h.types ▸ List.mem_map_of_mem hz) hb).1
  rw [map_content_eventsOf, h.content, ← map_content_eventsOf, h.inserting.ticks,
    eventsOf_insertAll, h.eventsOf_placed htype, List.nil_append,
    filter_insertedAt (h.types ▸ nodup_bufferedTypes) htypes hz]
  split_ifs <;> rfl

lemma exists_inserted {type : EventType} (htype : type ∈ EventType.bufferedTypes) :
    ∃ ins, (type, ins) ∈ zs := by
  rw [← h.types] at htype
  obtain ⟨⟨type', ins⟩, hz, rfl⟩ := List.mem_map.mp htype
  exact ⟨ins, hz⟩

/-- **Stream events** of a temporal configuration are inserted once, or paired with one that
is. -/
lemma reconciled (hfits : maps.Fits) {type : EventType} (htype : type ∈ EventType.streamTypes)
    {config : StreamEventConfig} {window : ℕ}
    (hconfig : streamEventConfigForStage ctx.stage type = some config)
    (hwindow : config.temporalWindow = some window) :
    ∃ rs, Reconciled config window (placedEvents maps.base maps.mergedTickCount baseTicks type)
        (placedEvents maps.target maps.mergedTickCount targetTicks type) rs ∧
      ∀ m, (eventsOf ticks type m).map TaggedEvent.content =
        (rs.filter (·.winner.mergedTick = m)).map (·.winner.tagged.content) := by
  have hbuffered : type ∈ EventType.bufferedTypes := List.mem_append_left _ htype
  obtain ⟨ins, hz⟩ := h.exists_inserted hbuffered
  have hins := h.stream _ hz htype
  unfold StreamInserts at hins
  rw [hconfig] at hins
  obtain ⟨rs, hrs, rfl⟩ := hins
  have hrec := reconciled_deduplicate hwindow hrs
  refine ⟨rs, ⟨hrec.base.trans (perm_baseBuffer hfits h.placing hbuffered),
    hrec.target.trans (perm_targetBuffer hfits h.placing hbuffered), hrec.paired⟩, fun m => ?_⟩
  rw [h.content_eventsOf hz]
  have hat : insertedAt m (rs.map fun r => (r.winner.mergedTick, r.winner.tagged)) =
      (rs.filter (·.winner.mergedTick = m)).map (·.winner.tagged) := by
    unfold insertedAt InsertionMap.withKey
    rw [List.filter_map, List.map_map]
    rfl
  rw [hat, List.map_map]
  split_ifs with hm
  · rfl
  · have hnone : rs.filter (·.winner.mergedTick = m) = [] := by
      refine List.filter_eq_nil_iff.mpr fun r hr hrm => hm ?_
      rw [← of_decide_eq_true hrm]
      have hb := winner_deduplicate hrs hr
      obtain ⟨-, state, -, hat⟩ := placed_of_buffered h.placing hbuffered hb
      exact h.placing.isSome hfits hat
    rw [hnone]
    rfl

lemma mem_attackGroup_placed (hfits : maps.Fits) {type : EventType}
    (htype : type ∈ EventType.attackMappedTypes) (g : ℕ) (t : TaggedEvent) :
    t ∈ bufferedGroup defs maps w type g ↔ t ∈ attackGroup defs ticks maps
      (placedEvents maps.base maps.mergedTickCount baseTicks type)
      (placedEvents maps.target maps.mergedTickCount targetTicks type) g := by
  have hbuffered : type ∈ EventType.bufferedTypes := List.mem_append_right _ htype
  have hactors : ∀ m : ℕ, (w.mergedTicks[m]?.join).map TickState.actors =
      (ticks[m]?.join).map TickState.actors := by
    intro m
    rw [h.actors, h.inserting.ticks, actors_insertAll]
  unfold bufferedGroup
  rw [attackGroup_congr hactors]
  unfold attackGroup
  simp only [List.mem_append, List.mem_map, List.mem_filter,
    (perm_baseBuffer hfits h.placing hbuffered).mem_iff,
    (perm_targetBuffer hfits h.placing hbuffered).mem_iff]

/-- **Attack-mapped events**: a group inserts one of its events on the next tick, if that has
data, and every event comes from such a group. -/
lemma attacks (hfits : maps.Fits) {type : EventType}
    (htype : type ∈ EventType.attackMappedTypes) :
    let group := attackGroup defs ticks maps
      (placedEvents maps.base maps.mergedTickCount baseTicks type)
      (placedEvents maps.target maps.mergedTickCount targetTicks type)
    (∀ g, group g ≠ [] → (ticks[g + 1]?.join).isSome →
      ∃ t ∈ group g, (eventsOf ticks type (g + 1)).map TaggedEvent.content = [t.content]) ∧
    ∀ m, eventsOf ticks type m ≠ [] → ∃ g, m = g + 1 ∧ group g ≠ [] := by
  intro group
  obtain ⟨ins, hz⟩ := h.exists_inserted (List.mem_append_right _ htype)
  have hins := h.attackMapped _ hz htype
  have hmem := h.mem_attackGroup_placed hfits htype
  refine ⟨fun g hg hnext => ?_, fun m hm => ?_⟩
  · rw [h.content_eventsOf hz, if_pos (h.isSome_ticks (g + 1) ▸ hnext)]
    rcases insertedAt_attackInserts hins (g + 1) with ⟨-, hno⟩ | ⟨g', hg', t, ht, hone⟩
    · obtain ⟨t, ht⟩ := List.exists_mem_of_ne_nil _ hg
      have ht' := (hmem g t).mpr ht
      rw [hno g rfl] at ht'
      cases ht'
    · cases hg'
      exact ⟨t, (hmem g t).mp ht, by rw [hone]; rfl⟩
  · have hev := h.content_eventsOf hz m
    rcases insertedAt_attackInserts hins m with ⟨hnone, -⟩ | ⟨g, hg, t, ht, -⟩
    · rw [hnone, List.map_nil, ite_self, List.map_eq_nil_iff] at hev
      exact absurd hev hm
    · exact ⟨g, hg, List.ne_nil_of_mem ((hmem g t).mp ht)⟩

lemma recorded {m : ℕ} {state : TickState} (hstate : ticks[m]?.join = some state)
    {t : TaggedEvent} (ht : t ∈ state.events) :
    ∃ (i : ℕ) (state' : TickState) (t' : TaggedEvent),
      (baseTicks[i]?.join = some state' ∨ targetTicks[i]?.join = some state') ∧
        t' ∈ state'.events ∧ t.content = t'.content := by
  have hcontent := h.content m
  rw [hstate, h.inserting.ticks, join_insertAll] at hcontent
  cases hw : w.mergedTicks[m]?.join with
  | none =>
    rw [hw] at hcontent
    cases hcontent
  | some placed =>
    rw [hw] at hcontent
    have hmem : t.content ∈ state.events.map TaggedEvent.content := List.mem_map_of_mem ht
    rw [show state.events.map TaggedEvent.content = _ from Option.some.inj hcontent] at hmem
    obtain ⟨t', ht', heq⟩ := List.mem_map.mp hmem
    rcases List.mem_append.mp ht' with ht' | ht'
    · obtain ⟨x, hx, hevents⟩ := h.placing.events_kept hw
      rw [hevents] at ht'
      exact ⟨x.1, x.2, t', recorded_of_at hx, (TickState.mem_kept ht').1, heq.symm⟩
    · obtain ⟨z, hz, he⟩ := List.mem_flatMap.mp (mem_insertedAt (e := (m, t')) |>.mp ht')
      obtain ⟨b, hb, hbe⟩ := h.mem_inserted hz he
      obtain rfl : b.tagged = t' := hbe
      obtain ⟨-, state', hmem, hat⟩ :=
        placed_of_buffered h.placing (h.types ▸ List.mem_map_of_mem hz) hb
      exact ⟨b.clientTick, state', b.tagged, recorded_of_at hat, hmem, heq.symm⟩

end Consolidated

end Consolidated

/-- **Consolidation** inserts each placed event of a temporal configuration once, alone or for a
pair within the window, and one event for each group of attack-mapped events that has a next tick;
every event of the merged timeline is a copy of a recorded one. -/
theorem consolidate_exact {defs : Definitions} {ctx : MergeContext}
    {baseTicks targetTicks : TickStateArray} {entry : MappingChainEntry}
    {result : ConsolidationResult} (hentry : ctx.mapping.inFlight = some entry)
    (hfits : entry.mappings.Fits) (h : consolidate defs ctx baseTicks targetTicks = .ok result) :
    let maps := entry.mappings
    let base := placedEvents maps.base maps.mergedTickCount baseTicks
    let target := placedEvents maps.target maps.mergedTickCount targetTicks
    let group := fun type => attackGroup defs result.ticks maps (base type) (target type)
    (∀ type ∈ EventType.streamTypes, ∀ config window,
      streamEventConfigForStage ctx.stage type = some config →
      config.temporalWindow = some window →
      ∃ rs, Reconciled config window (base type) (target type) rs ∧
        ∀ m, (eventsOf result.ticks type m).map TaggedEvent.content =
          (rs.filter (·.winner.mergedTick = m)).map (·.winner.tagged.content)) ∧
    (∀ type ∈ EventType.attackMappedTypes,
      (∀ g, group type g ≠ [] → (result.ticks[g + 1]?.join).isSome →
        ∃ t ∈ group type g,
          (eventsOf result.ticks type (g + 1)).map TaggedEvent.content = [t.content]) ∧
      ∀ m, eventsOf result.ticks type m ≠ [] → ∃ g, m = g + 1 ∧ group type g ≠ []) ∧
    ∀ (m : ℕ) (state : TickState), result.ticks[m]?.join = some state → ∀ t ∈ state.events,
      ∃ (i : ℕ) (state' : TickState) (t' : TaggedEvent),
        (baseTicks[i]?.join = some state' ∨ targetTicks[i]?.join = some state') ∧
          t' ∈ state'.events ∧ t.content = t'.content := by
  obtain ⟨w, w', zs, hc⟩ := consolidated_consolidate hentry hfits h
  exact ⟨fun type htype config window => hc.reconciled hfits htype,
    fun type htype => hc.attacks hfits htype,
    fun m state hstate t ht => hc.recorded hstate ht⟩

/-! ### A step that loses events -/

namespace Gap

def defs : Definitions where
  blowpipe := 1
  blowpipeSpec := 2
  zcbAuto := 3
  zcbSpec := 4
  dawnSpec := 5
  tobSoteBall := 6
  tobSoteDeathBall := 7
  tobVerzikP2Bounce := 8
  tobVerzikP3Auto := 9
  attackCooldown _ := some 4
  targetGraphics _ := none

def tick (events : List TaggedEvent) (attack : Option NpcAttacked) (clientId : ClientId) :
    Option TickState :=
  some (.new 0 events ∅
    ((∅ : InsertionMap ℤ NpcState).set 7
      { id := 10833, position := ⟨0, 0⟩, hitpoints := ⟨2000, 2000⟩, attack := attack,
        sourceClientId := clientId }) ∅)

def death (clientId : ClientId) : TaggedEvent :=
  { event := { type := .npcDeath, tick := 0, npc := some { id := 8384, roomId := 40 } },
    source := clientId }

/-- An attack that bounced nobody, as clients used to report it on the attack's own tick. -/
def bounce (clientId : ClientId) : TaggedEvent :=
  { event := { type := .tobVerzikBounce, tick := 2,
               verzikBounce := some { npcAttackTick := -1, bouncedPlayer := "" } },
    source := clientId }

def attack : NpcAttacked where
  type := 8
  target := none
  sourceClientId := 1

def baseTicks : TickStateArray :=
  [tick [] none 1, tick [] none 1, tick [bounce 1] (some attack) 1]

def targetTicks : TickStateArray := [tick [death 2] none 2, tick [] none 2, tick [] none 2]

def context (mappings : Mappings) : MergeContext where
  stage := .tobVerzik
  clients := ∅
  mapping := (MergeMapping.new 1).begin 2 mappings
  contestedTicks := ∅

/-- The first tick of the target is not aligned. -/
def mappings : Mappings := fromAlignment 3 3 [[.merge 1 1 (4 : ℚ), .merge 2 2 (4 : ℚ)]]

/-- The events of a type in a whole timeline. -/
def eventsIn (type : EventType) (ticks : TickStateArray) : List TaggedEvent :=
  ticks.flatMap fun tick => tick.elim [] (·.getTaggedEventsByType type)

/-- A death on a tick of the target that is not placed is not in the merged timeline, nor is the
bounce of an attack on its last tick, though it is in the group of that attack. -/
theorem events_lost :
    eventsIn .npcDeath targetTicks = [death 2] ∧
    (consolidate defs (context mappings) baseTicks targetTicks).map
      (fun result => eventsIn .npcDeath result.ticks) = .ok [] ∧
    (consolidate defs (context mappings) baseTicks targetTicks).map (fun result =>
      (attackGroup defs result.ticks mappings
        (placedEvents mappings.base mappings.mergedTickCount baseTicks .tobVerzikBounce)
        (placedEvents mappings.target mappings.mergedTickCount targetTicks .tobVerzikBounce) 2,
      eventsIn .tobVerzikBounce result.ticks)) = .ok ([bounce 1], []) := by
  decide +kernel

end Gap

/-- Two clients that saw a death on the same tick. -/
theorem consolidate_exact_paired :
    ∃ result, consolidate Gap.defs (Gap.context (StepMappings.identity 3 3 3).1) Gap.targetTicks
        Gap.targetTicks = .ok result ∧
      ∃ rs, Reconciled ⟨actorIdKey, some 8, some 5⟩ 8
          (placedEvents (TickMapping.identity 3) 3 Gap.targetTicks .npcDeath)
          (placedEvents (TickMapping.identity 3) 3 Gap.targetTicks .npcDeath) rs ∧
        ∀ m, (eventsOf result.ticks .npcDeath m).map TaggedEvent.content =
          (rs.filter (·.winner.mergedTick = m)).map (·.winner.tagged.content) := by
  have hok : (consolidate Gap.defs (Gap.context (StepMappings.identity 3 3 3).1) Gap.targetTicks
      Gap.targetTicks).toOption.isSome = true := by decide +kernel
  cases h : consolidate Gap.defs (Gap.context (StepMappings.identity 3 3 3).1) Gap.targetTicks
      Gap.targetTicks with
  | error e =>
    rw [h] at hok
    cases hok
  | ok result =>
    exact ⟨result, rfl, (consolidate_exact rfl (fits_identity 3 3) h).1 .npcDeath (by decide) _ 8
      rfl rfl⟩

end Blert.Merging

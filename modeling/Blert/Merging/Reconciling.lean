import Blert.Fallible
import Blert.Merging.Consolidator

/-!
What reconciling streams inserts.

The two-pointer walk resolves every event of either side once, alone or in a pair within the
window, and inserts the event or one of the pair. Attack-mapped events are grouped by the tick of
their attack, and each group inserts one of its events on the tick after it.
-/

namespace Blert.Merging

open Fallible

/-! ### Stream events -/

namespace StreamResolution

@[simp] def baseOf : StreamResolution → Option BufferedEvent
  | paired b _ => some b
  | unpairedBase b => some b
  | unpairedTarget _ => none

@[simp] def targetOf : StreamResolution → Option BufferedEvent
  | paired _ t => some t
  | unpairedBase _ => none
  | unpairedTarget t => some t

lemma winner_cases (r : StreamResolution) :
    r.baseOf = some r.winner ∨ r.targetOf = some r.winner := by
  cases r with
  | paired b t => by_cases h : b.mergedTick ≤ t.mergedTick <;> simp [winner, h]
  | unpairedBase b => exact Or.inl rfl
  | unpairedTarget t => exact Or.inr rfl

end StreamResolution

open StreamResolution

/-- Every event of either side is resolved once, alone or with an event of the same key within
the window. -/
structure Reconciled (config : StreamEventConfig) (window : ℕ) (base target : List BufferedEvent)
    (rs : List StreamResolution) : Prop where
  base : (rs.filterMap baseOf).Perm base
  target : (rs.filterMap targetOf).Perm target
  paired : ∀ b t, .paired b t ∈ rs → tickGap b t ≤ window ∧
    ∃ key, config.identityKey b.tagged.event = .ok key ∧
      config.identityKey t.tagged.event = .ok key

lemma baseOf_matchTemporal (window : ℕ) (base target : List BufferedEvent) :
    (matchTemporal window base target).filterMap baseOf = base := by
  induction base, target using matchTemporal.induct window with
  | case1 b base t target h ih => simp [matchTemporal, h, ih]
  | case2 b base t target h h' ih => simp [matchTemporal, h, h', ih]
  | case3 b base t target h h' ih => simp [matchTemporal, h, h', List.filterMap_cons, ih]
  | case4 b base ih => simp [matchTemporal, ih]
  | case5 t target ih => rw [matchTemporal, List.filterMap_cons, baseOf, ih]
  | case6 => simp [matchTemporal]

lemma targetOf_matchTemporal (window : ℕ) (base target : List BufferedEvent) :
    (matchTemporal window base target).filterMap targetOf = target := by
  induction base, target using matchTemporal.induct window with
  | case1 b base t target h ih => simp [matchTemporal, h, ih]
  | case2 b base t target h h' ih => simp [matchTemporal, h, h', List.filterMap_cons, ih]
  | case3 b base t target h h' ih => simp [matchTemporal, h, h', ih]
  | case4 b base ih => rw [matchTemporal, List.filterMap_cons, targetOf, ih]
  | case5 t target ih => simp [matchTemporal, ih]
  | case6 => simp [matchTemporal]

lemma tickGap_matchTemporal {window : ℕ} {base target : List BufferedEvent} {b t : BufferedEvent}
    (h : .paired b t ∈ matchTemporal window base target) : tickGap b t ≤ window := by
  induction base, target using matchTemporal.induct window with
  | case1 b' base t' target hgap ih =>
    rw [matchTemporal, if_pos hgap] at h
    rcases List.mem_cons.mp h with heq | h
    · cases heq
      exact hgap
    · exact ih h
  | case2 b' base t' target hgap hlt ih =>
    rw [matchTemporal, if_neg hgap, if_pos hlt] at h
    exact ih ((List.mem_cons.mp h).resolve_left nofun)
  | case3 b' base t' target hgap hlt ih =>
    rw [matchTemporal, if_neg hgap, if_neg hlt] at h
    exact ih ((List.mem_cons.mp h).resolve_left nofun)
  | case4 b' base ih =>
    rw [matchTemporal] at h
    exact ih ((List.mem_cons.mp h).resolve_left nofun)
  | case5 t' target ih =>
    rw [matchTemporal] at h
    exact ih ((List.mem_cons.mp h).resolve_left nofun)
  | case6 => simp [matchTemporal] at h

def Among (base target : List BufferedEvent) (rs : List StreamResolution) : Prop :=
  ∀ r ∈ rs, (∀ b, r.baseOf = some b → b ∈ base) ∧ ∀ t, r.targetOf = some t → t ∈ target

lemma among_of_filterMap {base target : List BufferedEvent} {rs : List StreamResolution}
    (hb : rs.filterMap baseOf = base) (ht : rs.filterMap targetOf = target) :
    Among base target rs := fun r hr =>
  ⟨fun _ h => hb ▸ List.mem_filterMap.mpr ⟨r, hr, h⟩,
    fun _ h => ht ▸ List.mem_filterMap.mpr ⟨r, hr, h⟩⟩

lemma among_matchUnique (base target : List BufferedEvent) :
    Among base target (matchUnique base target) := by
  intro r hr
  cases base with
  | nil =>
    cases target with
    | nil => cases hr
    | cons t target =>
      rw [matchUnique, List.mem_singleton] at hr
      subst hr
      simp [baseOf, targetOf]
  | cons b base =>
    cases target with
    | nil =>
      rw [matchUnique, List.mem_singleton] at hr
      subst hr
      simp [baseOf, targetOf]
    | cons t target =>
      rw [matchUnique, List.mem_singleton] at hr
      subst hr
      simp [baseOf, targetOf]

section Deduplicate

variable {config : StreamEventConfig} {base target : List BufferedEvent}
  {rs : List StreamResolution}

lemma keyed_ok {identityKey : IdentityKeyFn} {events : List BufferedEvent}
    {ks : List (String × BufferedEvent)} (h : keyed identityKey events = .ok ks) :
    ks.map Prod.snd = events ∧ ∀ x ∈ ks, identityKey x.2.tagged.event = .ok x.1 := by
  have hall := mapM_ok h
  have hone : ∀ (e : BufferedEvent) (x : String × BufferedEvent),
      (do return (← identityKey e.tagged.event, e)) = Except.ok x →
      x.2 = e ∧ identityKey x.2.tagged.event = .ok x.1 := by
    intro e x hx
    obtain ⟨key, hkey, hx⟩ := bind_eq_ok.1 hx
    cases hx
    exact ⟨rfl, hkey⟩
  clear h
  induction hall with
  | nil => simp
  | @cons e x events ks hx _ ih =>
    obtain ⟨heq, hkey⟩ := hone e x hx
    refine ⟨by rw [List.map_cons, ih.1, heq], fun y hy => ?_⟩
    rcases List.mem_cons.mp hy with rfl | hy
    · exact hkey
    · exact ih.2 y hy

lemma deduplicate_ok (h : deduplicateStreamEvents config base target = .ok rs) :
    ∃ (ks : List String) (bs ts : List (String × BufferedEvent)),
      ks.Nodup ∧ (∀ x ∈ bs, x.1 ∈ ks) ∧ (∀ x ∈ ts, x.1 ∈ ks) ∧
      keyed config.identityKey base = .ok bs ∧ keyed config.identityKey target = .ok ts ∧
      rs = ks.flatMap fun key =>
        match config.temporalWindow with
        | none => matchUnique (sortByTick (InsertionMap.withKey key bs))
            (sortByTick (InsertionMap.withKey key ts))
        | some window => matchTemporal window (sortByTick (InsertionMap.withKey key bs))
            (sortByTick (InsertionMap.withKey key ts)) := by
  unfold deduplicateStreamEvents at h
  obtain ⟨bs, hbs, h⟩ := bind_eq_ok.1 h
  obtain ⟨ts, hts, h⟩ := bind_eq_ok.1 h
  cases h
  set bm := (∅ : InsertionMap String (List BufferedEvent)).pushAll bs
  set tm := (∅ : InsertionMap String (List BufferedEvent)).pushAll ts
  have hbm : ∀ x ∈ bs, x.1 ∈ bm.keys := fun x hx =>
    (InsertionMap.keys_pushAll ∅ bs).mpr (Or.inr ⟨x.2, hx⟩)
  have htm : ∀ x ∈ ts, x.1 ∈ tm.keys := fun x hx =>
    (InsertionMap.keys_pushAll ∅ ts).mpr (Or.inr ⟨x.2, hx⟩)
  refine ⟨bm.keys ++ tm.keys.filter (· ∉ bm.keys), bs, ts, ?_, fun x hx => ?_, fun x hx => ?_,
    hbs, hts, ?_⟩
  · refine List.nodup_append.mpr ⟨bm.nodup, tm.nodup.filter _, fun a ha b hb hab => ?_⟩
    have hnot := (List.mem_filter.mp hb).2
    rw [← hab] at hnot
    simp [ha] at hnot
  · exact List.mem_append_left _ (hbm x hx)
  · by_cases hx' : x.1 ∈ bm.keys
    · exact List.mem_append_left _ hx'
    · exact List.mem_append_right _ (List.mem_filter.mpr ⟨htm x hx, by simpa using hx'⟩)
  · simp only [bm, tm, InsertionMap.group_pushAll]
    rfl

lemma perm_sortByTick (events : List BufferedEvent) : (sortByTick events).Perm events :=
  List.perm_insertionSort _ _

lemma perm_resolved {ks : List String} (hnd : ks.Nodup) {xs : List (String × BufferedEvent)}
    (hmem : ∀ x ∈ xs, x.1 ∈ ks) {f : StreamResolution → Option BufferedEvent}
    {resolve : String → List StreamResolution}
    (h : ∀ key, (resolve key).filterMap f = sortByTick (InsertionMap.withKey key xs)) :
    ((ks.flatMap resolve).filterMap f).Perm (xs.map Prod.snd) := by
  rw [List.filterMap_flatMap]
  refine List.Perm.trans ?_ (InsertionMap.perm_flatMap_withKey hnd hmem)
  refine List.Perm.flatMap_left ks fun key _ => ?_
  rw [h key]
  exact perm_sortByTick _

lemma reconciled_deduplicate {window : ℕ} (hw : config.temporalWindow = some window)
    (h : deduplicateStreamEvents config base target = .ok rs) :
    Reconciled config window base target rs := by
  obtain ⟨ks, bs, ts, hnd, hbs, hts, hkb, hkt, rfl⟩ := deduplicate_ok h
  rw [hw]
  obtain ⟨hbsnd, hbkey⟩ := keyed_ok hkb
  obtain ⟨htsnd, htkey⟩ := keyed_ok hkt
  have hkey : ∀ {key : String} {xs : List (String × BufferedEvent)} {e : BufferedEvent},
      (∀ x ∈ xs, config.identityKey x.2.tagged.event = .ok x.1) →
      e ∈ sortByTick (InsertionMap.withKey key xs) →
      config.identityKey e.tagged.event = .ok key := by
    intro key xs e hxs he
    obtain ⟨x, hx, rfl⟩ := List.mem_map.mp ((perm_sortByTick _).mem_iff.mp he)
    obtain ⟨hx, hk⟩ := List.mem_filter.mp hx
    rw [hxs x hx, of_decide_eq_true hk]
  refine ⟨hbsnd ▸ perm_resolved hnd hbs fun key => baseOf_matchTemporal window _ _,
    htsnd ▸ perm_resolved hnd hts fun key => targetOf_matchTemporal window _ _, fun b t hbt => ?_⟩
  obtain ⟨key, -, hbt⟩ := List.mem_flatMap.mp hbt
  obtain ⟨hb, ht⟩ := among_of_filterMap (baseOf_matchTemporal window _ _)
    (targetOf_matchTemporal window _ _) _ hbt
  exact ⟨tickGap_matchTemporal hbt, key, hkey hbkey (hb b rfl), hkey htkey (ht t rfl)⟩

lemma winner_deduplicate (h : deduplicateStreamEvents config base target = .ok rs)
    {r : StreamResolution} (hr : r ∈ rs) : r.winner ∈ base ∨ r.winner ∈ target := by
  obtain ⟨ks, bs, ts, -, -, -, hkb, hkt, rfl⟩ := deduplicate_ok h
  obtain ⟨key, -, hr⟩ := List.mem_flatMap.mp hr
  have hside : ∀ {xs : List (String × BufferedEvent)} {e : BufferedEvent},
      e ∈ sortByTick (InsertionMap.withKey key xs) → e ∈ xs.map Prod.snd := by
    intro xs e he
    obtain ⟨x, hx, rfl⟩ := List.mem_map.mp ((perm_sortByTick _).mem_iff.mp he)
    exact List.mem_map_of_mem (List.mem_filter.mp hx).1
  have hamong : (∀ b, r.baseOf = some b → b ∈ sortByTick (InsertionMap.withKey key bs)) ∧
      ∀ t, r.targetOf = some t → t ∈ sortByTick (InsertionMap.withKey key ts) := by
    cases hw : config.temporalWindow with
    | none =>
      rw [hw] at hr
      exact among_matchUnique _ _ r hr
    | some window =>
      rw [hw] at hr
      exact among_of_filterMap (baseOf_matchTemporal window _ _)
        (targetOf_matchTemporal window _ _) r hr
  obtain ⟨hb, ht⟩ := hamong
  rw [← (keyed_ok hkb).1, ← (keyed_ok hkt).1]
  rcases r.winner_cases with hwin | hwin
  · exact Or.inl (hside (hb _ hwin))
  · exact Or.inr (hside (ht _ hwin))

end Deduplicate

/-! ### Inserting events -/

def insertedAt (m : ℕ) (es : List (ℕ × TaggedEvent)) : List TaggedEvent := InsertionMap.withKey m es

lemma join_insertTaggedEvent (ticks : TickStateArray) (k m : ℕ) (t : TaggedEvent) :
    (insertTaggedEvent ticks k t)[m]?.join =
      (ticks[m]?.join).map (·.addTaggedEvents (insertedAt m [(k, t)])) := by
  unfold insertTaggedEvent insertedAt
  rw [List.getElem?_modify, InsertionMap.withKey_cons]
  by_cases h : k = m
  · subst h
    cases ticks[k]? with
    | none => rfl
    | some tick => cases tick <;> simp [InsertionMap.withKey]
  · have h' : m ≠ k := fun hmk => h hmk.symm
    cases ticks[m]? with
    | none => rfl
    | some tick => cases tick <;> simp [InsertionMap.withKey, TickState.addTaggedEvents, h, h']

lemma join_insertAll (ticks : TickStateArray) (es : List (ℕ × TaggedEvent)) (m : ℕ) :
    (insertAll ticks es)[m]?.join =
      (ticks[m]?.join).map (·.addTaggedEvents (insertedAt m es)) := by
  induction es generalizing ticks with
  | nil => cases h : ticks[m]?.join <;> simp [insertAll, insertedAt, InsertionMap.withKey,
      TickState.addTaggedEvents, h]
  | cons e es ih =>
    have h := ih (insertTaggedEvent ticks e.1 e.2)
    rw [join_insertTaggedEvent, Option.map_map] at h
    show (insertAll (insertTaggedEvent ticks e.1 e.2) es)[m]?.join = _
    rw [h]
    congr 1
    funext state
    unfold insertedAt
    rw [show (e :: es) = [(e.1, e.2)] ++ es from rfl, InsertionMap.withKey_append]
    simp [TickState.addTaggedEvents]

lemma length_insertAll (ticks : TickStateArray) (es : List (ℕ × TaggedEvent)) :
    (insertAll ticks es).length = ticks.length := by
  induction es generalizing ticks with
  | nil => rfl
  | cons e es ih =>
    show (insertAll (insertTaggedEvent ticks e.1 e.2) es).length = _
    rw [ih]
    exact List.length_modify ..

lemma insertAll_append (ticks : TickStateArray) (es es' : List (ℕ × TaggedEvent)) :
    insertAll ticks (es ++ es') = insertAll (insertAll ticks es) es' :=
  List.foldl_append ..

/-! ### Attack-mapped events -/

namespace TickState

/-- The players and NPCs of a tick, which attacks are looked for among. -/
def actors (state : TickState) : InsertionMap String (Option PlayerState) × InsertionMap ℤ NpcState :=
  (state.playerStates, state.npcs)

end TickState

section AttackMapped

variable {defs : Definitions} {ctx : MergeContext} {ticks : TickStateArray} {type : EventType}
  {maps : Mappings}

lemma validateAttack_congr {state state' : TickState} (h : state.actors = state'.actors)
    (event : Event) : validateAttack defs state event = validateAttack defs state' event := by
  have hp : state.playerStates = state'.playerStates := congrArg Prod.fst h
  have hn : state.npcs = state'.npcs := congrArg Prod.snd h
  unfold validateAttack hasNpcAttack TickState.getPlayerState
  rw [hp, hn]

def attackOf (defs : Definitions) (ticks : TickStateArray) (mapping : TickMapping) (event : Event) :
    Option ℕ := do
  let referencedTick ← (getReferencedTick event).toOption
  let mergedTick ← mapping.toMergedRef referencedTick
  let state ← ticks[mergedTick]?.join
  if (validateAttack defs state event).toOption = some true then some mergedTick else none

lemma attackOf_congr {ticks' : TickStateArray}
    (h : ∀ m : ℕ, (ticks[m]?.join).map TickState.actors = (ticks'[m]?.join).map TickState.actors)
    (mapping : TickMapping) (event : Event) :
    attackOf defs ticks mapping event = attackOf defs ticks' mapping event := by
  unfold attackOf
  refine congrArg _ (funext fun referencedTick => congrArg _ (funext fun m => ?_))
  have hm := h m
  cases hs : ticks[m]?.join with
  | none =>
    rw [hs] at hm
    rw [Option.map_eq_none_iff.mp hm.symm]
  | some state =>
    rw [hs] at hm
    obtain ⟨state', hs', hm⟩ := Option.map_eq_some_iff.mp hm.symm
    rw [hs']
    simp only [Option.bind_eq_bind, Option.bind_some, validateAttack_congr hm.symm]

/-- The events of both sides that refer to the attack on a merged tick. -/
def attackGroup (defs : Definitions) (ticks : TickStateArray) (maps : Mappings)
    (base target : List BufferedEvent) (g : ℕ) : List TaggedEvent :=
  (base.filter fun e => attackOf defs ticks maps.base e.tagged.event = some g).map
      BufferedEvent.tagged ++
    (target.filter fun e => attackOf defs ticks maps.target e.tagged.event = some g).map
      BufferedEvent.tagged

structure Grouped (groups : InsertionMap ℕ (List AttackMappedCandidate))
    (group : ℕ → List TaggedEvent) : Prop where
  tagged : ∀ g, (groups.group g).map AttackMappedCandidate.tagged = group g
  nonempty : ∀ x ∈ groups.entries, x.2 ≠ []

lemma Grouped.push {groups : InsertionMap ℕ (List AttackMappedCandidate)}
    {group : ℕ → List TaggedEvent} (h : Grouped groups group) (g : ℕ) (c : AttackMappedCandidate) :
    Grouped (groups.push g c) fun g' => group g' ++ if g = g' then [c.tagged] else [] where
  tagged g' := by
    rw [InsertionMap.group_push, List.map_append, h.tagged]
    by_cases hg : g = g'
    · rw [if_pos hg, if_pos hg.symm]
      rfl
    · rw [if_neg hg, if_neg (Ne.symm hg)]
      rfl
  nonempty x hx := by
    have hget := InsertionMap.get_eq_some.mpr hx
    unfold InsertionMap.push at hget
    rw [InsertionMap.get_set] at hget
    split_ifs at hget with hg
    · rw [← Option.some.inj hget]
      simp
    · exact h.nonempty x (InsertionMap.get_eq_some.mp hget)

lemma tryResolve_cases {mapping : TickMapping} {source : Origin} {w w' : AttackGroups}
    {e : BufferedEvent} (h : tryResolve defs ticks type mapping source w e = .ok w') :
    attackOf defs ticks mapping e.tagged.event = none ∧ w'.groups = w.groups ∨
      ∃ g c, attackOf defs ticks mapping e.tagged.event = some g ∧ c.tagged = e.tagged ∧
        w'.groups = w.groups.push g c := by
  unfold tryResolve at h
  obtain ⟨r, hr, h⟩ := bind_eq_ok.1 h
  have hattack : attackOf defs ticks mapping e.tagged.event =
      (mapping.toMergedRef r).bind fun m => (ticks[m]?.join).bind fun state =>
        if (validateAttack defs state e.tagged.event).toOption = some true then some m
        else none := by
    unfold attackOf
    rw [hr]
    rfl
  rw [hattack]
  cases hm : mapping.toMergedRef r with
  | none =>
    rw [hm] at h
    cases h
    exact Or.inl ⟨rfl, rfl⟩
  | some m =>
    simp only [hm] at h
    rw [Option.bind_some]
    cases hs : ticks[m]? with
    | none =>
      rw [hs] at h
      cases h
    | some tick =>
      rw [hs] at h
      cases tick with
      | none =>
        cases h
        exact Or.inl ⟨rfl, rfl⟩
      | some state =>
        obtain ⟨found, hfound, h⟩ := bind_eq_ok.1 h
        rw [Option.join_some, Option.bind_some, hfound]
        cases found with
        | false =>
          cases h
          exact Or.inl ⟨rfl, rfl⟩
        | true =>
          cases h
          exact Or.inr ⟨m, _, rfl, rfl, rfl⟩

lemma grouped_foldlM {mapping : TickMapping} {source : Origin} {w w' : AttackGroups}
    {group : ℕ → List TaggedEvent} {events : List BufferedEvent} (h : Grouped w.groups group)
    (hok : events.foldlM (tryResolve defs ticks type mapping source) w = .ok w') :
    Grouped w'.groups fun g => group g ++
      (events.filter fun e => attackOf defs ticks mapping e.tagged.event = some g).map
        BufferedEvent.tagged := by
  induction events generalizing w group with
  | nil =>
    cases hok
    simpa using h
  | cons e events ih =>
    rw [List.foldlM_cons] at hok
    obtain ⟨w₁, h₁, hok⟩ := bind_eq_ok.1 hok
    rcases tryResolve_cases h₁ with ⟨hnone, heq⟩ | ⟨g, c, hsome, hc, heq⟩
    · rw [← heq] at h
      simpa [List.filter_cons, hnone] using ih h hok
    · have hpush := h.push g c
      rw [← heq, hc] at hpush
      have hrest := ih hpush hok
      convert hrest using 2 with g'
      by_cases hg : g = g' <;> simp [hsome, hg]

lemma grouped_groupAttackMappedEvents {base target : List BufferedEvent} {w : AttackGroups}
    (h : groupAttackMappedEvents defs ticks type maps base target = .ok w) :
    Grouped w.groups (attackGroup defs ticks maps base target) := by
  unfold groupAttackMappedEvents at h
  obtain ⟨w₁, h₁, h⟩ := bind_eq_ok.1 h
  have hempty : Grouped ({} : AttackGroups).groups fun _ => [] := ⟨fun _ => rfl, nofun⟩
  exact grouped_foldlM (grouped_foldlM hempty h₁) h

/-! ### Resolving groups -/

lemma mem_nearer {state : TickState} {npcPos : Coords} {candidates : List AttackMappedCandidate}
    {best : Option (AttackMappedCandidate × ℤ)} {c : AttackMappedCandidate × ℤ}
    (h : candidates.foldl (nearer ctx state npcPos) best = some c) :
    best = some c ∨ c.1 ∈ candidates := by
  induction candidates generalizing best with
  | nil => exact Or.inl h
  | cons d candidates ih =>
    rw [List.foldl_cons] at h
    rcases ih h with h | h
    · unfold nearer at h
      split at h
      · exact Or.inl h
      · dsimp only at h
        split at h
        · cases h
          exact Or.inr List.mem_cons_self
        · split_ifs at h
          · cases h
            exact Or.inr List.mem_cons_self
          · exact Or.inl h
    · exact Or.inr (List.mem_cons_of_mem _ h)

lemma mem_resolveByNpcProximity {g : ℕ} {candidates : List AttackMappedCandidate}
    {c : AttackMappedCandidate} (h : resolveByNpcProximity ctx ticks g candidates = some c) :
    c ∈ candidates := by
  unfold resolveByNpcProximity at h
  obtain ⟨state, -, h⟩ := Option.bind_eq_some_iff.mp h
  obtain ⟨npcPos, -, h⟩ := Option.bind_eq_some_iff.mp h
  obtain ⟨d, hd, rfl⟩ := Option.map_eq_some_iff.mp h
  exact (mem_nearer hd).resolve_left nofun

lemma mem_resolveAttack {g : ℕ} {first winner : AttackMappedCandidate}
    {others : List AttackMappedCandidate} {flags : List QualityFlag}
    (h : resolveAttack ctx ticks type g first others = .ok (winner, flags)) :
    winner ∈ first :: others := by
  have hpreferred :
      ((first :: others).find? (·.source = .base)).getD first ∈ first :: others := by
    cases hf : (first :: others).find? (·.source = .base) with
    | none => exact List.mem_cons_self
    | some c => exact List.mem_of_find?_eq_some hf
  unfold resolveAttack at h
  by_cases hothers : others.isEmpty
  · rw [if_pos hothers] at h
    cases h
    exact List.mem_cons_self
  rw [if_neg hothers] at h
  obtain ⟨allAgree, -, h⟩ := bind_eq_ok.1 h
  dsimp only at h
  cases allAgree with
  | true =>
    cases h
    exact hpreferred
  | false =>
    rw [if_neg Bool.false_ne_true] at h
    by_cases htype : type = .tobVerzikAttackStyle
    · rw [if_pos htype] at h
      cases h
      cases hp : resolveByNpcProximity ctx ticks g (first :: others) with
      | none => exact hpreferred
      | some c => exact mem_resolveByNpcProximity hp
    · rw [if_neg htype] at h
      split at h
      · cases h
        exact hpreferred
      · cases h

lemma forall₂_resolveAttackMappedEvents {groups : List (ℕ × List AttackMappedCandidate)}
    (hne : ∀ x ∈ groups, x.2 ≠ []) {inserts : List (ℕ × TaggedEvent)} {flags : List QualityFlag}
    (h : resolveAttackMappedEvents ctx ticks type groups = .ok (inserts, flags)) :
    List.Forall₂ (fun x e => e.1 = x.1 + 1 ∧ e.2 ∈ x.2.map AttackMappedCandidate.tagged)
      groups inserts := by
  induction groups generalizing inserts flags with
  | nil =>
    cases h
    exact .nil
  | cons x groups ih =>
    match x, hne x List.mem_cons_self with
    | (g, first :: others), _ =>
      rw [resolveAttackMappedEvents] at h
      obtain ⟨⟨winner, winnerFlags⟩, hwin, h⟩ := bind_eq_ok.1 h
      obtain ⟨⟨rest, restFlags⟩, hrest, h⟩ := bind_eq_ok.1 h
      cases h
      exact .cons ⟨rfl, List.mem_map_of_mem (mem_resolveAttack hwin)⟩
        (ih (fun y hy => hne y (List.mem_cons_of_mem _ hy)) hrest)

lemma insertedAt_resolved {groups : List (ℕ × List AttackMappedCandidate)}
    (hnd : (groups.map Prod.fst).Nodup) {inserts : List (ℕ × TaggedEvent)}
    (h : List.Forall₂ (fun x e => e.1 = x.1 + 1 ∧ e.2 ∈ x.2.map AttackMappedCandidate.tagged)
      groups inserts) (m : ℕ) :
    insertedAt m inserts = [] ∧ (∀ x ∈ groups, m ≠ x.1 + 1) ∨
      ∃ x ∈ groups, m = x.1 + 1 ∧
        ∃ t ∈ x.2.map AttackMappedCandidate.tagged, insertedAt m inserts = [t] := by
  unfold insertedAt
  induction h with
  | nil => exact Or.inl ⟨rfl, nofun⟩
  | @cons x e groups inserts hxe _ ih =>
    obtain ⟨heq, hmem⟩ := hxe
    rw [List.map_cons, List.nodup_cons] at hnd
    rw [InsertionMap.withKey_cons]
    by_cases hm : m = x.1 + 1
    · refine Or.inr ⟨x, List.mem_cons_self, hm, e.2, hmem, ?_⟩
      rcases ih hnd.2 with ⟨hnone, -⟩ | ⟨y, hy, hmy, -⟩
      · rw [hnone, if_pos (hm.trans heq.symm)]
        rfl
      · have hxy : x.1 = y.1 := by omega
        exact absurd (List.mem_map.mpr ⟨y, hy, hxy.symm⟩) hnd.1
    · rw [if_neg (by omega), List.nil_append]
      rcases ih hnd.2 with ⟨hnone, hno⟩ | ⟨y, hy, hmy, ht⟩
      · refine Or.inl ⟨hnone, fun y hy => ?_⟩
        rcases List.mem_cons.mp hy with rfl | hy
        · exact hm
        · exact hno y hy
      · exact Or.inr ⟨y, List.mem_cons_of_mem _ hy, hmy, ht⟩

end AttackMapped

end Blert.Merging

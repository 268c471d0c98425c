import Blert.Bcf.Lax
import Blert.Decimals

/-!
Resolved states of a document's actors.

The resolver computes an actor's state on a tick from the nearest earlier tick it has computed
before, and remembers the states of the ticks between. What it remembers never shows: a state is
the fold of the persistent changes up to its tick, with the ephemeral data of that tick alone.
-/

namespace Blert.Bcf.Lax

structure ResolvedActorState where
  isDead : Option Bool := none
  specEnergy : Option ℤ := none
  offCooldown : Option Bool := none
  deriving DecidableEq

structure BCFResolver where
  totalTicks : ℤ
  actorTypeIndex : String → Option ActorType
  cellIndex : String → Option Cell
  /-- Tick numbers in ascending order. -/
  sortedTicks : List ℤ
  stateCache : String → Option ResolvedActorState

namespace BCFResolver

def cellKey (id : String) (tick : ℤ) : String :=
  id ++ ":" ++ toString tick

def indexActors (actors : List Actor) : String → Option ActorType :=
  actors.foldl (fun index actor => Function.update index actor.id (some actor.type)) fun _ => none

def indexCells (ticks : List Tick) : String → Option Cell :=
  ticks.foldl (fun index tick =>
    tick.cells.foldl (fun index cell =>
      Function.update index (cellKey cell.actorId tick.tick) (some cell)) index) fun _ => none

def new (document : Document) : BCFResolver where
  totalTicks := document.config.totalTicks
  actorTypeIndex := indexActors document.timeline.actors
  cellIndex := indexCells document.timeline.ticks
  sortedTicks := (document.timeline.ticks.map Tick.tick).mergeSort (· ≤ ·)
  stateCache := fun _ => none

def maxTick (r : BCFResolver) : ℤ := r.totalTicks - 1

def getDefaultPersistentState : ActorType → ResolvedActorState
  | .player => { isDead := some false }
  | .npc => {}

def extractPersistentState (cached : ResolvedActorState) : ActorType → ResolvedActorState
  | .player => { isDead := cached.isDead, specEnergy := cached.specEnergy }
  | .npc => {}

def applyPersistentChanges (state : ResolvedActorState) (cell : Cell) :
    ActorType → ResolvedActorState
  | .npc => state
  | .player =>
    let isDead :=
      if (cell.actions.getD []).any (·.type == "death") then some true else state.isDead
    let cellState := cell.state.getD {}
    { isDead := cellState.isDead.or isDead
      specEnergy := cellState.specEnergy.or state.specEnergy }

def buildFinalState (persistentState : ResolvedActorState) (cell : Option Cell) :
    ActorType → ResolvedActorState
  | .npc => {}
  | .player =>
    let offCooldown := (cell.bind Cell.state).bind State.offCooldown
    { persistentState with offCooldown := offCooldown.or persistentState.offCooldown }

/-- The place after the most recent of the first ticks that is before `tick` and has a cached
state, and that state. -/
def mostRecent (r : BCFResolver) (actorId : String) (tick : ℤ) : ℕ → Option (ℕ × ResolvedActorState)
  | 0 => none
  | i + 1 =>
    match r.sortedTicks[i]? with
    | none => mostRecent r actorId tick i
    | some t =>
      if t ≥ tick then mostRecent r actorId tick i
      else
        match r.stateCache (cellKey actorId t) with
        | some cached => some (i + 1, cached)
        | none => mostRecent r actorId tick i

def applyChanges (r : BCFResolver) (actorId : String) (actorType : ActorType) (tick : ℤ)
    (persistentState : ResolvedActorState) (stateCache : String → Option ResolvedActorState) :
    List ℤ → ResolvedActorState × (String → Option ResolvedActorState)
  | [] => (persistentState, stateCache)
  | t :: ticks =>
    if t > tick then (persistentState, stateCache)
    else
      let key := cellKey actorId t
      let cell := r.cellIndex key
      let persistentState :=
        cell.elim persistentState fun cell => applyPersistentChanges persistentState cell actorType
      let stateCache :=
        if t < tick then
          Function.update stateCache key (some (buildFinalState persistentState cell actorType))
        else stateCache
      applyChanges r actorId actorType tick persistentState stateCache ticks

def startFrom (r : BCFResolver) (actorId : String) (actorType : ActorType) (tick : ℤ) :
    ℕ × ResolvedActorState :=
  match r.mostRecent actorId tick r.sortedTicks.length with
  | some (startIdx, cached) => (startIdx, extractPersistentState cached actorType)
  | none => (0, getDefaultPersistentState actorType)

def resolveState (r : BCFResolver) (actorId : String) (actorType : ActorType) (tick : ℤ) :
    ResolvedActorState × BCFResolver :=
  let (startIdx, persistentState) := r.startFrom actorId actorType tick
  let (persistentState, stateCache) :=
    r.applyChanges actorId actorType tick persistentState r.stateCache
      (r.sortedTicks.drop startIdx)
  let key := cellKey actorId tick
  let finalState := buildFinalState persistentState (r.cellIndex key) actorType
  (finalState, { r with stateCache := Function.update stateCache key (some finalState) })

def getActorState (r : BCFResolver) (actorId : String) (tick : ℤ) :
    Option ResolvedActorState × BCFResolver :=
  match r.actorTypeIndex actorId with
  | none => (none, r)
  | some actorType =>
    if tick < 0 ∨ tick > r.maxTick then (none, r)
    else
      match r.stateCache (cellKey actorId tick) with
      | some cached => (some cached, r)
      | none =>
        let (state, r) := r.resolveState actorId actorType tick
        (some state, r)

def getPlayerState (r : BCFResolver) (actorId : String) (tick : ℤ) :
    Option ResolvedActorState × BCFResolver :=
  if r.actorTypeIndex actorId = some .player then r.getActorState actorId tick else (none, r)

def getNpcState (r : BCFResolver) (actorId : String) (tick : ℤ) :
    Option ResolvedActorState × BCFResolver :=
  if r.actorTypeIndex actorId = some .npc then r.getActorState actorId tick else (none, r)

inductive Query
  | actor (actorId : String) (tick : ℤ)
  | player (actorId : String) (tick : ℤ)
  | npc (actorId : String) (tick : ℤ)

def answer (r : BCFResolver) : Query → Option ResolvedActorState × BCFResolver
  | .actor actorId tick => r.getActorState actorId tick
  | .player actorId tick => r.getPlayerState actorId tick
  | .npc actorId tick => r.getNpcState actorId tick

def answers (r : BCFResolver) : List Query → List (Option ResolvedActorState)
  | [] => []
  | query :: queries =>
    let (state, r) := r.answer query
    state :: answers r queries

end BCFResolver

/-! ### States as the format defines them -/

namespace Document

def cell (doc : Document) (actorId : String) (tick : ℤ) : Option Cell :=
  (doc.timeline.ticks.find? (·.tick = tick)).bind fun t => t.cells.find? (·.actorId = actorId)

end Document

structure PersistentState where
  isDead : Bool := false
  specEnergy : Option ℤ := none

namespace PersistentState

/-- A cell changes the fields that it specifies. A death makes the player dead, unless the cell
says otherwise. -/
def change (s : PersistentState) (cell : Cell) : PersistentState :=
  let died := (cell.actions.getD []).any (·.type == "death")
  { isDead := ((cell.state.bind State.isDead)).getD (s.isDead || died)
    specEnergy := (cell.state.bind State.specEnergy).or s.specEnergy }

end PersistentState

def persistentState (doc : Document) (actorId : String) (tick : ℤ) : PersistentState :=
  ((doc.timeline.ticks.filter (·.tick ≤ tick)).filterMap fun t =>
    t.cells.find? (·.actorId = actorId)).foldl PersistentState.change {}

/-- The state of an actor on a tick: for a player its persistent fields, and the ephemeral data
of that tick only. -/
def stateAt (doc : Document) (actorId : String) (tick : ℤ) : ActorType → ResolvedActorState
  | .npc => {}
  | .player =>
    let persistent := persistentState doc actorId tick
    { isDead := some persistent.isDead
      specEnergy := persistent.specEnergy
      offCooldown := ((doc.cell actorId tick).bind Cell.state).bind State.offCooldown }

/-- What the format says is the answer to a query. -/
def defined (doc : Document) (allowed : ActorType → Prop) [DecidablePred allowed]
    (actorId : String) (tick : ℤ) : Option ResolvedActorState :=
  match doc.timeline.actors.find? (·.id = actorId) with
  | some actor =>
    if allowed actor.type ∧ 0 ≤ tick ∧ tick < doc.config.totalTicks then
      some (stateAt doc actorId tick actor.type)
    else none
  | none => none

def BCFResolver.Query.defined (doc : Document) : BCFResolver.Query → Option ResolvedActorState
  | .actor actorId tick => Lax.defined doc (fun _ => True) actorId tick
  | .player actorId tick => Lax.defined doc (· = .player) actorId tick
  | .npc actorId tick => Lax.defined doc (· = .npc) actorId tick

/-! ### The indexes -/

lemma toList_negSucc (n : ℕ) :
    (toString (Int.negSucc n)).toList = '-' :: (toString (n + 1)).toList := by
  simp [toString, Int.repr]

lemma isDigit_of_mem {n : ℕ} {c : Char} (h : c ∈ (toString n).toList) : c.isDigit = true := by
  obtain ⟨d, ds, htext, hall, -⟩ := Decimals.toList_toString n
  exact hall c (htext ▸ h)

lemma colon_notMem_toString (tick : ℤ) : ':' ∉ (toString tick).toList := by
  have hdigits : ∀ n : ℕ, ':' ∉ (toString n).toList := fun n hmem =>
    absurd (isDigit_of_mem hmem) (by decide)
  cases tick with
  | ofNat n => exact hdigits n
  | negSucc n =>
    rw [toList_negSucc, List.mem_cons, not_or]
    exact ⟨by decide, hdigits (n + 1)⟩

lemma toString_int_injective : Function.Injective (toString : ℤ → String) := by
  have hminus : ∀ m n : ℕ, toString (Int.ofNat m) ≠ toString (Int.negSucc n) := by
    intro m n h
    have hmem : '-' ∈ (toString (Int.ofNat m)).toList := by
      rw [h, toList_negSucc]
      exact List.mem_cons_self
    have hdigit : ('-' : Char).isDigit = true := isDigit_of_mem (n := m) hmem
    exact absurd hdigit (by decide)
  intro s t h
  cases s with
  | ofNat m =>
    cases t with
    | ofNat n => exact congrArg Int.ofNat (Decimals.toString_injective h)
    | negSucc n => exact absurd h (hminus m n)
  | negSucc m =>
    cases t with
    | ofNat n => exact absurd h.symm (hminus n m)
    | negSucc n =>
      have hsame := congrArg String.toList h
      rw [toList_negSucc, toList_negSucc] at hsame
      have htext := String.toList_inj.mp (List.cons.inj hsame).2
      have hmn : m + 1 = n + 1 := Decimals.toString_injective htext
      rw [Nat.succ.inj hmn]

lemma cellKey_inj {id id' : String} {t t' : ℤ} :
    BCFResolver.cellKey id t = BCFResolver.cellKey id' t' ↔ id = id' ∧ t = t' := by
  refine ⟨fun h => ?_, fun ⟨hid, ht⟩ => by rw [hid, ht]⟩
  have hlist : (toString t).toList.reverse ++ ':' :: id.toList.reverse =
      (toString t').toList.reverse ++ ':' :: id'.toList.reverse := by
    have hreverse := congrArg (fun s : String => s.toList.reverse) h
    simpa [BCFResolver.cellKey] using hreverse
  have hfirst : ∀ (tick : ℤ) (rest : List Char),
      ((toString tick).toList.reverse ++ ':' :: rest).takeWhile (· ≠ ':') =
        (toString tick).toList.reverse := by
    intro tick rest
    rw [List.takeWhile_append_of_pos]
    · simp
    · intro c hc
      rw [decide_eq_true_eq]
      rintro rfl
      exact colon_notMem_toString tick (List.mem_reverse.mp hc)
  have ht : (toString t).toList.reverse = (toString t').toList.reverse := by
    rw [← hfirst t id.toList.reverse, hlist, hfirst]
  rw [ht] at hlist
  have hid := (List.cons.inj (List.append_cancel_left hlist)).2
  exact ⟨String.toList_inj.mp (List.reverse_injective hid),
    toString_int_injective (String.toList_inj.mp (List.reverse_injective ht))⟩

lemma foldl_update_find {α β : Type} (key : α → String) (value : α → β) {l : List α}
    (hnd : (l.map key).Nodup) (index : String → Option β) (k : String) :
    l.foldl (fun index a => Function.update index (key a) (some (value a))) index k =
      ((l.find? (key · = k)).map value).or (index k) := by
  induction l generalizing index with
  | nil => rfl
  | cons a l ih =>
    obtain ⟨hnew, hnd⟩ := List.nodup_cons.mp hnd
    rw [List.foldl_cons, ih hnd]
    by_cases hk : key a = k
    · have hnone : l.find? (key · = k) = none := by
        rw [List.find?_eq_none]
        intro b hb hkey
        have heq : key b = k := by simpa using hkey
        exact hnew (List.mem_map.mpr ⟨b, hb, heq.trans hk.symm⟩)
      rw [hnone, List.find?_cons_of_pos (by simpa using hk), ← hk, Function.update_self]
      rfl
    · rw [List.find?_cons_of_neg (by simpa using hk), Function.update_of_ne (Ne.symm hk)]

lemma indexActors_eq {actors : List Actor} (hnd : (actors.map Actor.id).Nodup) (id : String) :
    BCFResolver.indexActors actors id = (actors.find? (·.id = id)).map Actor.type := by
  have hfind := foldl_update_find Actor.id Actor.type hnd (fun _ => none) id
  rw [Option.or_none] at hfind
  exact hfind

lemma foldl_indexCells {cells : List Cell} (hnd : (cells.map Cell.actorId).Nodup) (tick : ℤ)
    (index : String → Option Cell) (id : String) (t : ℤ) :
    cells.foldl (fun index cell =>
        Function.update index (BCFResolver.cellKey cell.actorId tick) (some cell)) index
        (BCFResolver.cellKey id t) =
      (if tick = t then cells.find? (·.actorId = id) else none).or
        (index (BCFResolver.cellKey id t)) := by
  have hkeys : (cells.map fun cell => BCFResolver.cellKey cell.actorId tick).Nodup := by
    have hmap : (cells.map fun cell => BCFResolver.cellKey cell.actorId tick) =
        (cells.map Cell.actorId).map (BCFResolver.cellKey · tick) := by simp
    rw [hmap]
    exact hnd.map fun a b h => (cellKey_inj.1 h).1
  refine (foldl_update_find (fun cell => BCFResolver.cellKey cell.actorId tick) (fun cell => cell)
    hkeys index _).trans ?_
  rw [Option.map_id']
  split_ifs with ht
  · simp only [cellKey_inj, ht, and_true]
  · have hnone : cells.find? (fun _ => false) = none := List.find?_eq_none.mpr (by simp)
    simp only [cellKey_inj, ht, and_false, decide_false, hnone]

lemma indexCells_eq {doc : Document} (h : Sound doc) (id : String) (t : ℤ) :
    BCFResolver.indexCells doc.timeline.ticks (BCFResolver.cellKey id t) = doc.cell id t := by
  have hfold : ∀ (ticks : List Tick) (index : String → Option Cell),
      (∀ tick ∈ ticks, (tick.cells.map Cell.actorId).Nodup) →
      (ticks.map Tick.tick).Pairwise (· < ·) →
      ticks.foldl (fun index tick => tick.cells.foldl (fun index cell =>
          Function.update index (BCFResolver.cellKey cell.actorId tick.tick) (some cell)) index)
          index (BCFResolver.cellKey id t) =
        ((ticks.find? (·.tick = t)).bind fun tick => tick.cells.find? (·.actorId = id)).or
          (index (BCFResolver.cellKey id t)) := by
    intro ticks
    induction ticks with
    | nil => exact fun _ _ _ => rfl
    | cons tick ticks ih =>
      intro index hcells hticks
      obtain ⟨hcell, hcells⟩ := List.forall_mem_cons.mp hcells
      obtain ⟨hlater, hticks⟩ := List.pairwise_cons.mp hticks
      rw [List.foldl_cons, ih _ hcells hticks, foldl_indexCells hcell]
      by_cases ht : tick.tick = t
      · have hnone : ticks.find? (·.tick = t) = none := by
          rw [List.find?_eq_none]
          intro later hmem heq
          have hlt := hlater later.tick (List.mem_map_of_mem hmem)
          have heq : later.tick = t := by simpa using heq
          omega
        rw [hnone, List.find?_cons_of_pos (by simpa using ht), if_pos ht]
        rfl
      · rw [List.find?_cons_of_neg (by simpa using ht), if_neg ht]
        rfl
  have hall := hfold doc.timeline.ticks (fun _ => none) h.cellIds h.ticks.1
  rw [Option.or_none] at hall
  exact hall

/-! ### Persistent changes -/

namespace PersistentState

def shown (s : PersistentState) : ActorType → ResolvedActorState
  | .player => { isDead := some s.isDead, specEnergy := s.specEnergy }
  | .npc => {}

lemma applyPersistentChanges_shown (s : PersistentState) (cell : Cell) (actorType : ActorType) :
    BCFResolver.applyPersistentChanges (s.shown actorType) cell actorType =
      (s.change cell).shown actorType := by
  cases actorType with
  | npc => rfl
  | player =>
    obtain ⟨actorId, actions, state⟩ := cell
    simp only [BCFResolver.applyPersistentChanges, shown, change]
    have hdied : ∀ died : Bool, (if died = true then some true else some s.isDead) =
        some (s.isDead || died) := by
      intro died
      cases died <;> cases s.isDead <;> rfl
    rw [hdied]
    rcases state with _ | ⟨isDead, offCooldown, specEnergy⟩
    · rfl
    · cases isDead <;> cases specEnergy <;> rfl

/-- The changes of an actor's cells on ticks in a row. -/
def after (actorId : String) (ticks : List Tick) : PersistentState :=
  (ticks.filterMap fun t => t.cells.find? (·.actorId = actorId)).foldl change {}

lemma after_append (actorId : String) (ticks : List Tick) (t : Tick) :
    after actorId (ticks ++ [t]) =
      (t.cells.find? (·.actorId = actorId)).elim (after actorId ticks)
        (after actorId ticks).change := by
  unfold after
  rw [List.filterMap_append, List.foldl_append]
  cases hcell : t.cells.find? (·.actorId = actorId) with
  | none => simp [hcell]
  | some cell => simp [hcell]

end PersistentState

lemma persistentState_eq {doc : Document} {before rest : List Tick}
    (hticks : doc.timeline.ticks = before ++ rest) {tick : ℤ}
    (hbefore : ∀ t ∈ before, t.tick ≤ tick) (hrest : ∀ t ∈ rest, tick < t.tick)
    (actorId : String) :
    persistentState doc actorId tick = PersistentState.after actorId before := by
  have hkept : before.filter (·.tick ≤ tick) = before :=
    List.filter_eq_self.mpr fun t ht => decide_eq_true (hbefore t ht)
  have hdropped : rest.filter (·.tick ≤ tick) = [] := by
    rw [List.filter_eq_nil_iff]
    intro t ht hle
    have hlt := hrest t ht
    have hle : t.tick ≤ tick := by simpa using hle
    omega
  unfold persistentState PersistentState.after
  rw [hticks, List.filter_append, hkept, hdropped, List.append_nil]

lemma extractPersistentState_stateAt (doc : Document) (actorId : String) (tick : ℤ)
    (actorType : ActorType) :
    BCFResolver.extractPersistentState (stateAt doc actorId tick actorType) actorType =
      (persistentState doc actorId tick).shown actorType := by
  cases actorType <;> rfl

lemma buildFinalState_eq (doc : Document) (actorId : String) (tick : ℤ) (actorType : ActorType) :
    BCFResolver.buildFinalState ((persistentState doc actorId tick).shown actorType)
      (doc.cell actorId tick) actorType = stateAt doc actorId tick actorType := by
  cases actorType with
  | npc => rfl
  | player =>
    unfold BCFResolver.buildFinalState stateAt PersistentState.shown
    simp

lemma cell_eq {doc : Document} (h : Sound doc) {before rest : List Tick} {t : Tick}
    (hticks : doc.timeline.ticks = before ++ t :: rest) (actorId : String) :
    doc.cell actorId t.tick = t.cells.find? (·.actorId = actorId) := by
  have horder := h.ticks.1
  rw [hticks, List.map_append, List.map_cons, List.pairwise_append] at horder
  have hnone : before.find? (·.tick = t.tick) = none := by
    rw [List.find?_eq_none]
    intro earlier hmem heq
    have hlt := horder.2.2 earlier.tick (List.mem_map_of_mem hmem) t.tick List.mem_cons_self
    have heq : earlier.tick = t.tick := by simpa using heq
    omega
  unfold Document.cell
  rw [hticks, List.find?_append, hnone, List.find?_cons_of_pos (by simp)]
  rfl

/-! ### The resolver -/

namespace BCFResolver

/-- Every cached state is the one that the format defines. -/
def CacheHolds (doc : Document) (cache : String → Option ResolvedActorState) : Prop :=
  ∀ actor ∈ doc.timeline.actors, ∀ tick state, cache (cellKey actor.id tick) = some state →
    state = stateAt doc actor.id tick actor.type

lemma CacheHolds.update {doc : Document} (h : Sound doc)
    {cache : String → Option ResolvedActorState} (hcache : CacheHolds doc cache) {actor : Actor}
    (hactor : actor ∈ doc.timeline.actors) (tick : ℤ) :
    CacheHolds doc (Function.update cache (cellKey actor.id tick)
      (some (stateAt doc actor.id tick actor.type))) := by
  intro other hother t state hstate
  by_cases hkey : cellKey other.id t = cellKey actor.id tick
  · obtain ⟨hid, rfl⟩ := cellKey_inj.1 hkey
    obtain rfl := List.inj_on_of_nodup_map h.ids hother hactor hid
    rw [Function.update_self] at hstate
    exact (Option.some.inj hstate).symm
  · rw [Function.update_of_ne hkey] at hstate
    exact hcache other hother t state hstate

/-- What holds of a resolver however it has been queried. -/
structure Resolves (doc : Document) (r : BCFResolver) : Prop where
  totalTicks : r.totalTicks = doc.config.totalTicks
  actorTypeIndex : ∀ id,
    r.actorTypeIndex id = (doc.timeline.actors.find? (·.id = id)).map Actor.type
  cellIndex : ∀ id tick, r.cellIndex (cellKey id tick) = doc.cell id tick
  sortedTicks : r.sortedTicks = doc.timeline.ticks.map Tick.tick
  stateCache : CacheHolds doc r.stateCache

lemma new_resolves {doc : Document} (h : Sound doc) : Resolves doc (new doc) where
  totalTicks := rfl
  actorTypeIndex := indexActors_eq h.ids
  cellIndex := indexCells_eq h
  sortedTicks :=
    List.mergeSort_of_pairwise (h.ticks.1.imp fun hlt => decide_eq_true hlt.le)
  stateCache := nofun

variable {doc : Document} {r : BCFResolver}

lemma mostRecent_some {actorId : String} {tick : ℤ} {n i : ℕ} {cached : ResolvedActorState}
    (h : r.mostRecent actorId tick n = some (i, cached)) :
    ∃ j t, i = j + 1 ∧ r.sortedTicks[j]? = some t ∧ t < tick ∧
      r.stateCache (cellKey actorId t) = some cached := by
  induction n with
  | zero => cases h
  | succ n ih =>
    unfold mostRecent at h
    cases htick : r.sortedTicks[n]? with
    | none =>
      rw [htick] at h
      exact ih h
    | some t =>
      simp only [htick] at h
      split_ifs at h with hlate
      · exact ih h
      · cases hstate : r.stateCache (cellKey actorId t) with
        | none =>
          rw [hstate] at h
          exact ih h
        | some state =>
          rw [hstate] at h
          obtain ⟨rfl, rfl⟩ := Prod.mk.inj (Option.some.inj h)
          exact ⟨n, t, rfl, htick, by omega, hstate⟩

/-- Applying the changes of the ticks that are left gives the persistent state, and caches only
states as they are defined. -/
lemma applyChanges_spec (h : Sound doc) (hr : Resolves doc r) {actor : Actor}
    (hactor : actor ∈ doc.timeline.actors) {tick : ℤ} {before rest : List Tick}
    {cache : String → Option ResolvedActorState}
    (hticks : doc.timeline.ticks = before ++ rest) (hbefore : ∀ t ∈ before, t.tick ≤ tick)
    (hcache : CacheHolds doc cache) :
    (r.applyChanges actor.id actor.type tick
        ((PersistentState.after actor.id before).shown actor.type) cache (rest.map Tick.tick)).1 =
        (persistentState doc actor.id tick).shown actor.type ∧
      CacheHolds doc (r.applyChanges actor.id actor.type tick
        ((PersistentState.after actor.id before).shown actor.type) cache
        (rest.map Tick.tick)).2 := by
  induction rest generalizing before cache with
  | nil =>
    rw [persistentState_eq hticks hbefore nofun]
    exact ⟨rfl, hcache⟩
  | cons t rest ih =>
    have horder := h.ticks.1
    rw [hticks, List.map_append, List.map_cons, List.pairwise_append] at horder
    have hlater : ∀ s ∈ rest, t.tick < s.tick := fun s hs =>
      (List.pairwise_cons.mp horder.2.1).1 s.tick (List.mem_map_of_mem hs)
    rw [List.map_cons]
    unfold applyChanges
    by_cases hlate : t.tick > tick
    · rw [if_pos hlate, persistentState_eq hticks hbefore]
      · exact ⟨rfl, hcache⟩
      · refine List.forall_mem_cons.mpr ⟨hlate, fun s hs => ?_⟩
        have := hlater s hs
        omega
    · rw [if_neg hlate]
      have hsplit : doc.timeline.ticks = (before ++ [t]) ++ rest := by
        rw [hticks, List.append_assoc, List.singleton_append]
      have hearlier : ∀ s ∈ before ++ [t], s.tick ≤ t.tick := by
        intro s hs
        rcases List.mem_append.mp hs with hs | hs
        · exact (horder.2.2 s.tick (List.mem_map_of_mem hs) t.tick List.mem_cons_self).le
        · rw [List.mem_singleton.mp hs]
      have hcell := cell_eq h hticks actor.id
      have hpersistent : (r.cellIndex (cellKey actor.id t.tick)).elim
          ((PersistentState.after actor.id before).shown actor.type)
          (fun cell => applyPersistentChanges
            ((PersistentState.after actor.id before).shown actor.type) cell actor.type) =
          (PersistentState.after actor.id (before ++ [t])).shown actor.type := by
        rw [hr.cellIndex, hcell, PersistentState.after_append]
        cases t.cells.find? (·.actorId = actor.id) with
        | none => rfl
        | some cell => exact PersistentState.applyPersistentChanges_shown _ cell actor.type
      have hfinal : buildFinalState
          ((PersistentState.after actor.id (before ++ [t])).shown actor.type)
          (r.cellIndex (cellKey actor.id t.tick)) actor.type =
          stateAt doc actor.id t.tick actor.type := by
        rw [hr.cellIndex, ← persistentState_eq hsplit hearlier hlater, buildFinalState_eq]
      simp only [hpersistent, hfinal]
      refine ih hsplit (fun s hs => (hearlier s hs).trans (by omega)) ?_
      split_ifs
      · exact hcache.update h hactor t.tick
      · exact hcache

/-- The resolver starts after some of the ticks up to the one asked for, from the persistent
state there. -/
lemma startFrom_spec (h : Sound doc) (hr : Resolves doc r) {actor : Actor}
    (hactor : actor ∈ doc.timeline.actors) (tick : ℤ) :
    ∃ before rest, doc.timeline.ticks = before ++ rest ∧ (∀ t ∈ before, t.tick ≤ tick) ∧
      r.startFrom actor.id actor.type tick =
        (before.length, (PersistentState.after actor.id before).shown actor.type) := by
  unfold startFrom
  cases hrecent : r.mostRecent actor.id tick r.sortedTicks.length with
  | none =>
    refine ⟨[], doc.timeline.ticks, rfl, nofun, ?_⟩
    cases actor.type <;> rfl
  | some found =>
    obtain ⟨i, cached⟩ := found
    obtain ⟨j, t, rfl, htick, hlt, hstate⟩ := mostRecent_some hrecent
    rw [hr.sortedTicks, List.getElem?_map, Option.map_eq_some_iff] at htick
    obtain ⟨s, hs, rfl⟩ := htick
    have hlength := (List.getElem?_eq_some_iff.mp hs).1
    have hsplit := (List.take_append_drop (j + 1) doc.timeline.ticks).symm
    have hlast : doc.timeline.ticks.take (j + 1) = doc.timeline.ticks.take j ++ [s] := by
      rw [List.take_add_one, hs]
      rfl
    have horder := h.ticks.1
    rw [hsplit, hlast, List.map_append, List.pairwise_append, List.map_append,
      List.pairwise_append] at horder
    have hbefore : ∀ t ∈ doc.timeline.ticks.take (j + 1), t.tick ≤ s.tick := by
      intro t ht
      rw [hlast] at ht
      rcases List.mem_append.mp ht with ht | ht
      · exact (horder.1.2.2 t.tick (List.mem_map_of_mem ht) s.tick List.mem_cons_self).le
      · rw [List.mem_singleton.mp ht]
    have hafter : ∀ t ∈ doc.timeline.ticks.drop (j + 1), s.tick < t.tick := fun t ht =>
      horder.2.2 s.tick (by simp) t.tick (List.mem_map_of_mem ht)
    have hcached := hr.stateCache actor hactor s.tick cached hstate
    refine ⟨_, _, hsplit, fun t ht => (hbefore t ht).trans hlt.le, ?_⟩
    have hpersistent : extractPersistentState cached actor.type =
        (PersistentState.after actor.id (doc.timeline.ticks.take (j + 1))).shown actor.type := by
      rw [hcached, extractPersistentState_stateAt, persistentState_eq hsplit hbefore hafter]
    have hlen : (doc.timeline.ticks.take (j + 1)).length = j + 1 := by
      rw [List.length_take]
      omega
    rw [hlen, ← hpersistent]

lemma resolveState_spec (h : Sound doc) (hr : Resolves doc r) {actor : Actor}
    (hactor : actor ∈ doc.timeline.actors) (tick : ℤ) :
    (r.resolveState actor.id actor.type tick).1 = stateAt doc actor.id tick actor.type ∧
      Resolves doc (r.resolveState actor.id actor.type tick).2 := by
  obtain ⟨before, rest, hticks, hbefore, hstart⟩ := startFrom_spec h hr hactor tick
  have hdrop : r.sortedTicks.drop before.length = rest.map Tick.tick := by
    rw [hr.sortedTicks, hticks, List.map_append, List.drop_left' (by simp)]
  obtain ⟨hpersistent, hcache⟩ := applyChanges_spec h hr hactor hticks hbefore hr.stateCache
  unfold resolveState
  rw [hstart]
  simp only [hdrop, hpersistent, hr.cellIndex, buildFinalState_eq]
  exact ⟨trivial, hr.totalTicks, hr.actorTypeIndex, hr.cellIndex, hr.sortedTicks,
    hcache.update h hactor tick⟩

lemma getActorState_spec (h : Sound doc) (hr : Resolves doc r) (actorId : String) (tick : ℤ) :
    (r.getActorState actorId tick).1 = defined doc (fun _ => True) actorId tick ∧
      Resolves doc (r.getActorState actorId tick).2 := by
  unfold getActorState defined
  rw [hr.actorTypeIndex]
  cases hfind : doc.timeline.actors.find? (·.id = actorId) with
  | none => exact ⟨rfl, hr⟩
  | some actor =>
    have hactor := List.mem_of_find?_eq_some hfind
    obtain rfl : actor.id = actorId := by simpa using List.find?_some hfind
    simp only [Option.map_some, maxTick, hr.totalTicks, true_and]
    by_cases hrange : 0 ≤ tick ∧ tick < doc.config.totalTicks
    · have hinside : ¬(tick < 0 ∨ tick > doc.config.totalTicks - 1) := by omega
      rw [if_neg hinside, if_pos hrange]
      cases hcached : r.stateCache (cellKey actor.id tick) with
      | some cached => exact ⟨congrArg some (hr.stateCache actor hactor tick cached hcached), hr⟩
      | none =>
        obtain ⟨hstate, hr'⟩ := resolveState_spec h hr hactor tick
        exact ⟨congrArg some hstate, hr'⟩
    · have houtside : tick < 0 ∨ tick > doc.config.totalTicks - 1 := by omega
      rw [if_pos houtside, if_neg hrange]
      exact ⟨rfl, hr⟩

lemma defined_of_type {actorId : String} {tick : ℤ} (type : ActorType) :
    defined doc (· = type) actorId tick =
      if (doc.timeline.actors.find? (·.id = actorId)).map Actor.type = some type then
        defined doc (fun _ => True) actorId tick
      else none := by
  unfold defined
  cases doc.timeline.actors.find? (·.id = actorId) with
  | none => rfl
  | some actor =>
    by_cases htype : actor.type = type
    · simp [htype]
    · simp [htype]

lemma answer_spec (h : Sound doc) (hr : Resolves doc r) (query : Query) :
    (r.answer query).1 = query.defined doc ∧ Resolves doc (r.answer query).2 := by
  cases query with
  | actor actorId tick => exact getActorState_spec h hr actorId tick
  | player actorId tick =>
    change (r.getPlayerState actorId tick).1 = defined doc (· = .player) actorId tick ∧
      Resolves doc (r.getPlayerState actorId tick).2
    unfold getPlayerState
    rw [defined_of_type, hr.actorTypeIndex]
    split_ifs
    · exact getActorState_spec h hr actorId tick
    · exact ⟨rfl, hr⟩
  | npc actorId tick =>
    change (r.getNpcState actorId tick).1 = defined doc (· = .npc) actorId tick ∧
      Resolves doc (r.getNpcState actorId tick).2
    unfold getNpcState
    rw [defined_of_type, hr.actorTypeIndex]
    split_ifs
    · exact getActorState_spec h hr actorId tick
    · exact ⟨rfl, hr⟩

lemma Resolves.answers (h : Sound doc) (hr : Resolves doc r) (queries : List Query) :
    r.answers queries = queries.map (·.defined doc) := by
  induction queries generalizing r with
  | nil => rfl
  | cons query queries ih =>
    obtain ⟨hstate, hr'⟩ := answer_spec h hr query
    unfold BCFResolver.answers
    rw [List.map_cons, ← hstate, ← ih hr']

end BCFResolver

/-- **State resolution does not depend on what was queried before**: a resolver of a valid document
answers every sequence of queries with the states that the format defines. -/
theorem resolver_answers {doc : Document} (h : Sound doc) (queries : List BCFResolver.Query) :
    (BCFResolver.new doc).answers queries = queries.map (·.defined doc) :=
  (BCFResolver.new_resolves h).answers h queries

/-- A player that dies on tick 1 and is alive again on tick 3. -/
def deathDocument : Document where
  version := "1.0"
  config := ⟨5, none, none, none⟩
  timeline :=
    ⟨[.player "p1" "Player"],
      [⟨1, [{ actorId := "p1", actions := some [{ type := "death" }],
              state := some { offCooldown := some true, specEnergy := some 50 } }]⟩,
        ⟨3, [{ actorId := "p1", state := some { isDead := some false } }]⟩], none⟩

lemma deathDocument_sound : Sound deathDocument where
  ids := by decide
  lifecycles := by
    intro actor hactor l hl
    obtain rfl := List.mem_singleton.mp hactor
    cases hl
  rowOrder := nofun
  range := ⟨nofun, nofun, nofun⟩
  ticks := ⟨by decide, by decide⟩
  cellIds := by decide
  cells := by
    have hfit : ActionsFit ["p1"] .player [{ type := "death" }] := by
      refine ⟨List.nodup_singleton _, fun a ha => ?_, fun a ha => ?_, fun a ha => ?_⟩ <;>
        obtain rfl := List.mem_singleton.mp ha
      · exact ⟨by decide, fun _ => rfl⟩
      · exact fun htype => absurd htype (by decide)
      · exact nofun
    intro tick htick cell hcell
    have hactor : Actor.player "p1" "Player" ∈ deathDocument.timeline.actors := List.mem_cons_self
    rcases List.mem_cons.mp htick with rfl | htick
    · obtain rfl := List.mem_singleton.mp hcell
      refine ⟨_, hactor, rfl, nofun, fun actions hactions => ?_⟩
      cases hactions
      exact hfit
    · obtain rfl := List.mem_singleton.mp htick
      obtain rfl := List.mem_singleton.mp hcell
      exact ⟨_, hactor, rfl, nofun, nofun⟩
  phases := nofun

/-- Asked for tick 4 first, the resolver still answers that the player is dead on tick 2 only. -/
theorem deathDocument_answers :
    (BCFResolver.new deathDocument).answers
        [.actor "p1" 4, .player "p1" 2, .actor "p1" 1, .npc "p1" 2] =
      [some ⟨some false, some 50, none⟩, some ⟨some true, some 50, none⟩,
        some ⟨some true, some 50, some true⟩, none] :=
  (resolver_answers deathDocument_sound _).trans (by decide)

end Blert.Bcf.Lax

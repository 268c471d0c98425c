import Blert.Bcf.Validator

/-!
What a sound document is.

The rules of the format are stated here for a document as a whole. The validator reports nothing
exactly for the documents that keep them, and dropping actions from a document keeps them.
-/

namespace Blert.Bcf

/-- Strictly increasing ticks within a stage. -/
def TicksInOrder (totalTicks : ℤ) (ticks : List ℤ) : Prop :=
  ticks.Pairwise (· < ·) ∧ ∀ t ∈ ticks, 0 ≤ t ∧ t < totalTicks

namespace Actor

def lifecycle : Actor → Option NpcLifecycle
  | player _ _ => none
  | npc _ _ _ spawnTick deathTick => some ⟨spawnTick.getD 0, deathTick⟩

end Actor

/-- A lifetime lies within the stage, and ends after it starts. -/
def NpcLifecycle.Within (totalTicks : ℤ) (l : NpcLifecycle) : Prop :=
  (0 ≤ l.spawnTick ∧ l.spawnTick < totalTicks) ∧
    ∀ deathTick ∈ l.deathTick, (0 ≤ deathTick ∧ deathTick < totalTicks) ∧ l.spawnTick < deathTick

def NpcLifecycle.Covers (tick : ℤ) (l : NpcLifecycle) : Prop :=
  l.spawnTick ≤ tick ∧ ∀ deathTick ∈ l.deathTick, tick ≤ deathTick

namespace Action

def performer : Action → ActorType
  | npcAttack _ _ => .npc
  | npcPhase _ => .npc
  | _ => .player

def SpecCostFits : Action → Prop
  | attack attackType _ _ _ _ _ (some _) => attackType.endsWith "_SPEC" = true
  | _ => True

end Action

structure ActionsFit (ids : List String) (type : ActorType) (actions : List Action) : Prop where
  types : (actions.map Action.type).Nodup
  performer : ∀ a ∈ actions, a.performer = type
  specCost : ∀ a ∈ actions, a.SpecCostFits
  targets : ∀ a ∈ actions, ∀ target ∈ a.targetActorId, target ∈ ids

def CellFits (actors : List Actor) (tick : ℤ) (cell : Cell) : Prop :=
  ∃ actor ∈ actors, actor.id = cell.actorId ∧
    (∀ l ∈ actor.lifecycle, l.Covers tick) ∧
    ∀ actions ∈ cell.actions, ActionsFit (actors.map Actor.id) actor.type actions

/-- Both ends of the range that is displayed are ticks of the stage, in order. -/
structure Config.RangeFits (c : Config) : Prop where
  start : ∀ startTick ∈ c.startTick, 0 ≤ startTick ∧ startTick < c.totalTicks
  stop : ∀ endTick ∈ c.endTick, 0 ≤ endTick ∧ endTick < c.totalTicks
  order : ∀ startTick ∈ c.startTick, ∀ endTick ∈ c.endTick, startTick ≤ endTick

/-- A document that keeps the rules of the format. -/
structure Sound (doc : Document) : Prop where
  ids : (doc.timeline.actors.map Actor.id).Nodup
  lifecycles : ∀ actor ∈ doc.timeline.actors, ∀ l ∈ actor.lifecycle,
    l.Within doc.config.totalTicks
  rowOrder : ∀ rows ∈ doc.config.rowOrder, ∀ row ∈ rows,
    row ∈ doc.timeline.actors.map Actor.id
  range : doc.config.RangeFits
  ticks : TicksInOrder doc.config.totalTicks (doc.timeline.ticks.map Tick.tick)
  cellIds : ∀ tick ∈ doc.timeline.ticks, (tick.cells.map Cell.actorId).Nodup
  cells : ∀ tick ∈ doc.timeline.ticks, ∀ cell ∈ tick.cells,
    CellFits doc.timeline.actors tick.tick cell
  phases : ∀ phases ∈ doc.timeline.phases,
    TicksInOrder doc.config.totalTicks (phases.map Phase.tick)

/-! ### The table of actors -/

lemma ite_singleton_eq_nil {α : Type*} {p : Prop} [Decidable p] {a : α} :
    (if p then [a] else []) = [] ↔ ¬p := by
  split_ifs with h <;> simp [h]

lemma ite_nil_singleton_eq_nil {α : Type*} {p : Prop} [Decidable p] {a : α} :
    (if p then [] else [a]) = [] ↔ p := by
  split_ifs with h <;> simp [h]

lemma validateNpcLifecycle_eq_nil {totalTicks : ℤ} {i : ℕ} {l : NpcLifecycle} :
    validateNpcLifecycle totalTicks i l = [] ↔ l.Within totalTicks := by
  obtain ⟨spawnTick, deathTick⟩ := l
  unfold validateNpcLifecycle NpcLifecycle.Within
  cases deathTick with
  | none =>
    simp only [List.append_nil, ite_singleton_eq_nil, Option.mem_def, reduceCtorEq,
      false_implies, implies_true, and_true]
    omega
  | some d =>
    simp only [List.append_eq_nil_iff, ite_singleton_eq_nil, Option.mem_def, Option.some.injEq,
      forall_eq']
    omega

def ActorTable.add (table : ActorTable) (actor : Actor) : ActorTable where
  actors := Function.update table.actors actor.id (some actor.type)
  npcLifecycles :=
    match actor.lifecycle with
    | some l => Function.update table.npcLifecycles actor.id (some l)
    | none => table.npcLifecycles

lemma validateActors_cons (totalTicks : ℤ) (i : ℕ) (table : ActorTable) (actor : Actor)
    (actors : List Actor) :
    (validateActors totalTicks i table (actor :: actors)).1 =
        (validateActors totalTicks (i + 1) (table.add actor) actors).1 ∧
      ((validateActors totalTicks i table (actor :: actors)).2 = [] ↔
        table.actors actor.id = none ∧ (∀ l ∈ actor.lifecycle, l.Within totalTicks) ∧
          (validateActors totalTicks (i + 1) (table.add actor) actors).2 = []) := by
  cases actor with
  | player id name =>
    refine ⟨rfl, ?_⟩
    simp only [validateActors, List.append_eq_nil_iff, ite_singleton_eq_nil,
      Option.isSome_iff_ne_none, not_not, ActorTable.add, Actor.lifecycle, Option.mem_def,
      reduceCtorEq, false_implies, implies_true, true_and]
  | npc id name npcId spawnTick deathTick =>
    refine ⟨rfl, ?_⟩
    simp only [validateActors, List.append_eq_nil_iff, ite_singleton_eq_nil,
      Option.isSome_iff_ne_none, not_not, ActorTable.add, Actor.lifecycle, Option.mem_def,
      Option.some.injEq, forall_eq', validateNpcLifecycle_eq_nil, and_assoc]
    rfl

lemma validateActors_of_notMem {totalTicks : ℤ} {actors : List Actor} {i : ℕ}
    (table : ActorTable) {id : String} (h : id ∉ actors.map Actor.id) :
    (validateActors totalTicks i table actors).1.actors id = table.actors id ∧
      (validateActors totalTicks i table actors).1.npcLifecycles id =
        table.npcLifecycles id := by
  induction actors generalizing i table with
  | nil => exact ⟨rfl, rfl⟩
  | cons actor actors ih =>
    rw [List.map_cons, List.mem_cons, not_or] at h
    rw [(validateActors_cons totalTicks i table actor actors).1]
    obtain ⟨hactors, hlives⟩ := ih (i := i + 1) (table.add actor) h.2
    refine ⟨hactors.trans (Function.update_of_ne h.1 _ _), hlives.trans ?_⟩
    unfold ActorTable.add
    cases actor.lifecycle with
    | none => rfl
    | some l => exact Function.update_of_ne h.1 _ _

lemma validateActors_of_mem {totalTicks : ℤ} {actors : List Actor} {i : ℕ} {table : ActorTable}
    (hnd : (actors.map Actor.id).Nodup)
    (hnew : ∀ actor ∈ actors, table.npcLifecycles actor.id = none) {actor : Actor}
    (h : actor ∈ actors) :
    (validateActors totalTicks i table actors).1.actors actor.id = some actor.type ∧
      (validateActors totalTicks i table actors).1.npcLifecycles actor.id =
        actor.lifecycle := by
  induction actors generalizing i table with
  | nil => cases h
  | cons first actors ih =>
    obtain ⟨hfirst, hnd⟩ := List.nodup_cons.mp hnd
    rw [(validateActors_cons totalTicks i table first actors).1]
    rcases List.mem_cons.mp h with rfl | h
    · have hkept := @validateActors_of_notMem totalTicks actors (i + 1) (table.add actor) _ hfirst
      refine ⟨hkept.1.trans (Function.update_self _ _ _), hkept.2.trans ?_⟩
      unfold ActorTable.add
      cases hl : actor.lifecycle with
      | none => exact hnew actor List.mem_cons_self
      | some l => exact Function.update_self _ _ _
    · refine ih hnd (fun a ha => ?_) h
      have hne : a.id ≠ first.id := by
        intro heq
        exact hfirst (heq ▸ List.mem_map_of_mem ha)
      have := hnew a (List.mem_cons_of_mem _ ha)
      unfold ActorTable.add
      cases first.lifecycle with
      | none => exact this
      | some l => exact (Function.update_of_ne hne _ _).trans this

lemma ActorTable.add_new {table : ActorTable} {actor : Actor} {actors : List Actor} :
    (∀ a ∈ actors, (table.add actor).actors a.id = none) ↔
      actor.id ∉ actors.map Actor.id ∧ ∀ a ∈ actors, table.actors a.id = none := by
  have hadd : ∀ a : Actor, (table.add actor).actors a.id = none ↔
      a.id ≠ actor.id ∧ table.actors a.id = none := by
    intro a
    by_cases h : a.id = actor.id
    · simp [ActorTable.add, h]
    · simp [ActorTable.add, h]
  constructor
  · intro h
    refine ⟨fun hmem => ?_, fun a ha => ((hadd a).mp (h a ha)).2⟩
    obtain ⟨a, ha, heq⟩ := List.mem_map.mp hmem
    exact ((hadd a).mp (h a ha)).1 heq
  · rintro ⟨hid, h⟩ a ha
    exact (hadd a).mpr ⟨fun heq => hid (List.mem_map.mpr ⟨a, ha, heq⟩), h a ha⟩

lemma validateActors_eq_nil {totalTicks : ℤ} {actors : List Actor} {i : ℕ} {table : ActorTable} :
    (validateActors totalTicks i table actors).2 = [] ↔
      (∀ actor ∈ actors, table.actors actor.id = none) ∧ (actors.map Actor.id).Nodup ∧
        ∀ actor ∈ actors, ∀ l ∈ actor.lifecycle, l.Within totalTicks := by
  induction actors generalizing i table with
  | nil => simp [validateActors]
  | cons actor actors ih =>
    rw [(validateActors_cons totalTicks i table actor actors).2, ih, ActorTable.add_new,
      List.map_cons, List.nodup_cons, List.forall_mem_cons, List.forall_mem_cons]
    tauto

/-- What the table of a document's actors says of them. -/
structure ActorTable.Describes (table : ActorTable) (actors : List Actor) : Prop where
  isSome : ∀ id, (table.actors id).isSome ↔ id ∈ actors.map Actor.id
  type : ∀ actor ∈ actors, table.actors actor.id = some actor.type
  lifecycle : ∀ actor ∈ actors, table.npcLifecycles actor.id = actor.lifecycle
  others : ∀ id ∉ actors.map Actor.id, table.npcLifecycles id = none

lemma validateActors_describes (totalTicks : ℤ) {actors : List Actor}
    (hnd : (actors.map Actor.id).Nodup) :
    (validateActors totalTicks 0 {} actors).1.Describes actors where
  isSome id := by
    constructor
    · intro h
      by_contra hid
      rw [(validateActors_of_notMem {} hid).1] at h
      cases h
    · intro h
      obtain ⟨actor, hactor, rfl⟩ := List.mem_map.mp h
      rw [(validateActors_of_mem hnd (fun _ _ => rfl) hactor).1]
      rfl
  type _ h := (validateActors_of_mem hnd (fun _ _ => rfl) h).1
  lifecycle _ h := (validateActors_of_mem hnd (fun _ _ => rfl) h).2
  others _ h := (validateActors_of_notMem {} h).2

/-! ### Rows, ranges and ticks -/

lemma validateRowOrder_eq_nil {table : ActorTable} {rows : List String} {i : ℕ} :
    validateRowOrder table i rows = [] ↔ ∀ row ∈ rows, (table.actors row).isSome := by
  induction rows generalizing i with
  | nil => simp [validateRowOrder]
  | cons row rows ih =>
    rw [validateRowOrder, List.append_eq_nil_iff, ite_nil_singleton_eq_nil, ih,
      List.forall_mem_cons]

lemma validateDisplayRange_eq_nil {c : Config} : validateDisplayRange c = [] ↔ c.RangeFits := by
  obtain ⟨totalTicks, rowOrder, startTick, endTick⟩ := c
  have hfits : ∀ c : Config, c.RangeFits ↔
      (∀ startTick ∈ c.startTick, 0 ≤ startTick ∧ startTick < c.totalTicks) ∧
      (∀ endTick ∈ c.endTick, 0 ≤ endTick ∧ endTick < c.totalTicks) ∧
      ∀ startTick ∈ c.startTick, ∀ endTick ∈ c.endTick, startTick ≤ endTick :=
    fun c => ⟨fun h => ⟨h.start, h.stop, h.order⟩, fun h => ⟨h.1, h.2.1, h.2.2⟩⟩
  rw [hfits]
  unfold validateDisplayRange
  cases startTick <;> cases endTick <;>
    simp only [List.append_eq_nil_iff, ite_singleton_eq_nil, Option.mem_def, reduceCtorEq,
      false_implies, implies_true, Option.some.injEq, forall_eq', and_true, true_and] <;>
    omega

lemma validateTickIndexedArray_eq_nil {totalTicks : ℤ} {path item : String} {ticks : List ℤ}
    {i : ℕ} {seen : List ℤ} {last : Option ℤ} (hlast : ∀ t ∈ last, t ∈ seen)
    (hseen : ∀ s ∈ seen, ∃ t ∈ last, s ≤ t) :
    validateTickIndexedArray totalTicks path item i seen last ticks = [] ↔
      (∀ s ∈ seen, ∀ t ∈ ticks, s < t) ∧ TicksInOrder totalTicks ticks := by
  induction ticks generalizing i seen last with
  | nil => simp [validateTickIndexedArray, TicksInOrder]
  | cons tick ticks ih =>
    have hrest := @ih (i + 1) (tick :: seen) (some tick)
    have hfirst : (tick ∉ seen ∧ ∀ t ∈ last, ¬tick < t) ↔ ∀ s ∈ seen, s < tick := by
      constructor
      · rintro ⟨hnew, horder⟩ s hs
        obtain ⟨t, ht, hst⟩ := hseen s hs
        have hle := horder t ht
        have hne : s ≠ tick := fun heq => hnew (heq ▸ hs)
        omega
      · intro h
        refine ⟨fun hmem => (h tick hmem).false, fun t ht => ?_⟩
        have := h t (hlast t ht)
        omega
    have hstep : validateTickIndexedArray totalTicks path item i seen last (tick :: ticks) = [] ↔
        (tick ∉ seen ∧ ∀ t ∈ last, ¬tick < t) ∧ (0 ≤ tick ∧ tick < totalTicks) ∧
          validateTickIndexedArray totalTicks path item (i + 1) (tick :: seen) (some tick)
            ticks = [] := by
      cases last <;>
        simp only [validateTickIndexedArray, List.append_eq_nil_iff, ite_singleton_eq_nil,
          ite_nil_singleton_eq_nil, Option.mem_def, reduceCtorEq, false_implies, implies_true,
          Option.some.injEq, forall_eq', and_true, and_assoc, List.append_nil]
    rw [hstep, hfirst]
    constructor
    · rintro ⟨hlow, hbounds, hrec⟩
      have hbelow : ∀ s ∈ tick :: seen, ∃ t ∈ some tick, s ≤ t := by
        rintro s (_ | ⟨_, hs⟩)
        · exact ⟨tick, rfl, le_rfl⟩
        · exact ⟨tick, rfl, (hlow s hs).le⟩
      obtain ⟨habove, hpairwise, hwithin⟩ := (hrest (by simp) hbelow).mp hrec
      rw [List.forall_mem_cons] at habove
      refine ⟨fun s hs t ht => ?_, List.pairwise_cons.mpr ⟨habove.1, hpairwise⟩, ?_⟩
      · rcases List.mem_cons.mp ht with rfl | ht
        · exact hlow s hs
        · exact habove.2 s hs t ht
      · exact List.forall_mem_cons.mpr ⟨hbounds, hwithin⟩
    · rintro ⟨hlow, hpairwise, hwithin⟩
      obtain ⟨habove, hpairwise⟩ := List.pairwise_cons.mp hpairwise
      obtain ⟨hbounds, hwithin⟩ := List.forall_mem_cons.mp hwithin
      have hbelow : ∀ s ∈ tick :: seen, ∃ t ∈ some tick, s ≤ t := by
        rintro s (_ | ⟨_, hs⟩)
        · exact ⟨tick, rfl, le_rfl⟩
        · exact ⟨tick, rfl, (hlow s hs tick List.mem_cons_self).le⟩
      refine ⟨fun s hs => hlow s hs tick List.mem_cons_self, hbounds,
        (hrest (by simp) hbelow).mpr ⟨?_, hpairwise, hwithin⟩⟩
      exact List.forall_mem_cons.mpr ⟨habove, fun s hs t ht => hlow s hs t (by simp [ht])⟩

/-! ### Cells and actions -/

lemma validateActorType_eq_nil {path : String} {type : ActorType} {a : Action} :
    validateActorType path (some type) a = [] ↔ a.performer = type := by
  cases type <;> cases a <;>
    simp [validateActorType, Action.performer, Action.type, npcActions, playerActions]

lemma validateSpecCost_eq_nil {path : String} {a : Action} :
    validateSpecCost path a = [] ↔ a.SpecCostFits := by
  unfold validateSpecCost Action.SpecCostFits
  split
  · exact ite_nil_singleton_eq_nil
  · simp

lemma validateTarget_eq_nil {table : ActorTable} {path : String} {a : Action} :
    validateTarget table path a = [] ↔
      ∀ target ∈ a.targetActorId, (table.actors target).isSome := by
  unfold validateTarget
  cases a.targetActorId with
  | none => simp
  | some target =>
    simp only [ite_nil_singleton_eq_nil, Option.mem_def, Option.some.injEq, forall_eq']

lemma validateActions_eq_nil {table : ActorTable} {actors : List Actor}
    (htable : table.Describes actors) {actor : Actor} (h : actor ∈ actors) {path : String}
    {actions : List Action} {k : ℕ} {types : List String} :
    validateActions table actor.id path k types actions = [] ↔
      (∀ a ∈ actions, a.type ∉ types) ∧
        ActionsFit (actors.map Actor.id) actor.type actions := by
  induction actions generalizing k types with
  | nil =>
    simp only [validateActions, List.not_mem_nil, false_implies, implies_true, true_and, true_iff]
    constructor <;> simp
  | cons a actions ih =>
    simp only [validateActions, List.append_eq_nil_iff, ite_singleton_eq_nil, htable.type actor h,
      validateActorType_eq_nil, validateSpecCost_eq_nil, validateTarget_eq_nil, htable.isSome, ih,
      and_assoc]
    constructor
    · rintro ⟨hperformer, hnew, hcost, htarget, htypes, hfit⟩
      refine ⟨List.forall_mem_cons.mpr ⟨hnew, fun b hb hmem => ?_⟩, ?_, ?_, ?_, ?_⟩
      · exact htypes b hb (List.mem_cons_of_mem _ hmem)
      · refine List.nodup_cons.mpr ⟨fun hmem => ?_, hfit.types⟩
        obtain ⟨b, hb, heq⟩ := List.mem_map.mp hmem
        exact htypes b hb (heq ▸ List.mem_cons_self)
      · exact List.forall_mem_cons.mpr ⟨hperformer, hfit.performer⟩
      · exact List.forall_mem_cons.mpr ⟨hcost, hfit.specCost⟩
      · exact List.forall_mem_cons.mpr ⟨htarget, hfit.targets⟩
    · rintro ⟨hnew, htypes, hperformer, hcost, htarget⟩
      obtain ⟨hfirst, htypes⟩ := List.nodup_cons.mp htypes
      rw [List.forall_mem_cons] at hnew hperformer hcost htarget
      refine ⟨hperformer.1, hnew.1, hcost.1, htarget.1, fun b hb hmem => ?_,
        ⟨htypes, hperformer.2, hcost.2, htarget.2⟩⟩
      rcases List.mem_cons.mp hmem with heq | hmem
      · exact hfirst (List.mem_map.mpr ⟨b, hb, heq⟩)
      · exact hnew.2 b hb hmem

lemma validateLifetime_eq_nil {lifecycle : Option NpcLifecycle} {path actorId : String}
    {tick : ℤ} :
    validateLifetime lifecycle path actorId tick = [] ↔ ∀ l ∈ lifecycle, l.Covers tick := by
  unfold validateLifetime NpcLifecycle.Covers
  rcases lifecycle with _ | ⟨spawnTick, _ | deathTick⟩
  · simp
  all_goals
    simp only [List.append_eq_nil_iff, ite_singleton_eq_nil, Option.mem_def, Option.some.injEq,
      forall_eq', reduceCtorEq, false_implies, implies_true, and_true]
    omega

lemma validateCell_actions_eq_nil {table : ActorTable} {actors : List Actor}
    (htable : table.Describes actors) {path : String} {actor : Actor} (h : actor ∈ actors)
    {cell : Cell} (heq : actor.id = cell.actorId) :
    (match cell.actions with
      | some actions => validateActions table cell.actorId path 0 [] actions
      | none => []) = [] ↔
      ∀ actions ∈ cell.actions, ActionsFit (actors.map Actor.id) actor.type actions := by
  cases cell.actions with
  | none => simp
  | some actions =>
    rw [← heq, validateActions_eq_nil htable h]
    simp

lemma validateCell_eq_nil {table : ActorTable} {actors : List Actor}
    (htable : table.Describes actors) {path : String} {tick : ℤ} {cell : Cell} :
    validateCell table path tick cell = [] ↔ CellFits actors tick cell := by
  simp only [validateCell, List.append_eq_nil_iff, ite_nil_singleton_eq_nil, htable.isSome,
    validateLifetime_eq_nil, and_assoc]
  constructor
  · rintro ⟨hknown, hlife, hacts⟩
    obtain ⟨actor, h, heq⟩ := List.mem_map.mp hknown
    rw [← heq, htable.lifecycle actor h] at hlife
    exact ⟨actor, h, heq, hlife, (validateCell_actions_eq_nil htable h heq).mp hacts⟩
  · rintro ⟨actor, h, heq, hlife, hacts⟩
    refine ⟨heq ▸ List.mem_map_of_mem h, ?_, (validateCell_actions_eq_nil htable h heq).mpr hacts⟩
    rw [← heq, htable.lifecycle actor h]
    exact hlife

lemma validateCells_eq_nil {table : ActorTable} {actors : List Actor}
    (htable : table.Describes actors) {i : ℕ} {tick : ℤ} {cells : List Cell} {j : ℕ}
    {seen : List String} :
    validateCells table i tick j seen cells = [] ↔
      (∀ c ∈ cells, c.actorId ∉ seen) ∧ (cells.map Cell.actorId).Nodup ∧
        ∀ c ∈ cells, CellFits actors tick c := by
  induction cells generalizing j seen with
  | nil => simp [validateCells]
  | cons c cells ih =>
    simp only [validateCells, List.append_eq_nil_iff, ite_singleton_eq_nil, ih,
      validateCell_eq_nil htable, List.map_cons, List.nodup_cons, List.forall_mem_cons]
    have hseen : (∀ d ∈ cells, d.actorId ∉ c.actorId :: seen) ↔
        c.actorId ∉ cells.map Cell.actorId ∧ ∀ d ∈ cells, d.actorId ∉ seen := by
      simp only [List.mem_cons, not_or, List.mem_map, not_exists, not_and]
      exact ⟨fun h => ⟨fun d hd => (h d hd).1, fun d hd => (h d hd).2⟩,
        fun h d hd => ⟨h.1 d hd, h.2 d hd⟩⟩
    rw [hseen]
    tauto

lemma validateTickCells_eq_nil {table : ActorTable} {actors : List Actor}
    (htable : table.Describes actors) {ticks : List Tick} {i : ℕ} :
    validateTickCells table i ticks = [] ↔
      ∀ t ∈ ticks, (t.cells.map Cell.actorId).Nodup ∧
        ∀ c ∈ t.cells, CellFits actors t.tick c := by
  induction ticks generalizing i with
  | nil => simp [validateTickCells]
  | cons t ticks ih =>
    rw [validateTickCells, List.append_eq_nil_iff, validateCells_eq_nil htable, ih,
      List.forall_mem_cons]
    simp

/-! ### The document -/

lemma optionalRowOrder_eq_nil {table : ActorTable} {rowOrder : Option (List String)} :
    (match rowOrder with
      | some rowOrder => validateRowOrder table 0 rowOrder
      | none => []) = [] ↔ ∀ rows ∈ rowOrder, ∀ row ∈ rows, (table.actors row).isSome := by
  cases rowOrder <;> simp [validateRowOrder_eq_nil]

lemma optionalPhases_eq_nil {totalTicks : ℤ} {path item : String} {phases : Option (List Phase)} :
    (match phases with
      | some phases =>
        validateTickIndexedArray totalTicks path item 0 [] none (phases.map Phase.tick)
      | none => []) = [] ↔
      ∀ given ∈ phases,
        validateTickIndexedArray totalTicks path item 0 [] none (given.map Phase.tick) = [] := by
  cases phases <;> simp

/-- **The validator reports nothing exactly for sound documents.** -/
theorem validateSemantics_eq_nil_iff (doc : Document) : validateSemantics doc = [] ↔ Sound doc := by
  have harray : ∀ path item ticks,
      validateTickIndexedArray doc.config.totalTicks path item 0 [] none ticks = [] ↔
        TicksInOrder doc.config.totalTicks ticks := by
    intro path item ticks
    rw [validateTickIndexedArray_eq_nil (by simp) (by simp)]
    simp
  have hrules : validateSemantics doc = [] ↔
      (validateActors doc.config.totalTicks 0 {} doc.timeline.actors).2 = [] ∧
        (∀ rows ∈ doc.config.rowOrder, ∀ row ∈ rows,
          ((validateActors doc.config.totalTicks 0 {} doc.timeline.actors).1.actors row).isSome) ∧
        validateDisplayRange doc.config = [] ∧
        TicksInOrder doc.config.totalTicks (doc.timeline.ticks.map Tick.tick) ∧
        validateTickCells (validateActors doc.config.totalTicks 0 {} doc.timeline.actors).1 0
          doc.timeline.ticks = [] ∧
        ∀ phases ∈ doc.timeline.phases,
          TicksInOrder doc.config.totalTicks (phases.map Phase.tick) := by
    rw [← optionalRowOrder_eq_nil, ← harray "/timeline/ticks" "tick"]
    simp only [← harray "/timeline/phases" "phase tick"]
    rw [← optionalPhases_eq_nil]
    constructor
    · intro h
      simp only [validateSemantics, List.append_eq_nil_iff, and_assoc] at h
      exact h
    · intro h
      simp only [validateSemantics, List.append_eq_nil_iff, and_assoc]
      exact h
  rw [hrules, validateActors_eq_nil, validateDisplayRange_eq_nil]
  constructor
  · rintro ⟨⟨-, hids, hlives⟩, hrow, hrange, hticks, hcells, hph⟩
    have htable := validateActors_describes doc.config.totalTicks hids
    rw [validateTickCells_eq_nil htable] at hcells
    exact ⟨hids, hlives, fun rows hr row h => (htable.isSome row).mp (hrow rows hr row h), hrange,
      hticks, fun t ht => (hcells t ht).1, fun t ht => (hcells t ht).2, hph⟩
  · rintro ⟨hids, hlives, hrow, hrange, hticks, hcellIds, hcells, hph⟩
    have htable := validateActors_describes doc.config.totalTicks hids
    refine ⟨⟨fun _ _ => rfl, hids, hlives⟩,
      fun rows hr row h => (htable.isSome row).mpr (hrow rows hr row h), hrange, hticks, ?_, hph⟩
    rw [validateTickCells_eq_nil htable]
    exact fun t ht => ⟨hcellIds t ht, hcells t ht⟩

/-! ### Dropping actions -/

lemma Drops.filterMap {f : Action → Option Action} (hf : Drops f) (actions : List Action) :
    (actions.filterMap f).Sublist actions := by
  induction actions with
  | nil => simp
  | cons a actions ih =>
    cases h : f a with
    | none => simpa [List.filterMap_cons_none h] using ih.cons a
    | some b =>
      obtain rfl := hf a b h
      simpa [List.filterMap_cons_some h] using ih.cons_cons b

lemma transformCellActions_sublist {f : Action → Option Action} (hf : Drops f)
    {actions : Option (List Action)} {left : List Action}
    (h : left ∈ transformCellActions f actions) : ∃ all ∈ actions, left.Sublist all := by
  cases actions with
  | none => cases h
  | some all =>
    simp only [transformCellActions, Option.mem_def] at h
    split_ifs at h
    cases h
    exact ⟨all, rfl, hf.filterMap all⟩

lemma ActionsFit.sublist {ids : List String} {type : ActorType} {actions left : List Action}
    (h : ActionsFit ids type actions) (hsub : left.Sublist actions) : ActionsFit ids type left where
  types := h.types.sublist (hsub.map _)
  performer a ha := h.performer a (hsub.subset ha)
  specCost a ha := h.specCost a (hsub.subset ha)
  targets a ha := h.targets a (hsub.subset ha)

/-- Dropping actions keeps a document sound. -/
theorem Sound.transformBcf {doc : Document} (h : Sound doc) {f : Action → Option Action}
    (hf : Drops f) : Sound (transformBcf doc f) where
  ids := h.ids
  lifecycles := h.lifecycles
  rowOrder := h.rowOrder
  range := h.range
  ticks := by
    have hticks : (Bcf.transformBcf doc f).timeline.ticks.map Tick.tick =
        doc.timeline.ticks.map Tick.tick := by simp [Bcf.transformBcf]
    exact hticks ▸ h.ticks
  cellIds tick htick := by
    obtain ⟨t, ht, rfl⟩ := List.mem_map.mp htick
    simpa [Function.comp_def] using h.cellIds t ht
  cells tick htick cell hcell := by
    obtain ⟨t, ht, rfl⟩ := List.mem_map.mp htick
    obtain ⟨c, hc, rfl⟩ := List.mem_map.mp hcell
    obtain ⟨actor, hactor, hid, hlife, hfit⟩ := h.cells t ht c hc
    refine ⟨actor, hactor, hid, hlife, fun left hleft => ?_⟩
    obtain ⟨all, hall, hsub⟩ := transformCellActions_sublist hf hleft
    exact (hfit all hall).sublist hsub
  phases := h.phases

end Blert.Bcf

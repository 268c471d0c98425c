import Blert.Bcf.Sound

/-!
Documents of later minor versions of the chart format.

A document that is read leniently may hold actions of types that are not known yet. Only what the
semantic rules and the resolver read of an action is kept: its type, the type of an attack, its
target and the special attack energy it costs.
-/

namespace Blert.Bcf.Lax

structure Action where
  type : String
  attackType : Option String := none
  targetActorId : Option String := none
  specCost : Option ℤ := none
  deriving DecidableEq

structure State where
  isDead : Option Bool := none
  offCooldown : Option Bool := none
  specEnergy : Option ℤ := none
  deriving DecidableEq

structure Cell where
  actorId : String
  actions : Option (List Action) := none
  state : Option State := none
  deriving DecidableEq

structure Tick where
  tick : ℤ
  cells : List Cell
  deriving DecidableEq

structure Timeline where
  actors : List Actor
  ticks : List Tick
  phases : Option (List Phase)
  deriving DecidableEq

structure Document where
  version : String
  config : Config
  timeline : Timeline
  deriving DecidableEq

/-! ### The semantic rules -/

/-- An action of a known type that the actor cannot perform. Actions of other types are allowed
for any actor. -/
def validateActorType (path : String) (actorType : Option ActorType) (type : String) :
    List ValidationError :=
  match actorType with
  | some actorType =>
    if npcActions.contains type ∧ actorType ≠ .npc then
      [⟨path, s!"{actorType.name} actor cannot perform \"{type}\" action"⟩]
    else if playerActions.contains type ∧ actorType ≠ .player then
      [⟨path, s!"{actorType.name} actor cannot perform \"{type}\" action"⟩]
    else []
  | none => []

def validateSpecCost (path : String) (action : Action) : List ValidationError :=
  if action.type = "attack" then
    match action.specCost with
    | some _ =>
      if (action.attackType.getD "").endsWith "_SPEC" then []
      else
        [⟨s!"{path}/specCost",
          "specCost can only be set for attacks with attackType ending in \"_SPEC\""⟩]
    | none => []
  else []

def validateTarget (table : ActorTable) (path : String) (action : Action) :
    List ValidationError :=
  match action.targetActorId with
  | some target =>
    if (table.actors target).isSome then []
    else [⟨s!"{path}/targetActorId", s!"Target actor ID \"{target}\" does not exist"⟩]
  | none => []

def validateActions (table : ActorTable) (actorId cellPath : String) :
    ℕ → List String → List Action → List ValidationError
  | _, _, [] => []
  | k, actionTypes, action :: actions =>
    let path := s!"{cellPath}/actions/{k}"
    validateActorType path (table.actors actorId) action.type ++
    (if action.type ∈ actionTypes then
      [⟨path, s!"Duplicate action type \"{action.type}\" in cell"⟩]
    else []) ++
    validateSpecCost path action ++
    validateTarget table path action ++
    validateActions table actorId cellPath (k + 1) (action.type :: actionTypes) actions

def validateCell (table : ActorTable) (cellPath : String) (tick : ℤ) (cell : Cell) :
    List ValidationError :=
  let path := s!"{cellPath}/actorId"
  (if (table.actors cell.actorId).isSome then []
  else [⟨path, s!"Actor ID \"{cell.actorId}\" does not exist"⟩]) ++
  validateLifetime (table.npcLifecycles cell.actorId) path cell.actorId tick ++
  match cell.actions with
  | some actions => validateActions table cell.actorId cellPath 0 [] actions
  | none => []

def validateCells (table : ActorTable) (tickIndex : ℕ) (tick : ℤ) :
    ℕ → List String → List Cell → List ValidationError
  | _, _, [] => []
  | j, seenActorIds, cell :: cells =>
    let cellPath := s!"/timeline/ticks/{tickIndex}/cells/{j}"
    (if cell.actorId ∈ seenActorIds then
      [⟨s!"{cellPath}/actorId", s!"Duplicate actor ID \"{cell.actorId}\" in tick"⟩]
    else []) ++
    validateCell table cellPath tick cell ++
    validateCells table tickIndex tick (j + 1) (cell.actorId :: seenActorIds) cells

def validateTickCells (table : ActorTable) : ℕ → List Tick → List ValidationError
  | _, [] => []
  | i, tick :: ticks =>
    validateCells table i tick.tick 0 [] tick.cells ++ validateTickCells table (i + 1) ticks

/-- The errors of a document, in the order in which the rules are checked. -/
def validateSemantics (doc : Document) : List ValidationError :=
  let totalTicks := doc.config.totalTicks
  let (table, actorErrors) := validateActors totalTicks 0 {} doc.timeline.actors
  actorErrors ++
  (match doc.config.rowOrder with
  | some rowOrder => validateRowOrder table 0 rowOrder
  | none => []) ++
  validateDisplayRange doc.config ++
  validateTickIndexedArray totalTicks "/timeline/ticks" "tick" 0 [] none
    (doc.timeline.ticks.map Tick.tick) ++
  validateTickCells table 0 doc.timeline.ticks ++
  match doc.timeline.phases with
  | some phases =>
    validateTickIndexedArray totalTicks "/timeline/phases" "phase tick" 0 [] none
      (phases.map Phase.tick)
  | none => []

/-! ### Sound documents -/

/-- Who can perform an action of a known type. -/
def Action.AllowedFor (type : ActorType) (a : Action) : Prop :=
  (a.type ∈ npcActions → type = .npc) ∧ (a.type ∈ playerActions → type = .player)

/-- Only a special attack has a cost of special attack energy. -/
def Action.SpecCostFits (a : Action) : Prop :=
  a.type = "attack" → a.specCost.isSome → (a.attackType.getD "").endsWith "_SPEC" = true

structure ActionsFit (ids : List String) (type : ActorType) (actions : List Action) : Prop where
  types : (actions.map Action.type).Nodup
  allowed : ∀ a ∈ actions, a.AllowedFor type
  specCost : ∀ a ∈ actions, a.SpecCostFits
  targets : ∀ a ∈ actions, ∀ target ∈ a.targetActorId, target ∈ ids

def CellFits (Lives : Actor → ℤ → Cell → Prop) (actors : List Actor) (tick : ℤ) (cell : Cell) :
    Prop :=
  ∃ actor ∈ actors, actor.id = cell.actorId ∧ Lives actor tick cell ∧
    ∀ actions ∈ cell.actions, ActionsFit (actors.map Actor.id) actor.type actions

/-- The semantic rules of the format, for a rule on lifecycles and one on the cells of an actor
within its lifetime. -/
structure Keeps (LifecycleFits : ℤ → Actor → Prop) (Lives : Actor → ℤ → Cell → Prop)
    (doc : Document) : Prop where
  ids : (doc.timeline.actors.map Actor.id).Nodup
  lifecycles : ∀ actor ∈ doc.timeline.actors, LifecycleFits doc.config.totalTicks actor
  rowOrder : ∀ rows ∈ doc.config.rowOrder, rows.Nodup ∧ rows ≠ [] ∧
    ∀ row ∈ rows, row ∈ doc.timeline.actors.map Actor.id
  range : doc.config.RangeFits
  ticks : TicksInOrder doc.config.totalTicks (doc.timeline.ticks.map Tick.tick)
  cellIds : ∀ tick ∈ doc.timeline.ticks, (tick.cells.map Cell.actorId).Nodup
  cells : ∀ tick ∈ doc.timeline.ticks, ∀ cell ∈ tick.cells,
    CellFits Lives doc.timeline.actors tick.tick cell
  phases : ∀ phases ∈ doc.timeline.phases,
    TicksInOrder doc.config.totalTicks (phases.map Phase.tick)

/-- A lifetime lies within the stage, and ends after it starts. -/
def LivesWithin (totalTicks : ℤ) (actor : Actor) : Prop :=
  ∀ l ∈ actor.lifecycle, l.Within totalTicks

def HasCellsAlive (actor : Actor) (tick : ℤ) (_cell : Cell) : Prop :=
  ∀ l ∈ actor.lifecycle, l.Covers tick

/-- A document that keeps the rules as they are checked. -/
def Sound (doc : Document) : Prop := Keeps LivesWithin HasCellsAlive doc

end Blert.Bcf.Lax

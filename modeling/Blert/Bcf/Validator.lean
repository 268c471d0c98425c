import Blert.Bcf.Document

/-!
The semantic rules of the chart format.

The validator goes through the actors, the row order, the range that is displayed, the ticks with
their cells, and the phases, and reports every rule that is broken. It reports nothing exactly
when the document is sound.
-/

namespace Blert.Bcf

structure ValidationError where
  path : String
  message : String
  deriving DecidableEq

def playerActions : List String := ["attack", "spell", "utility", "death"]

def npcActions : List String := ["npcAttack", "npcPhase"]

structure NpcLifecycle where
  spawnTick : ℤ
  deathTick : Option ℤ

/-- The actors seen so far: their types, and the lifecycles of NPCs, by ID. -/
structure ActorTable where
  actors : String → Option ActorType := fun _ => none
  npcLifecycles : String → Option NpcLifecycle := fun _ => none

def ActorType.name : ActorType → String
  | player => "player"
  | npc => "npc"

/-! ### Rules for actors and ranges -/

def outOfBounds (path name : String) (totalTicks : ℤ) : ValidationError :=
  ⟨path, s!"{name} is out of bounds [0, {totalTicks})"⟩

def validateNpcLifecycle (totalTicks : ℤ) (index : ℕ) (lifecycle : NpcLifecycle) :
    List ValidationError :=
  let spawnPath := s!"/timeline/actors/{index}/spawnTick"
  let deathPath := s!"/timeline/actors/{index}/deathTick"
  (if lifecycle.spawnTick < 0 ∨ lifecycle.spawnTick ≥ totalTicks then
    [outOfBounds spawnPath "spawnTick" totalTicks]
  else []) ++
  match lifecycle.deathTick with
  | some deathTick =>
    (if deathTick < 0 ∨ deathTick ≥ totalTicks then
      [outOfBounds deathPath "deathTick" totalTicks]
    else []) ++
    if deathTick ≤ lifecycle.spawnTick then
      [⟨deathPath, "deathTick must be greater than spawnTick"⟩]
    else []
  | none => []

def validateActors (totalTicks : ℤ) : ℕ → ActorTable → List Actor →
    ActorTable × List ValidationError
  | _, table, [] => (table, [])
  | i, table, actor :: actors =>
    let duplicate :=
      if (table.actors actor.id).isSome then
        [⟨s!"/timeline/actors/{i}/id", s!"Duplicate actor ID: \"{actor.id}\""⟩]
      else []
    let table := { table with actors := Function.update table.actors actor.id (some actor.type) }
    match actor with
    | .player _ _ =>
      let rest := validateActors totalTicks (i + 1) table actors
      (rest.1, duplicate ++ rest.2)
    | .npc id _ _ spawnTick deathTick =>
      let lifecycle : NpcLifecycle := ⟨spawnTick.getD 0, deathTick⟩
      let table :=
        { table with npcLifecycles := Function.update table.npcLifecycles id (some lifecycle) }
      let rest := validateActors totalTicks (i + 1) table actors
      (rest.1, duplicate ++ validateNpcLifecycle totalTicks i lifecycle ++ rest.2)

def validateRowOrder (table : ActorTable) : ℕ → List String → List ValidationError
  | _, [] => []
  | i, rowId :: rows =>
    (if (table.actors rowId).isSome then []
    else
      [⟨s!"/config/rowOrder/{i}", s!"Row ID \"{rowId}\" does not reference an actor"⟩]) ++
    validateRowOrder table (i + 1) rows

def validateDisplayRange (config : Config) : List ValidationError :=
  let totalTicks := config.totalTicks
  (match config.startTick with
  | some startTick =>
    (if startTick < 0 ∨ startTick ≥ totalTicks then
      [outOfBounds "/config/startTick" "startTick" totalTicks]
    else []) ++
    match config.endTick with
    | some endTick =>
      if startTick > endTick then
        [⟨"/config/startTick", "startTick must be less than or equal to endTick"⟩]
      else []
    | none => []
  | none => []) ++
  match config.endTick with
  | some endTick =>
    if endTick < 0 ∨ endTick ≥ totalTicks then
      [outOfBounds "/config/endTick" "endTick" totalTicks]
    else []
  | none => []

/-- Ordering, uniqueness and bounds of the ticks of an array. -/
def validateTickIndexedArray (totalTicks : ℤ) (basePath itemName : String) :
    ℕ → List ℤ → Option ℤ → List ℤ → List ValidationError
  | _, _, _, [] => []
  | i, seenTicks, lastTick, tick :: ticks =>
    let path := s!"{basePath}/{i}/tick"
    (if tick ∈ seenTicks then [⟨path, s!"Duplicate {itemName} number: {tick}"⟩] else []) ++
    (match lastTick with
    | some last =>
      if tick < last then
        [⟨path, s!"{itemName} {tick} is out of order (previous was {last})"⟩]
      else []
    | none => []) ++
    (if 0 ≤ tick ∧ tick < totalTicks then []
    else [outOfBounds path s!"{itemName} {tick}" totalTicks]) ++
    validateTickIndexedArray totalTicks basePath itemName (i + 1) (tick :: seenTicks) (some tick)
      ticks

/-! ### Rules for cells and actions -/

def validateActorType (path : String) (actorType : Option ActorType) (action : Action) :
    List ValidationError :=
  match actorType with
  | some actorType =>
    if npcActions.contains action.type ∧ actorType ≠ .npc then
      [⟨path, s!"{actorType.name} actor cannot perform \"{action.type}\" action"⟩]
    else if playerActions.contains action.type ∧ actorType ≠ .player then
      [⟨path, s!"{actorType.name} actor cannot perform \"{action.type}\" action"⟩]
    else []
  | none => []

def validateSpecCost (path : String) : Action → List ValidationError
  | .attack attackType _ _ _ _ _ (some _) =>
    if attackType.endsWith "_SPEC" then []
    else
      [⟨s!"{path}/specCost",
        "specCost can only be set for attacks with attackType ending in \"_SPEC\""⟩]
  | _ => []

def validateTarget (table : ActorTable) (path : String) (action : Action) :
    List ValidationError :=
  match action.targetActorId with
  | some target =>
    if (table.actors target).isSome then []
    else [⟨s!"{path}/targetActorId", s!"Target actor ID \"{target}\" does not exist"⟩]
  | none => []

def validateActions (table : ActorTable) (actorId cellPath : String) :
    ℕ → List String → List Action → List ValidationError
  | _, _, [] => []
  | k, actionTypes, action :: actions =>
    let path := s!"{cellPath}/actions/{k}"
    validateActorType path (table.actors actorId) action ++
    (if action.type ∈ actionTypes then
      [⟨path, s!"Duplicate action type \"{action.type}\" in cell"⟩]
    else []) ++
    validateSpecCost path action ++
    validateTarget table path action ++
    validateActions table actorId cellPath (k + 1) (action.type :: actionTypes) actions

def validateLifetime (lifecycle : Option NpcLifecycle) (path actorId : String) (tick : ℤ) :
    List ValidationError :=
  match lifecycle with
  | some ⟨spawnTick, deathTick⟩ =>
    (if tick < spawnTick then
      [⟨path, s!"NPC \"{actorId}\" has cell before spawnTick ({spawnTick})"⟩]
    else []) ++
    match deathTick with
    | some deathTick =>
      if tick > deathTick then
        [⟨path, s!"NPC \"{actorId}\" has cell after deathTick ({deathTick})"⟩]
      else []
    | none => []
  | none => []

def validateCell (table : ActorTable) (cellPath : String) (tick : ℤ) (cell : Cell) :
    List ValidationError :=
  let path := s!"{cellPath}/actorId"
  (if (table.actors cell.actorId).isSome then []
  else [⟨path, s!"Actor ID \"{cell.actorId}\" does not exist"⟩]) ++
  validateLifetime (table.npcLifecycles cell.actorId) path cell.actorId tick ++
  match cell.actions with
  | some actions => validateActions table cell.actorId cellPath 0 [] actions
  | none => []

def validateCells (table : ActorTable) (tickIndex : ℕ) (tick : ℤ) :
    ℕ → List String → List Cell → List ValidationError
  | _, _, [] => []
  | j, seenActorIds, cell :: cells =>
    let cellPath := s!"/timeline/ticks/{tickIndex}/cells/{j}"
    (if cell.actorId ∈ seenActorIds then
      [⟨s!"{cellPath}/actorId", s!"Duplicate actor ID \"{cell.actorId}\" in tick"⟩]
    else []) ++
    validateCell table cellPath tick cell ++
    validateCells table tickIndex tick (j + 1) (cell.actorId :: seenActorIds) cells

def validateTickCells (table : ActorTable) : ℕ → List Tick → List ValidationError
  | _, [] => []
  | i, tick :: ticks =>
    validateCells table i tick.tick 0 [] tick.cells ++ validateTickCells table (i + 1) ticks

/-! ### The document -/

/-- The errors of a document, in the order in which the rules are checked. -/
def validateSemantics (doc : Document) : List ValidationError :=
  let totalTicks := doc.config.totalTicks
  let (table, actorErrors) := validateActors totalTicks 0 {} doc.timeline.actors
  actorErrors ++
  (match doc.config.rowOrder with
  | some rowOrder => validateRowOrder table 0 rowOrder
  | none => []) ++
  validateDisplayRange doc.config ++
  validateTickIndexedArray totalTicks "/timeline/ticks" "tick" 0 [] none
    (doc.timeline.ticks.map Tick.tick) ++
  validateTickCells table 0 doc.timeline.ticks ++
  match doc.timeline.phases with
  | some phases =>
    validateTickIndexedArray totalTicks "/timeline/phases" "phase tick" 0 [] none
      (phases.map Phase.tick)
  | none => []

end Blert.Bcf

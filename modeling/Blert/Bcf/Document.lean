import Mathlib.Tactic

/-!
Documents of the Blert chart format.

A document describes a fight as a grid: its actors are the rows, its ticks the columns, and a cell
holds the actions and the state of an actor on a tick.
-/

namespace Blert.Bcf

inductive Action
  | attack (attackType : String) (weaponId : Option ℕ) (weaponName : Option String)
      (targetActorId : Option String) (distanceToTarget : Option ℤ) (damage : Option ℤ)
      (specCost : Option ℕ)
  | spell (spellType : String) (targetActorId : Option String)
  | utility (utilityType : String)
  | death
  | npcAttack (attackType : String) (targetActorId : Option String)
  | npcPhase (phaseType : String)

namespace Action

/-- The type an action carries in the document. -/
def type : Action → String
  | attack _ _ _ _ _ _ _ => "attack"
  | spell _ _ => "spell"
  | utility _ => "utility"
  | death => "death"
  | npcAttack _ _ => "npcAttack"
  | npcPhase _ => "npcPhase"

def targetActorId : Action → Option String
  | attack _ _ _ target _ _ _ => target
  | spell _ target => target
  | npcAttack _ target => target
  | _ => none

end Action

inductive ActorType
  | player | npc
  deriving DecidableEq

inductive Actor
  | player (id name : String)
  | npc (id name : String) (npcId : ℕ) (spawnTick deathTick : Option ℤ)
  deriving DecidableEq

namespace Actor

def id : Actor → String
  | player id _ => id
  | npc id _ _ _ _ => id

def type : Actor → ActorType
  | player _ _ => .player
  | npc _ _ _ _ _ => .npc

end Actor

structure PlayerState where
  isDead : Option Bool := none
  offCooldown : Option Bool := none
  deriving DecidableEq

structure Cell where
  actorId : String
  actions : Option (List Action)
  state : Option PlayerState := none

structure Tick where
  tick : ℤ
  cells : List Cell

structure Phase where
  tick : ℤ
  phaseType : String
  deriving DecidableEq

structure Config where
  totalTicks : ℤ
  rowOrder : Option (List String)
  startTick : Option ℤ
  endTick : Option ℤ
  deriving DecidableEq

structure Timeline where
  actors : List Actor
  ticks : List Tick
  phases : Option (List Phase)

structure Document where
  version : String
  name : Option String
  description : Option String
  config : Config
  timeline : Timeline

/-! ### Transforming the actions -/

/-- Applies a transform to each action of a cell. Actions that it drops are left out, and a cell
without any has none. -/
def transformCellActions (transformAction : Action → Option Action) :
    Option (List Action) → Option (List Action)
  | none => none
  | some actions =>
    let newActions := actions.filterMap transformAction
    if newActions = [] then none else some newActions

def transformBcf (bcf : Document) (transformAction : Action → Option Action) : Document :=
  { bcf with
    timeline.ticks := bcf.timeline.ticks.map fun tick =>
      { tick with
        cells := tick.cells.map fun cell =>
          { cell with actions := transformCellActions transformAction cell.actions } } }

/-- A transform that keeps each action as it is or drops it. -/
def Drops (f : Action → Option Action) : Prop := ∀ a b, f a = some b → b = a

end Blert.Bcf

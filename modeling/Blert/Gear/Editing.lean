import Blert.Gear.Placement

/-!
Editing a gear setup.

The editor has a history of setups and stands at one of them. Edits cut off what has been undone
and put a new setup at the end, but updates with the same key that follow each other in time are
combined into one entry of the history.
-/

namespace Blert.Gear

structure GearSetup where
  title : String
  description : String
  challenge : ℕ
  players : List GearSetupPlayer
  deriving DecidableEq

inductive OperationMode
  | itemPlacement | selecting | selection | dragging | clipboardCut | clipboardCopy
  deriving DecidableEq

inductive ClipboardOperation
  | cut | copy
  deriving DecidableEq

structure Clipboard where
  region : SelectionRegion
  operation : ClipboardOperation
  pasteMode : PlacementMode
  deriving DecidableEq

/-- An entry that consecutive updates with the same key are combined into. -/
structure Coalesce where
  key : String
  position : ℕ
  lastAt : ℤ
  deriving DecidableEq

structure EditableGearSetup where
  history : List GearSetup
  position : ℕ
  coalesce : Option Coalesce
  modified : Bool
  operationMode : OperationMode
  selection : Option SelectionRegion
  clipboard : Option Clipboard
  placementOffset : Option (ℤ × ℤ)
  deriving DecidableEq

def COALESCE_WINDOW_MS : ℤ := 2500

inductive Command
  | update (updater : GearSetup → GearSetup) (coalesce : Option String) (now : ℤ)
  | deleteSelection
  | completeDrag (container : Container) (playerIndex : ℕ) (gridCoords : ℤ × ℤ)
  | applyClipboard (container : Container) (playerIndex : ℕ) (gridCoords : ℤ × ℤ)
  | undo
  | redo
  | clearModified
  | setSelection (region : Option SelectionRegion)
  | setOperationMode (mode : OperationMode)
  | startDrag (offset : ℤ × ℤ)
  | cancelDrag
  | copySelection
  | cutSelection
  | cycleClipboardMode

namespace EditableGearSetup

def newEditableGearSetup (setup : GearSetup) : EditableGearSetup where
  history := [setup]
  position := 0
  coalesce := none
  modified := false
  operationMode := .itemPlacement
  selection := none
  clipboard := none
  placementOffset := none

def setup (s : EditableGearSetup) : Option GearSetup := s.history[s.position]?

def modeTransitions (s : EditableGearSetup) (newMode : OperationMode) : EditableGearSetup :=
  let clipboard :=
    match newMode, s.operationMode with
    | .itemPlacement, _ => none
    | .selection, .clipboardCut | .selection, .clipboardCopy => none
    | .selecting, .clipboardCut | .selecting, .clipboardCopy => none
    | _, _ => s.clipboard
  { s with
    operationMode := newMode
    placementOffset := none
    selection := if newMode = .itemPlacement then none else s.selection
    clipboard := clipboard }

def append (s : EditableGearSetup) (setup : GearSetup) : EditableGearSetup :=
  { s with
    history := s.history.take (s.position + 1) ++ [setup]
    position := s.position + 1
    modified := true }

/-- An update that is combined with the entry it follows. -/
def combines (s : EditableGearSetup) (coalesce : Option String) (now : ℤ) : Bool :=
  match coalesce, s.coalesce with
  | some key, some c =>
    s.position = s.history.length - 1 && c.key = key && c.position = s.position &&
      now - c.lastAt ≤ COALESCE_WINDOW_MS
  | _, _ => false

def update (s : EditableGearSetup) (updater : GearSetup → GearSetup) (coalesce : Option String)
    (now : ℤ) : Option EditableGearSetup := do
  let updated := updater (← s.setup)
  if s.combines coalesce now then
    return { s with
      history := s.history.take s.position ++ [updated]
      coalesce := s.coalesce.map fun c => { c with lastAt := now }
      modified := true }
  else
    return { s.append updated with
      coalesce := coalesce.map fun key => ⟨key, s.position + 1, now⟩ }

def withoutSelection (setup : GearSetup) (region : SelectionRegion) : Option GearSetup := do
  let player ← setup.players[region.bounds.playerIndex]?
  let container := region.bounds.container
  let indices := region.slots.values.map SlotData.index
  let slots := (player.slots container).filter fun slot => !indices.contains slot.index
  return { setup with
    players := setup.players.set region.bounds.playerIndex (player.setSlots container slots) }

/-- Removes all slots of the selection from its container. -/
def deleteSelection (s : EditableGearSetup) : Option EditableGearSetup :=
  match s.selection with
  | none => some s
  | some region =>
    if region.slots.values.any (·.slot.isSome) then do
      let cloned ← withoutSelection (← s.setup) region
      return (s.append cloned).modeTransitions .itemPlacement
    else some (s.modeTransitions .itemPlacement)

variable (getItem : ℕ → Option ItemData)

/-- The setup with a region placed into a container of a player, and the region there, if the
region can be placed. -/
def place (setup : GearSetup) (region : SelectionRegion) (target : PlacementTarget)
    (mode : PlacementMode) (isMovingItems : Bool) (offset : Option (ℤ × ℤ)) :
    Option (Option (GearSetup × SelectionRegion)) := do
  let targetPlayer ← setup.players[target.playerIndex]?
  let sourcePlayer ← setup.players[region.bounds.playerIndex]?
  return (placeRegion getItem region target targetPlayer sourcePlayer mode isMovingItems
    offset).map fun (updatedTarget, updatedSource, newRegion) =>
      ({ setup with
        players := storePlayers region target setup.players updatedTarget updatedSource },
        newRegion)

/-- Completes a drag operation by swapping regions. -/
def completeDrag (s : EditableGearSetup) (target : PlacementTarget) : Option EditableGearSetup :=
  match s.selection with
  | none => some s
  | some selection =>
    if s.operationMode ≠ .dragging then some s
    else do
      match ← place getItem (← s.setup) selection target .swap true s.placementOffset with
      | some (cloned, newRegion) =>
        return ({ s.append cloned with selection := some newRegion }).modeTransitions .selection
      | none => return s.modeTransitions .selection

/-- Pastes the clipboard. A cut ends with the new region selected, a copy can be pasted again. -/
def applyClipboard (s : EditableGearSetup) (target : PlacementTarget) :
    Option EditableGearSetup :=
  match s.clipboard with
  | none => some s
  | some clipboard =>
    if s.operationMode ≠ .clipboardCut ∧ s.operationMode ≠ .clipboardCopy then some s
    else do
      match ← place getItem (← s.setup) clipboard.region target clipboard.pasteMode
          (clipboard.operation = .cut) s.placementOffset with
      | some (cloned, newRegion) =>
        match clipboard.operation with
        | .cut =>
          return ({ s.append cloned with selection := some newRegion }).modeTransitions .selection
        | .copy => return (s.append cloned).modeTransitions .clipboardCopy
      | none => return s.modeTransitions .selection

def takeSelection (s : EditableGearSetup) (operation : ClipboardOperation)
    (newMode : OperationMode) : EditableGearSetup :=
  match s.selection with
  | none => s
  | some region =>
    { s.modeTransitions newMode with
      clipboard := some ⟨region, operation, .replace⟩
      placementOffset := some ((region.bounds.width / 2 : ℕ), (region.bounds.height / 2 : ℕ)) }

def undo (s : EditableGearSetup) : EditableGearSetup :=
  if s.position = 0 then s
  else ({ s with position := s.position - 1, coalesce := none, modified := true }).modeTransitions
    .itemPlacement

def redo (s : EditableGearSetup) : EditableGearSetup :=
  if s.position = s.history.length - 1 then s
  else ({ s with position := s.position + 1, coalesce := none, modified := true }).modeTransitions
    .itemPlacement

/-- What a command does. Nothing, when it fails because a player is not there any more. -/
def step (s : EditableGearSetup) : Command → Option EditableGearSetup
  | .update updater coalesce now => s.update updater coalesce now
  | .deleteSelection => s.deleteSelection
  | .completeDrag container playerIndex gridCoords =>
    s.completeDrag getItem ⟨container, playerIndex, gridCoords⟩
  | .applyClipboard container playerIndex gridCoords =>
    s.applyClipboard getItem ⟨container, playerIndex, gridCoords⟩
  | .undo => some s.undo
  | .redo => some s.redo
  | .clearModified => some { s with coalesce := none, modified := false }
  | .setSelection region =>
    some (match region with
      | none => s.modeTransitions .itemPlacement
      | some region => { s.modeTransitions .selection with selection := some region })
  | .setOperationMode mode => some (s.modeTransitions mode)
  | .startDrag offset =>
    some { s.modeTransitions .dragging with placementOffset := some offset }
  | .cancelDrag => some { s with operationMode := .selection }
  | .copySelection => some (s.takeSelection .copy .clipboardCopy)
  | .cutSelection => some (s.takeSelection .cut .clipboardCut)
  | .cycleClipboardMode =>
    some { s with
      clipboard := s.clipboard.map fun clipboard =>
        { clipboard with
          pasteMode := if clipboard.pasteMode = .replace then .merge else .replace } }

def run (s : EditableGearSetup) : List Command → Option EditableGearSetup
  | [] => some s
  | c :: cs => (s.step getItem c).bind fun s => run s cs

/-- An editor that has been reached by commands. -/
inductive Reachable : EditableGearSetup → Prop
  | new (setup : GearSetup) : Reachable (newEditableGearSetup setup)
  | step {s s' : EditableGearSetup} {c : Command} (h : Reachable s)
    (hstep : s.step getItem c = some s') : Reachable s'

end EditableGearSetup

end Blert.Gear

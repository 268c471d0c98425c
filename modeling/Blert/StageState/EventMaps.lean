import Blert.StageState.Events

/-!
The maps of a stage's events by tick and by type.

Events are appended as they arrive. Some refer back to an attack that arrived before: the style of
an attack, or the player it was bounced to, is then written into that attack.
-/

namespace Blert.StageState

/-- The events appended so far, by tick and by type. A tick or type without events has none. -/
structure EventMaps where
  /-- The number of events delivered. -/
  delivered : ℕ := 0
  byTick : ℕ → List Obj := fun _ => []
  byType : EventType → List Obj := fun _ => []

namespace EventMaps

def onTick (m : EventMaps) (tick : ℤ) : List Obj :=
  if 0 ≤ tick then m.byTick tick.toNat else []

def findNpcAttack (m : EventMaps) (w : Writes) (tick : ℤ) (matching : NpcAttack → Bool) :
    Option Obj :=
  (m.onTick tick).find? fun o => (w.attackOf o).any matching

def verzikStyle : AttackStyle → NpcAttack
  | .melee => .tobVerzikP3Melee
  | .range => .tobVerzikP3Range
  | .mage => .tobVerzikP3Mage

def mokhaiotlStyle (ball : Bool) : AttackStyle → Option NpcAttack
  | .melee => if ball then none else some .mokhaiotlMeleeAuto
  | .range => some (if ball then .mokhaiotlRangedBall else .mokhaiotlRangedAuto)
  | .mage => some (if ball then .mokhaiotlMageBall else .mokhaiotlMageAuto)

/-- Cross-references an event against those before it: what is written, and whether the event was
consumed. -/
def crossReference (m : EventMaps) (w : Writes) (e : Event) : Writes × Bool :=
  match e.payload with
  | .tobVerzikAttackStyle style npcAttackTick =>
    match m.findNpcAttack w npcAttackTick (· = .tobVerzikP3Auto) with
    | some o => (w.setAttack o (verzikStyle style), true)
    | none => (w, true)
  | .tobVerzikBounce npcAttackTick bouncedPlayer =>
    if npcAttackTick ≠ -1 then
      match bouncedPlayer with
      | some player =>
        match m.findNpcAttack w npcAttackTick (· = .tobVerzikP2Bounce) with
        | some o => (w.setTarget o (some player), false)
        | none => (w, false)
      | none => (w, false)
    else (w, false)
  | .mokhaiotlAttackStyle style npcAttackTick =>
    match m.findNpcAttack w npcAttackTick fun a => a = .mokhaiotlAuto || a = .mokhaiotlBall with
    | some o =>
      match mokhaiotlStyle (w.attackOf o = some .mokhaiotlBall) style with
      | some a => (w.setAttack o a, true)
      | none => (w, true)
    | none => (w, true)
  | _ => (w, false)

def push (m : EventMaps) (e : Event) : EventMaps where
  delivered := m.delivered + 1
  byTick := Function.update m.byTick e.tick (m.byTick e.tick ++ [⟨m.delivered, e⟩])
  byType := Function.update m.byType e.type (m.byType e.type ++ [⟨m.delivered, e⟩])

def appendEvent (s : EventMaps × Writes) (e : Event) : EventMaps × Writes :=
  let (w, consumed) := s.1.crossReference s.2 e
  (if consumed then { s.1 with delivered := s.1.delivered + 1 } else s.1.push e, w)

def append (s : EventMaps × Writes) (es : List Event) : EventMaps × Writes :=
  es.foldl appendEvent s

end EventMaps

def buildEventMaps (es : List Event) : EventMaps × Writes := EventMaps.append ({}, {}) es

end Blert.StageState

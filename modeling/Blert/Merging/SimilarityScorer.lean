import Blert.Merging.Context

/-!
How alike two ticks are.

Two ticks that disagree on where an actor is, on what a player wears or on what an NPC is are
incompatible. Otherwise they get a flat reward if they share an actor, and score by the hitpoints,
attacks, prayers and deaths of the actors they share.
-/

namespace Blert.Merging

def clamp (value min max : ℚ) : ℚ := Max.max min (Min.min value max)

/-- The flat reward a compatible tick pair earns when it shares at least one actor. -/
def defaultBaselineCompatibilityWeight : ℚ := 4

namespace SimilarityScorer

def visibleEquipmentSlots : List EquipmentSlot :=
  [.head, .cape, .amulet, .weapon, .torso, .shield, .legs, .gloves, .boots]

/-! ### Compatibility -/

def sharedPlayers (a b : TickState) : List (String × PlayerState × PlayerState) :=
  a.playerStates.entries.filterMap fun (player, state) => do
    let stateA ← state
    let stateB ← b.getPlayerState player
    return (player, stateA, stateB)

def sharedNpcs (a b : TickState) : List (ℤ × NpcState × NpcState) :=
  a.npcs.entries.filterMap fun (roomId, stateA) => do
    let stateB ← b.getNpcState roomId
    return (roomId, stateA, stateB)

/-- How many players were compared, if they are in the same position and wear the same visible
gear in both ticks. -/
def checkPlayerCompatibility (a b : TickState) : Option ℕ :=
  let shared := sharedPlayers a b
  if shared.all fun (_, a, b) =>
      a.position = b.position ∧ visibleEquipmentSlots.all fun s => a.equipment s = b.equipment s
  then some shared.length
  else none

/-- How many NPCs were compared, if they are the same and in the same position in both ticks. -/
def checkNpcCompatibility (a b : TickState) : Option ℕ :=
  let shared := sharedNpcs a b
  if shared.all fun (_, a, b) => a.id = b.id ∧ a.position = b.position then some shared.length
  else none

def checkForCompatibility (a b : TickState) : Option ℕ := do
  let players ← checkPlayerCompatibility a b
  let npcs ← checkNpcCompatibility a b
  return players + npcs

/-! ### Hitpoints -/

/-- Whether an NPC's hitpoints are exposed via a varbit, which all clients share. -/
def hasVarbitBasedHitpoints (npcId : ℕ) : Bool :=
  Npc.isMaiden npcId || Npc.isBloat npcId || Npc.isNylocasVasilias npcId ||
    Npc.isSotetseg npcId || Npc.isXarpus npcId || Npc.isVerzik npcId

def getHitpointsScoringConstants (npcId : ℕ) : ℚ × ℚ :=
  if hasVarbitBasedHitpoints npcId then (10, 50) else (2, 5)

def normalizeHitpoints (state : NpcState) : ℚ :=
  if state.hitpoints.base ≤ 0 then 0
  else (min state.hitpoints.current state.hitpoints.base : ℤ) / state.hitpoints.base

/-- The score of an NPC's hitpoints, with large differences ignored. -/
def hitpointsScore (exp : ℚ → ℚ) (a b : NpcState) : ℚ :=
  let (weight, k) := getHitpointsScoringConstants a.id
  let delta := |normalizeHitpoints a - normalizeHitpoints b|
  if delta > 2 / 5 then 0 else weight * exp (-k * delta * delta)

def scoreNpcHitpoints (exp : ℚ → ℚ) (a b : TickState) : ℚ :=
  min ((sharedNpcs a b).map fun (_, a, b) => hitpointsScore exp a b).sum 10

/-! ### Attacks -/

structure Attack (κ τ : Type) where
  actor : κ
  target : Option τ
  typeId : ℕ
  secondaryId : Option ℤ

structure AttackScores where
  positive : ℚ
  weakPositive : ℚ
  weakNegative : ℚ
  contradictory : ℚ
  min : ℚ
  max : ℚ

inductive AttackComparison
  | matched | ambiguousProjectile | mismatch

section Attacks

variable (defs : Definitions) {κ τ : Type} [DecidableEq κ] [DecidableEq τ]

def compareAttacks (a b : Attack κ τ) : AttackComparison :=
  if a.secondaryId ≠ b.secondaryId then .mismatch
  else if a.typeId = b.typeId then .matched
  else if defs.normalizeAttackType a.typeId = defs.normalizeAttackType b.typeId then
    .ambiguousProjectile
  else .mismatch

/-- The score of an actor who attacked in both ticks. A target missing from one of the attacks
speaks against it only if the target is visible in that tick. -/
def scoreInBoth (hasTarget : TickState → τ → Bool) (scores : AttackScores) (tickA tickB : TickState)
    (a b : Attack κ τ) : ℚ :=
  match compareAttacks defs a b with
  | .mismatch => scores.contradictory
  | .ambiguousProjectile =>
    match a.target, b.target with
    | some s, some t => if s ≠ t then scores.contradictory else 0
    | _, _ => 0
  | .matched =>
    match a.target, b.target with
    | some s, some t => if s = t then scores.positive else scores.contradictory
    | some s, none => if hasTarget tickB s then scores.weakNegative else scores.weakPositive
    | none, some t => if hasTarget tickA t then scores.weakNegative else scores.weakPositive
    | none, none => scores.weakPositive

def scoreMissing (hasActor : TickState → κ → Bool) (scores : AttackScores) (tick : TickState)
    (attacks others : List (Attack κ τ)) : ℚ :=
  (attacks.map fun a =>
    if others.any (·.actor = a.actor) then 0
    else if hasActor tick a.actor then scores.weakNegative
    else 0).sum

def scoreAttacks (hasActor : TickState → κ → Bool) (hasTarget : TickState → τ → Bool)
    (scores : AttackScores) (tickA tickB : TickState) (attacksA attacksB : List (Attack κ τ)) : ℚ :=
  if attacksA.isEmpty ∧ attacksB.isEmpty then 0
  else
    let inBoth := attacksA.filterMap fun a =>
      (attacksB.find? (·.actor = a.actor)).map fun b =>
        scoreInBoth defs hasTarget scores tickA tickB a b
    clamp (inBoth.sum + scoreMissing hasActor scores tickB attacksA attacksB +
      scoreMissing hasActor scores tickA attacksB attacksA) scores.min scores.max

def playerAttacks (state : TickState) : List (Attack String ℤ) :=
  state.playerStates.values.filterMap fun player => do
    let player ← player
    let attack ← player.attack
    return { actor := player.username, target := attack.target.map AttackTarget.roomId,
             typeId := attack.type, secondaryId := some attack.weaponId }

def npcAttacks (state : TickState) : List (Attack ℤ String) :=
  state.npcs.entries.filterMap fun (roomId, npc) => do
    let attack ← npc.attack
    return { actor := roomId, target := attack.target, typeId := attack.type, secondaryId := none }

def hasPlayer (state : TickState) (player : String) : Bool := (state.getPlayerState player).isSome

def hasNpc (state : TickState) (roomId : ℤ) : Bool := (state.getNpcState roomId).isSome

def scorePlayerAttacks (a b : TickState) : ℚ :=
  scoreAttacks defs hasPlayer hasNpc
    { positive := 2, weakPositive := 1 / 2, weakNegative := -1 / 5, contradictory := -10
      min := -20, max := 10 } a b (playerAttacks a) (playerAttacks b)

def scoreNpcAttacks (a b : TickState) : ℚ :=
  scoreAttacks defs hasNpc hasPlayer
    { positive := 4, weakPositive := 1, weakNegative := -1 / 2, contradictory := -10
      min := -10, max := 10 } a b (npcAttacks a) (npcAttacks b)

end Attacks

/-! ### Prayers and deaths -/

def scorePrayers (a b : TickState) : ℚ :=
  clamp ((sharedPlayers a b).map fun (_, a, b) =>
    if a.overheads.isEmpty ∧ b.overheads.isEmpty then 0
    else if a.overheads = b.overheads then 1
    else (-1 : ℚ)).sum (-5) 5

def playerDied (state : TickState) (player : String) : Bool :=
  (state.getTaggedEventsByType .playerDeath).any fun t => t.event.player.map (·.name) = some player

def npcDied (state : TickState) (roomId : ℤ) : Bool :=
  (state.getTaggedEventsByType .npcDeath).any fun t => t.event.npc.map (·.roomId) = some roomId

def scoreDeaths (a b : TickState) : ℚ :=
  let players := (sharedPlayers a b).map fun (player, _) =>
    if playerDied a player ∧ playerDied b player then (1 / 2 : ℚ) else 0
  let npcs := (sharedNpcs a b).map fun (roomId, _) =>
    if !npcDied a roomId ∧ !npcDied b roomId then 0
    else if npcDied a roomId ∧ npcDied b roomId then 1
    else (-1 : ℚ)
  clamp (players.sum + npcs.sum) (-3) 3

/-! ### The score -/

def score (defs : Definitions) (exp : ℚ → ℚ) (a b : TickState) : Similarity :=
  match checkForCompatibility a b with
  | none => ⊥
  | some count =>
    let baseline := if count > 0 then defaultBaselineCompatibilityWeight else 0
    (baseline + scoreNpcHitpoints exp a b * (3 / 20) +
      (scorePlayerAttacks defs a b + scoreNpcAttacks defs a b) * (1 / 2) +
      scorePrayers a b * (1 / 5) + scoreDeaths a b * (1 / 10) : ℚ)

end SimilarityScorer

end Blert.Merging

import Blert.Merging.TickState

/-!
What a merge knows besides the timelines.

The numbers of attacks and spells, their cooldowns and their graphics are generated from
definitions kept elsewhere, and a parameter here.
-/

namespace Blert.Merging

/-! ### Attacks and NPCs -/

/-- The generated definitions of attacks and spells. -/
structure Definitions where
  blowpipe : ℕ
  blowpipeSpec : ℕ
  zcbAuto : ℕ
  zcbSpec : ℕ
  dawnSpec : ℕ
  tobSoteBall : ℕ
  tobSoteDeathBall : ℕ
  tobVerzikP2Bounce : ℕ
  tobVerzikP3Auto : ℕ
  /-- How many ticks pass until the player can attack again, for an attack that is defined. -/
  attackCooldown : ℕ → Option ℤ
  /-- How many graphics a spell shows on its target, for a spell that is defined. -/
  targetGraphics : ℕ → Option ℕ

namespace Definitions

variable (defs : Definitions)

/-- Attacks that share an animation and are told apart by their projectile. -/
def normalizedForProjectile : InsertionMap ℕ ℕ :=
  [(defs.blowpipe, defs.blowpipe), (defs.blowpipeSpec, defs.blowpipe),
    (defs.zcbAuto, defs.zcbAuto), (defs.zcbSpec, defs.zcbAuto),
    (defs.tobSoteBall, defs.tobSoteBall), (defs.tobSoteDeathBall, defs.tobSoteBall)].foldl
      (fun m e => m.set e.1 e.2) ∅

/-- Collapses projectile-ambiguous variants of an attack to a canonical value. -/
def normalizeAttackType (attack : ℕ) : ℕ := (defs.normalizedForProjectile.get attack).getD attack

/-- Whether two attack types differ only by projectile. -/
def areProjectileAmbiguous (a b : ℕ) : Bool :=
  a ≠ b ∧ defs.normalizeAttackType a = defs.normalizeAttackType b

def isTargetedSpell (spell : ℕ) : Bool := 0 < (defs.targetGraphics spell).getD 0

end Definitions

namespace Npc

def isMaiden (npcId : ℕ) : Bool :=
  10814 ≤ npcId ∧ npcId ≤ 10819 ∨ 8360 ≤ npcId ∧ npcId ≤ 8365 ∨ 10822 ≤ npcId ∧ npcId ≤ 10827

def isBloat (npcId : ℕ) : Bool := npcId ∈ [10812, 8359, 10813]

def isNylocasVasilias (npcId : ℕ) : Bool :=
  npcId ∈ [10788, 10790, 10789, 8355, 8357, 8356, 10808, 10810, 10809]

def isSotetseg (npcId : ℕ) : Bool := npcId ∈ [10864, 8387, 10867, 10865, 8388, 10868]

def isXarpus (npcId : ℕ) : Bool :=
  npcId ∈ [10766, 10767, 10768, 8338, 8339, 8340, 10770, 10771, 10772]

def isVerzikP1 (npcId : ℕ) : Bool := npcId ∈ [10831, 10832, 8370, 8371, 10848, 10849]

def isVerzikP2 (npcId : ℕ) : Bool := npcId ∈ [10833, 8372, 10850]

def isVerzikP3Transition (npcId : ℕ) : Bool := npcId ∈ [10834, 8373, 10851]

def isVerzikP3 (npcId : ℕ) : Bool := npcId ∈ [10835, 10836, 8374, 8375, 10852, 10853]

def isVerzik (npcId : ℕ) : Bool :=
  isVerzikP1 npcId || isVerzikP2 npcId || isVerzikP3Transition npcId || isVerzikP3 npcId

/-- The side of the square a Verzik stands on. -/
def verzikSize (npcId : ℕ) : ℤ :=
  if isVerzikP1 npcId then 5 else if isVerzikP2 npcId then 3 else 7

end Npc

/-! ### Quality flags -/

/-- A client's view that was kept, and one that was discarded for it. -/
structure ConflictSources where
  keptSourceClientId : ClientId
  discardedSourceClientId : ClientId

/-- The side of a merge step an event comes from. -/
inductive Origin
  | base | target
  deriving DecidableEq

/-- A diagnostic signal emitted during consolidation. -/
inductive QualityFlag
  | largeTemporalGap (eventType : EventType) (tickGap baseTick targetTick : ℕ)
  | unexpectedConflict (eventType : EventType) (attackTick : ℕ) (sources : ConflictSources)
  | unmappedCrossTickReference (eventType : EventType) (mergedTick : ℕ)
      (sourceTick resolvedTick : ℤ)
  | attackTargetMismatch (tick : ℤ) (player : String) (keptRoomId discardedRoomId : ℤ)
      (sources : ConflictSources)
  | attackTypeMismatch (tick : ℤ) (player : String) (keptType discardedType : ℕ)
      (sources : ConflictSources)
  | spellTargetMismatch (tick : ℤ) (player : String) (kept discarded : SpellTarget)
      (sources : ConflictSources)
  | spellTypeMismatch (tick : ℤ) (player : String) (keptType discardedType : ℕ)
      (sources : ConflictSources)
  | npcAttackTypeMismatch (tick : ℤ) (roomId : ℤ) (npcId keptType discardedType : ℕ)
      (sources : ConflictSources)
  | npcAttackTargetMismatch (tick : ℤ) (roomId : ℤ) (npcId : ℕ)
      (keptTarget discardedTarget : String) (sources : ConflictSources)
  | attackMappedNotFound (eventType : EventType) (source : Origin) (clientTick : ℕ)
      (referencedTick : ℤ)

/-- The tick of a flag that represents a disagreement between clients. -/
def contestedFlagTick : QualityFlag → Option ℤ
  | .attackTypeMismatch tick .. | .attackTargetMismatch tick .. | .spellTypeMismatch tick ..
  | .spellTargetMismatch tick .. | .npcAttackTypeMismatch tick ..
  | .npcAttackTargetMismatch tick .. => some tick
  | .unexpectedConflict _ attackTick _ => some attackTick
  | .largeTemporalGap .. | .unmappedCrossTickReference .. | .attackMappedNotFound .. => none

/-! ### Clients -/

structure ServerTicks where
  count : ℕ
  precise : Bool

/-- The events a client recorded of a stage, tick by tick. -/
structure ClientEvents where
  clientId : ClientId
  recordedTicks : ℕ
  accurate : Bool
  serverTicks : Option ServerTicks
  /-- The player the client plays, or none for a spectator. -/
  primaryPlayer : Option String
  /-- The client's data failed validation. -/
  badData : Bool
  /-- The ticks at which the client's events are inconsistent. -/
  consistencyIssues : List ℕ
  /-- The ticks at which the client's events were corrected. -/
  corrections : List ℕ
  tickStates : TickStateArray
  length_tickStates : tickStates.length = recordedTicks + 1

namespace ClientEvents

def getFinalTick (client : ClientEvents) : ℕ := client.recordedTicks

def isAccurate (client : ClientEvents) : Bool := client.accurate

def setAccurate (client : ClientEvents) (accurate : Bool) : ClientEvents := { client with accurate }

def isSpectator (client : ClientEvents) : Bool := client.primaryPlayer.isNone

end ClientEvents

inductive MergeClientStatus
  | merged | unmerged | skipped
  deriving DecidableEq

structure RegisteredClient where
  client : ClientEvents
  status : MergeClientStatus

structure MergeContext where
  stage : Lifecycle.Stage
  clients : InsertionMap ClientId RegisteredClient
  mapping : MergeMapping
  /-- Per-client local tick numbers at which conflicts occurred. -/
  contestedTicks : InsertionMap ClientId (List ℕ)

def MergeContext.getPrimaryPlayer (ctx : MergeContext) (clientId : ClientId) : Option String :=
  ((ctx.clients.get clientId).bind (·.client.primaryPlayer)).filter (· ≠ "")

end Blert.Merging

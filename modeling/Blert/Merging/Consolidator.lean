import Blert.Merging.Context

/-!
Consolidating two timelines.

The ticks of base and target are placed in the merged timeline by the tick mappings of the merge
step, and merged where both are. Stream and attack-mapped events are taken out of the ticks into
buffers, one for each side, reconciled by type, and put back; last, all events are remapped from
client ticks to merged ticks.
-/

namespace Blert.Merging

structure BufferedEvent where
  tagged : TaggedEvent
  mergedTick : ℕ
  clientTick : ℕ
  deriving DecidableEq

abbrev EventBuffer := InsertionMap EventType (List BufferedEvent)

/-- Action counters captured during consolidation. -/
structure ReconciliationCounters where
  playerAttacks : ℕ := 0
  playerSpells : ℕ := 0
  npcAttacks : ℕ := 0
  streamEventPairs : ℕ := 0
  attackMappedEvents : ℕ := 0

structure Consolidator where
  mergedTicks : TickStateArray
  baseBuffer : EventBuffer := ∅
  targetBuffer : EventBuffer := ∅
  qualityFlags : List QualityFlag := []
  counters : ReconciliationCounters := {}

structure ConsolidationResult where
  ticks : TickStateArray
  qualityFlags : List QualityFlag
  counters : ReconciliationCounters

/-- Maps a tick an event refers to, which need not be a tick at all. -/
def TickMapping.toMergedRef (m : TickMapping) : ℤ → Option ℕ
  | .ofNat tick => m.toMerged tick
  | .negSucc _ => none

/-! ### Building the timeline -/

/-- Adds events to a buffer, grouped by type. -/
def bufferEvents (buffer : EventBuffer) (events : List TaggedEvent) (mergedTick clientTick : ℕ) :
    EventBuffer :=
  buffer.pushAll (events.map fun tagged =>
    (tagged.event.type, { tagged, mergedTick, clientTick }))

section Timeline

variable (maps : Mappings) (baseTicks targetTicks : TickStateArray)

def placeBaseTick (w : Consolidator) (baseIdx : ℕ) : Consolidator :=
  match maps.base.toMerged baseIdx, baseTicks[baseIdx]?.join with
  | some mergedIdx, some state =>
    let extracted := state.clone.extractEvents EventType.bufferedTypes
    { w with
      baseBuffer := bufferEvents w.baseBuffer extracted.1 mergedIdx baseIdx
      mergedTicks := w.mergedTicks.set mergedIdx (some extracted.2) }
  | _, _ => w

/-- Inserts a target tick where the base has no data. -/
def placeTargetTick (w : Consolidator) (targetIdx : ℕ) : Consolidator :=
  match maps.target.toMerged targetIdx with
  | none => w
  | some mergedIdx =>
    match w.mergedTicks[mergedIdx]?, targetTicks[targetIdx]?.join with
    | some none, some state =>
      let extracted := state.clone.extractEvents EventType.bufferedTypes
      { w with
        targetBuffer := bufferEvents w.targetBuffer extracted.1 mergedIdx targetIdx
        mergedTicks := w.mergedTicks.set mergedIdx (some extracted.2) }
    | _, _ => w

/-- Places base and target ticks at their mapped positions. -/
def buildTimeline : Consolidator :=
  let w : Consolidator := { mergedTicks := List.replicate maps.mergedTickCount none }
  let w := (List.range baseTicks.length).foldl (placeBaseTick maps baseTicks) w
  (List.range targetTicks.length).foldl (placeTargetTick maps targetTicks) w

end Timeline

/-! ### Merging the state of a tick -/

structure TickMerge where
  state : TickState
  qualityFlags : List QualityFlag
  counters : ReconciliationCounters

def Coords.distSq (a b : Coords) : ℤ := (a.x - b.x) ^ 2 + (a.y - b.y) ^ 2

section TickMerge

variable (defs : Definitions) (ctx : MergeContext) (target : TickState)

/-- Whether the target's view of an attack is preferred, its primary player being nearer to the
attacker than the base's is. -/
def resolveProjectileAmbiguousAttack (merged : TickState) (mergedSource targetSource : ClientId)
    (attackerPos : Coords) : Bool :=
  match ctx.getPrimaryPlayer mergedSource, ctx.getPrimaryPlayer targetSource with
  | some basePrimary, some targetPrimary =>
    match merged.getPlayerState basePrimary, target.getPlayerState targetPrimary with
    | some baseState, some targetState =>
      targetState.position.distSq attackerPos < baseState.position.distSq attackerPos
    | _, _ => false
  | _, _ => false

def reconcileAttackTarget (winner loser : PlayerAttacked) (tick : ℤ) (player : String) :
    PlayerAttacked × List QualityFlag :=
  match winner.target, loser.target with
  | none, none => (winner, [])
  | none, some target =>
    ({ winner with target := some target, distanceToTarget := loser.distanceToTarget }, [])
  | some _, none => (winner, [])
  | some kept, some discarded =>
    if kept.roomId ≠ discarded.roomId then
      (winner, [.attackTargetMismatch tick player kept.roomId discarded.roomId
        ⟨winner.sourceClientId, loser.sourceClientId⟩])
    else (winner, [])

/-- Decides whose view of a player's attack to keep, then reconciles the target. -/
def mergePlayerAttack (w : TickMerge) (entry : String × Option PlayerState) : TickMerge :=
  match entry with
  | (_, none) => w
  | (player, some attackerState) =>
    match attackerState.attack, (target.getPlayerState player).bind PlayerState.attack with
    | _, none => w
    | none, some otherAttack =>
      { w with state := w.state.setPlayerAttack player (some otherAttack) }
    | some baseAttack, some otherAttack =>
      if baseAttack.sourceClientId = otherAttack.sourceClientId then w
      else
        let w := { w with counters.playerAttacks := w.counters.playerAttacks + 1 }
        if baseAttack.type ≠ otherAttack.type ∧
            !defs.areProjectileAmbiguous baseAttack.type otherAttack.type then
          { w with
            qualityFlags := w.qualityFlags ++ [.attackTypeMismatch w.state.tick player
              baseAttack.type otherAttack.type
              ⟨baseAttack.sourceClientId, otherAttack.sourceClientId⟩] }
        else
          let override := baseAttack.type ≠ otherAttack.type ∧
            resolveProjectileAmbiguousAttack ctx target w.state baseAttack.sourceClientId
              otherAttack.sourceClientId attackerState.position
          let reconciled := if override then
              reconcileAttackTarget otherAttack baseAttack w.state.tick player
            else reconcileAttackTarget baseAttack otherAttack w.state.tick player
          { w with
            state := w.state.setPlayerAttack player (some reconciled.1)
            qualityFlags := w.qualityFlags ++ reconciled.2 }

def SpellTarget.equal : SpellTarget → SpellTarget → Bool
  | .player a, .player b => a = b
  | .npc _ a, .npc _ b => a = b
  | _, _ => false

/-- Reconciles two spells' targets. Untargeted spells should never carry a target. -/
def reconcileSpellTarget (winner loser : SpellCast) (tick : ℤ) (player : String) :
    SpellCast × List QualityFlag :=
  if !defs.isTargetedSpell winner.type then ({ winner with target := none }, [])
  else
    match winner.target, loser.target with
    | none, target => ({ winner with target }, [])
    | some _, none => (winner, [])
    | some kept, some discarded =>
      if !kept.equal discarded then
        (winner, [.spellTargetMismatch tick player kept discarded
          ⟨winner.sourceClientId, loser.sourceClientId⟩])
      else (winner, [])

def mergePlayerSpell (w : TickMerge) (entry : String × Option PlayerState) : TickMerge :=
  match entry with
  | (_, none) => w
  | (player, some casterState) =>
    match casterState.spell, (target.getPlayerState player).bind PlayerState.spell with
    | _, none => w
    | none, some otherSpell => { w with state := w.state.setPlayerSpell player (some otherSpell) }
    | some baseSpell, some otherSpell =>
      if baseSpell.sourceClientId = otherSpell.sourceClientId then w
      else
        let w := { w with counters.playerSpells := w.counters.playerSpells + 1 }
        if baseSpell.type ≠ otherSpell.type then
          { w with
            qualityFlags := w.qualityFlags ++ [.spellTypeMismatch w.state.tick player
              baseSpell.type otherSpell.type
              ⟨baseSpell.sourceClientId, otherSpell.sourceClientId⟩] }
        else
          let reconciled := reconcileSpellTarget defs baseSpell otherSpell w.state.tick player
          { w with
            state := w.state.setPlayerSpell player (some reconciled.1)
            qualityFlags := w.qualityFlags ++ reconciled.2 }

def reconcileNpcAttackTarget (winner loser : NpcAttacked) (tick roomId : ℤ) (npcId : ℕ) :
    NpcAttacked × List QualityFlag :=
  match winner.target, loser.target with
  | none, target => ({ winner with target }, [])
  | some _, none => (winner, [])
  | some kept, some discarded =>
    if kept ≠ discarded then
      (winner, [.npcAttackTargetMismatch tick roomId npcId kept discarded
        ⟨winner.sourceClientId, loser.sourceClientId⟩])
    else (winner, [])

def mergeNpcAttack (w : TickMerge) (entry : ℤ × NpcState) : TickMerge :=
  let (roomId, baseNpc) := entry
  match baseNpc.attack, (target.getNpcState roomId).bind NpcState.attack with
  | _, none => w
  | none, some otherAttack => { w with state := w.state.setNpcAttack roomId (some otherAttack) }
  | some baseAttack, some otherAttack =>
    if baseAttack.sourceClientId = otherAttack.sourceClientId then w
    else
      let w := { w with counters.npcAttacks := w.counters.npcAttacks + 1 }
      if baseAttack.type ≠ otherAttack.type ∧
          !defs.areProjectileAmbiguous baseAttack.type otherAttack.type then
        { w with
          qualityFlags := w.qualityFlags ++ [.npcAttackTypeMismatch w.state.tick roomId baseNpc.id
            baseAttack.type otherAttack.type
            ⟨baseAttack.sourceClientId, otherAttack.sourceClientId⟩] }
      else
        let override := baseAttack.type ≠ otherAttack.type ∧
          resolveProjectileAmbiguousAttack ctx target w.state baseAttack.sourceClientId
            otherAttack.sourceClientId baseNpc.position
        let reconciled := if override then
            reconcileNpcAttackTarget otherAttack baseAttack w.state.tick roomId baseNpc.id
          else reconcileNpcAttackTarget baseAttack otherAttack w.state.tick roomId baseNpc.id
        { w with
          state := w.state.setNpcAttack roomId (some reconciled.1)
          qualityFlags := w.qualityFlags ++ reconciled.2 }

def mergePlayerAttacks (w : TickMerge) : TickMerge :=
  w.state.playerStates.entries.foldl (mergePlayerAttack defs ctx target) w

def mergePlayerSpells (w : TickMerge) : TickMerge :=
  w.state.playerStates.entries.foldl (mergePlayerSpell defs target) w

def mergeNpcAttacks (w : TickMerge) : TickMerge :=
  w.state.npcs.entries.foldl (mergeNpcAttack defs ctx target) w

/-- Merges the state of a target tick into that of the base. -/
def mergeTicks (w : TickMerge) : TickMerge :=
  mergeNpcAttacks defs ctx target (mergePlayerSpells defs target
    (mergePlayerAttacks defs ctx target { w with state := w.state.merge target }))

end TickMerge

/-! ### Walking the merged timeline -/

section Walk

variable (defs : Definitions) (ctx : MergeContext) (maps : Mappings)
  (baseTicks targetTicks : TickStateArray)

/-- The tick of a client at a merged tick, if the client has data there. -/
def tickAt (mapping : TickMapping) (ticks : TickStateArray) (mergedTick : ℕ) :
    Option (ℕ × TickState) :=
  (mapping.toClient mergedTick).bind fun i => (ticks[i]?.join).map (i, ·)

/-- Buffers the events of the target and merges its state where both base and target are. -/
def consolidateTick (w : Consolidator) (m : ℕ) : Consolidator :=
  match tickAt maps.base baseTicks m, tickAt maps.target targetTicks m, w.mergedTicks[m]?.join with
  | some _, some (targetIdx, state), some mergedState =>
    let extracted := state.clone.extractEvents EventType.bufferedTypes
    let merge := mergeTicks defs ctx extracted.2
      { state := mergedState, qualityFlags := w.qualityFlags, counters := w.counters }
    { w with
      targetBuffer := bufferEvents w.targetBuffer extracted.1 m targetIdx
      mergedTicks := w.mergedTicks.set m (some merge.state)
      qualityFlags := merge.qualityFlags
      counters := merge.counters }
  | _, _, _ => w

def consolidateTicks (w : Consolidator) : Consolidator :=
  (List.range w.mergedTicks.length).foldl (consolidateTick defs ctx maps baseTicks targetTicks) w

end Walk

/-! ### Stream events -/

/-- How occurrences of an event were resolved. -/
inductive StreamResolution
  | paired (base target : BufferedEvent)
  | unpairedBase (base : BufferedEvent)
  | unpairedTarget (target : BufferedEvent)

namespace StreamResolution

/-- The event that is inserted: the earliest one of a pair, as a client can delay seeing an
event, but cannot see it before it occurs. -/
def winner : StreamResolution → BufferedEvent
  | paired b t => if b.mergedTick ≤ t.mergedTick then b else t
  | unpairedBase b => b
  | unpairedTarget t => t

def isPaired : StreamResolution → Bool
  | paired .. => true
  | _ => false

end StreamResolution

def tickGap (b t : BufferedEvent) : ℕ := b.mergedTick - t.mergedTick + (t.mergedTick - b.mergedTick)

def flagLargeGap (type : EventType) (threshold : Option ℕ) : StreamResolution → List QualityFlag
  | .paired b t =>
    match threshold with
    | some threshold =>
      if tickGap b t ≤ threshold then []
      else [.largeTemporalGap type (tickGap b t) b.mergedTick t.mergedTick]
    | none => []
  | _ => []

/-- Matches events that are unique: each side should have at most one occurrence. -/
def matchUnique : List BufferedEvent → List BufferedEvent → List StreamResolution
  | b :: _, t :: _ => [.paired b t]
  | b :: _, [] => [.unpairedBase b]
  | [], t :: _ => [.unpairedTarget t]
  | [], [] => []

/-- Walks occurrences in the order of merged ticks: those within the window are paired, others
are unique to their side. -/
def matchTemporal (window : ℕ) : List BufferedEvent → List BufferedEvent → List StreamResolution
  | b :: base, t :: target =>
    if tickGap b t ≤ window then .paired b t :: matchTemporal window base target
    else if b.mergedTick < t.mergedTick then
      .unpairedBase b :: matchTemporal window base (t :: target)
    else .unpairedTarget t :: matchTemporal window (b :: base) target
  | b :: base, [] => .unpairedBase b :: matchTemporal window base []
  | [], t :: target => .unpairedTarget t :: matchTemporal window [] target
  | [], [] => []
termination_by base target => base.length + target.length

/-- Events in the order of their merged ticks. -/
def sortByTick (events : List BufferedEvent) : List BufferedEvent :=
  events.insertionSort (·.mergedTick ≤ ·.mergedTick)

def keyed (identityKey : IdentityKeyFn) (events : List BufferedEvent) :
    Except MergeError (List (String × BufferedEvent)) :=
  events.mapM fun e => return (← identityKey e.tagged.event, e)

def deduplicateStreamEvents (config : StreamEventConfig)
    (baseEvents targetEvents : List BufferedEvent) : Except MergeError (List StreamResolution) := do
  let baseByKey := (∅ : InsertionMap String _).pushAll (← keyed config.identityKey baseEvents)
  let targetByKey := (∅ : InsertionMap String _).pushAll (← keyed config.identityKey targetEvents)
  let allKeys := baseByKey.keys ++ targetByKey.keys.filter (· ∉ baseByKey.keys)
  return allKeys.flatMap fun key =>
    let base := sortByTick (baseByKey.group key)
    let target := sortByTick (targetByKey.group key)
    match config.temporalWindow with
    | none => matchUnique base target
    | some window => matchTemporal window base target

def insertTaggedEvent (ticks : TickStateArray) (mergedTick : ℕ) (tagged : TaggedEvent) :
    TickStateArray :=
  ticks.modify mergedTick (Option.map (·.addTaggedEvents [tagged]))

def insertAll (ticks : TickStateArray) (events : List (ℕ × TaggedEvent)) : TickStateArray :=
  events.foldl (fun ticks e => insertTaggedEvent ticks e.1 e.2) ticks

def reconcileStream (stage : Lifecycle.Stage) (w : Consolidator) (type : EventType) :
    Except MergeError Consolidator :=
  match streamEventConfigForStage stage type with
  | none => return w
  | some config => do
    let resolutions ← deduplicateStreamEvents config (w.baseBuffer.group type)
      (w.targetBuffer.group type)
    return { w with
      mergedTicks := insertAll w.mergedTicks
        (resolutions.map fun r => (r.winner.mergedTick, r.winner.tagged))
      qualityFlags :=
        w.qualityFlags ++ resolutions.flatMap (flagLargeGap type config.largeGapThreshold)
      counters.streamEventPairs :=
        w.counters.streamEventPairs + resolutions.countP StreamResolution.isPaired }

/-! ### Attack-mapped events -/

structure AttackMappedCandidate where
  source : Origin
  sourceClientId : ClientId
  clientTick : ℕ
  referencedTick : ℤ
  tagged : TaggedEvent
  deriving DecidableEq

/-- The tick of the attack an event refers to. Legacy bounce events without a target happen on
the attack's own tick. -/
def getReferencedTick (event : Event) : Except MergeError ℤ :=
  match event.type with
  | .tobVerzikAttackStyle => return (← require event.verzikAttackStyle).npcAttackTick
  | .tobVerzikBounce => do
    let bounceTick := (← require event.verzikBounce).npcAttackTick
    return if bounceTick = -1 then event.tick else bounceTick
  | .tobVerzikDawn => return (← require event.verzikDawn).attackTick
  | _ => .error .typeError

def hasNpcAttack (state : TickState) (attack : ℕ) : Bool :=
  state.npcs.values.any fun npc => npc.attack.any (·.type = attack)

/-- Whether the attack an event refers to exists on a tick. Bounces are reported for every
attack, whether or not a player was bounced. -/
def validateAttack (defs : Definitions) (state : TickState) (event : Event) :
    Except MergeError Bool :=
  match event.type with
  | .tobVerzikAttackStyle => return hasNpcAttack state defs.tobVerzikP3Auto
  | .tobVerzikBounce =>
    match state.npcs.values.find? fun npc => Npc.isVerzikP2 npc.id with
    | none => return false
    | some npc => do
      let bounced := (← require event.verzikBounce).bouncedPlayer
      if bounced = "" then return npc.attack.isSome
      else return npc.attack.any (·.type = defs.tobVerzikP2Bounce)
  | .tobVerzikDawn => do
    let player := (← require event.verzikDawn).player
    return ((state.getPlayerState player).bind PlayerState.attack).any (·.type = defs.dawnSpec)
  | _ => .error .typeError

/-- Whether two candidates agree on the content of an event. -/
def candidatesAgree (a b : Event) : Except MergeError Bool :=
  match a.type with
  | .tobVerzikAttackStyle =>
    return (← require a.verzikAttackStyle).style = (← require b.verzikAttackStyle).style
  | .tobVerzikBounce =>
    return (← require a.verzikBounce).bouncedPlayer = (← require b.verzikBounce).bouncedPlayer
  | .tobVerzikDawn => do
    let a ← require a.verzikDawn
    let b ← require b.verzikDawn
    return a.player = b.player ∧ a.damage = b.damage
  | _ => .error .typeError

/-- Events by the merged tick of the attack they refer to, with those discarded flagged. -/
structure AttackGroups where
  groups : InsertionMap ℕ (List AttackMappedCandidate) := ∅
  qualityFlags : List QualityFlag := []

section AttackMapped

variable (defs : Definitions) (ctx : MergeContext) (mergedTicks : TickStateArray)

def tryResolve (type : EventType) (mapping : TickMapping) (source : Origin) (w : AttackGroups)
    (buffered : BufferedEvent) : Except MergeError AttackGroups := do
  let referencedTick ← getReferencedTick buffered.tagged.event
  match mapping.toMergedRef referencedTick with
  | none => return w
  | some mergedTick =>
    let found ← match mergedTicks[mergedTick]? with
      | none => throw .typeError
      | some none => pure false
      | some (some state) => validateAttack defs state buffered.tagged.event
    if found then
      return { w with
        groups := w.groups.push mergedTick
          { source, sourceClientId := buffered.tagged.source, clientTick := buffered.clientTick,
            referencedTick, tagged := buffered.tagged } }
    else
      return { w with
        qualityFlags := w.qualityFlags ++
          [.attackMappedNotFound type source buffered.clientTick referencedTick] }

def groupAttackMappedEvents (type : EventType) (maps : Mappings)
    (baseEvents targetEvents : List BufferedEvent) : Except MergeError AttackGroups := do
  let w ← baseEvents.foldlM (tryResolve defs mergedTicks type maps.base .base) {}
  targetEvents.foldlM (tryResolve defs mergedTicks type maps.target .target) w

/-- The tile projectiles of Verzik roughly originate from. -/
def getNpcPosition (state : TickState) : Option Coords :=
  (state.npcs.values.find? fun npc => Npc.isVerzik npc.id).map fun npc =>
    { x := npc.position.x + Npc.verzikSize npc.id / 2
      y := npc.position.y + Npc.verzikSize npc.id / 2 }

def nearer (state : TickState) (npcPos : Coords) (best : Option (AttackMappedCandidate × ℤ))
    (candidate : AttackMappedCandidate) : Option (AttackMappedCandidate × ℤ) :=
  match (ctx.getPrimaryPlayer candidate.sourceClientId).bind state.getPlayerState with
  | none => best
  | some playerState =>
    let dist := playerState.position.distSq npcPos
    match best with
    | none => some (candidate, dist)
    | some (_, bestDist) => if dist < bestDist then some (candidate, dist) else best

/-- The candidate whose client's primary player is nearest to the attacking NPC. -/
def resolveByNpcProximity (attackTick : ℕ) (candidates : List AttackMappedCandidate) :
    Option AttackMappedCandidate := do
  let state ← mergedTicks[attackTick]?.join
  let npcPos ← getNpcPosition state
  (·.1) <$> candidates.foldl (nearer ctx state npcPos) none

/-- The candidate that is inserted for an attack, and the flag of a conflict. -/
def resolveAttack (type : EventType) (attackTick : ℕ) (first : AttackMappedCandidate)
    (others : List AttackMappedCandidate) :
    Except MergeError (AttackMappedCandidate × List QualityFlag) := do
  if others.isEmpty then return (first, [])
  let allAgree ← others.allM fun c => candidatesAgree first.tagged.event c.tagged.event
  let preferred := ((first :: others).find? (·.source = .base)).getD first
  if allAgree then return (preferred, [])
  -- Styles depend on what projectiles were visible, other conflicts are not expected.
  if type = .tobVerzikAttackStyle then
    return ((resolveByNpcProximity ctx mergedTicks attackTick (first :: others)).getD preferred, [])
  match (first :: others).erase preferred with
  | loser :: _ =>
    return (preferred, [.unexpectedConflict type attackTick
      ⟨preferred.sourceClientId, loser.sourceClientId⟩])
  | [] => throw .typeError

/-- Maps the events of each group back to the tick after their attack. -/
def resolveAttackMappedEvents (type : EventType) :
    List (ℕ × List AttackMappedCandidate) →
      Except MergeError (List (ℕ × TaggedEvent) × List QualityFlag)
  | [] => return ([], [])
  | (_, []) :: groups => resolveAttackMappedEvents type groups
  | (attackTick, first :: others) :: groups => do
    let (winner, flags) ← resolveAttack ctx mergedTicks type attackTick first others
    let (inserts, moreFlags) ← resolveAttackMappedEvents type groups
    return ((attackTick + 1, winner.tagged) :: inserts, flags ++ moreFlags)

end AttackMapped

def reconcileAttackMapped (defs : Definitions) (ctx : MergeContext) (maps : Mappings)
    (w : Consolidator) (type : EventType) : Except MergeError Consolidator := do
  let baseEvents := w.baseBuffer.group type
  let targetEvents := w.targetBuffer.group type
  let grouped ← groupAttackMappedEvents defs w.mergedTicks type maps baseEvents targetEvents
  let (inserts, flags) ← resolveAttackMappedEvents ctx w.mergedTicks type grouped.groups.entries
  return { w with
    mergedTicks := insertAll w.mergedTicks inserts
    qualityFlags := w.qualityFlags ++ grouped.qualityFlags ++ flags
    counters.attackMappedEvents :=
      w.counters.attackMappedEvents + baseEvents.length + targetEvents.length }

def reconcileStreams (defs : Definitions) (ctx : MergeContext) (maps : Mappings)
    (w : Consolidator) : Except MergeError Consolidator := do
  let w ← EventType.streamTypes.foldlM (reconcileStream ctx.stage) w
  EventType.attackMappedTypes.foldlM (reconcileAttackMapped defs ctx maps) w

/-! ### Remapping to merged ticks -/

/-- Maps a tick to the merged timeline. A tick without a merged tick is approximated by the
offset of the event, and flagged. -/
def remapTick (mapping : TickMapping) (type : EventType) (mergedTick : ℕ) (sourceTick tick : ℤ) :
    StateT (List QualityFlag) (Except MergeError) ℤ :=
  match mapping.toMergedRef tick with
  | some merged => return merged
  | none => do
    let resolved := tick + (mergedTick - sourceTick)
    modify (· ++ [.unmappedCrossTickReference type mergedTick tick resolved])
    return resolved

section Remap

variable (targetClientId : ClientId) (maps : Mappings)

/-- Remaps an event on a merged tick from client ticks. -/
def remapEvent (i : ℕ) (tagged : TaggedEvent) :
    StateT (List QualityFlag) (Except MergeError) TaggedEvent := do
  let mapping := if tagged.source = targetClientId then maps.target else maps.base
  let remapped ← remapEventTick tagged (remapTick mapping tagged.event.type i tagged.event.tick)
  return { remapped with event.tick := (i : ℤ) }

def remapTickState (tick : Option TickState × ℕ) :
    StateT (List QualityFlag) (Except MergeError) (Option TickState) :=
  match tick.1 with
  | none => return none
  | some state => do
    let events ← state.events.mapM (remapEvent targetClientId maps tick.2)
    return some (TickState.new tick.2 events state.playerStates state.npcs state.graphics)

def remapToMergedSpace (ticks : TickStateArray) :
    StateT (List QualityFlag) (Except MergeError) TickStateArray :=
  ticks.zipIdx.mapM (remapTickState targetClientId maps)

end Remap

/-- Runs consolidation and returns the merged timeline. -/
def consolidate (defs : Definitions) (ctx : MergeContext) (baseTicks targetTicks : TickStateArray) :
    Except MergeError ConsolidationResult := do
  let entry ← require ctx.mapping.inFlight
  let maps := entry.mappings
  let w := consolidateTicks defs ctx maps baseTicks targetTicks
    (buildTimeline maps baseTicks targetTicks)
  let w ← reconcileStreams defs ctx maps w
  let (ticks, qualityFlags) ← (remapToMergedSpace entry.targetClientId maps w.mergedTicks).run
    w.qualityFlags
  return { ticks, qualityFlags, counters := w.counters }

end Blert.Merging

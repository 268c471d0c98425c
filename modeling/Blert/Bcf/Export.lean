import Blert.Bcf.Document
import Blert.StageState.Live

/-!
Exporting a stage as a chart.

The actors are the players of the party and every NPC of the stage. A cell is made of a state that
carries an attack, a spell or a death, or of an NPC that attacks or changes its phase. Phases of
the encounter come from its events and from the splits of the challenge. Lower case and the names
of things are given.
-/

namespace Blert.Bcf

open StageState

/-- The names of things. What has none is `UNKNOWN` or goes by its ID. -/
structure Names where
  toLowerCase : String → String
  itemName : ℕ → String
  npcShortName : ℕ → Option String
  npcFullName : ℕ → Option String
  playerAttack : ℕ → Option String
  playerSpell : ℕ → Option String
  npcAttack : NpcAttack → Option String

/-- Splits that mark a phase of an encounter. -/
inductive SplitType
  | tobMaiden70s | tobMaiden50s | tobMaiden30s
  | tobNyloCleanup | tobNyloBossSpawn
  | tobSotetseg66 | tobSotetseg33

def SplitType.name : SplitType → String
  | tobMaiden70s => "TOB_MAIDEN_70S"
  | tobMaiden50s => "TOB_MAIDEN_50S"
  | tobMaiden30s => "TOB_MAIDEN_30S"
  | tobNyloCleanup => "TOB_NYLO_CLEANUP"
  | tobNyloBossSpawn => "TOB_NYLO_BOSS_SPAWN"
  | tobSotetseg66 => "TOB_SOTETSEG_66"
  | tobSotetseg33 => "TOB_SOTETSEG_33"

structure Challenge where
  party : Party
  splits : SplitType → Option ℤ := fun _ => none

inductive Stage
  | tobMaiden | tobNylocas | tobSotetseg
  | colosseumWave (wave : ℕ)
  | infernoWave (wave : ℕ)
  | other (stage : ℕ)

/-! ### IDs of the game's NPCs -/

namespace Npc

def JAL_ZEK_ZUK : ℕ := 7703
def JALTOK_JAD_ZUK : ℕ := 7704
def JAL_MEJJAK : ℕ := 7708

def isJaguarWarrior (npcId : ℕ) : Bool := npcId = 12810

def isMinotaur (npcId : ℕ) : Bool := npcId = 12812 || npcId = 12813

def NYLO_BOSS_MELEE : List ℕ := [10803, 10804, 10787, 8354, 10807, 10788, 8355, 10808]
def NYLO_BOSS_RANGE : List ℕ := [10806, 10790, 8357, 10810]
def NYLO_BOSS_MAGE : List ℕ := [10805, 10789, 8356, 10809]

def isNylocasPrinkipas (npcId : ℕ) : Bool := [10804, 10805, 10806].contains npcId

def isNylocasVasilias (npcId : ℕ) : Bool :=
  [10788, 10790, 10789].contains npcId || [8355, 8357, 8356].contains npcId ||
    [10808, 10810, 10809].contains npcId

def isXarpus (npcId : ℕ) : Bool :=
  [10766, 10767, 10768].contains npcId || [8338, 8339, 8340].contains npcId ||
    [10770, 10771, 10772].contains npcId

def isVerzik (npcId : ℕ) : Bool :=
  [10831, 10832, 8370, 8371, 10848, 10849].contains npcId ||
    [10833, 8372, 10850].contains npcId || [10834, 8373, 10851].contains npcId ||
    [10835, 10836, 8374, 8375, 10852, 10853].contains npcId

end Npc

/-! ### Phases of an encounter -/

def addSplitPhase (challenge : Challenge) (split : SplitType) (name : String) : List Phase :=
  match challenge.splits split with
  | some splitTick => [⟨splitTick, name⟩]
  | none => []

/-- The phase an NPC's spawn starts in the last wave of the Inferno, if any. -/
def infernoPhaseType (npcId : ℕ) : Option String :=
  if npcId = Npc.JAL_ZEK_ZUK then some "INFERNO_ZUK_SET"
  else if npcId = Npc.JALTOK_JAD_ZUK then some "INFERNO_ZUK_JAD"
  else if npcId = Npc.JAL_MEJJAK then some "INFERNO_ZUK_HEALERS"
  else none

/-- The reinforcements of a wave of the Colosseum, which do not spawn at its start. -/
def isReinforcement (o : Obj) : Bool :=
  o.event.payload.npc?.any fun npc =>
    o.event.tick > 1 && (Npc.isJaguarWarrior npc.id || Npc.isMinotaur npc.id)

def nyloWavePhase (o : Obj) : Option Phase :=
  match o.event.payload with
  | .tobNyloWaveSpawn wave => some ⟨o.event.tick, s!"TOB_NYLO_WAVE_{wave}"⟩
  | _ => none

def buildBcfEncounterPhases (challenge : Challenge) (stage : Stage) (m : EventMaps) :
    List Phase :=
  match stage with
  | .colosseumWave wave =>
    if 1 ≤ wave ∧ wave ≤ 11 then
      match (m.byType .npcSpawn).find? isReinforcement with
      | some o => [⟨o.event.tick, "COLOSSEUM_REINFORCEMENTS"⟩]
      | none => []
    else []
  | .infernoWave wave =>
    if wave = 69 then
      (m.byType .npcSpawn).filterMap fun o =>
        (o.event.payload.npc?.bind fun npc => infernoPhaseType npc.id).map (⟨o.event.tick, ·⟩)
    else []
  | .tobMaiden =>
    addSplitPhase challenge .tobMaiden70s SplitType.tobMaiden70s.name ++
    addSplitPhase challenge .tobMaiden50s SplitType.tobMaiden50s.name ++
    addSplitPhase challenge .tobMaiden30s SplitType.tobMaiden30s.name
  | .tobNylocas =>
    (m.byType .tobNyloWaveSpawn).filterMap nyloWavePhase ++
    addSplitPhase challenge .tobNyloCleanup SplitType.tobNyloCleanup.name ++
    addSplitPhase challenge .tobNyloBossSpawn SplitType.tobNyloBossSpawn.name
  | .tobSotetseg =>
    addSplitPhase challenge .tobSotetseg66 "TOB_SOTETSEG_MAZE_1" ++
    addSplitPhase challenge .tobSotetseg33 "TOB_SOTETSEG_MAZE_2"
  | .other _ => []

/-! ### Phases of NPCs -/

def getNyloBossPhaseType (npcId : ℕ) : Option String :=
  if Npc.NYLO_BOSS_MELEE.contains npcId then some "TOB_NYLO_BOSS_MELEE"
  else if Npc.NYLO_BOSS_RANGE.contains npcId then some "TOB_NYLO_BOSS_RANGED"
  else if Npc.NYLO_BOSS_MAGE.contains npcId then some "TOB_NYLO_BOSS_MAGE"
  else none

def xarpusPhaseType : XarpusPhase → String
  | .p1 => "TOB_XARPUS_P1"
  | .p2 => "TOB_XARPUS_P2"
  | .p3 => "TOB_XARPUS_P3"

def verzikPhaseType : VerzikPhase → Option String
  | .idle => none
  | .p1 => some "TOB_VERZIK_P1"
  | .p2 => some "TOB_VERZIK_P2"
  | .p3 => some "TOB_VERZIK_P3"

/-- The first event among some that changes the phase of Xarpus. -/
def xarpusPhase? (events : List Obj) : Option XarpusPhase :=
  events.findSome? fun o =>
    match o.event.payload with
    | .tobXarpusPhase phase => some phase
    | _ => none

def verzikPhase? (events : List Obj) : Option VerzikPhase :=
  events.findSome? fun o =>
    match o.event.payload with
    | .tobVerzikPhase phase => some phase
    | _ => none

def lastState (npc : EnhancedRoomNpc) (tick : ℕ) : Option NpcState :=
  if tick = 0 then none else npc.stateByTick (tick - 1)

/-- The phase an NPC goes into on a tick on which it has a state. Where the events give no phase
for one kind of boss the next kind is looked at. -/
def npcPhaseType (npc : EnhancedRoomNpc) (tick : ℕ) (tickEvents : List Obj) (state : NpcState) :
    Option String :=
  let bloat :=
    if StageState.Npc.isBloat state.id then
      if tickEvents.any (·.event.type = .tobBloatDown) then some "TOB_BLOAT_DOWN"
      else if tickEvents.any (·.event.type = .tobBloatUp) then some "TOB_BLOAT_UP"
      else none
    else none
  let nyloBoss :=
    if Npc.isNylocasPrinkipas state.id || Npc.isNylocasVasilias state.id then
      if (lastState npc tick).map NpcState.id ≠ some state.id then getNyloBossPhaseType state.id
      else none
    else none
  let xarpus :=
    if Npc.isXarpus state.id then (xarpusPhase? tickEvents).map xarpusPhaseType else none
  let verzik :=
    if Npc.isVerzik state.id then (verzikPhase? tickEvents).bind verzikPhaseType else none
  ((bloat.or nyloBoss).or xarpus).or verzik

def getNpcPhaseAction (npc : EnhancedRoomNpc) (tick : ℕ) (tickEvents : List Obj) :
    Option Action :=
  ((npc.stateByTick tick).bind (npcPhaseType npc tick tickEvents)).map .npcPhase

/-! ### Actors and cells -/

/-- The tick an NPC's hitpoints reached zero: the reported one is when its death animation ends. -/
def effectiveDeathTick (npc : EnhancedRoomNpc) : ℕ → ℕ
  | 0 => 0
  | deathTick + 1 =>
    if deathTick + 1 > npc.npc.spawnTick + 1 ∧
        (npc.stateByTick deathTick).any (·.hitpoints.current = 0) then
      effectiveDeathTick npc deathTick
    else deathTick + 1

def toNpcActorId (roomId : ℕ) : String := "npc-" ++ toString roomId

section

variable (names : Names)

def toBcfNormalizedPlayerName (name : String) : String :=
  (names.toLowerCase name).map fun c => if c = ' ' then '_' else c

def playerActor (username : String) : Actor :=
  .player (toBcfNormalizedPlayerName names username) username

def npcActor (roomId : ℕ) (npc : EnhancedRoomNpc) : Actor :=
  .npc (toNpcActorId roomId)
    ((names.npcShortName npc.npc.spawnNpcId).getD s!"NPC {npc.npc.spawnNpcId}")
    npc.npc.spawnNpcId (some npc.npc.spawnTick) (some (effectiveDeathTick npc npc.npc.deathTick))

variable (v : Viewer)

/-- The actor of an NPC that is part of the stage. -/
def npcActorId (roomId : ℕ) : Option String :=
  if v.npcs.map.has roomId then some (toNpcActorId roomId) else none

def attackAction (o : Obj) : Option Action :=
  match o.event.payload with
  | .playerAttack _ attack =>
    some (.attack ((names.playerAttack attack.type).getD "UNKNOWN") (attack.weapon.map Item.id)
      (attack.weapon.map fun weapon => names.itemName weapon.id)
      (attack.target.bind fun target => npcActorId v target.roomId)
      (some attack.distanceToTarget) (v.writes.damage o) none)
  | _ => none

def spellAction (spell : Spell) : Action :=
  .spell ((names.playerSpell spell.type).getD "UNKNOWN")
    (match spell.target with
    | .none => none
    | .player player => some (toBcfNormalizedPlayerName names player)
    | .npc npc => npcActorId v npc.roomId)

def playerCellActions (state : StageState.PlayerState) : List Action :=
  (state.attack.bind (attackAction names v)).toList ++
    (state.spell.map (spellAction names v)).toList ++
    if state.diedThisTick then [.death] else []

def playerCellState (state : StageState.PlayerState) : PlayerState where
  isDead := if state.isDead || state.diedThisTick then some true else none
  offCooldown := if state.player.offCooldownTick ≤ state.tick then some true else none

def buildPlayerCell (actorId : String) (state : StageState.PlayerState) : Option Cell :=
  let actions := playerCellActions names v state
  let cellState := playerCellState state
  if actions = [] ∧ cellState = {} then none
  else
    some
      { actorId := actorId
        actions := if actions = [] then none else some actions
        state := if cellState = {} then none else some cellState }

/-- The NPC that spawns on a tick, bloblets apart, if any does. -/
def spawned (events : List Obj) : Option EventNpc :=
  events.findSome? fun o =>
    match o.event.payload with
    | .npcSpawn npc => if StageState.Npc.isBloblet npc.id then none else some npc
    | _ => none

def attackTarget (o : Obj) : Option String :=
  match o.event.payload with
  | .npcAttack _ attack => (v.writes.target o).getD attack.target
  | _ => none

def npcAttackAction (events : List Obj) (o : Obj) : Option Action :=
  (v.writes.attackOf o).map fun attack =>
    .npcAttack ((names.npcAttack attack).getD "UNKNOWN")
      (match if attack = .infernoMagerResurrect then spawned events else none with
      | some npc => some (toNpcActorId npc.roomId)
      | none => (attackTarget v o).map (toBcfNormalizedPlayerName names))

def npcCellActions (tick : ℕ) (npc : EnhancedRoomNpc) (events : List Obj) : List Action :=
  (getNpcPhaseAction npc tick events).toList ++
    (((npc.stateByTick tick).bind NpcState.attack).bind (npcAttackAction names v events)).toList

def buildNpcCell (actorId : String) (tick : ℕ) (npc : EnhancedRoomNpc) (events : List Obj) :
    Option Cell :=
  let actions := npcCellActions names v tick npc events
  if actions = [] then none else some { actorId := actorId, actions := some actions }

def tickCells (tick : ℕ) : List Cell :=
  (v.players.map.entries.filterMap fun player =>
    (player.2.stateByTick tick).bind
      (buildPlayerCell names v (toBcfNormalizedPlayerName names player.1))) ++
  v.npcs.map.entries.filterMap fun npc =>
    buildNpcCell names v (toNpcActorId npc.1) tick npc.2 (v.events.byTick tick)

def buildTick (tick : ℕ) : Option Tick :=
  if tickCells names v tick = [] then none else some ⟨tick, tickCells names v tick⟩

/-! ### The document -/

/-- Converts what has been built of a stage to a document. -/
def toBcf (challenge : Challenge) (stage : Stage) (totalTicks : ℕ)
    (name description : Option String) : Document where
  version := "1.0"
  name := name
  description := description
  config :=
    { totalTicks := totalTicks
      rowOrder := some (
        ((v.npcs.map.entries.filter (·.2.relevant)).map (toNpcActorId ·.1)) ++
        challenge.party.members.map (toBcfNormalizedPlayerName names))
      startTick := some 1
      endTick := none }
  timeline :=
    { actors :=
        challenge.party.members.map (playerActor names) ++
        v.npcs.map.entries.map fun npc => npcActor names npc.1 npc.2
      ticks := (List.range totalTicks).filterMap (buildTick names v)
      phases := some (buildBcfEncounterPhases challenge stage v.events) }

end

end Blert.Bcf

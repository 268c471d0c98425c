import Blert.Processing.Processor
import Blert.Theatre.Event

/-!
The event loop of the Theatre of Blood.

The processor goes through the merged events of a stage one by one, recording splits, statistics
and the state of the room. Each addition is checked, and a conversion that the source expects to
succeed panics where it does not. An event may change attacks that have been merged at other
ticks.
-/

namespace Blert.Theatre

open Lifecycle Checked
open Merging (Coords)
open Timeline (SkillLevel)
open Processing (StageContext PlayerData StatColumn SplitType castUnsigned)

/-! ### State -/

structure RoomData where
  stage : Stage
  ticksLost : ℕ
  deaths : List String
  bloatDownTicks : List ℕ := []
  nyloWavesStalled : List ℕ := []
  sotetsegMaze1Pivots : List ℕ := []
  sotetsegMaze2Pivots : List ℕ := []
  sotetsegMaze1Chosen : Option String := none
  sotetsegMaze2Chosen : Option String := none
  verzikRedsCount : ℕ := 0

structure CustomData where
  maiden : Option RoomData := none
  bloat : Option RoomData := none
  nylocas : Option RoomData := none
  sotetseg : Option RoomData := none
  xarpus : Option RoomData := none
  verzik : Option RoomData := none

structure MaidenState where
  fullLeaks : ℕ := 0
  scuffedSpawns : Bool := false

structure BloatDownRecord where
  downNumber : ℕ
  tick : ℕ
  walkTicks : ℕ

structure BloatHand where
  waveNumber : ℕ
  tileId : ℤ
  chunk : ℕ
  intraChunkOrder : ℤ

structure BloatState where
  downs : List BloatDownRecord := []
  hands : List BloatHand := []
  waveNumber : ℕ := 1
  /-- Bloat's hitpoints on its first down, of which the percentage is stored. -/
  firstDownHp : Option SkillLevel := none

structure NylocasStyles where
  mage : ℤ := 0
  ranged : ℤ := 0
  melee : ℤ := 0

structure NylocasState where
  stalledWaves : List ℕ := []
  splitStyles : NylocasStyles := {}
  bossStyles : NylocasStyles := {}
  prevBossStyle : Option NyloStyle := none

def NUM_SOTETSEG_MAZE_PIVOTS : ℕ := 8

inductive Pivots
  /-- Full set received from the plugin. -/
  | complete (pivots : Vector ℕ NUM_SOTETSEG_MAZE_PIVOTS)
  /-- Set built up across several events. -/
  | accumulated (pivots : Vector ℕ NUM_SOTETSEG_MAZE_PIVOTS)
  | incomplete (rows : Vector (Option ℕ) NUM_SOTETSEG_MAZE_PIVOTS)

structure SotetsegMaze where
  pivots : Pivots := .incomplete (Vector.replicate NUM_SOTETSEG_MAZE_PIVOTS none)
  startTick : ℕ
  endTick : ℕ := 0
  chosenPlayer : Option String := none

structure SotetsegState where
  maze1 : Option SotetsegMaze := none
  maze2 : Option SotetsegMaze := none

structure VerzikState where
  redSpawnTicks : List ℕ := []
  missingAttackTicks : List ℕ := []

structure ChinThrow where
  partyIndex : ℕ
  weaponId : ℕ

structure TheatreProcessor where
  challenge : ChallengeInfo
  data : CustomData
  maiden : MaidenState := {}
  bloat : BloatState := {}
  nylocas : NylocasState := {}
  sotetseg : SotetsegState := {}
  /-- How much Xarpus has been healed. -/
  xarpusHealing : Option ℤ := none
  verzik : VerzikState := {}
  chinsThrown : List ChinThrow := []

def TheatreProcessor.new (challenge : ChallengeInfo) (customData : Option CustomData) :
    TheatreProcessor where
  challenge
  data := customData.getD {}

/-- The state of the event loop: besides the processor, what it collects, the events as they have
been changed, and the places of those that are kept. -/
structure Run where
  processor : TheatreProcessor
  ctx : StageContext
  events : List Event
  kept : List ℕ := []

/-- What the loop needs of the world: the slots of equipment, and the library's binary search,
whose answer for events that are not in tick order may be any place among them. -/
structure World where
  slots : Slots
  partitionPoint : List Event → ℕ → ℕ
  partitionPoint_le : ∀ events tick, partitionPoint events tick ≤ events.length
  partitionPoint_sorted : ∀ events tick, events.Pairwise (·.tick ≤ ·.tick) →
    partitionPoint events tick = (events.takeWhile (·.tick < tick)).length

/-- A search from the front, where the place is the first one that has not been passed. -/
def World.linear (slots : Slots) : World where
  slots
  partitionPoint events tick := (events.takeWhile (·.tick < tick)).length
  partitionPoint_le _ _ := (List.takeWhile_sublist _).length_le
  partitionPoint_sorted _ _ _ := rfl

/-! ### Counting -/

/-- Adds to a statistic of the player at a party position, if there is one. -/
def count (ctx : StageContext) (partyIndex : ℕ) (column : StatColumn) (n : ℤ) :
    Except Panic StageContext :=
  match ctx.players[partyIndex]? with
  | none => .ok ctx
  | some data => do
    let _ ← i32 (data.stats column + n)
    let players := ctx.players.set partyIndex (data.count column n)
    .ok { ctx with challenge := { ctx.challenge with players } }

def countEach (ctx : StageContext) (partyIndex : ℕ) (columns : List StatColumn) :
    Except Panic StageContext :=
  columns.foldlM (fun ctx column => count ctx partyIndex column 1) ctx

def NylocasStyles.count (styles : NylocasStyles) : NyloStyle → Except Panic NylocasStyles
  | .mage => do
    let mage ← i32 (styles.mage + 1)
    .ok { styles with mage }
  | .range => do
    let ranged ← i32 (styles.ranged + 1)
    .ok { styles with ranged }
  | .melee => do
    let melee ← i32 (styles.melee + 1)
    .ok { styles with melee }

/-! ### NPCs -/

def recordMaidenCrab (ctx : StageContext) (tick : ℕ) : MaidenCrabSpawn → StageContext
  | .seventies => ctx.setStageSplit .tobEntryMaiden70s tick 0 false
  | .fifties =>
    let ctx := ctx.setStageSplit .tobEntryMaiden50s tick 0 false
    match ctx.stageSplit .tobEntryMaiden70s with
    | some seventies => ctx.setStageSplit .tobEntryMaiden70s50s tick seventies.tick false
    | none => ctx
  | .thirties =>
    let ctx := ctx.setStageSplit .tobEntryMaiden30s tick 0 false
    match ctx.stageSplit .tobEntryMaiden50s with
    | some fifties => ctx.setStageSplit .tobEntryMaiden50s30s tick fifties.tick false
    | none => ctx

namespace NylocasState

def countBossStyle (s : NylocasState) (style : NyloStyle) : Except Panic NylocasStyles :=
  if s.prevBossStyle = some style then .ok s.bossStyles else s.bossStyles.count style

def updateBossStyle (s : NylocasState) (style : NyloStyle) : Except Panic NylocasState := do
  let bossStyles ← s.countBossStyle style
  .ok { s with bossStyles, prevBossStyle := some style }

end NylocasState

def recordSpawnType (p : TheatreProcessor) (ctx : StageContext) (tick : ℕ) :
    Option NpcType → Except Panic (TheatreProcessor × StageContext)
  | some (.maidenCrab spawn scuffed) =>
    let scuffedSpawns := scuffed || p.maiden.scuffedSpawns
    .ok ({ p with maiden := { p.maiden with scuffedSpawns } }, recordMaidenCrab ctx tick spawn)
  | some (.nylo style true) => do
    let splitStyles ← p.nylocas.splitStyles.count style
    .ok ({ p with nylocas := { p.nylocas with splitStyles } }, ctx)
  | _ => .ok (p, ctx)

def recordBossStyle (p : TheatreProcessor) (npcId : ℕ) : Except Panic TheatreProcessor :=
  match nylocasVasiliasStyle npcId with
  | some style => do
    let nylocas ← p.nylocas.updateBossStyle style
    .ok { p with nylocas }
  | none => .ok p

/-- Records the ticks on which Verzik's red crabs spawn. -/
def recordReds (p : TheatreProcessor) (ctx : StageContext) (tick npcId : ℕ) :
    TheatreProcessor × StageContext :=
  let spawned := { p with verzik :=
    { p.verzik with redSpawnTicks := p.verzik.redSpawnTicks ++ [tick] } }
  if isVerzikMatomenos npcId then
    match p.verzik.redSpawnTicks.getLast? with
    | none => (spawned, ctx.setStageSplit .tobEntryVerzikReds tick 0 false)
    | some last => if last ≠ tick then (spawned, ctx) else (p, ctx)
  else (p, ctx)

def processNpcSpawn (p : TheatreProcessor) (ctx : StageContext) (tick : ℕ) (npc : Npc) :
    Except Panic (TheatreProcessor × StageContext) := do
  let (p, ctx) ← recordSpawnType p ctx tick npc.type
  let p ← recordBossStyle p npc.id
  .ok (recordReds p ctx tick npc.id)

def processNpcUpdate (p : TheatreProcessor) (ctx : StageContext) (npc : Npc) :
    Except Panic TheatreProcessor :=
  if ctx.stage = .tobNylocas then recordBossStyle p npc.id else .ok p

/-! ### Players -/

def deathColumns (stage : Stage) : List StatColumn :=
  .deathsTotal ::
    if stage = .tobMaiden then [.deathsMaiden]
    else if stage = .tobBloat then [.deathsBloat]
    else if stage = .tobNylocas then [.deathsNylocas]
    else if stage = .tobSotetseg then [.deathsSotetseg]
    else if stage = .tobXarpus then [.deathsXarpus]
    else if stage = .tobVerzik then [.deathsVerzik]
    else []

/-- The statistic of a melee attack with a weapon meant for its special attack. -/
def smackColumn : PlayerAttack → Option StatColumn
  | .godswordSmack => some .bgsSmacks
  | .hammerBop => some .hammerBops
  | .challySwipe => some .challyPokes
  | .elderMaul => some .elderMaulSmacks
  | .tonalzticsAuto => some .ralosAutos
  | _ => none

def chinColumn : PlayerAttack → Option StatColumn
  | .chinBlack => some .chinsThrownBlack
  | .chinRed => some .chinsThrownRed
  | .chinGrey => some .chinsThrownGrey
  | _ => none

def chinRoomColumns (stage : Stage) : List StatColumn :=
  if stage = .tobMaiden then [.chinsThrownMaiden]
  else if stage = .tobNylocas then [.chinsThrownNylocas]
  else []

/-- Incorrect throw distances are only considered on Maiden's crabs. -/
def wrongThrowColumns (attack : Attack) : List StatColumn :=
  let isWrongThrowDistance := attack.distanceToTarget ≠ -1 ∧
    ¬(4 ≤ attack.distanceToTarget ∧ attack.distanceToTarget ≤ 6)
  if isWrongThrowDistance ∧ attack.target.any isMaidenMatomenos then
    [.chinsThrownIncorrectlyMaiden]
  else []

def chinColumns (stage : Stage) (attack : Attack) (color : StatColumn) : List StatColumn :=
  [.chinsThrownTotal] ++ chinRoomColumns stage ++ [color] ++ wrongThrowColumns attack

def attackColumns (inNyloCleanup : Bool) (stage : Stage) (attack : Attack) : List StatColumn :=
  match smackColumn attack.type, chinColumn attack.type with
  | some column, _ =>
    -- red crabs are attacked to fix ticks
    if stage = .tobVerzik ∧ attack.target.any isVerzikMatomenos then []
    -- a Nylo may be overkilled during the cleanup
    else if attack.type ≠ .tonalzticsAuto ∧ stage = .tobNylocas ∧ inNyloCleanup ∧
      attack.target.all isNylocas then []
    else [column]
  | none, some color => chinColumns stage attack color
  | none, none =>
    match attack.type with
    | .clawSpec | .bgsSpec | .dinhsSpec | .challySpec | .hammerSpec | .voidwakerSpec
    | .elderMaulSpec | .tonalzticsSpec | .volatileNmSpec =>
      if attack.target.any isVerzikP1 then [.tobVerzikP1TrollSpecs] else []
    | .scytheUncharged => [.unchargedScytheSwings]
    | .sangBarrage | .shadowBarrage | .toxicTridentBarrage | .tridentBarrage
    | .unknownBarrage => [.tobBarragesWithoutProperWeapon]
    | _ => []

/-- Whether all waves of the Nylocas have spawned and some of them are left. -/
def inNyloCleanup (ctx : StageContext) : Bool :=
  (ctx.stageSplit .tobEntryNyloWaves).isSome && (ctx.stageSplit .tobEntryNyloCleanup).isNone

def thrownChin (ctx : StageContext) (player : Player) (attack : Attack) : List ChinThrow :=
  if player.partyIndex < ctx.players.length ∧ (chinColumn attack.type).isSome then
    attack.weapon.toList.map fun id => ⟨player.partyIndex, id⟩
  else []

def processPlayerAttack (p : TheatreProcessor) (ctx : StageContext) (stage : Stage)
    (player : Player) (attack : Attack) : Except Panic (TheatreProcessor × StageContext) := do
  let p := { p with chinsThrown := p.chinsThrown ++ thrownChin ctx player attack }
  let ctx ← countEach ctx player.partyIndex (attackColumns (inNyloCleanup ctx) stage attack)
  .ok (p, ctx)

/-! ### Bloat -/

def BLOAT_ROOM_ORIGIN : Coords := ⟨3288, 4440⟩

/-- The chunk of the room and the tile that a hand falls on, if it is in the room. -/
def placeHand (hand : Coords) : Except Panic (Option (ℕ × ℤ)) := do
  let x ← i32 (hand.x - BLOAT_ROOM_ORIGIN.x)
  let y ← i32 (hand.y - BLOAT_ROOM_ORIGIN.y)
  if (0 ≤ x ∧ x < 16) ∧ 0 ≤ y ∧ y < 16 then
    .ok (some (((y / 8) * 2 + x / 8).toNat, y * 16 + x))
  else .ok none

/-- A number truncated to a signed 16-bit integer. -/
def castI16 (n : ℕ) : ℤ := if n % 2 ^ 16 < 2 ^ 15 then n % 2 ^ 16 else n % 2 ^ 16 - 2 ^ 16

def captureBloatHands (s : BloatState) (hands : List Coords) : Except Panic BloatState := do
  let placed ← hands.mapM placeHand
  let waveNumber ← tryFrom (2 ^ 15) s.waveNumber "waves fit in smallint"
  let captured := (List.range 4).flatMap fun chunk =>
    ((placed.filterMap fun hand => hand).filter (·.1 = chunk)).zipIdx.map fun (hand, index) =>
      { waveNumber, tileId := hand.2, chunk, intraChunkOrder := castI16 index }
  let next ← u32 (s.waveNumber + 1)
  .ok { s with hands := s.hands ++ captured, waveNumber := next }

def eventsForTick (world : World) (events : List Event) (tick : ℕ) : List Event :=
  (events.drop (world.partitionPoint events tick)).takeWhile (·.tick = tick)

def bloatHitpoints (world : World) (events : List Event) (tick : ℕ) : Option ℕ :=
  let bloat := (eventsForTick world events tick).find? fun e =>
    e.type = .npcUpdate ∧ e.npc.any fun npc => isBloat npc.id
  (bloat.bind Event.npc).map Npc.hitpoints

def recordBloatDown (world : World) (events : List Event) (s : BloatState) (tick : ℕ)
    (down : BloatDown) : BloatState :=
  let record := { downNumber := down.downNumber, tick, walkTicks := down.upTicks - 1 }
  let s := { s with downs := s.downs ++ [record] }
  if down.downNumber = 1 then
    match bloatHitpoints world events tick with
    | some hitpoints => { s with firstDownHp := some (SkillLevel.fromRaw hitpoints) }
    | none => s
  else s

/-! ### Sotetseg -/

def fullPivots (coords : List Coords) : Option (Vector ℕ NUM_SOTETSEG_MAZE_PIVOTS) :=
  let pivots := coords.insertionSort (·.y ≤ ·.y)
  if h : coords.length = NUM_SOTETSEG_MAZE_PIVOTS then
    some ⟨(pivots.map fun pivot => castUnsigned pivot.x).toArray, by
      simp [pivots, List.length_insertionSort, h]⟩
  else none

def addPivot (rows : Vector (Option ℕ) NUM_SOTETSEG_MAZE_PIVOTS) (pivot : Coords) :
    Vector (Option ℕ) NUM_SOTETSEG_MAZE_PIVOTS :=
  if pivot.y % 2 = 0 ∧ 0 ≤ pivot.y then
    let row := (pivot.y / 2).toNat
    if h : row < NUM_SOTETSEG_MAZE_PIVOTS then
      if rows[row].isSome then rows else rows.set row (some (castUnsigned pivot.x))
    else rows
  else rows

namespace SotetsegState

def maze (s : SotetsegState) : Maze → Option SotetsegMaze
  | .maze66 => s.maze1
  | .maze33 => s.maze2

def setMaze (s : SotetsegState) (kind : Maze) (maze : SotetsegMaze) : SotetsegState :=
  match kind with
  | .maze66 => { s with maze1 := some maze }
  | .maze33 => { s with maze2 := some maze }

end SotetsegState

/-- The pivots after a path has been reported. -/
def addPath (rows : Vector (Option ℕ) NUM_SOTETSEG_MAZE_PIVOTS) (path : SoteMaze) : Pivots :=
  match (fullPivots path.underworldPivots).or (fullPivots path.overworldPivots) with
  | some pivots => .complete pivots
  | none =>
    let rows := path.underworldPivots.foldl addPivot rows
    if rows.all Option.isSome then .accumulated (rows.map (·.getD 0)) else .incomplete rows

def recordMazePath (s : SotetsegState) (path : SoteMaze) : SotetsegState :=
  match s.maze path.maze with
  | some maze =>
    match maze.pivots with
    | .incomplete rows => s.setMaze path.maze { maze with pivots := addPath rows path }
    | _ => s
  | none => s

def recordMazeProc (s : SotetsegState) (ctx : StageContext) (tick : ℕ) (kind : Maze) :
    SotetsegState × StageContext :=
  match kind with
  | .maze66 =>
    (s.setMaze .maze66 { startTick := tick }, ctx.setStageSplit .tobEntrySotetseg66 tick 0 false)
  | .maze33 =>
    let ctx := ctx.setStageSplit .tobEntrySotetseg33 tick 0 false
    let ctx := match s.maze1 with
      | some maze1 => ctx.setStageSplit .tobEntrySotetsegP2 tick maze1.endTick false
      | none => ctx
    (s.setMaze .maze33 { startTick := tick }, ctx)

def mazeSplit : Maze → SplitType
  | .maze66 => .tobEntrySotetsegMaze1
  | .maze33 => .tobEntrySotetsegMaze2

def recordMazeEnd (s : SotetsegState) (ctx : StageContext) (tick : ℕ) (path : SoteMaze) :
    SotetsegState × StageContext :=
  match s.maze path.maze with
  | some maze =>
    let chosenPlayer := path.chosenPlayer.or maze.chosenPlayer
    (s.setMaze path.maze { maze with endTick := tick, chosenPlayer },
      ctx.setStageSplit (mazeSplit path.maze) tick maze.startTick false)
  | none => (s, ctx)

/-! ### Xarpus -/

def exhumedHealingForScale (challenge : ChallengeInfo) : ℤ :=
  let hmt := challenge.mode = .tobHard
  match challenge.party.length with
  | 1 => if hmt then 21 else 20
  | 2 => if hmt then 14 else 16
  | 3 => 12
  | 4 => 9
  | 5 => 8
  | _ => 0

def recordExhumed (p : TheatreProcessor) (healTicks : List ℕ) :
    Except Panic TheatreProcessor := do
  let heals ← tryFrom (2 ^ 31) healTicks.length "heals fit in i32"
  let healed ← i32 (exhumedHealingForScale p.challenge * heals)
  let healing ← i32 (p.xarpusHealing.getD 0 + healed)
  .ok { p with xarpusHealing := some healing }

def recordXarpusPhase (ctx : StageContext) (tick : ℕ) : XarpusPhase → StageContext
  | .p1 => ctx
  | .p2 => ctx.setStageSplit .tobEntryXarpusExhumes tick 0 false
  | .p3 =>
    let ctx := ctx.setStageSplit .tobEntryXarpusScreech tick 0 false
    match ctx.stageSplit .tobEntryXarpusExhumes with
    | some exhumes => ctx.setStageSplit .tobEntryXarpusP2 tick exhumes.tick false
    | none => ctx

/-! ### Verzik -/

def VERZIK_P1_TRANSITION_TICKS : ℕ := 13
def VERZIK_P2_TRANSITION_TICKS : ℕ := 6

def recordVerzikPhase (ctx : StageContext) (tick : ℕ) : VerzikPhase → Except Panic StageContext
  | .idle | .p1 => .ok ctx
  | .p2 => .ok (ctx.setStageSplit .tobEntryVerzikP1End tick 0 false)
  | .p3 => do
    let ctx := ctx.setStageSplit .tobEntryVerzikP2End tick 0 false
    match ctx.stageSplit .tobEntryVerzikP1End with
    | some p1End => do
      let start ← u32 (p1End.tick + VERZIK_P1_TRANSITION_TICKS)
      .ok (ctx.setStageSplit .tobEntryVerzikP2 tick start false)
    | none => .ok ctx

/-- The place of the first attack of a kind on a tick. -/
def attackIndex (world : World) (events : List Event) (tick : ℕ) (attack : NpcAttack) :
    Option ℕ :=
  ((eventsForTick world events tick).findIdx? fun e =>
    e.type = .npcAttack ∧ e.npcAttack.any (·.attack = attack)).map
      (world.partitionPoint events tick + ·)

def changeAttack (events : List Event) (index : ℕ) (f : NpcAttackEvent → NpcAttackEvent) :
    List Event :=
  events.modify index fun e => { e with npcAttack := e.npcAttack.map f }

def missAttack (p : TheatreProcessor) (tick : ℕ) : TheatreProcessor :=
  { p with verzik := { p.verzik with missingAttackTicks := p.verzik.missingAttackTicks ++ [tick] } }

/-- Fills in whom a bounce was aimed at. The result says whether the event is kept. -/
def recordBounce (world : World) (r : Run) (bounce : VerzikBounce) : Run × Bool :=
  if bounce.npcAttackTick < 0 then (r, false)
  else
    match bounce.bouncedPlayer with
    -- a chance that was not taken
    | none => (r, true)
    | some player =>
      let attackTick := bounce.npcAttackTick.toNat
      match attackIndex world r.events attackTick .tobVerzikP2Bounce with
      | some index =>
        ({ r with events := changeAttack r.events index ({ · with target := some player }) }, true)
      | none => ({ r with processor := missAttack r.processor attackTick }, true)

def styledAttack : AttackStyle → NpcAttack
  | .melee => .tobVerzikP3Melee
  | .range => .tobVerzikP3Range
  | .mage => .tobVerzikP3Mage

/-- The player that an attack of a style tanks, by party position. -/
def tank (r : Run) (index : ℕ) : AttackStyle → Option ℕ
  | .melee => do
    let event ← r.events[index]?
    let attack ← event.npcAttack
    let name ← attack.target
    r.ctx.partyIndex name
  | .range | .mage => none

def countTank (r : Run) (index : ℕ) (style : AttackStyle) : Except Panic StageContext :=
  match tank r index style with
  | some player => count r.ctx player .tobVerzikP3Melees 1
  | none => .ok r.ctx

def recordAttackStyle (world : World) (r : Run) (style : VerzikAttackStyle) :
    Except Panic Run :=
  match attackIndex world r.events style.npcAttackTick .tobVerzikP3Auto with
  | none => .ok { r with processor := missAttack r.processor style.npcAttackTick }
  | some index => do
    let attack := styledAttack style.style
    let ctx ← countTank r index style.style
    .ok { r with ctx, events := changeAttack r.events index ({ · with attack }) }

/-! ### The event loop -/

/-- Whether a crab leaks with all its hitpoints. -/
def isFullLeak (event : Event) : Bool :=
  match event.npc with
  | some { type := some (.maidenCrab _ _), hitpoints, .. } =>
    (SkillLevel.fromRaw hitpoints).current = (SkillLevel.fromRaw hitpoints).base
  | _ => false

/-- Handles one event, also returning whether it should be kept. -/
def processChallengeEvent (world : World) (r : Run) (event : Event) :
    Except Panic (Run × Bool) :=
  let p := r.processor
  let ctx := r.ctx
  match event.type with
  | .playerDeath =>
    match event.player with
    | some player => do
      let ctx ← countEach ctx player.partyIndex (deathColumns event.stage)
      .ok ({ r with ctx }, true)
    | none => .ok (r, true)
  | .playerAttack =>
    match event.player, event.playerAttack with
    | some player, some attack => do
      let (processor, ctx) ← processPlayerAttack p ctx event.stage player attack
      .ok ({ r with processor, ctx }, true)
    | _, _ => .ok (r, true)
  | .npcSpawn =>
    match event.npc with
    | some npc => do
      let (processor, ctx) ← processNpcSpawn p ctx event.tick npc
      .ok ({ r with processor, ctx }, true)
    | none => .ok (r, true)
  | .npcUpdate =>
    match event.npc with
    | some npc => do
      let processor ← processNpcUpdate p ctx npc
      .ok ({ r with processor }, true)
    | none => .ok (r, true)
  | .tobMaidenCrabLeak =>
    if isFullLeak event then do
      let fullLeaks ← u32 (p.maiden.fullLeaks + 1)
      .ok ({ r with processor := { p with maiden := { p.maiden with fullLeaks } } }, true)
    else .ok (r, true)
  | .tobBloatDown =>
    match event.bloatDown with
    | some down =>
      let bloat := recordBloatDown world r.events p.bloat event.tick down
      .ok ({ r with processor := { p with bloat } }, true)
    | none => .ok (r, true)
  | .tobBloatHandsDrop => do
    let bloat ← captureBloatHands p.bloat event.bloatHands
    .ok ({ r with processor := { p with bloat } }, true)
  | .tobNyloWaveSpawn =>
    if event.nyloWave = some 20 then
      .ok ({ r with ctx := ctx.setStageSplit .tobEntryNyloCap event.tick 0 false }, true)
    else if event.nyloWave = some 31 then
      .ok ({ r with ctx := ctx.setStageSplit .tobEntryNyloWaves event.tick 0 false }, true)
    else .ok (r, true)
  | .tobNyloWaveStall =>
    let stalledWaves := p.nylocas.stalledWaves ++ event.nyloWave.toList
    .ok ({ r with processor := { p with nylocas := { p.nylocas with stalledWaves } } }, true)
  | .tobNyloCleanupEnd =>
    .ok ({ r with ctx := ctx.setStageSplit .tobEntryNyloCleanup event.tick 0 false }, true)
  | .tobNyloBossSpawn =>
    .ok ({ r with ctx := ctx.setStageSplit .tobEntryNyloBossSpawn event.tick 0 false }, true)
  | .tobSoteMazeProc =>
    match event.soteMaze with
    | some path =>
      let (sotetseg, ctx) := recordMazeProc p.sotetseg ctx event.tick path.maze
      .ok ({ r with processor := { p with sotetseg }, ctx }, true)
    | none => .ok (r, false)
  | .tobSoteMazePath =>
    match event.soteMaze with
    | some path =>
      -- the tiles are for replays, the pivots for the processor
      if path.overworldTiles.isEmpty then
        .ok ({ r with processor := { p with sotetseg := recordMazePath p.sotetseg path } }, false)
      else .ok (r, true)
    | none => .ok (r, true)
  | .tobSoteMazeEnd =>
    match event.soteMaze with
    | some path =>
      let (sotetseg, ctx) := recordMazeEnd p.sotetseg ctx event.tick path
      .ok ({ r with processor := { p with sotetseg }, ctx }, false)
    | none => .ok (r, false)
  | .tobXarpusExhumed =>
    match event.xarpusExhumed with
    | some healTicks => do
      let processor ← recordExhumed p healTicks
      .ok ({ r with processor }, true)
    | none => .ok (r, true)
  | .tobXarpusPhase =>
    .ok ({ r with ctx := recordXarpusPhase ctx event.tick event.xarpusPhase }, true)
  | .tobVerzikPhase => do
    let ctx ← recordVerzikPhase ctx event.tick event.verzikPhase
    .ok ({ r with ctx }, true)
  | .tobVerzikBounce =>
    match event.verzikBounce with
    | some bounce => .ok (recordBounce world r bounce)
    | none => .ok (r, false)
  | .tobVerzikAttackStyle =>
    match event.verzikAttackStyle with
    | some style => do
      let r ← recordAttackStyle world r style
      .ok (r, false)
    | none => .ok (r, false)
  | _ => .ok (r, true)

/-- Updates what is known of the players before an event is handled. -/
def trackEvent (slots : Slots) (ctx : StageContext) (event : Event) : StageContext :=
  match event.type, event.player with
  | .playerUpdate, some player =>
    let players := ctx.players.modify player.partyIndex fun data =>
      { data with gear := data.gear.or (tryDetermineGear slots player) }
    { ctx with challenge := { ctx.challenge with players } }
  | .playerDeath, some player => ctx.recordDeath player.partyIndex
  | _, _ => ctx

/-- An event of a player outside the party is passed over. -/
def isSkipped (event : Event) : Bool :=
  event.player.any fun player => player.partyIndex = 2 ^ 32 - 1

def step (world : World) (r : Run) (index : ℕ) : Except Panic Run :=
  match r.events[index]? with
  | none => .error .indexOutOfBounds
  | some event =>
    if isSkipped event then .ok r
    else do
      let (r, keep) ← processChallengeEvent world
        { r with ctx := trackEvent world.slots r.ctx event } event
      .ok { r with kept := if keep then r.kept ++ [index] else r.kept }

def interpret (world : World) (p : TheatreProcessor) (ctx : StageContext) (events : List Event) :
    Except Panic Run :=
  (List.range events.length).foldlM (step world) { processor := p, ctx, events }

end Blert.Theatre

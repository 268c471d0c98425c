import Blert.OrdMap
import Blert.Repository.StageEvents

/-!
Stored challenge data.

The rooms or waves of a challenge, each with its NPCs, are converted to a message to be saved and
back to be loaded. Numbers are those that their fields in the messages hold.
-/

namespace Blert.Repository

open Lifecycle (Stage)

/-! ### Challenge data -/

structure Coords where
  x : Int32
  y : Int32
  deriving DecidableEq

/-- The integers that a number holds exactly. -/
abbrev RoomId := Fin (2 ^ 53)

inductive MaidenCrabSpawn
  | seventies | fifties | thirties
  deriving DecidableEq

inductive MaidenCrabPosition
  | n1 | n2 | n3 | n4Inner | n4Outer | s1 | s2 | s3 | s4Inner | s4Outer
  deriving DecidableEq

inductive NyloStyle
  | melee | range | mage
  deriving DecidableEq

inductive NyloSpawn
  | east | south | west | split | unknown
  deriving DecidableEq

inductive VerzikPhase
  | idle | p1 | p2 | p3
  deriving DecidableEq

inductive VerzikCrabSpawn
  | unknown | north | northeast | northwest | east | south | southeast | southwest | west
  deriving DecidableEq

structure MaidenCrabProperties where
  spawn : MaidenCrabSpawn
  position : MaidenCrabPosition
  scuffed : Bool
  deriving DecidableEq

structure NyloProperties where
  parentRoomId : RoomId
  wave : UInt32
  big : Bool
  style : NyloStyle
  spawnType : NyloSpawn
  deriving DecidableEq

structure VerzikCrabProperties where
  phase : VerzikPhase
  spawn : VerzikCrabSpawn
  deriving DecidableEq

inductive RoomNpcType
  | basic
  | maidenCrab (maidenCrab : MaidenCrabProperties)
  | nylo (nylo : NyloProperties)
  | verzikCrab (verzikCrab : VerzikCrabProperties)
  deriving DecidableEq

structure RoomNpc where
  roomId : RoomId
  spawnNpcId : UInt32
  spawnTick : UInt32
  spawnPoint : Coords
  deathTick : UInt32
  deathPoint : Coords
  type : RoomNpcType
  deriving DecidableEq

structure RoomNpcMap where
  npcs : OrdMap RoomId RoomNpc
  keyed : ∀ e ∈ npcs.entries, e.1 = e.2.roomId
  deriving DecidableEq

namespace RoomNpcMap

instance : EmptyCollection RoomNpcMap := ⟨⟨∅, nofun⟩⟩

def insert (m : RoomNpcMap) (npc : RoomNpc) : RoomNpcMap :=
  ⟨m.npcs.insert npc.roomId npc, fun e he => by
    rcases OrdMap.mem_put he with rfl | he
    · rfl
    · exact m.keyed e he⟩

def values (m : RoomNpcMap) : List RoomNpc := m.npcs.values

end RoomNpcMap

structure TobRoom where
  stage : Stage
  ticksLost : UInt32
  npcs : RoomNpcMap
  deaths : List String
  deriving DecidableEq

structure BloatRoom extends TobRoom where
  downTicks : List UInt32
  deriving DecidableEq

structure NylocasRoom extends TobRoom where
  stalledWaves : List UInt32
  deriving DecidableEq

structure SotetsegRoom extends TobRoom where
  maze1Pivots : List UInt32
  maze2Pivots : List UInt32
  maze1Chosen : Option String
  maze2Chosen : Option String
  deriving DecidableEq

structure VerzikRoom extends TobRoom where
  redsSpawnCount : UInt32
  deriving DecidableEq

structure TobRooms where
  maiden : Option TobRoom
  bloat : Option BloatRoom
  nylocas : Option NylocasRoom
  sotetseg : Option SotetsegRoom
  xarpus : Option TobRoom
  verzik : Option VerzikRoom
  deriving DecidableEq

structure ColosseumWave where
  stage : Stage
  ticksLost : UInt32
  npcs : RoomNpcMap
  handicap : UInt32
  options : List UInt32
  deriving DecidableEq

structure ColosseumData where
  handicaps : List UInt32
  waves : List ColosseumWave
  deriving DecidableEq

structure InfernoWave where
  stage : Stage
  ticksLost : UInt32
  npcs : RoomNpcMap
  ticks : UInt32
  startTick : UInt32
  deriving DecidableEq

structure InfernoData where
  waves : List InfernoWave
  deriving DecidableEq

structure MokhaiotlDelve where
  stage : Stage
  ticksLost : UInt32
  npcs : RoomNpcMap
  delve : UInt32
  challengeTicks : UInt32
  larvaeLeaked : UInt32
  deriving DecidableEq

structure MokhaiotlData where
  delves : List MokhaiotlDelve
  deriving DecidableEq

/-! ### Messages -/

namespace Proto

/-- The properties of an NPC, of which a message holds at most one kind. -/
inductive StageNpc.Type
  | basic
  | maidenCrab (maidenCrab : MaidenCrabProperties)
  | nylo (nylo : NyloProperties)
  | verzikCrab (verzikCrab : VerzikCrabProperties)

structure StageNpc where
  spawnNpcId : UInt32 := 0
  roomId : RoomId := 0
  spawnTick : UInt32 := 0
  deathTick : UInt32 := 0
  spawnPoint : Option Coords := none
  deathPoint : Option Coords := none
  type : Option StageNpc.Type := none

structure TobRoom where
  stage : Stage := Stage.unknownStage
  ticksLost : UInt32 := 0
  deaths : List String := []
  npcs : List StageNpc := []
  bloatDownTicks : List UInt32 := []
  nyloWavesStalled : List UInt32 := []
  sotetsegMaze1Pivots : List UInt32 := []
  sotetsegMaze2Pivots : List UInt32 := []
  sotetsegMaze1Chosen : Option String := none
  sotetsegMaze2Chosen : Option String := none
  verzikRedsCount : UInt32 := 0

structure TobRooms where
  maiden : Option TobRoom := none
  bloat : Option TobRoom := none
  nylocas : Option TobRoom := none
  sotetseg : Option TobRoom := none
  xarpus : Option TobRoom := none
  verzik : Option TobRoom := none

structure ColosseumWave where
  stage : Stage := Stage.unknownStage
  ticksLost : UInt32 := 0
  handicapChosen : UInt32 := 0
  handicapOptions : List UInt32 := []
  npcs : List StageNpc := []

structure Colosseum where
  allHandicaps : List UInt32 := []
  waves : List ColosseumWave := []

structure InfernoWave where
  stage : Stage := Stage.unknownStage
  ticksLost : UInt32 := 0
  npcs : List StageNpc := []
  ticks : UInt32 := 0
  startTick : UInt32 := 0

structure Inferno where
  waves : List InfernoWave := []

structure MokhaiotlDelve where
  stage : Stage := Stage.unknownStage
  ticksLost : UInt32 := 0
  npcs : List StageNpc := []
  delve : UInt32 := 0
  challengeTicks : UInt32 := 0
  larvaeLeaked : UInt32 := 0

structure Mokhaiotl where
  delves : List MokhaiotlDelve := []

/-- The data of a challenge's stages, of which a message holds at most one kind. -/
inductive StageData
  | tobRooms (tobRooms : TobRooms)
  | colosseum (colosseum : Colosseum)
  | inferno (inferno : Inferno)
  | mokhaiotl (mokhaiotl : Mokhaiotl)

structure ChallengeData where
  challengeId : String := ""
  stageData : Option StageData := none

end Proto

/-! ### NPCs -/

/-- The type an NPC is written with. A Verzik crab's message is built, but not set. -/
def typeToProto : RoomNpcType → Option Proto.StageNpc.Type
  | .basic => some .basic
  | .maidenCrab crab => some (.maidenCrab crab)
  | .nylo nylo => some (.nylo nylo)
  | .verzikCrab _ => none

def npcToProto (npc : RoomNpc) : Proto.StageNpc where
  spawnNpcId := npc.spawnNpcId
  roomId := npc.roomId
  spawnTick := npc.spawnTick
  deathTick := npc.deathTick
  spawnPoint := some npc.spawnPoint
  deathPoint := some npc.deathPoint
  type := typeToProto npc.type

def npcsToProto (npcs : RoomNpcMap) : List Proto.StageNpc := npcs.values.map npcToProto

def typeFromProto : Option Proto.StageNpc.Type → RoomNpcType
  | some (.maidenCrab crab) => .maidenCrab crab
  | some (.nylo nylo) => .nylo nylo
  | some (.verzikCrab crab) => .verzikCrab crab
  | _ => .basic

def coordsFromProto (point : Option Coords) : Coords :=
  ⟨(point.map Coords.x).getD 0, (point.map Coords.y).getD 0⟩

def npcFromProto (npc : Proto.StageNpc) : RoomNpc where
  roomId := npc.roomId
  spawnNpcId := npc.spawnNpcId
  spawnTick := npc.spawnTick
  spawnPoint := coordsFromProto npc.spawnPoint
  deathTick := npc.deathTick
  deathPoint := coordsFromProto npc.deathPoint
  type := typeFromProto npc.type

def npcsFromProto (npcs : List Proto.StageNpc) : RoomNpcMap :=
  npcs.foldl (fun map npc => map.insert (npcFromProto npc)) ∅

/-! ### Saving -/

variable {B : Type}

def challengeFile : String := "challenge"

def saveChallengeDataProto (codec : Codec Proto.ChallengeData B) (s : Blobs B) (uuid : String)
    (data : Proto.ChallengeData) : Blobs B :=
  s.write (relativePath uuid challengeFile) (codec.encode data)

def setSharedRoomData (tobRoom : TobRoom) : Proto.TobRoom where
  stage := tobRoom.stage
  ticksLost := tobRoom.ticksLost
  deaths := tobRoom.deaths
  npcs := npcsToProto tobRoom.npcs

def bloatToProto (bloat : BloatRoom) : Proto.TobRoom :=
  { setSharedRoomData bloat.toTobRoom with bloatDownTicks := bloat.downTicks }

def nylocasToProto (nylocas : NylocasRoom) : Proto.TobRoom :=
  { setSharedRoomData nylocas.toTobRoom with nyloWavesStalled := nylocas.stalledWaves }

def sotetsegToProto (sotetseg : SotetsegRoom) : Proto.TobRoom :=
  { setSharedRoomData sotetseg.toTobRoom with
    sotetsegMaze1Pivots := sotetseg.maze1Pivots
    sotetsegMaze1Chosen := sotetseg.maze1Chosen
    sotetsegMaze2Pivots := sotetseg.maze2Pivots
    sotetsegMaze2Chosen := sotetseg.maze2Chosen }

def verzikToProto (verzik : VerzikRoom) : Proto.TobRoom :=
  { setSharedRoomData verzik.toTobRoom with verzikRedsCount := verzik.redsSpawnCount }

def saveTobChallengeData (codec : Codec Proto.ChallengeData B) (s : Blobs B) (uuid : String)
    (tobRooms : TobRooms) : Blobs B :=
  let tobData : Proto.TobRooms :=
    { maiden := tobRooms.maiden.map setSharedRoomData
      bloat := tobRooms.bloat.map bloatToProto
      nylocas := tobRooms.nylocas.map nylocasToProto
      sotetseg := tobRooms.sotetseg.map sotetsegToProto
      xarpus := tobRooms.xarpus.map setSharedRoomData
      verzik := tobRooms.verzik.map verzikToProto }
  saveChallengeDataProto codec s uuid ⟨uuid, some (.tobRooms tobData)⟩

def colosseumWaveToProto (wave : ColosseumWave) : Proto.ColosseumWave where
  stage := wave.stage
  ticksLost := wave.ticksLost
  handicapChosen := wave.handicap
  handicapOptions := wave.options
  npcs := npcsToProto wave.npcs

def saveColosseumChallengeData (codec : Codec Proto.ChallengeData B) (s : Blobs B) (uuid : String)
    (colosseumData : ColosseumData) : Blobs B :=
  let colo : Proto.Colosseum :=
    { allHandicaps := colosseumData.handicaps
      waves := colosseumData.waves.map colosseumWaveToProto }
  saveChallengeDataProto codec s uuid ⟨uuid, some (.colosseum colo)⟩

/-- A wave of the Inferno, written without the ticks it has lost. -/
def infernoWaveToProto (wave : InfernoWave) : Proto.InfernoWave where
  stage := wave.stage
  ticks := wave.ticks
  startTick := wave.startTick
  npcs := npcsToProto wave.npcs

def saveInfernoChallengeData (codec : Codec Proto.ChallengeData B) (s : Blobs B) (uuid : String)
    (infernoData : InfernoData) : Blobs B :=
  let inferno : Proto.Inferno := { waves := infernoData.waves.map infernoWaveToProto }
  saveChallengeDataProto codec s uuid ⟨uuid, some (.inferno inferno)⟩

def delveToProto (delve : MokhaiotlDelve) : Proto.MokhaiotlDelve where
  stage := delve.stage
  ticksLost := delve.ticksLost
  npcs := npcsToProto delve.npcs
  delve := delve.delve
  challengeTicks := delve.challengeTicks
  larvaeLeaked := delve.larvaeLeaked

def saveMokhaiotlChallengeData (codec : Codec Proto.ChallengeData B) (s : Blobs B) (uuid : String)
    (mokhaiotlData : MokhaiotlData) : Blobs B :=
  let mokhaiotl : Proto.Mokhaiotl := { delves := mokhaiotlData.delves.map delveToProto }
  saveChallengeDataProto codec s uuid ⟨uuid, some (.mokhaiotl mokhaiotl)⟩

/-! ### Loading -/

inductive LoadError
  | notFound (which : String)
  | invalidType
  deriving DecidableEq

def loadChallengeDataProto (codec : Codec Proto.ChallengeData B) (s : Blobs B) (uuid : String) :
    Except LoadError Proto.ChallengeData :=
  match (s.read (relativePath uuid challengeFile)).bind codec.decode with
  | some data => .ok data
  | none => .error (.notFound s!"{uuid}/{challengeFile}")

def maidenFromProto (maiden : Proto.TobRoom) : TobRoom where
  stage := Stage.tobMaiden
  ticksLost := maiden.ticksLost
  deaths := maiden.deaths
  npcs := npcsFromProto maiden.npcs

def bloatFromProto (bloat : Proto.TobRoom) : BloatRoom where
  stage := Stage.tobBloat
  ticksLost := bloat.ticksLost
  deaths := bloat.deaths
  downTicks := bloat.bloatDownTicks
  npcs := npcsFromProto bloat.npcs

def nylocasFromProto (nylocas : Proto.TobRoom) : NylocasRoom where
  stage := Stage.tobNylocas
  ticksLost := nylocas.ticksLost
  deaths := nylocas.deaths
  stalledWaves := nylocas.nyloWavesStalled
  npcs := npcsFromProto nylocas.npcs

/-- An absent name reads as an empty one, which stands for none. -/
def chosenFromProto (chosen : Option String) : Option String :=
  if chosen.getD "" = "" then none else some (chosen.getD "")

def sotetsegFromProto (sotetseg : Proto.TobRoom) : SotetsegRoom where
  stage := Stage.tobSotetseg
  ticksLost := sotetseg.ticksLost
  deaths := sotetseg.deaths
  maze1Pivots := sotetseg.sotetsegMaze1Pivots
  maze2Pivots := sotetseg.sotetsegMaze2Pivots
  maze1Chosen := chosenFromProto sotetseg.sotetsegMaze1Chosen
  maze2Chosen := chosenFromProto sotetseg.sotetsegMaze2Chosen
  npcs := npcsFromProto sotetseg.npcs

def xarpusFromProto (xarpus : Proto.TobRoom) : TobRoom where
  stage := Stage.tobXarpus
  ticksLost := xarpus.ticksLost
  deaths := xarpus.deaths
  npcs := npcsFromProto xarpus.npcs

def verzikFromProto (verzik : Proto.TobRoom) : VerzikRoom where
  stage := Stage.tobVerzik
  ticksLost := verzik.ticksLost
  deaths := verzik.deaths
  redsSpawnCount := verzik.verzikRedsCount
  npcs := npcsFromProto verzik.npcs

def parseTobRooms (tobData : Proto.TobRooms) : TobRooms where
  maiden := tobData.maiden.map maidenFromProto
  bloat := tobData.bloat.map bloatFromProto
  nylocas := tobData.nylocas.map nylocasFromProto
  sotetseg := tobData.sotetseg.map sotetsegFromProto
  xarpus := tobData.xarpus.map xarpusFromProto
  verzik := tobData.verzik.map verzikFromProto

def loadTobChallengeData (codec : Codec Proto.ChallengeData B) (s : Blobs B) (uuid : String) :
    Except LoadError TobRooms := do
  let challengeData ← loadChallengeDataProto codec s uuid
  match challengeData.stageData with
  | some (.tobRooms tobData) => return parseTobRooms tobData
  | _ => throw .invalidType

def colosseumWaveFromProto (wave : Proto.ColosseumWave) : ColosseumWave where
  stage := wave.stage
  ticksLost := wave.ticksLost
  handicap := wave.handicapChosen
  options := wave.handicapOptions
  npcs := npcsFromProto wave.npcs

def parseColosseumData (colo : Proto.Colosseum) : ColosseumData where
  handicaps := colo.allHandicaps
  waves := (colo.waves.map colosseumWaveFromProto).insertionSort fun a b => a.stage ≤ b.stage

def loadColosseumChallengeData (codec : Codec Proto.ChallengeData B) (s : Blobs B)
    (uuid : String) : Except LoadError ColosseumData := do
  let challengeData ← loadChallengeDataProto codec s uuid
  match challengeData.stageData with
  | some (.colosseum colo) => return parseColosseumData colo
  | _ => throw .invalidType

def infernoWaveFromProto (wave : Proto.InfernoWave) : InfernoWave where
  stage := wave.stage
  ticks := wave.ticks
  ticksLost := wave.ticksLost
  startTick := wave.startTick
  npcs := npcsFromProto wave.npcs

def parseInfernoData (inferno : Proto.Inferno) : InfernoData where
  waves := inferno.waves.map infernoWaveFromProto

def loadInfernoChallengeData (codec : Codec Proto.ChallengeData B) (s : Blobs B)
    (uuid : String) : Except LoadError InfernoData := do
  let challengeData ← loadChallengeDataProto codec s uuid
  match challengeData.stageData with
  | some (.inferno inferno) => return parseInfernoData inferno
  | _ => throw .invalidType

def delveFromProto (delve : Proto.MokhaiotlDelve) : MokhaiotlDelve where
  stage := delve.stage
  ticksLost := delve.ticksLost
  npcs := npcsFromProto delve.npcs
  delve := delve.delve
  challengeTicks := delve.challengeTicks
  larvaeLeaked := delve.larvaeLeaked

def parseMokhaiotlData (mokhaiotl : Proto.Mokhaiotl) : MokhaiotlData where
  delves := (mokhaiotl.delves.map delveFromProto).insertionSort
    fun a b => a.delve.toNat ≤ b.delve.toNat

def loadMokhaiotlChallengeData (codec : Codec Proto.ChallengeData B) (s : Blobs B)
    (uuid : String) : Except LoadError MokhaiotlData := do
  let challengeData ← loadChallengeDataProto codec s uuid
  match challengeData.stageData with
  | some (.mokhaiotl mokhaiotl) => return parseMokhaiotlData mokhaiotl
  | _ => throw .invalidType

/-! ### Data of any challenge -/

inductive ChallengeData
  | tob (tobRooms : TobRooms)
  | colosseum (colosseumData : ColosseumData)
  | inferno (infernoData : InfernoData)
  | mokhaiotl (mokhaiotlData : MokhaiotlData)
  deriving DecidableEq

namespace ChallengeData

def save (codec : Codec Proto.ChallengeData B) (s : Blobs B) (uuid : String) :
    ChallengeData → Blobs B
  | .tob tobRooms => saveTobChallengeData codec s uuid tobRooms
  | .colosseum colosseumData => saveColosseumChallengeData codec s uuid colosseumData
  | .inferno infernoData => saveInfernoChallengeData codec s uuid infernoData
  | .mokhaiotl mokhaiotlData => saveMokhaiotlChallengeData codec s uuid mokhaiotlData

def loadAs (codec : Codec Proto.ChallengeData B) (s : Blobs B) (uuid : String) :
    ChallengeData → Except LoadError ChallengeData
  | .tob _ => (loadTobChallengeData codec s uuid).map tob
  | .colosseum _ => (loadColosseumChallengeData codec s uuid).map colosseum
  | .inferno _ => (loadInfernoChallengeData codec s uuid).map inferno
  | .mokhaiotl _ => (loadMokhaiotlChallengeData codec s uuid).map mokhaiotl

/-- Rooms have the stages of their places, a player chosen for a maze has a name, and waves and
delves are in order. -/
def InOrder : ChallengeData → Prop
  | .tob tobRooms =>
    (∀ room ∈ tobRooms.maiden, room.stage = Stage.tobMaiden) ∧
    (∀ room ∈ tobRooms.bloat, room.stage = Stage.tobBloat) ∧
    (∀ room ∈ tobRooms.nylocas, room.stage = Stage.tobNylocas) ∧
    (∀ room ∈ tobRooms.sotetseg, room.stage = Stage.tobSotetseg ∧
      room.maze1Chosen ≠ some "" ∧ room.maze2Chosen ≠ some "") ∧
    (∀ room ∈ tobRooms.xarpus, room.stage = Stage.tobXarpus) ∧
    ∀ room ∈ tobRooms.verzik, room.stage = Stage.tobVerzik
  | .colosseum colosseumData => colosseumData.waves.Pairwise (·.stage ≤ ·.stage)
  | .inferno _ => True
  | .mokhaiotl mokhaiotlData => mokhaiotlData.delves.Pairwise (·.delve.toNat ≤ ·.delve.toNat)

def npcs : ChallengeData → List RoomNpcMap
  | .tob tobRooms =>
    (tobRooms.maiden.map (·.npcs)).toList ++ (tobRooms.bloat.map (·.npcs)).toList ++
      (tobRooms.nylocas.map (·.npcs)).toList ++ (tobRooms.sotetseg.map (·.npcs)).toList ++
      (tobRooms.xarpus.map (·.npcs)).toList ++ (tobRooms.verzik.map (·.npcs)).toList
  | .colosseum colosseumData => colosseumData.waves.map (·.npcs)
  | .inferno infernoData => infernoData.waves.map (·.npcs)
  | .mokhaiotl mokhaiotlData => mokhaiotlData.delves.map (·.npcs)

def infernoTicksLost : ChallengeData → List UInt32
  | .inferno infernoData => infernoData.waves.map (·.ticksLost)
  | _ => []

end ChallengeData

def RoomNpcType.isVerzikCrab : RoomNpcType → Bool
  | .verzikCrab _ => true
  | _ => false

/-- Nothing is left out when it is written. -/
structure ChallengeData.Written (v : ChallengeData) : Prop where
  npcs : ∀ npcs ∈ v.npcs, ∀ npc ∈ npcs.values, ¬ npc.type.isVerzikCrab
  ticksLost : ∀ ticksLost ∈ v.infernoTicksLost, ticksLost = 0

/-! ### What is written is read -/

lemma npcFromProto_npcToProto (npc : RoomNpc) : npcFromProto (npcToProto npc) =
    { npc with type := typeFromProto (typeToProto npc.type) } := rfl

lemma typeFromProto_typeToProto {type : RoomNpcType} :
    typeFromProto (typeToProto type) = type ↔ ¬ type.isVerzikCrab := by
  cases type <;> simp [typeFromProto, typeToProto, RoomNpcType.isVerzikCrab]

lemma npcFromProto_npcToProto_eq {npc : RoomNpc} :
    npcFromProto (npcToProto npc) = npc ↔ ¬ npc.type.isVerzikCrab := by
  rw [npcFromProto_npcToProto, ← typeFromProto_typeToProto]
  obtain ⟨_, _, _, _, _, _, type⟩ := npc
  simp

lemma npcsFromProto_npcsToProto (m : RoomNpcMap) : (npcsFromProto (npcsToProto m)).npcs.entries =
    m.npcs.entries.map fun e => (e.1, npcFromProto (npcToProto e.2)) := by
  have hbuild : ∀ (es : List (RoomId × RoomNpc)) (n : RoomNpcMap),
      (∀ e ∈ es, e.1 = e.2.roomId) →
      ((es.map fun e => npcToProto e.2).foldl
          (fun map npc => map.insert (npcFromProto npc)) n).npcs =
        (es.map fun e => (e.1, npcFromProto (npcToProto e.2))).foldl
          (fun map e => map.insert e.1 e.2) n.npcs := by
    intro es
    induction es with
    | nil => exact fun _ _ => rfl
    | cons e es ih =>
      intro n hes
      rw [List.map_cons, List.foldl_cons, ih _ fun e' he' => hes e' (List.mem_cons_of_mem _ he'),
        List.map_cons, List.foldl_cons]
      congr 1
      change OrdMap.insert _ e.2.roomId _ = _
      rw [hes e List.mem_cons_self]
  have hlist : npcsToProto m = m.npcs.entries.map fun e => npcToProto e.2 := by
    rw [npcsToProto, RoomNpcMap.values, OrdMap.values, List.map_map]
    rfl
  rw [npcsFromProto, hlist, hbuild _ _ m.keyed]
  exact OrdMap.entries_foldl_insert (List.pairwise_map.mpr (m.npcs.sorted.imp id))

def NpcsWritten (m : RoomNpcMap) : Prop := ∀ npc ∈ m.values, ¬ npc.type.isVerzikCrab

lemma npcs_eq_iff {m : RoomNpcMap} : npcsFromProto (npcsToProto m) = m ↔ NpcsWritten m := by
  have hext : ∀ n : RoomNpcMap, n = m ↔ n.npcs.entries = m.npcs.entries := by
    rintro ⟨⟨_, _⟩, _⟩
    obtain ⟨⟨_, _⟩, _⟩ := m
    simp
  rw [hext, npcsFromProto_npcsToProto, map_eq_self, NpcsWritten, RoomNpcMap.values, OrdMap.values,
    List.forall_mem_map]
  refine forall₂_congr fun e _ => ?_
  rw [← npcFromProto_npcToProto_eq, Prod.ext_iff]
  exact and_iff_right rfl

lemma insertionSort_map_eq {α κ : Type} [LinearOrder κ] {xs : List α} (key : α → κ) (f : α → α)
    (hkey : ∀ x, key (f x) = key x) :
    ((xs.map f).insertionSort fun a b => key a ≤ key b) = xs ↔
      xs.Pairwise (key · ≤ key ·) ∧ ∀ x ∈ xs, f x = x := by
  have : IsTrans α fun a b => key a ≤ key b := ⟨fun _ _ _ => le_trans⟩
  have : Std.Total fun a b : α => key a ≤ key b := ⟨fun _ _ => le_total _ _⟩
  have hsorted (h : xs.Pairwise (key · ≤ key ·)) :
      ((xs.map f).insertionSort fun a b => key a ≤ key b) = xs.map f :=
    List.Pairwise.insertionSort_eq (List.pairwise_map.mpr (by simpa only [hkey] using h))
  constructor
  · intro h
    have hxs : xs.Pairwise (key · ≤ key ·) := h ▸ List.pairwise_insertionSort _ _
    exact ⟨hxs, map_eq_self.1 ((hsorted hxs).symm.trans h)⟩
  · rintro ⟨hxs, hf⟩
    rw [hsorted hxs, map_eq_self.2 hf]

lemma room_eq_iff {stage : Stage} {room : TobRoom} :
    (⟨stage, room.ticksLost, npcsFromProto (npcsToProto room.npcs), room.deaths⟩ : TobRoom) =
      room ↔ room.stage = stage ∧ NpcsWritten room.npcs := by
  rw [← npcs_eq_iff]
  obtain ⟨stage', _, _, _⟩ := room
  simp [eq_comm]

lemma chosenFromProto_eq {chosen : Option String} :
    chosenFromProto chosen = chosen ↔ chosen ≠ some "" := by
  unfold chosenFromProto
  cases chosen with
  | none => simp
  | some name => by_cases h : name = "" <;> simp [h]

lemma option_map_eq_self {α : Type} {f : α → α} {o : Option α} :
    o.map f = o ↔ ∀ x ∈ o, f x = x := by
  cases o <;> simp

lemma forall_mem_toList_map {α β : Type} {f : α → β} {P : β → Prop} {o : Option α} :
    (∀ y ∈ (o.map f).toList, P y) ↔ ∀ x ∈ o, P (f x) := by
  cases o <;> simp

lemma maiden_eq_iff {maiden : TobRoom} : maidenFromProto (setSharedRoomData maiden) = maiden ↔
    maiden.stage = Stage.tobMaiden ∧ NpcsWritten maiden.npcs :=
  room_eq_iff

lemma xarpus_eq_iff {xarpus : TobRoom} : xarpusFromProto (setSharedRoomData xarpus) = xarpus ↔
    xarpus.stage = Stage.tobXarpus ∧ NpcsWritten xarpus.npcs :=
  room_eq_iff

lemma bloat_eq_iff {bloat : BloatRoom} : bloatFromProto (bloatToProto bloat) = bloat ↔
    bloat.stage = Stage.tobBloat ∧ NpcsWritten bloat.npcs := by
  rw [← room_eq_iff]
  obtain ⟨room, _⟩ := bloat
  simp [bloatFromProto, bloatToProto, setSharedRoomData]

lemma nylocas_eq_iff {nylocas : NylocasRoom} :
    nylocasFromProto (nylocasToProto nylocas) = nylocas ↔
      nylocas.stage = Stage.tobNylocas ∧ NpcsWritten nylocas.npcs := by
  rw [← room_eq_iff]
  obtain ⟨room, _⟩ := nylocas
  simp [nylocasFromProto, nylocasToProto, setSharedRoomData]

lemma sotetseg_eq_iff {sotetseg : SotetsegRoom} :
    sotetsegFromProto (sotetsegToProto sotetseg) = sotetseg ↔
      (sotetseg.stage = Stage.tobSotetseg ∧ NpcsWritten sotetseg.npcs) ∧
        sotetseg.maze1Chosen ≠ some "" ∧ sotetseg.maze2Chosen ≠ some "" := by
  rw [← room_eq_iff, ← chosenFromProto_eq, ← chosenFromProto_eq]
  obtain ⟨room, _, _, _, _⟩ := sotetseg
  simp [sotetsegFromProto, sotetsegToProto, setSharedRoomData]

lemma verzik_eq_iff {verzik : VerzikRoom} : verzikFromProto (verzikToProto verzik) = verzik ↔
    verzik.stage = Stage.tobVerzik ∧ NpcsWritten verzik.npcs := by
  rw [← room_eq_iff]
  obtain ⟨room, _⟩ := verzik
  simp [verzikFromProto, verzikToProto, setSharedRoomData]

lemma colosseumWave_eq_iff {wave : ColosseumWave} :
    colosseumWaveFromProto (colosseumWaveToProto wave) = wave ↔ NpcsWritten wave.npcs := by
  rw [← npcs_eq_iff]
  obtain ⟨_, _, _, _, _⟩ := wave
  simp [colosseumWaveFromProto, colosseumWaveToProto]

lemma infernoWave_eq_iff {wave : InfernoWave} :
    infernoWaveFromProto (infernoWaveToProto wave) = wave ↔
      wave.ticksLost = 0 ∧ NpcsWritten wave.npcs := by
  rw [← npcs_eq_iff]
  obtain ⟨_, _, _, _, _⟩ := wave
  simp [infernoWaveFromProto, infernoWaveToProto, eq_comm]

lemma delve_eq_iff {delve : MokhaiotlDelve} :
    delveFromProto (delveToProto delve) = delve ↔ NpcsWritten delve.npcs := by
  rw [← npcs_eq_iff]
  obtain ⟨_, _, _, _, _, _⟩ := delve
  simp [delveFromProto, delveToProto]

/-! ### Files of challenge data -/

lemma loadChallengeDataProto_save (codec : Codec Proto.ChallengeData B) (s : Blobs B)
    (uuid : String) (data : Proto.ChallengeData) :
    loadChallengeDataProto codec (saveChallengeDataProto codec s uuid data) uuid = .ok data := by
  rw [loadChallengeDataProto, saveChallengeDataProto, Blobs.read_write, Option.bind_some,
    codec.decode_encode]

section Kinds

variable {codec : Codec Proto.ChallengeData B} {s : Blobs B} {uuid : String}

lemma tob_reads_back {tobRooms : TobRooms} :
    loadTobChallengeData codec (saveTobChallengeData codec s uuid tobRooms) uuid = .ok tobRooms ↔
      (ChallengeData.tob tobRooms).InOrder ∧
        ∀ npcs ∈ (ChallengeData.tob tobRooms).npcs, NpcsWritten npcs := by
  rw [loadTobChallengeData, saveTobChallengeData, loadChallengeDataProto_save]
  change (Except.ok (parseTobRooms _) : Except LoadError TobRooms) = _ ↔ _
  obtain ⟨maiden, bloat, nylocas, sotetseg, xarpus, verzik⟩ := tobRooms
  simp only [parseTobRooms, Except.ok.injEq, TobRooms.mk.injEq, Option.map_map,
    option_map_eq_self, Function.comp_apply, maiden_eq_iff, bloat_eq_iff, nylocas_eq_iff,
    sotetseg_eq_iff, xarpus_eq_iff, verzik_eq_iff, ChallengeData.InOrder, ChallengeData.npcs,
    List.forall_mem_append, forall_mem_toList_map, forall₂_and]
  tauto

lemma colosseum_reads_back {data : ColosseumData} :
    loadColosseumChallengeData codec (saveColosseumChallengeData codec s uuid data) uuid =
      .ok data ↔ (ChallengeData.colosseum data).InOrder ∧
        ∀ npcs ∈ (ChallengeData.colosseum data).npcs, NpcsWritten npcs := by
  rw [loadColosseumChallengeData, saveColosseumChallengeData, loadChallengeDataProto_save]
  change (Except.ok (parseColosseumData _) : Except LoadError ColosseumData) = _ ↔ _
  obtain ⟨handicaps, waves⟩ := data
  simp only [parseColosseumData, Except.ok.injEq, ColosseumData.mk.injEq, true_and, List.map_map]
  rw [insertionSort_map_eq ColosseumWave.stage (colosseumWaveFromProto ∘ colosseumWaveToProto)
    fun _ => rfl]
  simp only [Function.comp_apply, colosseumWave_eq_iff, ChallengeData.InOrder, ChallengeData.npcs,
    List.forall_mem_map]

lemma inferno_reads_back {data : InfernoData} :
    loadInfernoChallengeData codec (saveInfernoChallengeData codec s uuid data) uuid =
      .ok data ↔ (∀ npcs ∈ (ChallengeData.inferno data).npcs, NpcsWritten npcs) ∧
        ∀ ticksLost ∈ (ChallengeData.inferno data).infernoTicksLost, ticksLost = 0 := by
  rw [loadInfernoChallengeData, saveInfernoChallengeData, loadChallengeDataProto_save]
  change (Except.ok (parseInfernoData _) : Except LoadError InfernoData) = _ ↔ _
  obtain ⟨waves⟩ := data
  simp only [parseInfernoData, Except.ok.injEq, InfernoData.mk.injEq, List.map_map, map_eq_self,
    Function.comp_apply, infernoWave_eq_iff, ChallengeData.npcs, ChallengeData.infernoTicksLost,
    List.forall_mem_map]
  grind

lemma mokhaiotl_reads_back {data : MokhaiotlData} :
    loadMokhaiotlChallengeData codec (saveMokhaiotlChallengeData codec s uuid data) uuid =
      .ok data ↔ (ChallengeData.mokhaiotl data).InOrder ∧
        ∀ npcs ∈ (ChallengeData.mokhaiotl data).npcs, NpcsWritten npcs := by
  rw [loadMokhaiotlChallengeData, saveMokhaiotlChallengeData, loadChallengeDataProto_save]
  change (Except.ok (parseMokhaiotlData _) : Except LoadError MokhaiotlData) = _ ↔ _
  obtain ⟨delves⟩ := data
  simp only [parseMokhaiotlData, Except.ok.injEq, MokhaiotlData.mk.injEq, List.map_map]
  rw [insertionSort_map_eq (fun delve : MokhaiotlDelve => delve.delve.toNat)
    (delveFromProto ∘ delveToProto) fun _ => rfl]
  simp only [Function.comp_apply, delve_eq_iff, ChallengeData.InOrder, ChallengeData.npcs,
    List.forall_mem_map]

end Kinds

lemma map_eq_ok_iff {ε α β : Type} {f : α → β} (hf : Function.Injective f) {x : Except ε α}
    {a : α} : x.map f = .ok (f a) ↔ x = .ok a := by
  cases x <;> simp [Except.map, hf.eq_iff]

/-- **Stored challenge data reads back**, exactly if it has neither a crab of Verzik nor lost
ticks in a wave of the Inferno, and is in the order in which it is read. -/
theorem challenge_data_reads_back (codec : Codec Proto.ChallengeData B) (s : Blobs B)
    (uuid : String) (v : ChallengeData) :
    v.loadAs codec (v.save codec s uuid) uuid = .ok v ↔ v.InOrder ∧ v.Written := by
  have hwritten : v.Written ↔ (∀ npcs ∈ v.npcs, NpcsWritten npcs) ∧
      ∀ ticksLost ∈ v.infernoTicksLost, ticksLost = 0 :=
    ⟨fun h => ⟨h.npcs, h.ticksLost⟩, fun h => ⟨h.1, h.2⟩⟩
  rw [hwritten]
  cases v with
  | tob tobRooms =>
    refine (map_eq_ok_iff fun _ _ => ChallengeData.tob.inj).trans (tob_reads_back.trans ?_)
    simp [ChallengeData.infernoTicksLost]
  | colosseum data =>
    refine (map_eq_ok_iff fun _ _ => ChallengeData.colosseum.inj).trans
      (colosseum_reads_back.trans ?_)
    simp [ChallengeData.infernoTicksLost]
  | inferno data =>
    refine (map_eq_ok_iff fun _ _ => ChallengeData.inferno.inj).trans
      (inferno_reads_back.trans ?_)
    simp [ChallengeData.InOrder]
  | mokhaiotl data =>
    refine (map_eq_ok_iff fun _ _ => ChallengeData.mokhaiotl.inj).trans
      (mokhaiotl_reads_back.trans ?_)
    simp [ChallengeData.infernoTicksLost]

section Examples

/-- A red crab, which spawned to the north. -/
def redCrab : RoomNpc where
  roomId := 7
  spawnNpcId := 8385
  spawnTick := 120
  spawnPoint := ⟨3168, 4312⟩
  deathTick := 131
  deathPoint := ⟨3168, 4314⟩
  type := .verzikCrab ⟨.p2, .north⟩

def withRedCrab : ChallengeData :=
  .tob ⟨none, none, none, none, none,
    some ⟨⟨Stage.tobVerzik, 0, (∅ : RoomNpcMap).insert redCrab, []⟩, 1⟩⟩

def plainDataCodec : Codec Proto.ChallengeData Proto.ChallengeData := ⟨id, some, fun _ => rfl⟩

/-- A crab of Verzik is read back as a basic NPC. -/
theorem red_crab_reads_back_as_basic :
    withRedCrab.loadAs plainDataCodec (withRedCrab.save plainDataCodec ⟨∅⟩ "d6a81e14")
        "d6a81e14" =
      .ok (.tob ⟨none, none, none, none, none, some ⟨⟨Stage.tobVerzik, 0,
        (∅ : RoomNpcMap).insert { redCrab with type := .basic }, []⟩, 1⟩⟩) ∧
    withRedCrab.loadAs plainDataCodec (withRedCrab.save plainDataCodec ⟨∅⟩ "d6a81e14")
        "d6a81e14" ≠ .ok withRedCrab :=
  ⟨rfl, by decide⟩

end Examples

end Blert.Repository

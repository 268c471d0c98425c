import Blert.StageState.PlayerState
import Blert.OrdMap

/-!
The NPCs of a stage, and their states tick by tick.

The NPC map describes every NPC that has spawned: where, when, and what it is. An NPC's states are
built like a player's, from the first tick on when the NPC is new. The entry of an NPC starts as a
copy of its description, of which only the death is brought up to date afterwards.
-/

namespace Blert.StageState

/-! ### The NPC map -/

inductive RoomNpcType
  | basic | maidenCrab | nylo | verzikCrab
  deriving DecidableEq, Inhabited

structure RoomNpc where
  roomId : ℕ
  spawnNpcId : ℕ
  spawnTick : ℕ
  spawnPoint : Coords
  deathTick : ℕ
  deathPoint : Coords
  type : RoomNpcType
  maidenCrab : Option ℕ := none
  nylo : Option ℕ := none
  verzikCrab : Option ℕ := none
  deriving DecidableEq, Inhabited

def RoomNpc.withSubtype (npc : RoomNpc) (e : EventNpc) : RoomNpc :=
  match e.maidenCrab, e.nylo, e.verzikCrab with
  | some crab, _, _ => { npc with type := .maidenCrab, maidenCrab := some crab }
  | none, some nylo, _ => { npc with type := .nylo, nylo := some nylo }
  | none, none, some crab => { npc with type := .verzikCrab, verzikCrab := some crab }
  | none, none, none => npc

def RoomNpc.spawned (e : Event) (npc : EventNpc) : RoomNpc where
  roomId := npc.roomId
  spawnNpcId := npc.id
  spawnTick := e.tick
  spawnPoint := ⟨e.xCoord, e.yCoord⟩
  deathTick := 0
  deathPoint := ⟨0, 0⟩
  type := .basic

def RoomNpc.die (e : Event) (npc : RoomNpc) : RoomNpc :=
  { npc with deathTick := e.tick, deathPoint := ⟨e.xCoord, e.yCoord⟩ }

def RoomNpc.after (e : Event) (npc : Option RoomNpc) : Option RoomNpc :=
  match e.payload with
  | .npcSpawn n => some ((RoomNpc.spawned e n).withSubtype n)
  | .npcDeath n => npc.map fun r => (r.die e).withSubtype n
  | .npcUpdate n => npc.map (·.withSubtype n)
  | _ => npc

abbrev NpcMap := OrdMap ℕ RoomNpc

def appendNpcEvent (m : NpcMap) (e : Event) : NpcMap :=
  match e.payload.npc? with
  | some n =>
    match RoomNpc.after e (m.get n.roomId) with
    | some npc => m.insert n.roomId npc
    | none => m
  | none => m

def NpcMap.append (m : NpcMap) (es : List Event) : NpcMap := es.foldl appendNpcEvent m

def buildNpcMapFromEvents (es : List Event) : NpcMap := NpcMap.append ∅ es

/-! ### States -/

structure NpcState where
  attack : Option Obj
  position : Coords
  hitpoints : SkillLevel
  prayers : ℕ
  id : ℕ
  label : Option String := none
  deriving DecidableEq

structure EnhancedRoomNpc where
  npc : RoomNpc
  length : ℕ
  stateByTick : ℕ → Option NpcState := fun _ => none
  relevant : Bool := false
  /-- The last tick the NPC had an event of its own on. -/
  lastActiveTick : Option ℕ := none

/-! ### IDs of the game's NPCs -/

namespace Npc

def BLOAT_IDS : List ℕ := [10812, 8359, 10813]

def isBloat (npcId : ℕ) : Bool := BLOAT_IDS.contains npcId

def BLOBLET_IDS : List ℕ := [7696, 7694, 7695]

def isBloblet (npcId : ℕ) : Bool := BLOBLET_IDS.contains npcId

def JAL_ZEK : ℕ := 7699

def isJalZek (npcId : ℕ) : Bool := npcId = JAL_ZEK

lemma isBloat_of_isJalZek {npcId : ℕ} (h : isJalZek npcId = true) : isBloat npcId = false := by
  have h' : npcId = JAL_ZEK := by simpa [isJalZek] using h
  subst h'
  decide

end Npc

/-! ### One tick of an NPC -/

/-- The state an NPC's first event on a tick gives it. -/
def NpcState.ofEvent (o : Obj) (n : EventNpc) : NpcState where
  id := n.id
  attack := none
  position := ⟨o.event.xCoord, o.event.yCoord⟩
  hitpoints := .fromRaw n.hitpoints
  prayers := n.prayers

def npcStateOn (roomId : ℕ) (events : List Obj) : Option NpcState :=
  (events.find? (·.event.belongsToNpc roomId)).bind fun o =>
    o.event.payload.npc?.map (NpcState.ofEvent o)

def npcAttackOn (roomId : ℕ) (events : List Obj) : Option (Obj × BasicEventNpc) :=
  events.findSome? fun o =>
    match o.event.payload with
    | .npcAttack n _ => if n.roomId = roomId then some (o, n) else none
    | _ => none

/-- An NPC that attacks without an event of its own keeps the hitpoints and prayers it had. -/
def EnhancedRoomNpc.attackState (npc : EnhancedRoomNpc) (n : BasicEventNpc) : NpcState :=
  let last := npc.lastActiveTick.bind npc.stateByTick
  { id := n.id
    attack := none
    position := ⟨0, 0⟩
    hitpoints := (last.map NpcState.hitpoints).getD ⟨0, 1⟩
    prayers := (last.map NpcState.prayers).getD 0 }

def processNpcTick (roomId tick : ℕ) (npc : EnhancedRoomNpc) (events : List Obj) :
    EnhancedRoomNpc :=
  let npc :=
    match npcStateOn roomId events with
    | some state =>
      { npc with
        stateByTick := Function.update npc.stateByTick tick (some state)
        lastActiveTick := some tick }
    | none => npc
  match npcAttackOn roomId events with
  | some (o, n) =>
    let state := (npc.stateByTick tick).getD (npc.attackState n)
    { npc with
      relevant := true
      stateByTick := Function.update npc.stateByTick tick (some { state with attack := some o }) }
  | none => npc

/-! ### Bloat's downs and resurrections -/

def BLOAT_DOWN_TICKS : ℕ := 32

def labelDown (downTick : ℕ) (npc : EnhancedRoomNpc) (tick : ℕ) : EnhancedRoomNpc :=
  match npc.stateByTick tick with
  | some s =>
    { npc with
      relevant := true
      stateByTick := Function.update npc.stateByTick tick
        (some { s with label := some (toString (BLOAT_DOWN_TICKS - (tick - downTick))) }) }
  | none => npc

def labelDowns (fromTick : ℕ) (npc : EnhancedRoomNpc) (o : Obj) : EnhancedRoomNpc :=
  if o.event.tick + BLOAT_DOWN_TICKS < fromTick then npc
  else
    let startTick := max o.event.tick fromTick
    let endTick := min (o.event.tick + BLOAT_DOWN_TICKS + 1) npc.length
    (List.range' startTick (endTick - startTick)).foldl (labelDown o.event.tick) npc

/-- The NPC a resurrection on a tick brings back: the first that spawned on it, bloblets apart. -/
def resurrected (m : EventMaps) (tick : ℕ) : Option EventNpc :=
  ((m.byType .npcSpawn).find? fun o =>
    o.event.payload.npc?.any (fun n => !Npc.isBloblet n.id) && o.event.tick = tick).bind
      (·.event.payload.npc?)

section

-- The full name of an NPC that is defined.
variable (fullName : ℕ → Option String)

def targetResurrection (m : EventMaps) (npc : EnhancedRoomNpc) (w : Writes) (tick : ℕ) : Writes :=
  match (npc.stateByTick tick).bind NpcState.attack with
  | some o =>
    if w.attackOf o = some .infernoMagerResurrect then
      match resurrected m tick with
      | some target => w.setTarget o (fullName target.id)
      | none => w
    else w
  | none => w

def postprocessNpc (m : EventMaps) (fromTick : ℕ) (npc : EnhancedRoomNpc) (w : Writes) :
    EnhancedRoomNpc × Writes :=
  if Npc.isBloat npc.npc.spawnNpcId then
    ((m.byType .tobBloatDown).foldl (labelDowns fromTick) npc, w)
  else if Npc.isJalZek npc.npc.spawnNpcId then
    (npc,
      (List.range' fromTick (npc.length - fromTick)).foldl (targetResurrection fullName m npc) w)
  else (npc, w)

/-! ### The builder -/

structure NpcStateBuilder where
  map : InsertionMap ℕ EnhancedRoomNpc := ∅
  processedTicks : ℕ := 0

/-- The entry of an NPC before new ticks are processed, and the tick to process from. A new NPC is
processed from the start. -/
def enterNpc (roomNpc : RoomNpc) (fromTick totalTicks : ℕ) (npc : Option EnhancedRoomNpc) :
    EnhancedRoomNpc × ℕ :=
  match npc with
  | none => ({ npc := roomNpc, length := totalTicks }, 0)
  | some npc =>
    ({ npc with
        length := max npc.length totalTicks
        npc.deathTick := roomNpc.deathTick
        npc.deathPoint := roomNpc.deathPoint }, fromTick)

def extendNpc (m : EventMaps) (fromTick totalTicks : ℕ)
    (s : InsertionMap ℕ EnhancedRoomNpc × Writes) (entry : ℕ × RoomNpc) :
    InsertionMap ℕ EnhancedRoomNpc × Writes :=
  let (npc, npcFromTick) := enterNpc entry.2 fromTick totalTicks (s.1.get entry.1)
  let npc := (List.range' npcFromTick (totalTicks - npcFromTick)).foldl
    (fun npc tick => processNpcTick entry.1 tick npc (m.byTick tick)) npc
  let (npc, w) := postprocessNpc fullName m npcFromTick npc s.2
  (s.1.set entry.1 npc, w)

def NpcStateBuilder.extend (b : NpcStateBuilder) (npcMap : NpcMap) (totalTicks : ℕ)
    (m : EventMaps) (w : Writes) : NpcStateBuilder × Writes :=
  let (map, w) := npcMap.entries.foldl (extendNpc fullName m b.processedTicks totalTicks) (b.map, w)
  (⟨map, totalTicks⟩, w)

/-- The states of a stage's NPCs, in one pass. -/
def computeNpcState (npcMap : NpcMap) (totalTicks : ℕ) (m : EventMaps) (w : Writes) :
    NpcStateBuilder × Writes :=
  NpcStateBuilder.extend fullName {} npcMap totalTicks m w

end

end Blert.StageState

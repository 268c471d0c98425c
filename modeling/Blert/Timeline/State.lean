import Mathlib.Data.Prod.Lex
import Mathlib.Data.String.Basic
import Blert.OrdMap
import Blert.Timeline.Equipment
import Blert.Timeline.Event

/-!
The state of a tick, read from its events.

The events of a tick are read one after the other into the state of the players, NPCs and graphics
that are seen on it. A player's equipment is a change of what they wore on the last tick on which
they were seen. Attacks and spells are attached at the end, when all actors are known.
-/

namespace Blert.Timeline

open Merging (EventType Coords DataSource ClientId)

/-! ### Actors -/

structure SkillLevel where
  current : ℕ
  base : ℕ
  deriving DecidableEq

/-- Unpacks a skill level from its raw numeric representation. -/
def SkillLevel.fromRaw (raw : ℕ) : SkillLevel := ⟨(raw >>> 16) % 2 ^ 16, raw &&& 0xffff⟩

structure PrayerSet where
  raw : ℕ
  deriving DecidableEq

def PrayerSet.fromRaw (raw : ℕ) : PrayerSet := ⟨raw⟩

/-- No prayers of the normal book, whose number is 0. -/
def PrayerSet.empty : PrayerSet := ⟨0⟩

/-- A value paired with the client whose recording it came from. -/
structure Sourced (α : Type) where
  source : ClientId
  value : α

inductive Target
  | npc (id roomId : ℕ)
  | player (name : String)

structure PlayerAttacked where
  kind : ℕ
  weapon : Option EquippedItem
  target : Option (Sourced Target)
  distanceToTarget : ℤ

structure PlayerCast where
  kind : ℕ
  target : Option (Sourced Target)

structure PlayerStats where
  hitpoints : SkillLevel
  prayer : SkillLevel
  attack : SkillLevel
  strength : SkillLevel
  defence : SkillLevel
  ranged : SkillLevel
  magic : SkillLevel

structure PlayerState where
  source : ClientId
  partyIndex : ℕ
  dataSource : DataSource
  position : Coords
  died : Bool
  equipment : Equipment
  prayers : PrayerSet
  attack : Option (Sourced PlayerAttacked)
  spell : Option (Sourced PlayerCast)
  stats : Option PlayerStats
  offCooldownTick : ℕ

structure NpcAttacked where
  kind : ℕ
  target : Option (Sourced Target)

structure NpcState where
  source : ClientId
  id : ℕ
  position : Coords
  hitpoints : SkillLevel
  prayers : PrayerSet
  attack : Option (Sourced NpcAttacked)
  subtype : Option NpcType

/-! ### Graphics -/

inductive GraphicsKind
  | maidenBloodSplats | soteMazeTiles | verzikYellows
  deriving DecidableEq

def GraphicsKind.number : GraphicsKind → ℕ
  | maidenBloodSplats => 0
  | soteMazeTiles => 1
  | verzikYellows => 2

lemma GraphicsKind.number_injective : Function.Injective number := by
  intro a b h
  cases a <;> cases b <;> first | rfl | cases h

instance : LinearOrder GraphicsKind := LinearOrder.lift' _ GraphicsKind.number_injective

lemma toLex_coords_injective : Function.Injective fun c : Coords => toLex (c.x, c.y) := by
  intro a b h
  obtain ⟨hx, hy⟩ := Prod.mk.inj (toLex.injective h)
  cases a
  cases b
  exact congr (congrArg Coords.mk hx) hy

instance : LinearOrder Coords := LinearOrder.lift' _ toLex_coords_injective

abbrev GraphicsState := OrdMap GraphicsKind (OrdMap Coords ClientId)

def GraphicsState.extendFrom (graphics : GraphicsState) (kind : GraphicsKind) (source : ClientId)
    (coords : List Coords) : GraphicsState :=
  graphics.insert kind <| coords.foldl
    (fun map coord => if map.contains coord then map else map.insert coord source)
    ((graphics.get kind).getD ∅)

/-! ### Ticks -/

structure TickState where
  tick : ℕ
  events : List TaggedEvent
  /-- Players visible on the tick. -/
  players : OrdMap String (Option PlayerState)
  /-- NPCs visible on the tick, by room ID. -/
  npcs : OrdMap ℕ NpcState
  /-- Objects visible on the tick. -/
  graphics : GraphicsState

/-- What stops a timeline from being built: an event that is malformed, or a panic. -/
inductive Failure
  | panic
  | malformed (e : MalformedEvent)

def missing {α : Type} (event : Event) (field : String) : Except Failure α :=
  .error (.malformed (.missingPayload event.type event.tick field))

def expectPlayer (event : Event) : Except Failure Player :=
  match event.player with
  | some player => .ok player
  | none => missing event "player"

def expectNpc (event : Event) : Except Failure Npc :=
  match event.npc with
  | some npc => .ok npc
  | none => missing event "npc"

def stateOn (history : List (Option TickState)) (tick : ℕ) (name : String) : Option PlayerState :=
  (history[tick]?).join.bind fun state => (state.players.get name).join

def parseStats (player : Player) : Option PlayerStats := do
  some {
    hitpoints := .fromRaw (← player.hitpoints)
    prayer := .fromRaw (← player.prayer)
    attack := .fromRaw (← player.attack)
    strength := .fromRaw (← player.strength)
    defence := .fromRaw (← player.defence)
    ranged := .fromRaw (← player.ranged)
    magic := .fromRaw (← player.magic) }

structure Reading where
  players : OrdMap String (Option PlayerState)
  npcs : OrdMap ℕ NpcState
  graphics : GraphicsState
  /-- The tick on which each party member was last seen. -/
  lastPlayers : List (Option ℕ)
  retainedEvents : List TaggedEvent
  reprocess : List TaggedEvent

/-- What a player's state becomes by an update or a death. -/
def PlayerState.read (state : PlayerState) (event : Event) (player : Player)
    (last : Option PlayerState) : Except Failure PlayerState :=
  match event.type with
  | .playerUpdate =>
    match Equipment.parse player.snapshot player.equipmentDeltas (last.map (·.equipment)) with
    | .ok equipment => .ok { state with
        dataSource := player.dataSource
        equipment
        prayers := .fromRaw (player.activePrayers.getD 0)
        stats := parseStats player }
    | .error raw => .error (.malformed
        (.outOfDomain event.type event.tick "player.equipment_deltas" (toString raw)))
  | .playerDeath => .ok { state with died := true }
  | _ => .error .panic

/-- The state that a player has before their first event of a tick. -/
def PlayerState.initial (event : TaggedEvent) (player : Player) (last : Option PlayerState) :
    PlayerState where
  source := event.source
  partyIndex := player.partyIndex
  dataSource := .secondary
  position := ⟨event.event.xCoord, event.event.yCoord⟩
  died := false
  equipment := (last.map (·.equipment)).getD .empty
  prayers := .empty
  attack := none
  spell := none
  stats := none
  offCooldownTick := 0

namespace Reading

def extractPlayerState (history : List (Option TickState)) (r : Reading) (event : TaggedEvent) :
    Except Failure Reading := do
  let player ← expectPlayer event.event
  match r.lastPlayers[player.partyIndex]? with
  | none => .error .panic
  | some lastTick =>
    let last := lastTick.bind (stateOn history · player.name)
    let state := (r.players.get player.name).join.getD (.initial event player last)
    let state ← state.read event.event player last
    return { r with
      players := r.players.insert player.name (some state)
      lastPlayers := r.lastPlayers.set player.partyIndex (some event.event.tick) }

def extractNpcSubtype (npc : Npc) : Option NpcType := npc.type.filter (· ≠ .basic)

/-- An ID that is lost on a tick is carried forward, as is a subtype. -/
def extractNpcState (event : TaggedEvent) (npc : Npc) (previous : Option TickState) : NpcState :=
  let prior := previous.bind (·.npcs.get npc.roomId)
  { source := event.source
    id := if npc.id = 0 then (prior.map (·.id)).getD 0 else npc.id
    position := ⟨event.event.xCoord, event.event.yCoord⟩
    hitpoints := .fromRaw npc.hitpoints
    prayers := .fromRaw npc.activePrayers
    attack := none
    subtype := (extractNpcSubtype npc).or (prior.bind (·.subtype)) }

def extract (history : List (Option TickState)) (r : Reading) (event : TaggedEvent) :
    Except Failure Reading :=
  match event.event.type with
  | .npcSpawn | .npcUpdate => do
    let npc ← expectNpc event.event
    let state := extractNpcState event npc history.getLast?.join
    return { r with npcs := r.npcs.insert npc.roomId state }
  | .npcDeath => do
    let _ ← expectNpc event.event
    return r
  | .playerUpdate | .playerDeath => r.extractPlayerState history event
  | .tobMaidenBloodSplats =>
    .ok { r with graphics := r.graphics.extendFrom .maidenBloodSplats event.source
                  event.event.maidenBloodSplats }
  | .tobSoteMazePath =>
    match event.event.soteMaze with
    | none => missing event.event "sote_maze"
    | some maze =>
      .ok { r with graphics := r.graphics.extendFrom .soteMazeTiles event.source
                    maze.overworldTiles }
  | .tobVerzikYellows =>
    .ok { r with graphics := r.graphics.extendFrom .verzikYellows event.source
                  event.event.verzikYellows }
  | _ => .ok r

/-- Keeps an event, if it is of the tick's events or to be read once more. -/
def dispatch (r : Reading) (event : TaggedEvent) : Except Failure Reading :=
  match classify event.event.type with
  | .derived | .tickState =>
    match event.event.type with
    | .npcAttack | .playerAttack | .playerSpell =>
      .ok { r with reprocess := r.reprocess ++ [event] }
    | _ => .ok r
  | .solo | .stream | .attackMapped =>
    .ok { r with retainedEvents := r.retainedEvents ++ [event] }
  | .deprecated => .error .panic

def step (history : List (Option TickState)) (r : Reading) (event : TaggedEvent) :
    Except Failure Reading := do
  let r ← r.extract history event
  r.dispatch event

end Reading

/-! ### Actions -/

structure Actors where
  players : OrdMap String (Option PlayerState)
  npcs : OrdMap ℕ NpcState

def parsePlayerAttack (source : ClientId) (attack : AttackEvent) : PlayerAttacked where
  kind := attack.type
  weapon := attack.weapon.map fun (id, quantity) => ⟨wrap32 id, wrap32 quantity⟩
  target := (attack.target.filter fun (id, roomId) => 0 < id ∧ 0 < roomId).map
    fun (id, roomId) => ⟨source, .npc id roomId⟩
  distanceToTarget := attack.distanceToTarget

def parseSpellTarget (source : ClientId) : Option SpellTarget → Option (Sourced Target)
  | some (.targetPlayer name) => some ⟨source, .player name⟩
  | some (.targetNpc id roomId) => some ⟨source, .npc id roomId⟩
  | _ => none

def Actors.attach (a : Actors) (event : TaggedEvent) : Except Failure Actors :=
  match event.event.type with
  | .npcAttack => do
    let npc ← expectNpc event.event
    match event.event.npcAttack with
    | none => missing event.event "npc_attack"
    | some attack =>
      match a.npcs.get npc.roomId with
      | none => .ok a
      | some state =>
        let target := attack.target.map fun name => ⟨event.source, .player name⟩
        .ok { a with npcs := a.npcs.insert npc.roomId
                      { state with attack := some ⟨event.source, attack.attack, target⟩ } }
  | .playerAttack => do
    let player ← expectPlayer event.event
    match event.event.playerAttack with
    | none => missing event.event "player_attack"
    | some attack =>
      match a.players.get player.name with
      | some (some state) =>
        let attacked := parsePlayerAttack event.source attack
        .ok { a with players := a.players.insert player.name
                      (some { state with attack := some ⟨event.source, attacked⟩ }) }
      | _ => .ok a
  | .playerSpell => do
    let player ← expectPlayer event.event
    match a.players.get player.name with
    | some (some state) =>
      match event.event.playerSpell with
      | none => missing event.event "player_spell"
      | some spell =>
        let cast : PlayerCast := ⟨spell.type, parseSpellTarget event.source spell.target⟩
        .ok { a with players := a.players.insert player.name
                      (some { state with spell := some ⟨event.source, cast⟩ }) }
    | _ => .ok a
  | _ => .ok a

def attachActions (a : Actors) (actions : List TaggedEvent) : Except Failure Actors :=
  actions.foldlM Actors.attach a

/-! ### Timelines -/

def Reading.initial (party : List String) (lastPlayers : List (Option ℕ)) : Reading where
  players := party.foldl (fun players p => players.insert p none) ∅
  npcs := ∅
  graphics := ∅
  lastPlayers
  retainedEvents := []
  reprocess := []

def TickState.fromEvents (tick : ℕ) (party : List String) (history : List (Option TickState))
    (lastPlayers : List (Option ℕ)) (events : List TaggedEvent) :
    Except Failure (TickState × List (Option ℕ)) := do
  let r ← events.foldlM (Reading.step history) (Reading.initial party lastPlayers)
  let actors ← attachActions ⟨r.players, r.npcs⟩ r.reprocess
  return ({ tick, events := r.retainedEvents, players := actors.players, npcs := actors.npcs,
            graphics := r.graphics }, r.lastPlayers)

end Blert.Timeline

/-- The ticks of a recording, those without data being none. -/
structure Blert.Timeline where
  ticks : List (Option Blert.Timeline.TickState)

namespace Blert.Timeline

/-- A timeline that is being built, with the events of the tick that is being read. -/
structure Building where
  ticks : List (Option TickState)
  lastPlayerUpdates : List (Option ℕ)
  currentTick : List TaggedEvent

/-- Turns the events of the current tick into its state. -/
def Building.drain (party : List String) (b : Building) : Except Failure Building :=
  match b.currentTick with
  | [] => .error .panic
  | first :: _ =>
    let t := first.event.tick
    if b.ticks.length < t then .error .panic
    else do
      let (state, lastPlayerUpdates) ←
        TickState.fromEvents t party (b.ticks.take t) b.lastPlayerUpdates b.currentTick
      if t = b.ticks.length then .error .panic
      else return { ticks := b.ticks.set t (some state), lastPlayerUpdates, currentTick := [] }

def Building.push (party : List String) (b : Building) (event : TaggedEvent) :
    Except Failure Building := do
  let b ← match b.currentTick with
    | [] => pure b
    | first :: _ => if event.event.tick ≠ first.event.tick then b.drain party else pure b
  return { b with currentTick := b.currentTick ++ [event] }

def Building.initial (party : List String) (recordedTicks : ℕ) : Building where
  ticks := List.replicate (recordedTicks + 1) none
  lastPlayerUpdates := List.replicate party.length none
  currentTick := []

def build (party : List String) (recordedTicks : ℕ) (events : List TaggedEvent) :
    Except Failure Timeline := do
  let b ← events.foldlM (Building.push party) (.initial party recordedTicks)
  let b ← if b.currentTick = [] then pure b else b.drain party
  return ⟨b.ticks⟩

end Blert.Timeline

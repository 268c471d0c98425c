import Blert.Timeline.State
import Blert.Walks

/-!
The events of the Nylocas room that are derived from a timeline.

A wave that is not followed by the next one in its natural time stalls every four ticks on which the
room is full. After the last wave the room is cleaned up once no Nylocas is left, and it ends with
the boss. Two programs derive these events, each in a loop of its own over the ticks.
-/

namespace Blert.Timeline

open Walks
open Merging (EventType Coords)
open Lifecycle (ChallengeMode)

def FINAL_NYLO_WAVE : ℕ := 31

def NYLO_WAVE_CYCLE : ℕ := 4

/-! ### NPCs and waves of the first program -/

namespace Npc

inductive NyloStyle
  | melee | range | mage

def isNylocas (npcId : ℕ) : Bool :=
  [10774, 8342, 10791, 10780, 8348, 10797, 10777, 8345, 10794, 10783, 8351, 10800,
    10775, 8343, 10792, 10781, 8349, 10798, 10778, 8346, 10795, 10784, 8352, 10801,
    10776, 8344, 10793, 10782, 8350, 10799, 10779, 8347, 10796, 10785, 8353, 10802].contains npcId

def isNylocasPrinkipas (npcId : ℕ) : Bool := [10804, 10805, 10806].contains npcId

def nylocasVasiliasStyle (npcId : ℕ) : Option NyloStyle :=
  if [10787, 8354, 10807, 10788, 8355, 10808].contains npcId then some .melee
  else if [10790, 8357, 10810].contains npcId then some .range
  else if [10789, 8356, 10809].contains npcId then some .mage
  else none

def isNylocasVasilias (npcId : ℕ) : Bool := (nylocasVasiliasStyle npcId).isSome

end Npc

def NATURAL_STALLS : List ℕ :=
  [4, 4, 4, 4, 16, 4, 12, 4, 12, 8, 8, 8, 8, 8, 8, 4, 12, 8, 12, 16, 8, 12, 8, 8, 8, 4, 8, 4, 4,
    4, 0]

def isPrinceWave (wave : ℕ) : Bool := wave = 10 || wave = 20 || wave = 30

/-- The natural stall duration of a wave, which there is none for but the waves of the room. -/
def naturalStallForWave (mode : ChallengeMode) (wave : ℕ) : Option ℕ :=
  if mode = .tobHard ∧ isPrinceWave wave then some 16
  else
    match wave with
    | 0 => none
    | n + 1 => NATURAL_STALLS[n]?

/-! ### The first program -/

namespace TickState

def eventsOfType (state : TickState) (kind : EventType) : List TaggedEvent :=
  state.events.filter (·.event.type = kind)

/-- Inserts an event of the merger into the tick. -/
def addSyntheticEvent (state : TickState) (event : Event) : TickState :=
  { state with events := state.events ++ [.synthetic event] }

def boss (state : TickState) : Option Coords :=
  (state.npcs.values.find? fun npc => Npc.isNylocasVasilias npc.id).map (·.position)

def nylosAlive (state : TickState) : ℕ :=
  (state.npcs.values.map fun npc =>
    if Npc.isNylocas npc.id then 1 else if Npc.isNylocasPrinkipas npc.id then 3 else 0).sum

end TickState

structure Deriving where
  wave : ℕ
  roomCap : ℕ
  nextStallTick : Option ℕ

/-- A tick on which no wave spawns, and the boss is not there. -/
def Deriving.pass (tick : ℕ) (d : Deriving) (state : Option TickState) :
    Option TickState × Deriving :=
  if d.wave = FINAL_NYLO_WAVE then
    match state with
    | some s =>
      if s.nylosAlive = 0 then
        (s.addSyntheticEvent { type := .tobNyloCleanupEnd, tick },
          { d with wave := 0, nextStallTick := none })
      else (s, d)
    | none => (none, d)
  else if d.nextStallTick = some tick then
    let next := { d with nextStallTick := some (tick + NYLO_WAVE_CYCLE) }
    match state with
    | some s =>
      if d.roomCap ≤ s.nylosAlive then
        (s.addSyntheticEvent { type := .tobNyloWaveStall, tick,
                               nyloWave := some ⟨d.wave, s.nylosAlive, d.roomCap⟩ }, next)
      else (s, next)
    | none => (none, next)
  else (state, d)

/-- Derives the events of a tick. The boss ends the room. -/
def Deriving.step (mode : ChallengeMode) (tick : ℕ) (d : Deriving) (state : Option TickState) :
    Option (Option TickState × Option Deriving) :=
  let passed := d.pass tick state
  match state with
  | some s =>
    match s.boss with
    | some position =>
      some (s.addSyntheticEvent { type := .tobNyloBossSpawn, tick,
                                  xCoord := position.x, yCoord := position.y }, none)
    | none =>
      match (s.eventsOfType .tobNyloWaveSpawn).head?.bind (·.event.nyloWave) with
      | some spawn => do
        let stall ← naturalStallForWave mode spawn.wave
        return (some s, some ⟨spawn.wave, spawn.roomCap, some (tick + stall)⟩)
      | none => some (passed.1, some passed.2)
  | none => some (passed.1, some passed.2)

def deriveNylocasEvents (mode : ChallengeMode) (ticks : List (Option TickState)) :
    Option (List (Option TickState)) :=
  walk (Deriving.step mode) 0 ⟨0, 0, none⟩ ticks

/-! ### The second program -/

namespace NylocasDerivedEvents

def NYLOCAS_ISCHYROS_SMALL_IDS : List ℕ := [10774, 8342, 10791, 10780, 8348, 10797]
def NYLOCAS_ISCHYROS_BIG_IDS : List ℕ := [10777, 8345, 10794, 10783, 8351, 10800]
def NYLOCAS_TOXOBOLOS_SMALL_IDS : List ℕ := [10775, 8343, 10792, 10781, 8349, 10798]
def NYLOCAS_TOXOBOLOS_BIG_IDS : List ℕ := [10778, 8346, 10795, 10784, 8352, 10801]
def NYLOCAS_HAGIOS_SMALL_IDS : List ℕ := [10776, 8344, 10793, 10782, 8350, 10799]
def NYLOCAS_HAGIOS_BIG_IDS : List ℕ := [10779, 8347, 10796, 10785, 8353, 10802]
def NYLOCAS_PRINKIPAS_IDS : List ℕ := [10804, 10805, 10806]
def NYLOCAS_VASILIAS_DROPPING_IDS : List ℕ := [10787, 8354, 10807]
def NYLOCAS_VASILIAS_ENTRY_IDS : List ℕ := [10788, 10790, 10789]
def NYLOCAS_VASILIAS_REGULAR_IDS : List ℕ := [8355, 8357, 8356]
def NYLOCAS_VASILIAS_HARD_IDS : List ℕ := [10808, 10810, 10809]

def isNylocasIschyros (npcId : ℕ) : Bool :=
  NYLOCAS_ISCHYROS_SMALL_IDS.contains npcId || NYLOCAS_ISCHYROS_BIG_IDS.contains npcId

def isNylocasToxobolos (npcId : ℕ) : Bool :=
  NYLOCAS_TOXOBOLOS_SMALL_IDS.contains npcId || NYLOCAS_TOXOBOLOS_BIG_IDS.contains npcId

def isNylocasHagios (npcId : ℕ) : Bool :=
  NYLOCAS_HAGIOS_SMALL_IDS.contains npcId || NYLOCAS_HAGIOS_BIG_IDS.contains npcId

def isNylocas (npcId : ℕ) : Bool :=
  isNylocasIschyros npcId || isNylocasToxobolos npcId || isNylocasHagios npcId

def isNylocasPrinkipas (npcId : ℕ) : Bool := NYLOCAS_PRINKIPAS_IDS.contains npcId

def isNylocasVasiliasDropping (npcId : ℕ) : Bool := NYLOCAS_VASILIAS_DROPPING_IDS.contains npcId

def isNylocasVasilias (npcId : ℕ) : Bool :=
  NYLOCAS_VASILIAS_ENTRY_IDS.contains npcId || NYLOCAS_VASILIAS_REGULAR_IDS.contains npcId ||
    NYLOCAS_VASILIAS_HARD_IDS.contains npcId

/-- The natural stalls of the waves, in order. -/
def NYLOCAS_WAVES : List ℕ :=
  [4, 4, 4, 4, 16, 4, 12, 4, 12, 8, 8, 8, 8, 8, 8, 4, 12, 8, 12, 16, 8, 12, 8, 8, 8, 4, 8, 4, 4,
    4, 0]

def naturalStallForWave (mode : ChallengeMode) (wave : ℕ) : Option ℕ :=
  if mode = .tobHard ∧ isPrinceWave wave then some 16
  else
    match wave with
    | 0 => none
    | n + 1 => NYLOCAS_WAVES[n]?

/-- A tick's state, which has its events by type and its NPCs by room ID as they came. -/
structure TickState where
  tick : ℕ
  eventsByType : EventType → List TaggedEvent
  npcs : List (ℕ × NpcState)

def findBossNpc (state : TickState) : Option NpcState :=
  (state.npcs.find? fun (_, npc) =>
    isNylocasVasilias npc.id || isNylocasVasiliasDropping npc.id).map (·.2)

def countNylosAlive (state : TickState) : ℕ :=
  state.npcs.foldl (fun nylosAlive (_, npc) =>
    if isNylocas npc.id then nylosAlive + 1
    else if isNylocasPrinkipas npc.id then nylosAlive + 3
    else nylosAlive) 0

def TickState.emit (state : TickState) (event : Event) : TickState :=
  { state with eventsByType := Function.update state.eventsByType event.type
                (state.eventsByType event.type ++ [.synthetic { event with tick := state.tick }]) }

def basicEvent (type : EventType) : Event := { type, tick := 0 }

def stallEvent (state : TickState) (wave roomCap : ℕ) : Event :=
  { basicEvent .tobNyloWaveStall with nyloWave := some ⟨wave, countNylosAlive state, roomCap⟩ }

def bossSpawnEvent (boss : NpcState) : Event :=
  { basicEvent .tobNyloBossSpawn with xCoord := boss.position.x, yCoord := boss.position.y }

/-- What is known of the waves so far. No stall is due if the tick is -1. -/
structure State where
  wave : ℕ
  roomCap : ℕ
  nextStallTick : ℤ

/-- A tick on which no wave spawns, and the boss is not there. -/
def State.pass (t : ℕ) (d : State) (tick : Option TickState) : Option TickState × State :=
  if d.wave = FINAL_NYLO_WAVE then
    match tick with
    | some s =>
      if countNylosAlive s = 0 then
        (s.emit (basicEvent .tobNyloCleanupEnd), { d with wave := 0, nextStallTick := -1 })
      else (s, d)
    | none => (none, d)
  else if t = d.nextStallTick then
    let next := { d with nextStallTick := d.nextStallTick + NYLO_WAVE_CYCLE }
    match tick with
    | some s =>
      if d.roomCap ≤ countNylosAlive s then (s.emit (stallEvent s d.wave d.roomCap), next)
      else (s, next)
    | none => (none, next)
  else (tick, d)

/-- Derives the events of a tick. A wave that spawns has to say which it is. -/
def State.step (mode : ChallengeMode) (t : ℕ) (d : State) (tick : Option TickState) :
    Option (Option TickState × Option State) :=
  let passed := d.pass t tick
  match tick with
  | some s =>
    match findBossNpc s with
    | some boss => some (s.emit (bossSpawnEvent boss), none)
    | none =>
      match s.eventsByType .tobNyloWaveSpawn with
      | spawn :: _ => do
        let nyloWave ← spawn.event.nyloWave
        let stall ← naturalStallForWave mode nyloWave.wave
        return (some s, some ⟨nyloWave.wave, nyloWave.roomCap, spawn.event.tick + stall⟩)
      | [] => some (passed.1, some passed.2)
  | none => some (passed.1, some passed.2)

/-- The ticks with their derived events. It may fail. -/
def derive (mode : ChallengeMode) (ticks : List (Option TickState)) :
    Option (List (Option TickState)) :=
  walk (State.step mode) 0 ⟨0, 0, -1⟩ ticks

end NylocasDerivedEvents

/-! ### Both programs -/

/-- The tick is the same for both programs. -/
structure SameTick (t : ℕ) (rust : TickState) (ts : NylocasDerivedEvents.TickState) : Prop where
  tick : ts.tick = t
  events : ∀ type, ts.eventsByType type = rust.eventsOfType type
  npcs : ts.npcs.Perm rust.npcs.entries
  spawns : ∀ e ∈ ts.eventsByType .tobNyloWaveSpawn, e.event.tick = t

/-- Spawns say which wave it is, and the boss that came first is where the one of the lowest room ID
is. -/
structure Comparable (t : ℕ) (rust : TickState) (ts : NylocasDerivedEvents.TickState) : Prop extends
    SameTick t rust ts where
  payloads : ∀ e ∈ ts.eventsByType .tobNyloWaveSpawn, e.event.nyloWave ≠ none
  boss : ∀ npc ∈ NylocasDerivedEvents.findBossNpc ts, ∀ position ∈ rust.boss,
    npc.position = position

section Both

open NylocasDerivedEvents

variable {mode : ChallengeMode} {t : ℕ} {rust : Timeline.TickState}
  {ts : NylocasDerivedEvents.TickState} {rustTick : Option Timeline.TickState}
  {tsTick : Option NylocasDerivedEvents.TickState} {d : Deriving} {d' : State}

lemma isNylocas_eq (npcId : ℕ) : isNylocas npcId = Npc.isNylocas npcId := by
  have hids : Npc.isNylocas npcId = (NYLOCAS_ISCHYROS_SMALL_IDS ++ NYLOCAS_ISCHYROS_BIG_IDS ++
      NYLOCAS_TOXOBOLOS_SMALL_IDS ++ NYLOCAS_TOXOBOLOS_BIG_IDS ++ NYLOCAS_HAGIOS_SMALL_IDS ++
      NYLOCAS_HAGIOS_BIG_IDS).contains npcId := rfl
  rw [hids]
  simp only [List.contains_append, isNylocas, isNylocasIschyros, isNylocasToxobolos,
    isNylocasHagios, Bool.or_assoc]

lemma naturalStallForWave_eq (mode : ChallengeMode) (wave : ℕ) :
    NylocasDerivedEvents.naturalStallForWave mode wave = naturalStallForWave mode wave := rfl

lemma isNylocasPrinkipas_eq (npcId : ℕ) : isNylocasPrinkipas npcId = Npc.isNylocasPrinkipas npcId :=
  rfl

lemma isNylocasVasilias_eq (npcId : ℕ) :
    (isNylocasVasilias npcId || isNylocasVasiliasDropping npcId) =
      Npc.isNylocasVasilias npcId := by
  have hstyle : ∀ melee range mage : Bool, (if melee then some Npc.NyloStyle.melee
      else if range then some .range else if mage then some .mage else none).isSome =
        (melee || range || mage) := by decide
  have hperm : List.Perm (NYLOCAS_VASILIAS_ENTRY_IDS ++ NYLOCAS_VASILIAS_REGULAR_IDS ++
      NYLOCAS_VASILIAS_HARD_IDS ++ NYLOCAS_VASILIAS_DROPPING_IDS)
        ([10787, 8354, 10807, 10788, 8355, 10808] ++ [10790, 8357, 10810] ++
          [10789, 8356, 10809]) := by decide
  unfold Npc.isNylocasVasilias Npc.nylocasVasiliasStyle
  rw [hstyle, isNylocasVasilias, isNylocasVasiliasDropping]
  simp only [← List.contains_append]
  rw [Bool.eq_iff_iff, List.contains_iff_mem, List.contains_iff_mem]
  exact hperm.mem_iff

/-- What is known of the waves is the same. -/
structure SameWaves (d : Deriving) (d' : State) : Prop where
  wave : d'.wave = d.wave
  roomCap : d'.roomCap = d.roomCap
  nextStallTick : d'.nextStallTick = (d.nextStallTick.map Nat.cast).getD (-1)

lemma SameWaves.due (h : SameWaves d d') : (t : ℤ) = d'.nextStallTick ↔
    d.nextStallTick = some t := by
  rw [h.nextStallTick]
  cases d.nextStallTick with
  | none => exact ⟨fun heq => absurd heq (by simp), nofun⟩
  | some next =>
    rw [Option.map_some, Option.getD_some, Option.some_inj, Nat.cast_inj]
    exact eq_comm

lemma SameTick.alive (h : SameTick t rust ts) : countNylosAlive ts = rust.nylosAlive := by
  have hfold : ∀ (npcs : List (ℕ × NpcState)) (n : ℕ), npcs.foldl (fun nylosAlive (_, npc) =>
      if isNylocas npc.id then nylosAlive + 1
      else if isNylocasPrinkipas npc.id then nylosAlive + 3 else nylosAlive) n =
        n + (npcs.map fun (_, npc) => if Npc.isNylocas npc.id then 1
          else if Npc.isNylocasPrinkipas npc.id then 3 else 0).sum := by
    intro npcs
    induction npcs with
    | nil => exact fun n => rfl
    | cons npc npcs ih =>
      intro n
      rw [List.foldl_cons, ih, List.map_cons, List.sum_cons, ← add_assoc]
      congr 1
      dsimp only
      rw [isNylocas_eq, isNylocasPrinkipas_eq]
      split_ifs <;> rfl
  unfold countNylosAlive Timeline.TickState.nylosAlive OrdMap.values
  rw [hfold, zero_add, List.map_map]
  exact (h.npcs.map _).sum_eq

lemma SameTick.boss_eq_none_iff (h : SameTick t rust ts) :
    findBossNpc ts = none ↔ rust.boss = none := by
  unfold findBossNpc Timeline.TickState.boss OrdMap.values
  rw [Option.map_eq_none_iff, Option.map_eq_none_iff, List.find?_eq_none, List.find?_eq_none,
    List.forall_mem_map]
  simp only [isNylocasVasilias_eq]
  exact ⟨fun hnone npc hnpc => hnone npc (h.npcs.mem_iff.mpr hnpc),
    fun hnone npc hnpc => hnone npc (h.npcs.mem_iff.mp hnpc)⟩

lemma eventsOfType_addSyntheticEvent (state : Timeline.TickState) (event : Event)
    (type : EventType) : (state.addSyntheticEvent event).eventsOfType type =
      state.eventsOfType type ++ if event.type = type then [.synthetic event] else [] := by
  unfold Timeline.TickState.eventsOfType Timeline.TickState.addSyntheticEvent
  rw [List.filter_append]
  by_cases htype : event.type = type <;> simp [TaggedEvent.synthetic, htype]

lemma eventsByType_emit (state : NylocasDerivedEvents.TickState) (event : Event)
    (type : EventType) : (state.emit event).eventsByType type = state.eventsByType type ++
      if event.type = type then [.synthetic { event with tick := state.tick }] else [] := by
  unfold NylocasDerivedEvents.TickState.emit
  by_cases htype : event.type = type
  · subst htype
    simp
  · simp [htype, Function.update_of_ne (Ne.symm htype)]

lemma SameTick.emit (h : SameTick t rust ts) (event : Event) :
    SameTick t (rust.addSyntheticEvent { event with tick := t }) (ts.emit event) := by
  refine ⟨h.tick, fun type => ?_, h.npcs, fun e he => ?_⟩
  · rw [eventsByType_emit, eventsOfType_addSyntheticEvent, h.events, h.tick]
  · rw [eventsByType_emit, h.tick] at he
    rcases List.mem_append.mp he with he | he
    · exact h.spawns e he
    · split_ifs at he
      · rw [List.mem_singleton.mp he]
        rfl
      · cases he

lemma pass_rel (hd : SameWaves d d') (h : Option.Rel (SameTick t) rustTick tsTick) :
    Option.Rel (SameTick t) (d.pass t rustTick).1 (d'.pass t tsTick).1 ∧
      SameWaves (d.pass t rustTick).2 (d'.pass t tsTick).2 := by
  obtain ⟨wave, roomCap, next⟩ := d
  obtain ⟨wave', roomCap', next'⟩ := d'
  have hdue := hd.due (t := t)
  obtain ⟨rfl, rfl, hnext⟩ := hd
  unfold Deriving.pass State.pass
  dsimp only at hdue hnext ⊢
  by_cases hfinal : wave' = FINAL_NYLO_WAVE
  · rw [if_pos hfinal, if_pos hfinal]
    cases h with
    | none => exact ⟨.none, rfl, rfl, hnext⟩
    | @some rust ts h =>
      dsimp only
      rw [h.alive]
      split_ifs
      · exact ⟨.some (h.emit (basicEvent .tobNyloCleanupEnd)), rfl, rfl, rfl⟩
      · exact ⟨.some h, rfl, rfl, hnext⟩
  · rw [if_neg hfinal, if_neg hfinal]
    by_cases hstall : next = some t
    · have hlater : SameWaves ⟨wave', roomCap', some (t + NYLO_WAVE_CYCLE)⟩
          ⟨wave', roomCap', next' + NYLO_WAVE_CYCLE⟩ := by
        refine ⟨rfl, rfl, ?_⟩
        rw [← hdue.mpr hstall]
        rfl
      rw [if_pos hstall, if_pos (hdue.mpr hstall)]
      cases h with
      | none => exact ⟨.none, hlater⟩
      | @some rust ts h =>
        dsimp only
        rw [h.alive]
        split_ifs
        · refine ⟨.some ?_, hlater⟩
          have hemit := h.emit (stallEvent ts wave' roomCap')
          unfold stallEvent at hemit ⊢
          rw [h.alive] at hemit ⊢
          exact hemit
        · exact ⟨.some h, hlater⟩
    · rw [if_neg hstall, if_neg (mt hdue.mp hstall)]
      exact ⟨h, rfl, rfl, hnext⟩

lemma step_rel (hd : SameWaves d d') (h : Option.Rel (Comparable t) rustTick tsTick) :
    Option.Rel (fun x y => Option.Rel (SameTick t) x.1 y.1 ∧ Option.Rel SameWaves x.2 y.2)
      (d.step mode t rustTick) (d'.step mode t tsTick) := by
  unfold Deriving.step State.step
  cases h with
  | none =>
    obtain ⟨htick, hwaves⟩ := pass_rel hd (.none : Option.Rel (SameTick t) _ _)
    exact .some ⟨htick, .some hwaves⟩
  | @some rust ts h =>
    obtain ⟨htick, hwaves⟩ := pass_rel hd (.some h.toSameTick)
    dsimp only
    cases hboss : findBossNpc ts with
    | some boss =>
      obtain ⟨position, hposition⟩ := Option.ne_none_iff_exists'.mp
        (mt h.toSameTick.boss_eq_none_iff.mpr (by simp [hboss]))
      rw [hposition, ← h.boss boss hboss position hposition]
      exact .some ⟨.some (h.emit (bossSpawnEvent boss)), .none⟩
    | none =>
      rw [h.toSameTick.boss_eq_none_iff.mp hboss, ← h.events]
      cases hspawns : ts.eventsByType .tobNyloWaveSpawn with
      | nil => exact .some ⟨htick, .some hwaves⟩
      | cons spawn rest =>
        have hmem : spawn ∈ ts.eventsByType .tobNyloWaveSpawn := hspawns ▸ List.mem_cons_self
        obtain ⟨nyloWave, hwave⟩ := Option.ne_none_iff_exists'.mp (h.payloads spawn hmem)
        rw [List.head?_cons, Option.bind_some, hwave]
        simp only [hwave, h.spawns spawn hmem, naturalStallForWave_eq, Option.bind_eq_bind,
          Option.bind_some]
        cases naturalStallForWave mode nyloWave.wave with
        | none => exact .none
        | some stall => exact .some ⟨.some h.toSameTick, .some ⟨rfl, rfl, rfl⟩⟩

end Both

/-- **Both programs derive the same events at the same ticks**, or fail both, if spawns say which
wave it is and the boss that came first is where the one of the lowest room ID is. -/
theorem derive_rel (mode : ChallengeMode) (rust : List (Option TickState))
    (ts : List (Option NylocasDerivedEvents.TickState))
    (h : Alike (fun t => Option.Rel (Comparable t)) 0 rust ts) :
    Option.Rel (Alike (fun t => Option.Rel (SameTick t)) 0) (deriveNylocasEvents mode rust)
      (NylocasDerivedEvents.derive mode ts) := by
  refine walk_rel (R := fun t => Option.Rel (Comparable t)) (S := SameWaves)
    (fun t a b hab => ?_) (fun t d d' a b hd hab => step_rel hd hab) ⟨rfl, rfl, rfl⟩ h
  cases hab with
  | none => exact .none
  | some hab => exact .some hab.toSameTick

/-- A tick with the same events, and with NPCs of the same room IDs in some order. -/
def NylocasDerivedEvents.TickState.of (state : Timeline.TickState) (npcs : List (ℕ × NpcState)) :
    NylocasDerivedEvents.TickState :=
  ⟨state.tick, state.eventsOfType, npcs⟩

def npcAt (id : ℕ) (x y : ℤ) : NpcState := ⟨1, id, ⟨x, y⟩, ⟨100, 100⟩, .empty, none, none⟩

def tickOf (tick : ℕ) (events : List TaggedEvent) (npcs : List (ℕ × NpcState)) : TickState :=
  ⟨tick, events, ∅, npcs.foldl (fun map npc => map.insert npc.1 npc.2) ∅, ∅⟩

/-- The first wave stalls on the fourth tick, a tick without data before. -/
theorem derive_rel_stall :
    let spawn : TaggedEvent := ⟨1, { type := .tobNyloWaveSpawn, tick := 0,
                                     nyloWave := some ⟨1, 0, 1⟩ }⟩
    let nylo := npcAt 8342 3290 4248
    let rust := [some (tickOf 0 [spawn] []), none, none, none, some (tickOf 4 [] [(7, nylo)])]
    let ts := rust.map (·.map fun state => .of state state.npcs.entries)
    Option.Rel (Alike (fun t => Option.Rel (SameTick t)) 0)
        (deriveNylocasEvents .tobRegular rust) (NylocasDerivedEvents.derive .tobRegular ts) ∧
      (deriveNylocasEvents .tobRegular rust).map (·.map (·.map (·.events.length))) =
        some [some 1, none, none, none, some 1] := by
  intro spawn nylo rust ts
  refine ⟨derive_rel .tobRegular rust ts ?_, by decide⟩
  have hspawn : Comparable 0 (tickOf 0 [spawn] []) (.of (tickOf 0 [spawn] []) []) :=
    ⟨⟨rfl, fun _ => rfl, .refl _, by decide⟩, by decide, by decide⟩
  have hnylo : Comparable 4 (tickOf 4 [] [(7, nylo)]) (.of (tickOf 4 [] [(7, nylo)]) [(7, nylo)]) :=
    ⟨⟨rfl, fun _ => rfl, .refl _, by decide⟩, by decide, by decide⟩
  exact .cons (.some hspawn) (.cons .none (.cons .none (.cons .none (.cons (.some hnylo) .nil))))

/-- Two bosses on a tick, of which the one of the higher room ID came first. -/
theorem not_derive_rel_bosses :
    ¬∀ mode (rust : List (Option TickState)) (ts : List (Option NylocasDerivedEvents.TickState)),
      Alike (fun t => Option.Rel (SameTick t)) 0 rust ts →
        Option.Rel (Alike (fun t => Option.Rel (SameTick t)) 0) (deriveNylocasEvents mode rust)
          (NylocasDerivedEvents.derive mode ts) := by
  intro h
  let first := npcAt 8355 3295 4248
  let second := npcAt 8354 3290 4250
  let rust := tickOf 0 [] [(5, second), (9, first)]
  let ts := NylocasDerivedEvents.TickState.of rust [(9, first), (5, second)]
  have hsame : SameTick 0 rust ts := ⟨rfl, fun _ => rfl, .swap _ _ _, by decide⟩
  have hrel := h .tobRegular [some rust] [some ts] (.cons (.some hsame) .nil)
  cases hrel with
  | some hticks =>
    cases hticks with
    | cons hhead _ =>
      cases hhead with
      | some hafter => exact absurd (hafter.events .tobNyloBossSpawn) (by decide)

end Blert.Timeline

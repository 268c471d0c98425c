import Blert.Theatre.Steps

/-!
What the splits of a stage measure.

A phase starts with its room, or some ticks after an event that marks its start, and lasts until
an event that marks its end, or the end of the stage. Each split that is recorded measures the
phase it is named after, except for the second phase of Sotetseg, which is also recorded when the
end of the first maze has not been seen.
-/

namespace Blert.Theatre

open Lifecycle Fallible Checked
open Processing (StageContext SplitType StageSplit)

/-! ### Phases -/

def isCrab (spawn : MaidenCrabSpawn) (e : Event) : Bool :=
  e.type = .npcSpawn ∧ e.npc.any fun npc =>
    match npc.type with
    | some (.maidenCrab spawn' _) => spawn' = spawn
    | _ => false

def isWave (wave : ℕ) (e : Event) : Bool := e.type = .tobNyloWaveSpawn ∧ e.nyloWave = some wave

def isCleanupEnd (e : Event) : Bool := e.type = .tobNyloCleanupEnd

def isBossSpawn (e : Event) : Bool := e.type = .tobNyloBossSpawn

def isMazeProc (kind : Maze) (e : Event) : Bool :=
  e.type = .tobSoteMazeProc ∧ e.soteMaze.any fun path => path.maze = kind

def isMazeEnd (kind : Maze) (e : Event) : Bool :=
  e.type = .tobSoteMazeEnd ∧ e.soteMaze.any fun path => path.maze = kind

def isXarpusPhase (phase : XarpusPhase) (e : Event) : Bool :=
  e.type = .tobXarpusPhase ∧ e.xarpusPhase = phase

def isVerzikPhase (phase : VerzikPhase) (e : Event) : Bool :=
  e.type = .tobVerzikPhase ∧ e.verzikPhase = phase

def isRedSpawn (e : Event) : Bool :=
  e.type = .npcSpawn ∧ e.npc.any fun npc => isVerzikMatomenos npc.id

inductive PhaseStart
  /-- The phase starts as its room does. -/
  | room
  /-- The phase starts some ticks after an event. -/
  | after (mark : Event → Bool) (ticks : ℕ)

inductive PhaseEnd
  /-- The phase lasts until the end of the stage. -/
  | stage
  | event (mark : Event → Bool)

structure Phase where
  start : PhaseStart
  finish : PhaseEnd

/-- The phase that each split is named after. -/
def phases : List (SplitType × Phase) :=
  [(.tobEntryMaiden, ⟨.room, .stage⟩),
    (.tobEntryMaiden70s, ⟨.room, .event (isCrab .seventies)⟩),
    (.tobEntryMaiden50s, ⟨.room, .event (isCrab .fifties)⟩),
    (.tobEntryMaiden30s, ⟨.room, .event (isCrab .thirties)⟩),
    (.tobEntryMaiden70s50s, ⟨.after (isCrab .seventies) 0, .event (isCrab .fifties)⟩),
    (.tobEntryMaiden50s30s, ⟨.after (isCrab .fifties) 0, .event (isCrab .thirties)⟩),
    (.tobEntryMaiden30sEnd, ⟨.after (isCrab .thirties) 0, .stage⟩),
    (.tobEntryBloat, ⟨.room, .stage⟩),
    (.tobEntryNyloRoom, ⟨.room, .stage⟩),
    (.tobEntryNyloCap, ⟨.room, .event (isWave 20)⟩),
    (.tobEntryNyloWaves, ⟨.room, .event (isWave 31)⟩),
    (.tobEntryNyloCleanup, ⟨.room, .event isCleanupEnd⟩),
    (.tobEntryNyloBossSpawn, ⟨.room, .event isBossSpawn⟩),
    (.tobEntryNyloBoss, ⟨.after isBossSpawn 0, .stage⟩),
    (.tobEntrySotetseg, ⟨.room, .stage⟩),
    (.tobEntrySotetseg66, ⟨.room, .event (isMazeProc .maze66)⟩),
    (.tobEntrySotetseg33, ⟨.room, .event (isMazeProc .maze33)⟩),
    (.tobEntrySotetsegMaze1, ⟨.after (isMazeProc .maze66) 0, .event (isMazeEnd .maze66)⟩),
    (.tobEntrySotetsegMaze2, ⟨.after (isMazeProc .maze33) 0, .event (isMazeEnd .maze33)⟩),
    (.tobEntrySotetsegP2, ⟨.after (isMazeEnd .maze66) 0, .event (isMazeProc .maze33)⟩),
    (.tobEntrySotetsegP3, ⟨.after (isMazeEnd .maze33) 0, .stage⟩),
    (.tobEntryXarpus, ⟨.room, .stage⟩),
    (.tobEntryXarpusExhumes, ⟨.room, .event (isXarpusPhase .p2)⟩),
    (.tobEntryXarpusScreech, ⟨.room, .event (isXarpusPhase .p3)⟩),
    (.tobEntryXarpusP2, ⟨.after (isXarpusPhase .p2) 0, .event (isXarpusPhase .p3)⟩),
    (.tobEntryXarpusP3, ⟨.after (isXarpusPhase .p3) 0, .stage⟩),
    (.tobEntryVerzikRoom, ⟨.room, .stage⟩),
    (.tobEntryVerzikReds, ⟨.room, .event isRedSpawn⟩),
    (.tobEntryVerzikP1End, ⟨.room, .event (isVerzikPhase .p2)⟩),
    (.tobEntryVerzikP2End, ⟨.room, .event (isVerzikPhase .p3)⟩),
    (.tobEntryVerzikP2, ⟨.after (isVerzikPhase .p2) VERZIK_P1_TRANSITION_TICKS,
      .event (isVerzikPhase .p3)⟩),
    (.tobEntryVerzikP3, ⟨.after (isVerzikPhase .p3) VERZIK_P2_TRANSITION_TICKS, .stage⟩)]

def phaseOf (split : SplitType) : Option Phase := (phases.find? (·.1 = split)).map Prod.snd

def PhaseStart.Seen (before : List Event) (tick : ℕ) : PhaseStart → Prop
  | room => tick = 0
  | after mark ticks => ∃ e ∈ before, mark e ∧ tick = e.tick + ticks

def PhaseEnd.Seen (events : List Event) (lastTick : ℕ) (start : PhaseStart) (s : StageSplit) :
    PhaseEnd → Prop
  | stage => s.tick = lastTick ∧ s.requiresCompletion = true ∧ start.Seen events s.start
  | event mark => ∃ before e later, events = before ++ e :: later ∧ mark e ∧ s.tick = e.tick ∧
    s.requiresCompletion = false ∧ start.Seen before s.start

/-- A split measures the phase it is named after. -/
def Measures (events : List Event) (lastTick : ℕ) (split : SplitType) (s : StageSplit) : Prop :=
  ∃ phase, phaseOf split = some phase ∧ phase.finish.Seen events lastTick phase.start s

/-! ### Splits of events -/

/-- Splits that are recorded at a tick, one after the other, each with its start. -/
def setSplits (tick : ℕ) (completion : Bool) (ctx : StageContext)
    (splits : List (SplitType × ℕ)) : StageContext :=
  splits.foldl (fun ctx s => ctx.setStageSplit s.1 tick s.2 completion) ctx

/-- The splits of a phase that starts where another split has been recorded. -/
def since (ctx : StageContext) (start : SplitType) (ticks : ℕ) (split : SplitType) :
    List (SplitType × ℕ) :=
  (ctx.stageSplit start).toList.map fun s => (split, s.tick + ticks)

def crabSplits (ctx : StageContext) : MaidenCrabSpawn → List (SplitType × ℕ)
  | .seventies => [(.tobEntryMaiden70s, 0)]
  | .fifties => (.tobEntryMaiden50s, 0) :: since ctx .tobEntryMaiden70s 0 .tobEntryMaiden70s50s
  | .thirties => (.tobEntryMaiden30s, 0) :: since ctx .tobEntryMaiden50s 0 .tobEntryMaiden50s30s

def spawnTypeSplits (ctx : StageContext) : Option NpcType → List (SplitType × ℕ)
  | some (.maidenCrab spawn _) => crabSplits ctx spawn
  | _ => []

def redSplits (p : TheatreProcessor) (npcId : ℕ) : List (SplitType × ℕ) :=
  if isVerzikMatomenos npcId ∧ p.verzik.redSpawnTicks = [] then [(.tobEntryVerzikReds, 0)] else []

def procSplits (s : SotetsegState) : Maze → List (SplitType × ℕ)
  | .maze66 => [(.tobEntrySotetseg66, 0)]
  | .maze33 => (.tobEntrySotetseg33, 0) ::
    s.maze1.toList.map fun maze => (.tobEntrySotetsegP2, maze.endTick)

def endSplits (s : SotetsegState) (kind : Maze) : List (SplitType × ℕ) :=
  (s.maze kind).toList.map fun maze => (mazeSplit kind, maze.startTick)

def xarpusSplits (ctx : StageContext) : XarpusPhase → List (SplitType × ℕ)
  | .p1 => []
  | .p2 => [(.tobEntryXarpusExhumes, 0)]
  | .p3 => (.tobEntryXarpusScreech, 0) ::
    since ctx .tobEntryXarpusExhumes 0 .tobEntryXarpusP2

def verzikSplits (ctx : StageContext) : VerzikPhase → List (SplitType × ℕ)
  | .idle | .p1 => []
  | .p2 => [(.tobEntryVerzikP1End, 0)]
  | .p3 => (.tobEntryVerzikP2End, 0) ::
    since ctx .tobEntryVerzikP1End VERZIK_P1_TRANSITION_TICKS .tobEntryVerzikP2

/-- The splits that an event records, each with its start. -/
def eventSplits (r : Run) (event : Event) : List (SplitType × ℕ) :=
  match event.type with
  | .npcSpawn => event.npc.toList.flatMap fun npc =>
    spawnTypeSplits r.ctx npc.type ++ redSplits r.processor npc.id
  | .tobNyloWaveSpawn =>
    if event.nyloWave = some 20 then [(.tobEntryNyloCap, 0)]
    else if event.nyloWave = some 31 then [(.tobEntryNyloWaves, 0)]
    else []
  | .tobNyloCleanupEnd => [(.tobEntryNyloCleanup, 0)]
  | .tobNyloBossSpawn => [(.tobEntryNyloBossSpawn, 0)]
  | .tobSoteMazeProc => event.soteMaze.toList.flatMap fun path =>
    procSplits r.processor.sotetseg path.maze
  | .tobSoteMazeEnd => event.soteMaze.toList.flatMap fun path =>
    endSplits r.processor.sotetseg path.maze
  | .tobXarpusPhase => xarpusSplits r.ctx event.xarpusPhase
  | .tobVerzikPhase => verzikSplits r.ctx event.verzikPhase
  | _ => []

section

variable {ctx : StageContext} {tick : ℕ} {completion : Bool}

lemma stageSplit_setSplits {splits : List (SplitType × ℕ)} {split : SplitType} {s : StageSplit}
    (h : (setSplits tick completion ctx splits).stageSplit split = some s) :
    ctx.stageSplit split = some s ∨
      ∃ start, (split, start) ∈ splits ∧ s = ⟨tick, start, completion⟩ := by
  unfold setSplits at h
  induction splits generalizing ctx with
  | nil => exact .inl h
  | cons entry splits ih =>
    obtain ⟨split', start'⟩ := entry
    rcases ih h with h | ⟨start, hmem, rfl⟩
    · rw [StageContext.stageSplit_setStageSplit] at h
      split_ifs at h with hset
      · obtain ⟨rfl, -⟩ := hset
        exact .inr ⟨start', List.mem_cons_self, (Option.some.inj h).symm⟩
      · exact .inl h
    · exact .inr ⟨start, List.mem_cons_of_mem _ hmem, rfl⟩

lemma stageSplit_setSplits_of_not_mem {splits : List (SplitType × ℕ)} {split : SplitType}
    (h : ∀ start, (split, start) ∉ splits) :
    (setSplits tick completion ctx splits).stageSplit split = ctx.stageSplit split := by
  unfold setSplits
  induction splits generalizing ctx with
  | nil => rfl
  | cons entry splits ih =>
    obtain ⟨split', start'⟩ := entry
    rw [List.foldl_cons, ih fun start hmem => h start (List.mem_cons_of_mem _ hmem),
      StageContext.stageSplit_setStageSplit, if_neg]
    rintro ⟨rfl, -⟩
    exact h start' List.mem_cons_self

lemma recordMaidenCrab_eq (spawn : MaidenCrabSpawn) :
    recordMaidenCrab ctx tick spawn = setSplits tick false ctx (crabSplits ctx spawn) := by
  cases spawn with
  | seventies => rfl
  | fifties =>
    have hne : SplitType.tobEntryMaiden70s ≠ .tobEntryMaiden50s := by decide
    unfold recordMaidenCrab crabSplits since
    simp only [StageContext.stageSplit_setStageSplit, hne, false_and, if_false]
    cases ctx.stageSplit .tobEntryMaiden70s <;> rfl
  | thirties =>
    have hne : SplitType.tobEntryMaiden50s ≠ .tobEntryMaiden30s := by decide
    unfold recordMaidenCrab crabSplits since
    simp only [StageContext.stageSplit_setStageSplit, hne, false_and, if_false]
    cases ctx.stageSplit .tobEntryMaiden50s <;> rfl

lemma recordXarpusPhase_eq (phase : XarpusPhase) :
    recordXarpusPhase ctx tick phase = setSplits tick false ctx (xarpusSplits ctx phase) := by
  cases phase with
  | p3 =>
    have hne : SplitType.tobEntryXarpusExhumes ≠ .tobEntryXarpusScreech := by decide
    unfold recordXarpusPhase xarpusSplits since
    simp only [StageContext.stageSplit_setStageSplit, hne, false_and, if_false]
    cases ctx.stageSplit .tobEntryXarpusExhumes <;> rfl
  | _ => rfl

lemma recordVerzikPhase_eq {ctx' : StageContext} {phase : VerzikPhase}
    (h : recordVerzikPhase ctx tick phase = .ok ctx') :
    ctx' = setSplits tick false ctx (verzikSplits ctx phase) := by
  cases phase with
  | p3 =>
    have hne : SplitType.tobEntryVerzikP1End ≠ .tobEntryVerzikP2End := by decide
    unfold recordVerzikPhase at h
    unfold verzikSplits since
    simp only [StageContext.stageSplit_setStageSplit, hne, false_and, if_false] at h
    cases hp1 : ctx.stageSplit .tobEntryVerzikP1End with
    | none =>
      rw [hp1] at h
      cases h
      rfl
    | some p1End =>
      rw [hp1] at h
      obtain ⟨start, hstart, h⟩ := bind_eq_ok.1 h
      obtain ⟨-, rfl⟩ := u32_eq_ok.1 hstart
      cases h
      rfl
  | _ =>
    cases h
    rfl

lemma recordMazeProc_eq (s : SotetsegState) (kind : Maze) :
    (recordMazeProc s ctx tick kind).2 = setSplits tick false ctx (procSplits s kind) := by
  cases kind with
  | maze66 => rfl
  | maze33 =>
    unfold recordMazeProc procSplits
    dsimp only
    cases s.maze1 <;> rfl

lemma recordMazeEnd_eq (s : SotetsegState) (path : SoteMaze) :
    (recordMazeEnd s ctx tick path).2 = setSplits tick false ctx (endSplits s path.maze) := by
  unfold recordMazeEnd endSplits
  cases s.maze path.maze <;> rfl

lemma recordReds_eq (p : TheatreProcessor) (npcId : ℕ) :
    (recordReds p ctx tick npcId).2 = setSplits tick false ctx (redSplits p npcId) := by
  unfold recordReds redSplits
  by_cases hred : isVerzikMatomenos npcId
  · rw [if_pos hred]
    cases hlast : p.verzik.redSpawnTicks.getLast? with
    | none =>
      rw [if_pos ⟨hred, List.getLast?_eq_none_iff.mp hlast⟩]
      rfl
    | some last =>
      rw [if_neg]
      · dsimp only
        split_ifs <;> rfl
      · rintro ⟨-, hnil⟩
        rw [hnil] at hlast
        cases hlast
  · rw [if_neg hred, if_neg fun h => hred h.1]
    rfl

lemma setSplits_append (splits splits' : List (SplitType × ℕ)) :
    setSplits tick completion ctx (splits ++ splits') =
      setSplits tick completion (setSplits tick completion ctx splits) splits' :=
  List.foldl_append ..

lemma processNpcSpawn_splits {p p' : TheatreProcessor} {ctx' : StageContext} {npc : Npc}
    (h : processNpcSpawn p ctx tick npc = .ok (p', ctx')) :
    ctx' = setSplits tick false ctx (spawnTypeSplits ctx npc.type ++ redSplits p npc.id) := by
  unfold processNpcSpawn at h
  obtain ⟨⟨p₁, ctx₁⟩, h₁, h⟩ := bind_eq_ok.1 h
  obtain ⟨p₂, h₂, h⟩ := bind_eq_ok.1 h
  have hctx₁ : ctx₁ = setSplits tick false ctx (spawnTypeSplits ctx npc.type) ∧
      p₁.verzik = p.verzik := by
    unfold recordSpawnType at h₁
    unfold spawnTypeSplits
    split at h₁
    · next htype =>
      rw [htype]
      cases h₁
      exact ⟨recordMaidenCrab_eq _, rfl⟩
    · next htype =>
      rw [htype]
      obtain ⟨_, -, h₁⟩ := bind_eq_ok.1 h₁
      cases h₁
      exact ⟨rfl, rfl⟩
    · next hcrab _ =>
      cases h₁
      refine ⟨?_, rfl⟩
      split
      · next htype => exact absurd htype (hcrab _ _)
      · rfl
  have hp₂ : p₂.verzik = p₁.verzik := by
    unfold recordBossStyle at h₂
    split at h₂
    · obtain ⟨_, -, h₂⟩ := bind_eq_ok.1 h₂
      cases h₂
      rfl
    · cases h₂
      rfl
  have hreds := @recordReds_eq ctx₁ tick p₂ npc.id
  rw [Except.ok.inj h] at hreds
  have heq : redSplits p₂ npc.id = redSplits p npc.id := by
    unfold redSplits
    rw [hp₂, hctx₁.2]
  rw [setSplits_append, ← hctx₁.1, ← heq]
  exact hreds

end

section

variable {world : World} {r r' : Run} {event : Event} {keep : Bool}

lemma stageSplits_countEach {ctx ctx' : StageContext} {i : ℕ}
    {columns : List Processing.StatColumn} (h : countEach ctx i columns = .ok ctx') :
    ctx'.stageSplits = ctx.stageSplits := by
  unfold countEach at h
  refine @foldlM_inv _ _ _ _ (fun (_ : List Processing.StatColumn) (ctx' : StageContext) =>
    ctx'.stageSplits = ctx.stageSplits) ?_ columns [] ctx ctx' rfl h
  intro done column ctx₁ ctx₂ heq hcount
  obtain ⟨-, rfl⟩ := count_eq_ok.1 hcount
  exact heq

lemma stageSplits_processChallengeEvent
    (h : processChallengeEvent world r event = .ok (r', keep)) :
    r'.ctx.stageSplits = (setSplits event.tick false r.ctx (eventSplits r event)).stageSplits := by
  unfold processChallengeEvent at h
  unfold eventSplits
  cases htype : event.type <;> rw [htype] at h <;> dsimp only at h ⊢
  case playerDeath =>
    split at h
    · obtain ⟨ctx, hctx, h⟩ := bind_eq_ok.1 h
      cases h
      exact stageSplits_countEach hctx
    · cases h
      rfl
  case playerAttack =>
    split at h
    · obtain ⟨⟨p, ctx⟩, hattack, h⟩ := bind_eq_ok.1 h
      cases h
      unfold processPlayerAttack at hattack
      obtain ⟨ctx', hctx, hattack⟩ := bind_eq_ok.1 hattack
      cases hattack
      exact stageSplits_countEach hctx
    · cases h
      rfl
  case npcSpawn =>
    cases hnpc : event.npc with
    | none =>
      rw [hnpc] at h
      cases h
      rfl
    | some npc =>
      rw [hnpc] at h
      obtain ⟨⟨p, ctx⟩, hspawn, h⟩ := bind_eq_ok.1 h
      cases h
      dsimp only
      rw [processNpcSpawn_splits hspawn]
      simp
  case npcUpdate =>
    split at h
    · obtain ⟨p, -, h⟩ := bind_eq_ok.1 h
      cases h
      rfl
    · cases h
      rfl
  case tobMaidenCrabLeak =>
    split_ifs at h
    · obtain ⟨_, -, h⟩ := bind_eq_ok.1 h
      cases h
      rfl
    · cases h
      rfl
  case tobBloatDown => split at h <;> cases h <;> rfl
  case tobBloatHandsDrop =>
    obtain ⟨_, -, h⟩ := bind_eq_ok.1 h
    cases h
    rfl
  case tobNyloWaveSpawn =>
    split_ifs at h with h20 h31 <;> cases h
    · rw [if_pos h20]
      rfl
    · rw [if_neg h20, if_pos h31]
      rfl
    · rw [if_neg h20, if_neg h31]
      rfl
  case tobSoteMazeProc =>
    cases hpath : event.soteMaze with
    | none =>
      rw [hpath] at h
      cases h
      rfl
    | some path =>
      rw [hpath] at h
      cases h
      simp [recordMazeProc_eq]
  case tobSoteMazePath =>
    split at h
    · split_ifs at h <;> cases h <;> rfl
    · cases h
      rfl
  case tobSoteMazeEnd =>
    cases hpath : event.soteMaze with
    | none =>
      rw [hpath] at h
      cases h
      rfl
    | some path =>
      rw [hpath] at h
      cases h
      simp [recordMazeEnd_eq]
  case tobXarpusExhumed =>
    split at h
    · obtain ⟨_, -, h⟩ := bind_eq_ok.1 h
      cases h
      rfl
    · cases h
      rfl
  case tobXarpusPhase =>
    cases h
    simp [recordXarpusPhase_eq]
  case tobVerzikPhase =>
    obtain ⟨ctx, hctx, h⟩ := bind_eq_ok.1 h
    cases h
    dsimp only
    rw [recordVerzikPhase_eq hctx]
  case tobVerzikBounce =>
    split at h
    · next bounce _ =>
      have hctx : (recordBounce world r bounce).1.ctx = r.ctx := by
        unfold recordBounce
        split_ifs
        · rfl
        · split
          · rfl
          · dsimp only
            split <;> rfl
      rw [Except.ok.inj h] at hctx
      rw [hctx]
      rfl
    · cases h
      rfl
  case tobVerzikAttackStyle =>
    split at h
    · obtain ⟨_, hstyle, h⟩ := bind_eq_ok.1 h
      cases h
      unfold recordAttackStyle at hstyle
      split at hstyle
      · cases hstyle
        rfl
      · obtain ⟨ctx, hctx, hstyle⟩ := bind_eq_ok.1 hstyle
        cases hstyle
        unfold countTank at hctx
        split at hctx
        · obtain ⟨-, rfl⟩ := count_eq_ok.1 hctx
          rfl
        · cases hctx
          rfl
    · cases h
      rfl
  all_goals
    cases h
    rfl

end

/-! ### Mazes of events -/

/-- The ticks on which a maze has started and ended, where it has not ended at 0. -/
def SotetsegState.ticks (s : SotetsegState) (kind : Maze) : Option (ℕ × ℕ) :=
  (s.maze kind).map fun maze => (maze.startTick, maze.endTick)

def nextTicks (kind : Maze) (ticks : Option (ℕ × ℕ)) (e : Event) : Option (ℕ × ℕ) :=
  if isMazeProc kind e then some (e.tick, 0)
  else if isMazeEnd kind e then ticks.map fun t => (t.1, e.tick)
  else ticks

lemma ticks_setMaze (s : SotetsegState) (kind kind' : Maze) (maze : SotetsegMaze) :
    (s.setMaze kind maze).ticks kind' =
      if kind = kind' then some (maze.startTick, maze.endTick) else s.ticks kind' := by
  cases kind <;> cases kind' <;> rfl

lemma ticks_recordMazeProc (s : SotetsegState) (ctx : StageContext) (tick : ℕ) (kind kind' : Maze) :
    (recordMazeProc s ctx tick kind).1.ticks kind' =
      if kind = kind' then some (tick, 0) else s.ticks kind' := by
  cases kind <;> cases kind' <;> rfl

lemma ticks_recordMazeEnd (s : SotetsegState) (ctx : StageContext) (tick : ℕ) (path : SoteMaze)
    (kind : Maze) : (recordMazeEnd s ctx tick path).1.ticks kind =
      if path.maze = kind then (s.ticks kind).map fun t => (t.1, tick) else s.ticks kind := by
  unfold recordMazeEnd
  cases hmaze : s.maze path.maze with
  | none =>
    dsimp only
    split_ifs with h
    · subst h
      simp [SotetsegState.ticks, hmaze]
    · rfl
  | some maze =>
    dsimp only
    rw [ticks_setMaze]
    split_ifs with h
    · subst h
      simp [SotetsegState.ticks, hmaze]
    · rfl

lemma ticks_recordMazePath (s : SotetsegState) (path : SoteMaze) (kind : Maze) :
    (recordMazePath s path).ticks kind = s.ticks kind := by
  unfold recordMazePath
  split
  · next maze hmaze =>
    split
    · rw [ticks_setMaze]
      split_ifs with h
      · subst h
        simp [SotetsegState.ticks, hmaze]
      · rfl
    · rfl
  · rfl

def nextMazes (ctx : StageContext) (s : SotetsegState) (e : Event) : SotetsegState :=
  match e.type, e.soteMaze with
  | .tobSoteMazeProc, some path => (recordMazeProc s ctx e.tick path.maze).1
  | .tobSoteMazePath, some path =>
    if path.overworldTiles.isEmpty then recordMazePath s path else s
  | .tobSoteMazeEnd, some path => (recordMazeEnd s ctx e.tick path).1
  | _, _ => s

section

variable {world : World} {r r' : Run} {event : Event} {keep : Bool}

lemma sotetseg_processNpcSpawn {p p' : TheatreProcessor} {ctx ctx' : StageContext} {tick : ℕ}
    {npc : Npc} (h : processNpcSpawn p ctx tick npc = .ok (p', ctx')) :
    p'.sotetseg = p.sotetseg := by
  unfold processNpcSpawn at h
  obtain ⟨⟨p₁, ctx₁⟩, h₁, h⟩ := bind_eq_ok.1 h
  obtain ⟨p₂, h₂, h⟩ := bind_eq_ok.1 h
  have hp₁ : p₁.sotetseg = p.sotetseg := by
    unfold recordSpawnType at h₁
    split at h₁
    · cases h₁
      rfl
    · obtain ⟨_, -, h₁⟩ := bind_eq_ok.1 h₁
      cases h₁
      rfl
    · cases h₁
      rfl
  have hp₂ : p₂.sotetseg = p₁.sotetseg := by
    unfold recordBossStyle at h₂
    split at h₂
    · obtain ⟨_, -, h₂⟩ := bind_eq_ok.1 h₂
      cases h₂
      rfl
    · cases h₂
      rfl
  have hp₃ : (recordReds p₂ ctx₁ tick npc.id).1.sotetseg = p₂.sotetseg := by
    unfold recordReds
    dsimp only
    split_ifs
    · split
      · rfl
      · split_ifs <;> rfl
    · rfl
  rw [Except.ok.inj h] at hp₃
  rw [hp₃, hp₂, hp₁]

lemma sotetseg_processChallengeEvent
    (h : processChallengeEvent world r event = .ok (r', keep)) :
    r'.processor.sotetseg = nextMazes r.ctx r.processor.sotetseg event := by
  unfold processChallengeEvent at h
  unfold nextMazes
  cases htype : event.type <;> rw [htype] at h <;> dsimp only at h ⊢
  case playerDeath =>
    split at h
    · obtain ⟨ctx, -, h⟩ := bind_eq_ok.1 h
      cases h
      rfl
    · cases h
      rfl
  case playerAttack =>
    split at h
    · obtain ⟨⟨p, ctx⟩, hattack, h⟩ := bind_eq_ok.1 h
      cases h
      unfold processPlayerAttack at hattack
      obtain ⟨ctx', hctx, hattack⟩ := bind_eq_ok.1 hattack
      cases hattack
      rfl
    · cases h
      rfl
  case npcSpawn =>
    split at h
    · obtain ⟨⟨p, ctx⟩, hspawn, h⟩ := bind_eq_ok.1 h
      cases h
      exact sotetseg_processNpcSpawn hspawn
    · cases h
      rfl
  case npcUpdate =>
    split at h
    · obtain ⟨p, hp, h⟩ := bind_eq_ok.1 h
      cases h
      have heq : p.sotetseg = r.processor.sotetseg := by
        unfold processNpcUpdate recordBossStyle at hp
        split_ifs at hp
        · split at hp
          · obtain ⟨_, -, hp⟩ := bind_eq_ok.1 hp
            cases hp
            rfl
          · cases hp
            rfl
        · cases hp
          rfl
      exact heq
    · cases h
      rfl
  case tobMaidenCrabLeak =>
    split_ifs at h
    · obtain ⟨_, -, h⟩ := bind_eq_ok.1 h
      cases h
      rfl
    · cases h
      rfl
  case tobBloatDown => split at h <;> cases h <;> rfl
  case tobBloatHandsDrop =>
    obtain ⟨_, -, h⟩ := bind_eq_ok.1 h
    cases h
    rfl
  case tobNyloWaveSpawn => split_ifs at h <;> cases h <;> rfl
  case tobSoteMazeProc => cases hpath : event.soteMaze <;> rw [hpath] at h <;> cases h <;> rfl
  case tobSoteMazePath =>
    cases hpath : event.soteMaze <;> rw [hpath] at h <;> dsimp only at h ⊢
    · cases h
      rfl
    · split_ifs at h ⊢ <;> cases h <;> rfl
  case tobSoteMazeEnd => cases hpath : event.soteMaze <;> rw [hpath] at h <;> cases h <;> rfl
  case tobXarpusExhumed =>
    split at h
    · obtain ⟨p, hp, h⟩ := bind_eq_ok.1 h
      cases h
      unfold recordExhumed at hp
      obtain ⟨_, -, hp⟩ := bind_eq_ok.1 hp
      obtain ⟨_, -, hp⟩ := bind_eq_ok.1 hp
      obtain ⟨_, -, hp⟩ := bind_eq_ok.1 hp
      cases hp
      rfl
    · cases h
      rfl
  case tobVerzikPhase =>
    obtain ⟨ctx, hctx, h⟩ := bind_eq_ok.1 h
    cases h
    rfl
  case tobVerzikBounce =>
    split at h
    · next bounce _ =>
      have heq : (recordBounce world r bounce).1.processor.sotetseg = r.processor.sotetseg := by
        unfold recordBounce
        split_ifs
        · rfl
        · split
          · rfl
          · dsimp only
            split <;> rfl
      rw [Except.ok.inj h] at heq
      dsimp only at heq
      exact heq
    · cases h
      rfl
  case tobVerzikAttackStyle =>
    split at h
    · obtain ⟨_, hstyle, h⟩ := bind_eq_ok.1 h
      cases h
      unfold recordAttackStyle at hstyle
      split at hstyle
      · cases hstyle
        rfl
      · obtain ⟨ctx, hctx, hstyle⟩ := bind_eq_ok.1 hstyle
        cases hstyle
        rfl
    · cases h
      rfl
  all_goals
    cases h
    rfl

lemma ticks_processChallengeEvent (h : processChallengeEvent world r event = .ok (r', keep))
    (kind : Maze) : r'.processor.sotetseg.ticks kind =
      nextTicks kind (r.processor.sotetseg.ticks kind) event := by
  rw [sotetseg_processChallengeEvent h]
  unfold nextMazes nextTicks isMazeProc isMazeEnd
  cases htype : event.type <;> cases hpath : event.soteMaze <;>
    simp [ticks_recordMazeProc, ticks_recordMazeEnd, ticks_recordMazePath, apply_ite
      (SotetsegState.ticks · kind)]

end

end Blert.Theatre

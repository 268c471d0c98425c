import Mathlib.Data.List.DropRight
import Blert.Theatre.Phases

/-!
When each split of a stage measures a phase that was seen.

The splits recorded in the loop are described by the events that have been gone through, and so
are the mazes of Sotetseg, of which the first may have been left open.
-/

namespace Blert.Theatre

open Lifecycle Fallible Checked
open Processing (StageContext SplitType StageSplit)

/-! ### The events gone through -/

/-- The events that the loop does not pass over. -/
def handled (events : List Event) : List Event := events.filter fun e => !isSkipped e

def handledAt (events : List Event) (places : List ℕ) : List Event :=
  handled (places.filterMap fun i => events[i]?)

lemma filterMap_range (events : List Event) :
    ((List.range events.length).filterMap fun i => events[i]?) = events := by
  induction events using List.reverseRecOn with
  | nil => rfl
  | append_singleton events e ih =>
    rw [List.length_append, List.length_singleton, List.range_succ, List.filterMap_append]
    have hinit : ((List.range events.length).filterMap fun i => (events ++ [e])[i]?) = events := by
      refine (List.filterMap_congr fun i hi => ?_).trans ih
      rw [List.getElem?_append_left (List.mem_range.mp hi)]
    rw [hinit]
    simp

lemma handledAt_range (events : List Event) :
    handledAt events (List.range events.length) = handled events := by
  unfold handledAt
  rw [filterMap_range]

lemma handledAt_append {events : List Event} {places : List ℕ} {index : ℕ} {e : Event}
    (h : events[index]? = some e) : handledAt events (places ++ [index]) =
      handledAt events places ++ if isSkipped e then [] else [e] := by
  unfold handledAt handled
  rw [List.filterMap_append, List.filter_append]
  cases hskip : isSkipped e <;> simp [h, hskip]

lemma Kept.event {p : TheatreProcessor} {ctx : StageContext} {events : List Event} {r : Run}
    (hkept : Kept p ctx events r) {index : ℕ} {event : Event}
    (h : r.events[index]? = some event) :
    ∃ e, events[index]? = some e ∧ event.base = e.base := by
  have hbase := congrArg (·[index]?) hkept.events
  simp only [List.getElem?_map, h, Option.map_some] at hbase
  obtain ⟨e, he, heq⟩ := Option.map_eq_some_iff.mp hbase.symm
  exact ⟨e, he, heq.symm⟩

/-! ### Mazes -/

def seenTicks (kind : Maze) (seen : List Event) : Option (ℕ × ℕ) :=
  seen.foldl (nextTicks kind) none

lemma seenTicks_append (kind : Maze) (seen : List Event) (e : Event) :
    seenTicks kind (seen ++ [e]) = nextTicks kind (seenTicks kind seen) e := by
  unfold seenTicks
  rw [List.foldl_append]
  rfl

/-- A maze that has been seen has started with one event and, unless it is open, ended with
another. -/
lemma seenTicks_spec {kind : Maze} {seen : List Event} {start finish : ℕ}
    (h : seenTicks kind seen = some (start, finish)) :
    (∃ e ∈ seen, isMazeProc kind e ∧ start = e.tick) ∧
      (finish = 0 ∨ ∃ e ∈ seen, isMazeEnd kind e ∧ finish = e.tick) := by
  induction seen using List.reverseRecOn generalizing start finish with
  | nil => cases h
  | append_singleton seen e ih =>
    have hmem : e ∈ seen ++ [e] := List.mem_append_right _ List.mem_cons_self
    rw [seenTicks_append, nextTicks] at h
    split_ifs at h with hproc hend
    · cases h
      exact ⟨⟨e, hmem, hproc, rfl⟩, .inl rfl⟩
    · obtain ⟨⟨start', finish'⟩, hprev, heq⟩ := Option.map_eq_some_iff.mp h
      cases heq
      obtain ⟨⟨x, hx, hproc, rfl⟩, -⟩ := ih hprev
      exact ⟨⟨x, List.mem_append_left _ hx, hproc, rfl⟩, .inr ⟨e, hmem, hend, rfl⟩⟩
    · obtain ⟨⟨x, hx, hproc, rfl⟩, hfinish⟩ := ih h
      refine ⟨⟨x, List.mem_append_left _ hx, hproc, rfl⟩, hfinish.imp id ?_⟩
      rintro ⟨y, hy, hend, rfl⟩
      exact ⟨y, List.mem_append_left _ hy, hend, rfl⟩

/-- What has happened since Sotetseg last started its first maze. -/
def sinceProc (events : List Event) : List Event :=
  events.rtakeWhile fun e => !isMazeProc .maze66 e

lemma mem_of_mem_sinceProc {events : List Event} {e : Event} (h : e ∈ sinceProc events) :
    e ∈ events := by
  unfold sinceProc at h
  exact (List.rtakeWhile_suffix _ _).subset h

lemma seenTicks_isSome {seen : List Event} :
    (∃ ticks, seenTicks .maze66 seen = some ticks) ↔ ∃ e ∈ seen, isMazeProc .maze66 e := by
  induction seen using List.reverseRecOn with
  | nil => simp [seenTicks]
  | append_singleton seen e ih =>
    rw [seenTicks_append, nextTicks]
    simp only [List.mem_append, List.mem_singleton, or_and_right, exists_or, exists_eq_left]
    split_ifs with hproc hend
    · exact iff_of_true ⟨_, rfl⟩ (.inr hproc)
    · rw [← ih]
      simp [Option.map_eq_some_iff, hproc]
    · rw [← ih]
      simp [hproc]

lemma seenTicks_sinceProc {seen : List Event} (hsorted : seen.Pairwise (·.tick ≤ ·.tick))
    {start finish : ℕ} (h : seenTicks .maze66 seen = some (start, finish)) :
    ((∀ y ∈ sinceProc seen, isMazeEnd .maze66 y = false) ∧ finish = 0) ∨
      ∃ y ∈ sinceProc seen, isMazeEnd .maze66 y ∧ finish = y.tick ∧
        ∀ y' ∈ sinceProc seen, y'.tick ≤ finish ∨ isMazeEnd .maze66 y' = false := by
  induction seen using List.reverseRecOn generalizing start finish with
  | nil => cases h
  | append_singleton seen e ih =>
    obtain ⟨hseen, -, hlast⟩ := List.pairwise_append.mp hsorted
    have hle : ∀ y ∈ seen, y.tick ≤ e.tick := fun y hy => hlast y hy e List.mem_cons_self
    rw [seenTicks_append, nextTicks] at h
    unfold sinceProc at ih ⊢
    split_ifs at h with hproc hend
    · cases h
      rw [List.rtakeWhile_concat_neg _ _ _ (by simp [hproc])]
      exact .inl ⟨by simp, rfl⟩
    · obtain ⟨⟨start', finish'⟩, hprev, heq⟩ := Option.map_eq_some_iff.mp h
      cases heq
      rw [List.rtakeWhile_concat_pos _ _ _ (by simp [hproc])]
      refine .inr ⟨e, List.mem_append_right _ List.mem_cons_self, hend, rfl, fun y hy => ?_⟩
      rcases List.mem_append.mp hy with hy | hy
      · exact .inl (hle y (mem_of_mem_sinceProc hy))
      · rw [List.mem_singleton.mp hy]
        exact .inl le_rfl
    · rw [List.rtakeWhile_concat_pos _ _ _ (by simp [hproc])]
      rcases ih hseen h with ⟨hnone, rfl⟩ | ⟨y, hy, hyend, rfl, hmax⟩
      · refine .inl ⟨fun y hy => ?_, rfl⟩
        rcases List.mem_append.mp hy with hy | hy
        · exact hnone y hy
        · rw [List.mem_singleton.mp hy]
          simpa using hend
      · refine .inr ⟨y, List.mem_append_left _ hy, hyend, rfl, fun y' hy' => ?_⟩
        rcases List.mem_append.mp hy' with hy' | hy'
        · exact hmax y' hy'
        · rw [List.mem_singleton.mp hy']
          exact .inr (by simpa using hend)

/-! ### The second phase of Sotetseg -/

/-- The second phase, recorded by an event after others. -/
def nextP2 (seen : List Event) (p2 : Option StageSplit) (e : Event) : Option StageSplit :=
  if isMazeProc .maze33 e then
    match seenTicks .maze66 seen with
    | some (_, finish) => if finish < e.tick then some ⟨e.tick, finish, false⟩ else p2
    | none => p2
  else p2

def seenP2Rev : List Event → Option StageSplit
  | [] => none
  | e :: seen => nextP2 seen.reverse (seenP2Rev seen) e

/-- The second phase that is recorded by some events. -/
def seenP2 (seen : List Event) : Option StageSplit := seenP2Rev seen.reverse

lemma seenP2_append (seen : List Event) (e : Event) :
    seenP2 (seen ++ [e]) = nextP2 seen (seenP2 seen) e := by
  unfold seenP2
  rw [List.reverse_append, List.reverse_singleton, List.singleton_append, seenP2Rev,
    List.reverse_reverse]

/-- An event ends the second phase: Sotetseg starts its second maze, after the first one has
started and no longer than it has been over. -/
def EndsP2 (before : List Event) (e : Event) : Prop :=
  isMazeProc .maze33 e ∧ (∃ x ∈ before, isMazeProc .maze66 x) ∧ 0 < e.tick ∧
    ∀ y ∈ sinceProc before, isMazeEnd .maze66 y → y.tick < e.tick

lemma endsP2_iff {before : List Event} (hsorted : before.Pairwise (·.tick ≤ ·.tick)) {e : Event} :
    EndsP2 before e ↔ isMazeProc .maze33 e ∧
      ∃ start finish, seenTicks .maze66 before = some (start, finish) ∧ finish < e.tick := by
  unfold EndsP2
  rw [← seenTicks_isSome]
  constructor
  · rintro ⟨hproc, ⟨⟨start, finish⟩, hticks⟩, hpos, hends⟩
    refine ⟨hproc, start, finish, hticks, ?_⟩
    rcases seenTicks_sinceProc hsorted hticks with ⟨-, rfl⟩ | ⟨y, hy, hend, rfl, -⟩
    · exact hpos
    · exact hends y hy hend
  · rintro ⟨hproc, start, finish, hticks, hlt⟩
    refine ⟨hproc, ⟨_, hticks⟩, by omega, fun y hy hend => ?_⟩
    rcases seenTicks_sinceProc hsorted hticks with ⟨hnone, -⟩ | ⟨-, -, -, -, hmax⟩
    · rw [hnone y hy] at hend
      cases hend
    · rcases hmax y hy with hle | hfalse
      · omega
      · rw [hfalse] at hend
        cases hend

def LastP2 (before : List Event) (e : Event) (later : List Event) : Prop :=
  ∀ between e' rest, later = between ++ e' :: rest → ¬EndsP2 (before ++ e :: between) e'

lemma seenP2_eq_some {events : List Event} (hsorted : events.Pairwise (·.tick ≤ ·.tick))
    {s : StageSplit} : seenP2 events = some s ↔ ∃ before e later start finish,
      events = before ++ e :: later ∧ EndsP2 before e ∧ LastP2 before e later ∧
        seenTicks .maze66 before = some (start, finish) ∧ s = ⟨e.tick, finish, false⟩ := by
  induction events using List.reverseRecOn with
  | nil =>
    constructor
    · intro h
      cases h
    · rintro ⟨before, e, later, _, _, h, -⟩
      simp at h
  | append_singleton events x ih =>
    obtain ⟨hevents, -, -⟩ := List.pairwise_append.mp hsorted
    rw [seenP2_append]
    by_cases hx : EndsP2 events x
    · obtain ⟨hproc, start, finish, hticks, hlt⟩ := (endsP2_iff hevents).mp hx
      have hnext : nextP2 events (seenP2 events) x = some ⟨x.tick, finish, false⟩ := by
        unfold nextP2
        rw [if_pos hproc, hticks]
        exact if_pos hlt
      rw [hnext]
      constructor
      · intro h
        cases h
        refine ⟨events, x, [], start, finish, rfl, hx, ?_, hticks, rfl⟩
        intro between e' rest h
        simp at h
      · rintro ⟨before, e, later, start', finish', heq, -, hlast, hticks', rfl⟩
        cases later using List.reverseRecOn with
        | nil =>
          obtain ⟨rfl, hxe⟩ := List.append_inj' heq rfl
          cases hxe
          rw [hticks] at hticks'
          cases hticks'
          rfl
        | append_singleton later y =>
          have hy : events ++ [x] = (before ++ e :: later) ++ [y] := by simpa using heq
          obtain ⟨rfl, hxy⟩ := List.append_inj' hy rfl
          cases hxy
          exact absurd hx (hlast later x [] rfl)
    · have hnext : nextP2 events (seenP2 events) x = seenP2 events := by
        unfold nextP2
        split_ifs with hproc
        · cases hticks : seenTicks .maze66 events with
          | none => rfl
          | some ticks =>
            obtain ⟨start, finish⟩ := ticks
            refine if_neg fun hlt => hx ?_
            exact (endsP2_iff hevents).mpr ⟨hproc, start, finish, hticks, hlt⟩
        · rfl
      rw [hnext, ih hevents]
      constructor
      · rintro ⟨before, e, later, start, finish, rfl, hends, hlast, hticks, rfl⟩
        refine ⟨before, e, later ++ [x], start, finish, by simp, hends, ?_, hticks, rfl⟩
        intro between e' rest h
        cases rest using List.reverseRecOn with
        | nil =>
          obtain ⟨rfl, hxe⟩ := List.append_inj' h rfl
          cases hxe
          exact hx
        | append_singleton rest y =>
          have hy : later ++ [x] = (between ++ e' :: rest) ++ [y] := by simpa using h
          obtain ⟨rfl, -⟩ := List.append_inj' hy rfl
          exact hlast between e' rest rfl
      · rintro ⟨before, e, later, start, finish, heq, hends, hlast, hticks, rfl⟩
        cases later using List.reverseRecOn with
        | nil =>
          obtain ⟨rfl, hxe⟩ := List.append_inj' heq rfl
          cases hxe
          exact absurd hends hx
        | append_singleton later y =>
          have hy : events ++ [x] = (before ++ e :: later) ++ [y] := by simpa using heq
          obtain ⟨rfl, -⟩ := List.append_inj' hy rfl
          refine ⟨before, e, later, start, finish, rfl, hends, ?_, hticks, rfl⟩
          intro between e' rest h
          exact hlast between e' (rest ++ [y]) (by simp [h])

/-! ### Splits of the loop -/

def MeasuredBy (seen : List Event) (split : SplitType) (s : StageSplit) : Prop :=
  ∃ start mark, phaseOf split = some ⟨start, .event mark⟩ ∧
    (PhaseEnd.event mark).Seen seen 0 start s

lemma MeasuredBy.append {seen : List Event} {split : SplitType} {s : StageSplit}
    (h : MeasuredBy seen split s) (events : List Event) : MeasuredBy (seen ++ events) split s := by
  obtain ⟨start, mark, hphase, before, e, later, rfl, h⟩ := h
  exact ⟨start, mark, hphase, before, e, later ++ events, by simp, h⟩

lemma MeasuredBy.tick {seen : List Event} {split : SplitType} {s : StageSplit}
    (h : MeasuredBy seen split s) {start : PhaseStart} {mark : Event → Bool}
    (hphase : phaseOf split = some ⟨start, .event mark⟩) : ∃ e ∈ seen, mark e ∧ s.tick = e.tick := by
  obtain ⟨start', mark', hphase', before, e, later, rfl, hmark, htick, -⟩ := h
  cases hphase.symm.trans hphase'
  exact ⟨e, by simp, hmark, htick⟩

/-- The splits and mazes of a loop that has gone through some events. -/
structure Recorded (seen : List Event) (r : Run) : Prop where
  mazes : ∀ kind, r.processor.sotetseg.ticks kind = seenTicks kind seen
  p2 : r.ctx.stageSplit .tobEntrySotetsegP2 = seenP2 seen
  splits : ∀ split s, split ≠ .tobEntrySotetsegP2 → r.ctx.stageSplit split = some s →
    MeasuredBy seen split s

def StartSeen (seen : List Event) (event : Event) (entry : SplitType × ℕ) : Prop :=
  ∃ start mark, phaseOf entry.1 = some ⟨start, .event mark⟩ ∧ mark event ∧
    start.Seen seen entry.2

section

variable {seen : List Event} {r : Run} {event : Event}

lemma startSeen_room {split : SplitType} {mark : Event → Bool}
    (hphase : phaseOf split = some ⟨.room, .event mark⟩) (hmark : mark event) :
    StartSeen seen event (split, 0) := ⟨.room, mark, hphase, hmark, rfl⟩

lemma startSeen_since (hr : Recorded seen r) {start split : SplitType} {first : PhaseStart}
    {from_ mark : Event → Bool} {ticks : ℕ} {entry : SplitType × ℕ}
    (hne : start ≠ .tobEntrySotetsegP2) (hstart : phaseOf start = some ⟨first, .event from_⟩)
    (hphase : phaseOf split = some ⟨.after from_ ticks, .event mark⟩) (hmark : mark event)
    (h : entry ∈ since r.ctx start ticks split) : StartSeen seen event entry := by
  unfold since at h
  obtain ⟨s, hs, rfl⟩ := List.mem_map.mp h
  obtain ⟨e, he, hfrom, htick⟩ := (hr.splits start s hne (Option.mem_toList.mp hs)).tick hstart
  exact ⟨_, mark, hphase, hmark, e, he, hfrom, by rw [htick]⟩

lemma startSeen_room_since (hr : Recorded seen r) {room start split : SplitType}
    {first : PhaseStart} {from_ mark : Event → Bool} {ticks : ℕ} {entry : SplitType × ℕ}
    (hroom : phaseOf room = some ⟨.room, .event mark⟩)
    (hne : start ≠ .tobEntrySotetsegP2) (hstart : phaseOf start = some ⟨first, .event from_⟩)
    (hphase : phaseOf split = some ⟨.after from_ ticks, .event mark⟩) (hmark : mark event)
    (h : entry ∈ (room, 0) :: since r.ctx start ticks split) : StartSeen seen event entry := by
  rcases List.mem_cons.mp h with rfl | h
  · exact startSeen_room hroom hmark
  · exact startSeen_since hr hne hstart hphase hmark h

lemma startSeen_crab (hr : Recorded seen r) {spawn : MaidenCrabSpawn} (hmark : isCrab spawn event)
    {entry : SplitType × ℕ} (h : entry ∈ crabSplits r.ctx spawn) : StartSeen seen event entry := by
  cases spawn with
  | seventies =>
    rw [List.mem_singleton.mp h]
    exact startSeen_room rfl hmark
  | fifties => exact startSeen_room_since hr rfl (by decide) rfl rfl hmark h
  | thirties => exact startSeen_room_since hr rfl (by decide) rfl rfl hmark h

lemma startSeen_xarpus (hr : Recorded seen r) {phase : XarpusPhase}
    (hmark : isXarpusPhase phase event) {entry : SplitType × ℕ}
    (h : entry ∈ xarpusSplits r.ctx phase) : StartSeen seen event entry := by
  cases phase with
  | p1 => cases h
  | p2 =>
    rw [List.mem_singleton.mp h]
    exact startSeen_room rfl hmark
  | p3 => exact startSeen_room_since hr rfl (by decide) rfl rfl hmark h

lemma startSeen_verzik (hr : Recorded seen r) {phase : VerzikPhase}
    (hmark : isVerzikPhase phase event) {entry : SplitType × ℕ}
    (h : entry ∈ verzikSplits r.ctx phase) : StartSeen seen event entry := by
  cases phase with
  | idle => cases h
  | p1 => cases h
  | p2 =>
    rw [List.mem_singleton.mp h]
    exact startSeen_room rfl hmark
  | p3 => exact startSeen_room_since hr rfl (by decide) rfl rfl hmark h

lemma startSeen_end (hr : Recorded seen r) {kind : Maze} (hmark : isMazeEnd kind event)
    {entry : SplitType × ℕ} (h : entry ∈ endSplits r.processor.sotetseg kind) :
    StartSeen seen event entry := by
  unfold endSplits at h
  obtain ⟨maze, hmaze, rfl⟩ := List.mem_map.mp h
  have hticks : seenTicks kind seen = some (maze.startTick, maze.endTick) := by
    rw [← hr.mazes, SotetsegState.ticks, Option.mem_toList.mp hmaze]
    rfl
  obtain ⟨e, he, hproc, hstart⟩ := (seenTicks_spec hticks).1
  cases kind with
  | maze66 => exact ⟨.after (isMazeProc .maze66) 0, _, rfl, hmark, e, he, hproc, hstart⟩
  | maze33 => exact ⟨.after (isMazeProc .maze33) 0, _, rfl, hmark, e, he, hproc, hstart⟩

/-- Apart from the second phase of Sotetseg, an event only records phases that have been seen to
start, and ends them. -/
lemma startSeen_of_mem (hr : Recorded seen r) {entry : SplitType × ℕ}
    (hne : entry.1 ≠ .tobEntrySotetsegP2) (h : entry ∈ eventSplits r event) :
    StartSeen seen event entry := by
  unfold eventSplits at h
  cases htype : event.type <;> rw [htype] at h <;> dsimp only at h
  case npcSpawn =>
    obtain ⟨npc, hnpc, h⟩ := List.mem_flatMap.mp h
    have hnpc := Option.mem_toList.mp hnpc
    rcases List.mem_append.mp h with h | h
    · unfold spawnTypeSplits at h
      split at h
      · next spawn scuffed hspawn =>
        refine startSeen_crab hr ?_ h
        simp [isCrab, htype, hnpc, hspawn]
      · cases h
    · unfold redSplits at h
      split_ifs at h with hred
      · rw [List.mem_singleton.mp h]
        refine startSeen_room rfl ?_
        simp [isRedSpawn, htype, hnpc, hred.1]
      · cases h
  case tobNyloWaveSpawn =>
    split_ifs at h with h20 h31
    · rw [List.mem_singleton.mp h]
      exact startSeen_room rfl (by simp [isWave, htype, h20])
    · rw [List.mem_singleton.mp h]
      exact startSeen_room rfl (by simp [isWave, htype, h31])
    · cases h
  case tobNyloCleanupEnd =>
    rw [List.mem_singleton.mp h]
    exact startSeen_room rfl (by simp [isCleanupEnd, htype])
  case tobNyloBossSpawn =>
    rw [List.mem_singleton.mp h]
    exact startSeen_room rfl (by simp [isBossSpawn, htype])
  case tobSoteMazeProc =>
    obtain ⟨path, hpath, h⟩ := List.mem_flatMap.mp h
    have hpath := Option.mem_toList.mp hpath
    have hproc : isMazeProc path.maze event := by simp [isMazeProc, htype, hpath]
    cases hkind : path.maze with
    | maze66 =>
      rw [hkind] at h hproc
      rw [List.mem_singleton.mp h]
      exact startSeen_room rfl hproc
    | maze33 =>
      rw [hkind] at h hproc
      rcases List.mem_cons.mp h with rfl | h
      · exact startSeen_room rfl hproc
      · obtain ⟨maze, -, rfl⟩ := List.mem_map.mp h
        exact absurd rfl hne
  case tobSoteMazeEnd =>
    obtain ⟨path, hpath, h⟩ := List.mem_flatMap.mp h
    have hpath := Option.mem_toList.mp hpath
    exact startSeen_end hr (by simp [isMazeEnd, htype, hpath]) h
  case tobXarpusPhase => exact startSeen_xarpus hr (by simp [isXarpusPhase, htype]) h
  case tobVerzikPhase => exact startSeen_verzik hr (by simp [isVerzikPhase, htype]) h
  all_goals cases h

lemma eq_of_mem_since {ctx : StageContext} {start split : SplitType} {ticks : ℕ}
    {entry : SplitType × ℕ} (h : entry ∈ since ctx start ticks split) : entry.1 = split := by
  obtain ⟨s, -, rfl⟩ := List.mem_map.mp h
  rfl

lemma p2_not_mem (h : isMazeProc .maze33 event = false) (start : ℕ) :
    (SplitType.tobEntrySotetsegP2, start) ∉ eventSplits r event := by
  intro hmem
  unfold eventSplits at hmem
  cases htype : event.type <;> rw [htype] at hmem <;> dsimp only at hmem
  case npcSpawn =>
    obtain ⟨npc, -, hmem⟩ := List.mem_flatMap.mp hmem
    rcases List.mem_append.mp hmem with hmem | hmem
    · unfold spawnTypeSplits at hmem
      split at hmem
      · next spawn _ _ =>
        cases spawn with
        | seventies => cases List.mem_singleton.mp hmem
        | _ =>
          rcases List.mem_cons.mp hmem with heq | hmem
          · cases heq
          · cases eq_of_mem_since hmem
      · cases hmem
    · unfold redSplits at hmem
      split_ifs at hmem
      · cases List.mem_singleton.mp hmem
      · cases hmem
  case tobNyloWaveSpawn =>
    split_ifs at hmem
    · cases List.mem_singleton.mp hmem
    · cases List.mem_singleton.mp hmem
    · cases hmem
  case tobNyloCleanupEnd => cases List.mem_singleton.mp hmem
  case tobNyloBossSpawn => cases List.mem_singleton.mp hmem
  case tobSoteMazeProc =>
    obtain ⟨path, hpath, hmem⟩ := List.mem_flatMap.mp hmem
    have hpath := Option.mem_toList.mp hpath
    cases hkind : path.maze with
    | maze66 =>
      rw [hkind] at hmem
      cases List.mem_singleton.mp hmem
    | maze33 => simp [isMazeProc, htype, hpath, hkind] at h
  case tobSoteMazeEnd =>
    obtain ⟨path, -, hmem⟩ := List.mem_flatMap.mp hmem
    obtain ⟨maze, -, heq⟩ := List.mem_map.mp hmem
    cases hkind : path.maze <;> rw [hkind] at heq <;> cases (Prod.mk.inj heq).1
  case tobXarpusPhase =>
    cases hphase : event.xarpusPhase <;> rw [hphase] at hmem
    · cases hmem
    · cases List.mem_singleton.mp hmem
    · rcases List.mem_cons.mp hmem with heq | hmem
      · cases heq
      · cases eq_of_mem_since hmem
  case tobVerzikPhase =>
    cases hphase : event.verzikPhase <;> rw [hphase] at hmem
    · cases hmem
    · cases hmem
    · cases List.mem_singleton.mp hmem
    · rcases List.mem_cons.mp hmem with heq | hmem
      · cases heq
      · cases eq_of_mem_since hmem
  all_goals cases hmem

lemma eventSplits_of_proc (h : isMazeProc .maze33 event) : eventSplits r event =
    (.tobEntrySotetseg33, 0) :: (r.processor.sotetseg.ticks .maze66).toList.map fun ticks =>
      (.tobEntrySotetsegP2, ticks.2) := by
  obtain ⟨htype, hany⟩ := of_decide_eq_true h
  unfold eventSplits SotetsegState.ticks
  rw [htype]
  dsimp only
  cases hpath : event.soteMaze with
  | none => simp [hpath] at hany
  | some path =>
    have hkind : path.maze = .maze33 := by simpa [hpath] using hany
    cases hmaze : r.processor.sotetseg.maze1 <;>
    · simp [hkind, procSplits, SotetsegState.maze, hmaze]

lemma stageSplit_p2 (hr : Recorded seen r) :
    (setSplits event.tick false r.ctx (eventSplits r event)).stageSplit .tobEntrySotetsegP2 =
      nextP2 seen (seenP2 seen) event := by
  unfold nextP2
  split_ifs with hproc
  · rw [eventSplits_of_proc hproc, hr.mazes]
    have hne : SplitType.tobEntrySotetsegP2 ≠ .tobEntrySotetseg33 := by decide
    cases seenTicks .maze66 seen with
    | none =>
      simp [setSplits, StageContext.stageSplit_setStageSplit, hne, hr.p2]
    | some ticks =>
      simp [setSplits, StageContext.stageSplit_setStageSplit, hne, hr.p2]
  · rw [stageSplit_setSplits_of_not_mem (p2_not_mem (by simpa using hproc)), hr.p2]

/-- An event that is gone through keeps the description of the splits and the mazes, in which it
may stand as it was merged. -/
lemma Recorded.processed {world : World} {r' : Run} {keep : Bool} {e : Event}
    (hr : Recorded seen r) (h : processChallengeEvent world r event = .ok (r', keep))
    (hbase : event.base = e.base) : Recorded (seen ++ [e]) r' := by
  have htick : event.tick = e.tick :=
    (congrArg Event.tick hbase : event.base.tick = e.base.tick)
  have heq : eventSplits r event = eventSplits r e :=
    (congrArg (eventSplits r) hbase : eventSplits r event.base = eventSplits r e.base)
  have hnext : ∀ kind ticks, nextTicks kind ticks event = nextTicks kind ticks e :=
    fun kind ticks => (congrArg (nextTicks kind ticks) hbase :
      nextTicks kind ticks event.base = nextTicks kind ticks e.base)
  have hsplits : ∀ split, r'.ctx.stageSplit split =
      (setSplits e.tick false r.ctx (eventSplits r e)).stageSplit split := by
    intro split
    unfold StageContext.stageSplit
    rw [stageSplits_processChallengeEvent h, htick, heq]
  refine ⟨fun kind => ?_, ?_, fun split s hne hs => ?_⟩
  · rw [seenTicks_append, ticks_processChallengeEvent h, hr.mazes, hnext]
  · rw [hsplits, stageSplit_p2 hr, seenP2_append]
  · rw [hsplits] at hs
    rcases stageSplit_setSplits hs with hs | ⟨start, hmem, rfl⟩
    · exact (hr.splits split s hne hs).append [e]
    · obtain ⟨first, mark, hphase, hmark, hstart⟩ := startSeen_of_mem hr hne hmem
      exact ⟨first, mark, hphase, seen, e, [], rfl, hmark, rfl, rfl, hstart⟩

end

lemma stageSplits_trackEvent (slots : Slots) (ctx : StageContext) (event : Event) :
    (trackEvent slots ctx event).stageSplits = ctx.stageSplits := by
  unfold trackEvent
  split
  · rfl
  · unfold StageContext.recordDeath
    split_ifs <;> rfl
  · rfl

section

variable {world : World} {p : TheatreProcessor} {ctx : StageContext} {events : List Event}
  {r r' : Run} {places : List ℕ} {index : ℕ}

lemma Recorded.step (hkept : Kept p ctx events r) (hr : Recorded (handledAt events places) r)
    (h : step world r index = .ok r') : Recorded (handledAt events (places ++ [index])) r' := by
  obtain ⟨event, hevent, hcases⟩ := step_cases h
  obtain ⟨e, he, hbase⟩ := hkept.event hevent
  have hskip : isSkipped event = isSkipped e :=
    (congrArg isSkipped hbase : isSkipped event.base = isSkipped e.base)
  rw [handledAt_append he, ← hskip]
  obtain ⟨hskipped, rfl⟩ | ⟨hskipped, handled, keep, hhandled, rfl⟩ := hcases
  · rw [if_pos hskipped, List.append_nil]
    exact hr
  · rw [if_neg (by simp [hskipped])]
    have htracked : Recorded (handledAt events places) (r.tracked world event) := by
      have hsplit : ∀ split, (r.tracked world event).ctx.stageSplit split =
          r.ctx.stageSplit split := by
        intro split
        unfold StageContext.stageSplit Run.tracked
        rw [stageSplits_trackEvent]
      exact ⟨hr.mazes, by rw [hsplit, hr.p2],
        fun split s hne hs => hr.splits split s hne (by rwa [hsplit] at hs)⟩
    obtain ⟨hmazes, hp2, hsplits⟩ := htracked.processed hhandled hbase
    exact ⟨hmazes, hp2, hsplits⟩

lemma recorded_interpret {challenge : ChallengeInfo} {customData : Option CustomData}
    {stage : Stage} {party : List String}
    (h : interpret world (.new challenge customData) (.new stage party) events = .ok r) :
    Recorded (handled events) r := by
  have hinv := interpret_inv (P := fun places r =>
    Kept (.new challenge customData) (.new stage party) events r ∧
      Recorded (handledAt events places) r)
    (fun places index r r' hr hstep => ⟨hr.1.step hstep, hr.2.step hr.1 hstep⟩) ?_ h
  · rw [← handledAt_range]
    exact hinv.2
  · refine ⟨⟨rfl, rfl, rfl, rfl, rfl, rfl⟩, fun kind => ?_, rfl, fun split s _ hs => ?_⟩
    · cases kind <;> rfl
    · cases hs

end

/-! ### Splits of the finish -/

section

variable {inputs : FinishInputs} {p : TheatreProcessor} {ctx ctx' : StageContext}
  {room : RoomData} {deaths : ℤ}

/-- The splits that last from another one, or from the end of the second maze, to the end of the
stage. -/
def lastSplits (stage : Stage) (s : SotetsegState) (ctx : StageContext) : List (SplitType × ℕ) :=
  if stage = .tobMaiden then since ctx .tobEntryMaiden30s 0 .tobEntryMaiden30sEnd
  else if stage = .tobNylocas then since ctx .tobEntryNyloBossSpawn 0 .tobEntryNyloBoss
  else if stage = .tobSotetseg then
    ((s.ticks .maze33).toList.filter (0 < ·.2)).map fun ticks => (.tobEntrySotetsegP3, ticks.2)
  else if stage = .tobXarpus then since ctx .tobEntryXarpusScreech 0 .tobEntryXarpusP3
  else if stage = .tobVerzik then
    since ctx .tobEntryVerzikP2End VERZIK_P2_TRANSITION_TICKS .tobEntryVerzikP3
  else []

lemma lastSplit_eq (split start : SplitType) : lastSplit inputs ctx split start =
    setSplits inputs.events.lastTick true ctx (since ctx start 0 split) := by
  unfold lastSplit since
  cases ctx.stageSplit start <;> rfl

lemma finishRoom_splits {finish : RoomFinish}
    (h : finishRoom inputs p ctx room deaths = .ok finish) :
    finish.ctx = setSplits inputs.events.lastTick true ctx
      (lastSplits inputs.stage p.sotetseg ctx) := by
  unfold finishRoom at h
  unfold lastSplits
  split_ifs at h with h1 h2 h3 h4 h5 h6
  · rw [if_pos h1, ← lastSplit_eq]
    cases h
    rfl
  · have hne : Stage.tobBloat ≠ .tobMaiden ∧ Stage.tobBloat ≠ .tobNylocas ∧
        Stage.tobBloat ≠ .tobSotetseg ∧ Stage.tobBloat ≠ .tobXarpus ∧
        Stage.tobBloat ≠ .tobVerzik := by decide
    rw [h2, if_neg hne.1, if_neg hne.2.1, if_neg hne.2.2.1, if_neg hne.2.2.2.1,
      if_neg hne.2.2.2.2]
    obtain ⟨_, -, h⟩ := bind_eq_ok.1 h
    obtain ⟨_, -, h⟩ := bind_eq_ok.1 h
    cases h
    rfl
  · rw [if_neg h1, if_pos h3, ← lastSplit_eq]
    obtain ⟨_, -, h⟩ := bind_eq_ok.1 h
    cases h
    rfl
  · rw [if_neg h1, if_neg h3, if_pos h4]
    unfold finishSotetseg at h
    unfold SotetsegState.ticks SotetsegState.maze
    dsimp only at h ⊢
    cases hmaze : p.sotetseg.maze2 with
    | none =>
      rw [hmaze] at h
      cases h
      rfl
    | some maze =>
      rw [hmaze] at h
      cases h
      dsimp only
      unfold finishMaze2
      split_ifs with hend
      · simp [setSplits, hend]
      · simp [setSplits, hend]
  · rw [if_neg h1, if_neg h3, if_neg h4, if_pos h5, ← lastSplit_eq]
    cases h
    rfl
  · rw [if_neg h1, if_neg h3, if_neg h4, if_neg h5, if_pos h6]
    obtain ⟨ctx₁, hctx, h⟩ := bind_eq_ok.1 h
    obtain ⟨_, -, h⟩ := bind_eq_ok.1 h
    cases h
    unfold recordVerzikP3 at hctx
    unfold since
    cases hp2 : ctx.stageSplit .tobEntryVerzikP2End with
    | none =>
      rw [hp2] at hctx
      cases hctx
      rfl
    | some p2End =>
      rw [hp2] at hctx
      obtain ⟨start, hstart, hctx⟩ := bind_eq_ok.1 hctx
      obtain ⟨-, rfl⟩ := u32_eq_ok.1 hstart
      cases hctx
      rfl

def finishSplits (stage : Stage) (s : SotetsegState) (ctx : StageContext) :
    List (SplitType × ℕ) :=
  lastSplits stage s ctx ++
    match roomSplit stage with
    | .ok split => [(split, 0)]
    | .error _ => []

lemma stageSplits_recordNextEntry (h : recordNextEntry inputs p ctx = .ok ctx') :
    ctx'.stageSplits = ctx.stageSplits := by
  unfold recordNextEntry at h
  split at h
  · split_ifs at h
    · obtain ⟨_, -, h⟩ := bind_eq_ok.1 h
      cases h
      rfl
    · cases h
      rfl
  · cases h
    rfl

/-- The splits of a stage that is finished: those of the loop, of which only the last ones are
still to be recorded. -/
lemma onStageFinished_splits {finished : Finished}
    (h : onStageFinished inputs p ctx = .ok finished) :
    finished.ctx.stageSplit .tobEntrySotetsegP2 = ctx.stageSplit .tobEntrySotetsegP2 ∧
      ∀ split s, finished.ctx.stageSplit split = some s → ctx.stageSplit split = some s ∨
        ∃ start, (split, start) ∈ finishSplits inputs.stage p.sotetseg ctx ∧
          s = ⟨inputs.events.lastTick, start, true⟩ := by
  unfold onStageFinished at h
  obtain ⟨ctx₁, hctx₁, h⟩ := bind_eq_ok.1 h
  obtain ⟨dead, -, h⟩ := bind_eq_ok.1 h
  obtain ⟨deaths, -, h⟩ := bind_eq_ok.1 h
  obtain ⟨finish, hfinish, h⟩ := bind_eq_ok.1 h
  obtain ⟨room, hroom, h⟩ := bind_eq_ok.1 h
  obtain ⟨ctx₂, hctx₂, h⟩ := bind_eq_ok.1 h
  cases h
  have hsplit₁ : ∀ split, ctx₁.stageSplit split = ctx.stageSplit split := by
    intro split
    unfold StageContext.stageSplit
    rw [(countChinValues_eq_ok hctx₁).2.1]
  have hlast : lastSplits inputs.stage p.sotetseg ctx₁ =
      lastSplits inputs.stage p.sotetseg ctx := by
    unfold lastSplits since
    simp only [hsplit₁]
  have hfinal : ∀ split, ctx₂.stageSplit split = (setSplits inputs.events.lastTick true ctx₁
      (finishSplits inputs.stage p.sotetseg ctx)).stageSplit split := by
    intro split
    have heq := finishRoom_splits hfinish
    dsimp only at heq
    unfold finishSplits StageContext.stageSplit
    rw [stageSplits_recordNextEntry hctx₂, hroom, setSplits_append, ← hlast, ← heq]
    rfl
  dsimp only
  constructor
  · rw [hfinal, stageSplit_setSplits_of_not_mem, hsplit₁]
    intro start hmem
    unfold finishSplits at hmem
    rw [hroom] at hmem
    rcases List.mem_append.mp hmem with hmem | hmem
    · unfold lastSplits at hmem
      split_ifs at hmem
      · cases eq_of_mem_since hmem
      · cases eq_of_mem_since hmem
      · obtain ⟨ticks, -, heq⟩ := List.mem_map.mp hmem
        cases (Prod.mk.inj heq).1
      · cases eq_of_mem_since hmem
      · cases eq_of_mem_since hmem
      · cases hmem
    · have heq := (Prod.mk.inj (List.mem_singleton.mp hmem)).1
      subst heq
      unfold roomSplit at hroom
      split_ifs at hroom <;> cases hroom
  · intro split s hs
    rw [hfinal] at hs
    rw [← hsplit₁]
    exact stageSplit_setSplits hs

end

section

variable {inputs : FinishInputs} {r : Run} {seen : List Event}

lemma measures_since (hr : Recorded seen r) {start split split' : SplitType} {first : PhaseStart}
    {mark : Event → Bool} {ticks lastTick tick : ℕ} (hne : start ≠ .tobEntrySotetsegP2)
    (hstart : phaseOf start = some ⟨first, .event mark⟩)
    (hphase : phaseOf split = some ⟨.after mark ticks, .stage⟩)
    (h : (split', tick) ∈ since r.ctx start ticks split) :
    Measures seen lastTick split' ⟨lastTick, tick, true⟩ := by
  obtain ⟨s, hs, heq⟩ := List.mem_map.mp h
  obtain ⟨rfl, rfl⟩ := Prod.mk.inj heq
  obtain ⟨e, he, hmark, htick⟩ := (hr.splits start s hne (Option.mem_toList.mp hs)).tick hstart
  exact ⟨_, hphase, rfl, rfl, e, he, hmark, by rw [htick]⟩

lemma measures_finishSplits (hr : Recorded seen r) {stage : Stage} {split : SplitType}
    {lastTick tick : ℕ}
    (h : (split, tick) ∈ finishSplits stage r.processor.sotetseg r.ctx) :
    Measures seen lastTick split ⟨lastTick, tick, true⟩ := by
  unfold finishSplits at h
  rcases List.mem_append.mp h with h | h
  · unfold lastSplits at h
    split_ifs at h
    · exact measures_since hr (by decide) rfl rfl h
    · exact measures_since hr (by decide) rfl rfl h
    · obtain ⟨⟨start, finish⟩, hticks, heq⟩ := List.mem_map.mp h
      obtain ⟨rfl, rfl⟩ := Prod.mk.inj heq
      obtain ⟨hticks, hpos⟩ := List.mem_filter.mp hticks
      have hpos : 0 < finish := of_decide_eq_true hpos
      rw [hr.mazes] at hticks
      obtain ⟨-, hfinish⟩ := seenTicks_spec (Option.mem_toList.mp hticks)
      rcases hfinish with rfl | ⟨e, he, hend, hfinish⟩
      · exact absurd hpos (lt_irrefl 0)
      · exact ⟨⟨.after (isMazeEnd .maze33) 0, .stage⟩, rfl, rfl, rfl, e, he, hend, hfinish⟩
    · exact measures_since hr (by decide) rfl rfl h
    · exact measures_since hr (by decide) rfl rfl h
    · cases h
  · unfold roomSplit at h
    split_ifs at h
    all_goals
      first
        | cases h; done
        | (obtain ⟨rfl, rfl⟩ := Prod.mk.inj (List.mem_singleton.mp h)
           exact ⟨⟨.room, .stage⟩, rfl, rfl, rfl, rfl⟩)

end

/-! ### The law of splits -/

/-- When the last event that ends the second phase is met, the first maze has been seen to end
since it started, or to end at the very start of the room. -/
def FirstMazeEnds (events : List Event) : Prop :=
  ∀ before e later, events = before ++ e :: later → EndsP2 before e → LastP2 before e later →
    (∃ y ∈ sinceProc before, isMazeEnd .maze66 y) ∨
      ∃ y ∈ before, isMazeEnd .maze66 y ∧ y.tick = 0

lemma measures_p2_iff {events : List Event} (hsorted : events.Pairwise (·.tick ≤ ·.tick))
    (lastTick : ℕ) : (∀ s, seenP2 events = some s →
      Measures events lastTick .tobEntrySotetsegP2 s) ↔ FirstMazeEnds events := by
  constructor
  · rintro h before e later rfl hends hlast
    obtain ⟨hbefore, hrest, hcross⟩ := List.pairwise_append.mp hsorted
    obtain ⟨-, start, finish, hticks, hlt⟩ := (endsP2_iff hbefore).mp hends
    have hp2 := h _ ((seenP2_eq_some hsorted).mpr
      ⟨before, e, later, start, finish, rfl, hends, hlast, hticks, rfl⟩)
    rcases seenTicks_sinceProc hbefore hticks with ⟨hnone, rfl⟩ | ⟨y, hy, hend, -⟩
    · obtain ⟨phase, hphase, hseen⟩ := hp2
      obtain rfl : ⟨.after (isMazeEnd .maze66) 0, .event (isMazeProc .maze33)⟩ = phase :=
        Option.some.inj hphase
      obtain ⟨before', e', later', heq, -, -, -, y, hy, hend, htick⟩ := hseen
      have hzero : y.tick = 0 := htick.symm
      refine .inr ⟨y, ?_, hend, hzero⟩
      have hmem : y ∈ before ++ e :: later := by
        rw [heq]
        exact List.mem_append_left _ hy
      rcases List.mem_append.mp hmem with hmem | hmem
      · exact hmem
      · have hpos := hends.2.2.1
        have hle : e.tick ≤ y.tick := by
          rcases List.mem_cons.mp hmem with rfl | hmem
          · exact le_rfl
          · exact (List.pairwise_cons.mp hrest).1 y hmem
        omega
    · exact .inl ⟨y, hy, hend⟩
  · intro h s hs
    obtain ⟨before, e, later, start, finish, rfl, hends, hlast, hticks, rfl⟩ :=
      (seenP2_eq_some hsorted).mp hs
    obtain ⟨hbefore, -, -⟩ := List.pairwise_append.mp hsorted
    have hmark : ∃ y ∈ before, isMazeEnd .maze66 y ∧ finish = y.tick := by
      rcases seenTicks_sinceProc hbefore hticks with ⟨hnone, rfl⟩ | ⟨y, hy, hend, htick, -⟩
      · rcases h before e later rfl hends hlast with ⟨y, hy, hend⟩ | ⟨y, hy, hend, htick⟩
        · rw [hnone y hy] at hend
          cases hend
        · exact ⟨y, hy, hend, htick.symm⟩
      · exact ⟨y, mem_of_mem_sinceProc hy, hend, htick⟩
    obtain ⟨y, hy, hend, htick⟩ := hmark
    exact ⟨⟨.after (isMazeEnd .maze66) 0, .event (isMazeProc .maze33)⟩, rfl, before, e, later, rfl,
      hends.1, rfl, rfl, y, hy, hend, htick⟩

/-- **Every split measures a phase that was seen**, exactly if the first maze of Sotetseg is seen
to end. -/
theorem measures_iff (world : World) (inputs : FinishInputs) (challenge : ChallengeInfo)
    (customData : Option CustomData) (events : List Event) (finished : Finished)
    (hsorted : events.Pairwise (·.tick ≤ ·.tick))
    (h : processStage world inputs (.new challenge customData) events = .ok finished) :
    (∀ split s, finished.ctx.stageSplit split = some s →
      Measures (handled events) inputs.events.lastTick split s) ↔
      FirstMazeEnds (handled events) := by
  obtain ⟨r, hr, hfinish⟩ := bind_eq_ok.1 h
  have hrecorded := recorded_interpret hr
  obtain ⟨hp2, hsplits⟩ := onStageFinished_splits hfinish
  have hhandled : (handled events).Pairwise (·.tick ≤ ·.tick) := hsorted.filter _
  rw [← measures_p2_iff hhandled inputs.events.lastTick, ← hrecorded.p2, ← hp2]
  constructor
  · exact fun h s hs => h _ s hs
  · intro hmeasures split s hs
    by_cases hsplit : split = .tobEntrySotetsegP2
    · subst hsplit
      exact hmeasures s hs
    · rcases hsplits split s hs with hs | ⟨start, hmem, rfl⟩
      · obtain ⟨start, mark, hphase, hseen⟩ := hrecorded.splits split s hsplit hs
        exact ⟨⟨start, .event mark⟩, hphase, hseen⟩
      · exact measures_finishSplits hrecorded hmem

/-! ### A maze that is not seen to end -/

section Sotetseg

def soteWorld : World := .linear ⟨⟨0, by decide⟩, ⟨5, by decide⟩⟩

def soteChallenge : ChallengeInfo :=
  { uuid := 1, sessionUuid := 2, challengeType := .tob, mode := .tobRegular
    party := ["1Ogp", "WWWWWWWWWWQQ"], partyChanged := false, stage := .tobSotetseg
    stageAttempt := none, status := .inProgress, createdUnixMs := 0, finishedUnixMs := none
    reportedTimes := none }

lemma soteTick_lt : 90 < 2 ^ 32 := by decide

def soteInputs : FinishInputs :=
  { prices := fun _ => none, challengeTicks := 300, stage := .tobSotetseg
    events := { lastTick := 90, missingTickCount := 0, preciseServerTickCount := true
                accurateUntil := 91, queryableUntil := 91, status := .completed
                lastTick_lt := soteTick_lt }
    handsWanted := true }

def mazeEvent (type : Merging.EventType) (tick : ℕ) (maze : Maze) : Event :=
  { type, stage := .tobSotetseg, tick, soteMaze := some { maze } }

/-- The splits of a stage whose first maze is seen to start and end, and is followed by the
second one. -/
theorem measures_iff_sote : ∃ finished, processStage soteWorld soteInputs
      (.new soteChallenge none) [mazeEvent .tobSoteMazeProc 20 .maze66,
        mazeEvent .tobSoteMazeEnd 40 .maze66, mazeEvent .tobSoteMazeProc 60 .maze33] =
      .ok finished ∧
    ((∀ split s, finished.ctx.stageSplit split = some s →
      Measures (handled [mazeEvent .tobSoteMazeProc 20 .maze66,
        mazeEvent .tobSoteMazeEnd 40 .maze66, mazeEvent .tobSoteMazeProc 60 .maze33]) 90 split s) ↔
      FirstMazeEnds (handled [mazeEvent .tobSoteMazeProc 20 .maze66,
        mazeEvent .tobSoteMazeEnd 40 .maze66, mazeEvent .tobSoteMazeProc 60 .maze33])) :=
  ⟨_, rfl, measures_iff soteWorld soteInputs soteChallenge none _ _ (by decide) rfl⟩

/-- Where the end of the first maze is missing, the second phase is said to have started with the
room. -/
theorem not_measures_sote : ¬∀ (world : World) (inputs : FinishInputs) (challenge : ChallengeInfo)
    (customData : Option CustomData) (events : List Event) (finished : Finished),
    events.Pairwise (·.tick ≤ ·.tick) →
    processStage world inputs (.new challenge customData) events = .ok finished →
    ∀ split s, finished.ctx.stageSplit split = some s →
      Measures (handled events) inputs.events.lastTick split s := by
  intro h
  obtain ⟨phase, hphase, hseen⟩ := h soteWorld soteInputs soteChallenge none
    [mazeEvent .tobSoteMazeProc 20 .maze66, mazeEvent .tobSoteMazeProc 60 .maze33] _ (by decide)
    rfl .tobEntrySotetsegP2 ⟨60, 0, false⟩ rfl
  obtain rfl : ⟨.after (isMazeEnd .maze66) 0, .event (isMazeProc .maze33)⟩ = phase :=
    Option.some.inj hphase
  obtain ⟨before, e, later, heq, -, -, -, y, hy, hend, -⟩ := hseen
  have hmem : y ∈ handled [mazeEvent .tobSoteMazeProc 20 .maze66,
      mazeEvent .tobSoteMazeProc 60 .maze33] := by
    rw [heq]
    exact List.mem_append_left _ hy
  have hnone : ∀ y ∈ handled [mazeEvent .tobSoteMazeProc 20 .maze66,
      mazeEvent .tobSoteMazeProc 60 .maze33], isMazeEnd .maze66 y = false := by decide
  rw [hnone y hmem] at hend
  cases hend

end Sotetseg

end Blert.Theatre

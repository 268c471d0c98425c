import Blert.Timeline.Event

/-!
The correction of a Nylocas room.

A client may lose an NPC for a moment and record that it died and spawned again. A correction of
the client's events looks for a death that a spawn of the same NPC follows: the spawn becomes an
update, and so does the death if the NPC's place on its tick is certain. Other such deaths are
dropped.
-/

namespace Blert.Timeline.NylocasCorrection

open Merging (EventType Coords)

/-! ### Events of an NPC -/

def roomIdOf (event : Event) : Option ℕ := event.npc.map (·.roomId)

def spawns (roomId : ℕ) (event : Event) : Bool :=
  event.type = .npcSpawn && roomIdOf event = some roomId

def dies (roomId : ℕ) (event : Event) : Bool :=
  event.type = .npcDeath && roomIdOf event = some roomId

/-- An event with its place in the list, which tells it apart. -/
abbrev Entry := Event × ℕ

/-! ### What the events say -/

structure Scan where
  /-- The spawns and deaths of each NPC. -/
  lifecycleById : InsertionMap ℕ (List Entry)
  /-- Ticks where a player moved more than 2 tiles, signalling lost ticks. -/
  laggedTicks : List ℕ
  lastPlayer : InsertionMap String (ℕ × Coords)

def chebyshev (a b : Coords) : ℤ := max |a.x - b.x| |a.y - b.y|

/-- Reads one event, whose payload has to be there. -/
def Scan.read (s : Scan) (entry : Entry) : Option Scan :=
  let event := entry.1
  if event.type = .npcSpawn ∨ event.type = .npcDeath then
    event.npc.map fun npc =>
      { s with lifecycleById := s.lifecycleById.push npc.roomId entry }
  else if event.type = .playerUpdate then
    event.player.map fun player =>
      let position := ⟨event.xCoord, event.yCoord⟩
      let lagged := (s.lastPlayer.get player.name).any fun (tick, last) =>
        chebyshev position last > 2 * (event.tick - tick : ℤ)
      { s with
        laggedTicks := if lagged then event.tick :: s.laggedTicks else s.laggedTicks
        lastPlayer := s.lastPlayer.set player.name (event.tick, position) }
  else some s

def scan (entries : List Entry) : Option Scan := entries.foldlM Scan.read ⟨∅, [], ∅⟩

/-! ### What is corrected -/

/-- Events to correct, each set in the order in which it was filled. -/
structure Marks where
  respawns : List Entry
  interpolatedDeaths : List (Entry × Coords)
  droppedDeaths : List Entry

/-- The tile between a death and a respawn on the tick after it, if they are a straight line of
two tiles apart and no ticks are lost. -/
def midpoint (laggedTicks : List ℕ) (death respawn : Event) : Option Coords :=
  let dx := respawn.xCoord - death.xCoord
  let dy := respawn.yCoord - death.yCoord
  let consecutive := respawn.tick = death.tick + 1
  let unambiguous := dx % 2 = 0 ∧ dy % 2 = 0 ∧ |dx| ≤ 2 ∧ |dy| ≤ 2 ∧ (dx ≠ 0 ∨ dy ≠ 0)
  let lagFree := death.tick ∉ laggedTicks ∧ respawn.tick ∉ laggedTicks
  if consecutive ∧ unambiguous ∧ lagFree then
    some ⟨death.xCoord + dx / 2, death.yCoord + dy / 2⟩
  else none

/-- Marks a death, given what comes after it in the life cycle. -/
def Marks.mark (laggedTicks : List ℕ) (m : Marks) (death : Entry) (later : List Entry) : Marks :=
  if death.1.type ≠ .npcDeath then m
  else
    match later.find? (·.1.type = .npcSpawn) with
    | none => m
    | some respawn =>
      let m :=
        { m with respawns := if respawn ∈ m.respawns then m.respawns else m.respawns ++ [respawn] }
      match midpoint laggedTicks death.1 respawn.1 with
      | some tile => { m with interpolatedDeaths := m.interpolatedDeaths ++ [(death, tile)] }
      | none => { m with droppedDeaths := m.droppedDeaths ++ [death] }

def Marks.markLifecycle (laggedTicks : List ℕ) : Marks → List Entry → Marks
  | m, [] => m
  | m, death :: later => markLifecycle laggedTicks (m.mark laggedTicks death later) later

def Scan.marks (s : Scan) : Marks :=
  s.lifecycleById.values.foldl (Marks.markLifecycle s.laggedTicks) ⟨[], [], []⟩

inductive Action
  | rewriteSpawn | rewriteDeath | dropDeath
  deriving DecidableEq

structure Applied where
  action : Action
  tick : ℕ
  roomId : Option ℕ
  deriving DecidableEq

def Marks.applied (m : Marks) : List Applied :=
  m.respawns.map (fun e => ⟨.rewriteSpawn, e.1.tick, roomIdOf e.1⟩) ++
    m.interpolatedDeaths.map (fun e => ⟨.rewriteDeath, e.1.1.tick, roomIdOf e.1.1⟩) ++
    m.droppedDeaths.map fun e => ⟨.dropDeath, e.1.tick, roomIdOf e.1⟩

/-- The event that is left of one that is not dropped. -/
def Marks.rewrite (m : Marks) (entry : Entry) : Event :=
  let event := if entry ∈ m.respawns then { entry.1 with type := .npcUpdate } else entry.1
  match m.interpolatedDeaths.find? (·.1 = entry) with
  | some (_, tile) => { event with type := .npcUpdate, xCoord := tile.x, yCoord := tile.y }
  | none => event

/-- Corrects a client's events. Nothing is returned where a payload is missing, which throws. -/
def tryApplyOsrs238NylocasCorrection (events : List Event) :
    Option (List Event × Option (List Applied)) := do
  let s ← scan events.zipIdx
  let m := s.marks
  if m.respawns = [] then some (events, none)
  else some ((events.zipIdx.filter (· ∉ m.droppedDeaths)).map m.rewrite, some m.applied)

/-! ### A corrected list -/

/-- The NPC spawns although the last that was recorded of it is its death. -/
def Respawn (before : List Event) (e : Event) : Prop :=
  ∃ roomId, spawns roomId e ∧ ∃ earlier death between, before = earlier ++ death :: between ∧
    dies roomId death ∧ ∀ x ∈ between, ¬spawns roomId x

/-- The NPC dies although it spawns later on. -/
def SpuriousDeath (e : Event) (after : List Event) : Prop :=
  ∃ roomId, dies roomId e ∧ ∃ x ∈ after, spawns roomId x

/-- What is left of events that come after others. -/
inductive Corrects (laggedTicks : List ℕ) : List Event → List Event → List Event → Prop
  | nil {before : List Event} : Corrects laggedTicks before [] []
  | keep {before after corrected : List Event} {e : Event} (hspawn : ¬Respawn before e)
      (hdeath : ¬SpuriousDeath e after)
      (hrest : Corrects laggedTicks (before ++ [e]) after corrected) :
      Corrects laggedTicks before (e :: after) (e :: corrected)
  | rewriteSpawn {before after corrected : List Event} {e : Event} (hspawn : Respawn before e)
      (hrest : Corrects laggedTicks (before ++ [e]) after corrected) :
      Corrects laggedTicks before (e :: after) ({ e with type := .npcUpdate } :: corrected)
  | rewriteDeath {before after corrected : List Event} {e respawn : Event} {roomId : ℕ}
      {tile : Coords} (hdies : dies roomId e) (hnext : after.find? (spawns roomId) = some respawn)
      (htile : midpoint laggedTicks e respawn = some tile)
      (hrest : Corrects laggedTicks (before ++ [e]) after corrected) :
      Corrects laggedTicks before (e :: after)
        ({ e with type := .npcUpdate, xCoord := tile.x, yCoord := tile.y } :: corrected)
  | dropDeath {before after corrected : List Event} {e respawn : Event} {roomId : ℕ}
      (hdies : dies roomId e) (hnext : after.find? (spawns roomId) = some respawn)
      (htile : midpoint laggedTicks e respawn = none)
      (hrest : Corrects laggedTicks (before ++ [e]) after corrected) :
      Corrects laggedTicks before (e :: after) corrected

/-- The deaths of an NPC that it does not spawn after. -/
def terminalDeaths (roomId : ℕ) : List Event → List Event
  | [] => []
  | e :: after =>
    if dies roomId e && !after.any (spawns roomId) then e :: terminalDeaths roomId after
    else terminalDeaths roomId after

section Corrects

variable {laggedTicks : List ℕ} {before after corrected : List Event} {e : Event} {roomId : ℕ}

lemma spawns_iff : spawns roomId e = true ↔ e.type = .npcSpawn ∧ roomIdOf e = some roomId := by
  simp [spawns]

lemma dies_iff : dies roomId e = true ↔ e.type = .npcDeath ∧ roomIdOf e = some roomId := by
  simp [dies]

lemma spurious {respawn : Event} {roomId' : ℕ} (hdies : dies roomId' e)
    (hnext : after.find? (spawns roomId') = some respawn) :
    (dies roomId e && !after.any (spawns roomId)) = false := by
  by_cases hself : dies roomId e
  · have hroom := (dies_iff.1 hself).2.symm.trans (dies_iff.1 hdies).2
    rw [← Option.some.inj hroom] at hnext
    have hany : after.any (spawns roomId) = true :=
      List.any_eq_true.mpr ⟨respawn, List.mem_of_find?_eq_some hnext, List.find?_some hnext⟩
    simp [hany]
  · simp [hself]

lemma Corrects.original (h : Corrects laggedTicks before after corrected) (he : e ∈ corrected)
    (htype : e.type = .npcSpawn ∨ e.type = .npcDeath) : e ∈ after := by
  induction h with
  | nil => exact he
  | keep hspawn hdeath hrest ih =>
    rcases List.mem_cons.mp he with rfl | he
    · exact List.mem_cons_self
    · exact List.mem_cons_of_mem _ (ih he)
  | rewriteSpawn hspawn hrest ih | rewriteDeath hdies hnext htile hrest ih =>
    rcases List.mem_cons.mp he with rfl | he
    · simp at htype
    · exact List.mem_cons_of_mem _ (ih he)
  | dropDeath hdies hnext htile hrest ih => exact List.mem_cons_of_mem _ (ih he)

lemma Corrects.pairwise (h : Corrects laggedTicks before after corrected) :
    corrected.Pairwise fun a b => ∀ roomId, dies roomId a → ¬spawns roomId b := by
  induction h with
  | nil => exact List.Pairwise.nil
  | keep hspawn hdeath hrest ih =>
    refine List.pairwise_cons.mpr ⟨fun b hb roomId hdies hspawns => ?_, ih⟩
    have hafter := hrest.original hb (.inl (spawns_iff.1 hspawns).1)
    exact hdeath ⟨roomId, hdies, b, hafter, hspawns⟩
  | rewriteSpawn hspawn hrest ih | rewriteDeath hdies hnext htile hrest ih =>
    exact List.pairwise_cons.mpr ⟨fun b _ roomId hdies => by simp [dies] at hdies, ih⟩
  | dropDeath hdies hnext htile hrest ih => exact ih

lemma Corrects.filter_dies (h : Corrects laggedTicks before after corrected) (roomId : ℕ) :
    corrected.filter (dies roomId) = terminalDeaths roomId after := by
  induction h with
  | nil => rfl
  | @keep before after corrected e hspawn hdeath hrest ih =>
    rw [List.filter_cons, terminalDeaths, ih]
    by_cases hdies : dies roomId e
    · have hnone : after.any (spawns roomId) = false := by
        refine List.any_eq_false.mpr fun x hx hspawns => hdeath ⟨roomId, hdies, x, hx, hspawns⟩
      simp [hdies, hnone]
    · simp [hdies]
  | @rewriteSpawn before after corrected e hspawn hrest ih =>
    obtain ⟨roomId', hspawns, -⟩ := hspawn
    have hdies : dies roomId e = false := by simp [dies, (spawns_iff.1 hspawns).1]
    rw [List.filter_cons_of_neg (by simp [dies]), terminalDeaths, hdies, ih]
    rfl
  | @rewriteDeath before after corrected e respawn roomId' tile hdies hnext htile hrest ih =>
    rw [List.filter_cons_of_neg (by simp [dies]), terminalDeaths, ih, if_neg]
    exact Bool.eq_false_iff.mp (spurious hdies hnext)
  | @dropDeath before after corrected e respawn roomId' hdies hnext htile hrest ih =>
    rw [terminalDeaths, ih, if_neg]
    exact Bool.eq_false_iff.mp (spurious hdies hnext)

lemma Corrects.sublist (h : Corrects laggedTicks before after corrected) :
    (corrected.map (·.tick)).Sublist (after.map (·.tick)) := by
  induction h with
  | nil => exact List.Sublist.refl _
  | keep hspawn hdeath hrest ih | rewriteSpawn hspawn hrest ih
  | rewriteDeath hdies hnext htile hrest ih => exact ih.cons_cons _
  | dropDeath hdies hnext htile hrest ih => exact ih.cons _

end Corrects

/-! ### What the scan finds -/

section Scan

variable {entries : List Entry} {s s' : Scan}

/-- The spawns and deaths of an NPC among entries. -/
def lifecycle (roomId : ℕ) (entries : List Entry) : List Entry :=
  entries.filter fun e => spawns roomId e.1 || dies roomId e.1

/-- An event has the payload that the scan reads. -/
def Readable (event : Event) : Prop :=
  (event.type = .npcSpawn ∨ event.type = .npcDeath → event.npc.isSome) ∧
    (event.type = .playerUpdate → event.player.isSome)

lemma isSome_read {entry : Entry} : (s.read entry).isSome ↔ Readable entry.1 := by
  unfold Scan.read Readable
  by_cases hlife : entry.1.type = .npcSpawn ∨ entry.1.type = .npcDeath
  · have hupdate : entry.1.type ≠ .playerUpdate := by
      rcases hlife with h | h <;> simp [h]
    simp [hlife, hupdate]
  · by_cases hupdate : entry.1.type = .playerUpdate <;> simp [hlife, hupdate]

lemma group_read {entry : Entry} (h : s.read entry = some s') (roomId : ℕ) :
    s'.lifecycleById.group roomId = s.lifecycleById.group roomId ++ lifecycle roomId [entry] := by
  unfold Scan.read at h
  have hsplit : (spawns roomId entry.1 || dies roomId entry.1) =
      decide ((entry.1.type = .npcSpawn ∨ entry.1.type = .npcDeath) ∧
        roomIdOf entry.1 = some roomId) := by
    simp [spawns, dies, Bool.and_or_distrib_right]
  unfold lifecycle
  rw [List.filter_cons, hsplit, List.filter_nil]
  by_cases hlife : entry.1.type = .npcSpawn ∨ entry.1.type = .npcDeath
  · rw [if_pos hlife] at h
    obtain ⟨npc, hnpc, rfl⟩ := Option.map_eq_some_iff.mp h
    have hroom : roomIdOf entry.1 = some npc.roomId := by rw [roomIdOf, hnpc]; rfl
    have hiff : decide (roomIdOf entry.1 = some roomId) = decide (roomId = npc.roomId) := by
      refine decide_eq_decide.mpr ?_
      rw [hroom, Option.some.injEq]
      exact eq_comm
    rw [InsertionMap.group_push]
    simp [hlife, hiff]
  · rw [if_neg hlife] at h
    have hsame : s'.lifecycleById = s.lifecycleById := by
      by_cases hupdate : entry.1.type = .playerUpdate
      · rw [if_pos hupdate] at h
        obtain ⟨player, -, rfl⟩ := Option.map_eq_some_iff.mp h
        rfl
      · rw [if_neg hupdate] at h
        cases h
        rfl
    simp [hsame, hlife]

lemma group_foldlM (h : entries.foldlM Scan.read s = some s') (roomId : ℕ) :
    s'.lifecycleById.group roomId = s.lifecycleById.group roomId ++ lifecycle roomId entries := by
  induction entries generalizing s with
  | nil =>
    cases h
    simp [lifecycle]
  | cons entry entries ih =>
    rw [List.foldlM_cons] at h
    obtain ⟨s₁, hread, hrest⟩ := Option.bind_eq_some_iff.mp h
    rw [ih hrest, group_read hread, List.append_assoc]
    unfold lifecycle
    rw [← List.filter_append]
    rfl

lemma group_scan (h : scan entries = some s) (roomId : ℕ) :
    s.lifecycleById.group roomId = lifecycle roomId entries :=
  group_foldlM h roomId

lemma isSome_foldlM : (entries.foldlM Scan.read s).isSome ↔ ∀ e ∈ entries, Readable e.1 := by
  induction entries generalizing s with
  | nil => simp
  | cons entry entries ih =>
    rw [List.foldlM_cons, List.forall_mem_cons, ← isSome_read (s := s)]
    cases s.read entry with
    | none => simp
    | some s₁ => exact ⟨fun h => ⟨rfl, ih.mp h⟩, fun h => ih.mpr h.2⟩

lemma isSome_scan (entries : List Entry) :
    (scan entries).isSome ↔ ∀ e ∈ entries, Readable e.1 := isSome_foldlM

end Scan

/-! ### What is marked -/

/-- Pairs of a death and the spawn that comes next in a life cycle. -/
def Pairs (l : List Entry) (death respawn : Entry) : Prop :=
  ∃ earlier later, l = earlier ++ death :: later ∧ death.1.type = .npcDeath ∧
    later.find? (·.1.type = .npcSpawn) = some respawn

/-- The marks are those of pairs of a death and a spawn. -/
structure Marks.Has (laggedTicks : List ℕ) (m : Marks) (P : Entry → Entry → Prop) : Prop where
  respawns : ∀ r, r ∈ m.respawns ↔ ∃ d, P d r
  interpolated : ∀ d tile, (d, tile) ∈ m.interpolatedDeaths ↔
    ∃ r, P d r ∧ midpoint laggedTicks d.1 r.1 = some tile
  dropped : ∀ d, d ∈ m.droppedDeaths ↔ ∃ r, P d r ∧ midpoint laggedTicks d.1 r.1 = none

section Marks

variable {laggedTicks : List ℕ} {m : Marks} {P Q : Entry → Entry → Prop} {death : Entry}
  {later l : List Entry}

lemma Marks.Has.congr (h : m.Has laggedTicks P) (hiff : ∀ d r, P d r ↔ Q d r) :
    m.Has laggedTicks Q := by
  have heq : P = Q := funext fun d => funext fun r => propext (hiff d r)
  exact heq ▸ h

lemma Marks.Has.mark (h : m.Has laggedTicks P) :
    (m.mark laggedTicks death later).Has laggedTicks fun d r => P d r ∨
      (d = death ∧ death.1.type = .npcDeath ∧
        later.find? (·.1.type = .npcSpawn) = some r) := by
  unfold Marks.mark
  by_cases hdeath : death.1.type = .npcDeath
  · rw [if_neg (not_not.mpr hdeath)]
    cases hnext : later.find? (·.1.type = .npcSpawn) with
    | none => exact h.congr fun d r => by simp
    | some respawn =>
      dsimp only
      have hadd : ∀ r, r ∈ (if respawn ∈ m.respawns then m.respawns
          else m.respawns ++ [respawn]) ↔ r ∈ m.respawns ∨ r = respawn := by
        intro r
        split_ifs with hmem
        · refine ⟨.inl, ?_⟩
          rintro (hr | rfl)
          · exact hr
          · exact hmem
        · simp
      have hrespawns : ∀ r, r ∈ m.respawns ∨ r = respawn ↔ ∃ d, P d r ∨
          (d = death ∧ death.1.type = .npcDeath ∧ some respawn = some r) := by
        intro r
        rw [h.respawns, exists_or]
        simp [hdeath, eq_comm]
      cases htile : midpoint laggedTicks death.1 respawn.1 with
      | some tile =>
        refine ⟨fun r => (hadd r).trans (hrespawns r), fun d tile' => ?_, fun d => ?_⟩
        · simp only [List.mem_append, List.mem_singleton, Prod.mk.injEq, h.interpolated d tile']
          constructor
          · rintro (⟨r, hr, hmid⟩ | ⟨rfl, rfl⟩)
            · exact ⟨r, .inl hr, hmid⟩
            · exact ⟨respawn, .inr ⟨rfl, hdeath, rfl⟩, htile⟩
          · rintro ⟨r, hr | ⟨rfl, -, hr⟩, hmid⟩
            · exact .inl ⟨r, hr, hmid⟩
            · cases hr
              exact .inr ⟨rfl, Option.some.inj (hmid.symm.trans htile)⟩
        · rw [h.dropped d]
          constructor
          · rintro ⟨r, hr, hmid⟩
            exact ⟨r, .inl hr, hmid⟩
          · rintro ⟨r, hr | ⟨rfl, -, hr⟩, hmid⟩
            · exact ⟨r, hr, hmid⟩
            · cases hr
              cases htile.symm.trans hmid
      | none =>
        refine ⟨fun r => (hadd r).trans (hrespawns r), fun d tile' => ?_, fun d => ?_⟩
        · rw [h.interpolated d tile']
          constructor
          · rintro ⟨r, hr, hmid⟩
            exact ⟨r, .inl hr, hmid⟩
          · rintro ⟨r, hr | ⟨rfl, -, hr⟩, hmid⟩
            · exact ⟨r, hr, hmid⟩
            · cases hr
              cases htile.symm.trans hmid
        · simp only [List.mem_append, List.mem_singleton, h.dropped d]
          constructor
          · rintro (⟨r, hr, hmid⟩ | rfl)
            · exact ⟨r, .inl hr, hmid⟩
            · exact ⟨respawn, .inr ⟨rfl, hdeath, rfl⟩, htile⟩
          · rintro ⟨r, hr | ⟨rfl, -, hr⟩, hmid⟩
            · exact .inl ⟨r, hr, hmid⟩
            · exact .inr rfl
  · rw [if_pos hdeath]
    exact h.congr fun d r => by simp [hdeath]

lemma Marks.Has.markLifecycle (h : m.Has laggedTicks P) :
    (m.markLifecycle laggedTicks l).Has laggedTicks fun d r => P d r ∨ Pairs l d r := by
  induction l generalizing m P with
  | nil => exact h.congr fun d r => by simp [Pairs]
  | cons death later ih =>
    refine (ih h.mark).congr fun d r => ?_
    rw [or_assoc]
    refine or_congr_right ⟨?_, ?_⟩
    · rintro (⟨rfl, hdeath, hnext⟩ | ⟨earlier, rest, rfl, hdeath, hnext⟩)
      · exact ⟨[], later, rfl, hdeath, hnext⟩
      · exact ⟨death :: earlier, rest, rfl, hdeath, hnext⟩
    · rintro ⟨earlier, rest, heq, hdeath, hnext⟩
      cases earlier with
      | nil =>
        obtain ⟨rfl, rfl⟩ := List.cons.inj heq
        exact .inl ⟨rfl, hdeath, hnext⟩
      | cons e earlier =>
        obtain ⟨rfl, rfl⟩ := List.cons.inj heq
        exact .inr ⟨earlier, rest, rfl, hdeath, hnext⟩

lemma Marks.Has.foldl (h : m.Has laggedTicks P) (ls : List (List Entry)) :
    (ls.foldl (Marks.markLifecycle laggedTicks) m).Has laggedTicks
      fun d r => P d r ∨ ∃ l ∈ ls, Pairs l d r := by
  induction ls generalizing m P with
  | nil => exact h.congr fun d r => by simp
  | cons l ls ih =>
    refine (ih h.markLifecycle).congr fun d r => ?_
    simp only [List.exists_mem_cons_iff, or_assoc]

/-- The spawn of the NPC that dies is the next of that NPC. -/
def Follows (entries : List Entry) (death respawn : Entry) : Prop :=
  ∃ roomId earlier later, entries = earlier ++ death :: later ∧ dies roomId death.1 ∧
    later.find? (spawns roomId ·.1) = some respawn

lemma pairs_lifecycle {entries : List Entry} {roomId : ℕ} {d r : Entry} :
    Pairs (lifecycle roomId entries) d r ↔ ∃ earlier later, entries = earlier ++ d :: later ∧
      dies roomId d.1 ∧ later.find? (spawns roomId ·.1) = some r := by
  have hfind : ∀ l : List Entry, (lifecycle roomId l).find? (·.1.type = .npcSpawn) =
      l.find? (spawns roomId ·.1) := by
    intro l
    unfold lifecycle
    rw [List.find?_filter]
    refine congrArg (l.find? ·) (funext fun e => ?_)
    by_cases htype : e.1.type = .npcSpawn
    · simp [spawns, dies, htype]
    · simp [spawns, htype]
  constructor
  · rintro ⟨earlier, later, heq, hdeath, hnext⟩
    obtain ⟨l₁, l₂, rfl, -, hl₂⟩ := List.filter_eq_append_iff.mp heq
    obtain ⟨l₃, l₄, rfl, -, hd, rfl⟩ := List.filter_eq_cons_iff.mp hl₂
    refine ⟨l₁ ++ l₃, l₄, by rw [List.append_assoc], ?_, (hfind l₄).symm.trans hnext⟩
    simpa [spawns, hdeath] using hd
  · rintro ⟨earlier, later, rfl, hdies, hnext⟩
    refine ⟨lifecycle roomId earlier, lifecycle roomId later, ?_, (dies_iff.1 hdies).1,
      (hfind later).trans hnext⟩
    unfold lifecycle
    rw [List.filter_append, List.filter_cons_of_pos (by simp [hdies])]

lemma Scan.has_marks {s : Scan} {entries : List Entry} (h : scan entries = some s) :
    s.marks.Has s.laggedTicks (Follows entries) := by
  have hempty : (⟨[], [], []⟩ : Marks).Has s.laggedTicks fun _ _ => False :=
    ⟨by simp, by simp, by simp⟩
  refine (hempty.foldl s.lifecycleById.values).congr fun d r => ?_
  rw [false_or]
  constructor
  · rintro ⟨l, hl, hpairs⟩
    obtain ⟨⟨roomId, _⟩, hentry, rfl⟩ := List.mem_map.mp hl
    have hget := InsertionMap.get_eq_some.mpr hentry
    have hgroup := group_scan h roomId
    unfold InsertionMap.group at hgroup
    rw [hget, Option.getD_some] at hgroup
    subst hgroup
    exact ⟨roomId, pairs_lifecycle.1 hpairs⟩
  · rintro ⟨roomId, hfollows⟩
    have hpairs := pairs_lifecycle.2 hfollows
    have hgroup := group_scan h roomId
    unfold InsertionMap.group at hgroup
    cases hget : s.lifecycleById.get roomId with
    | none =>
      obtain ⟨earlier, later, heq, -⟩ := hpairs
      rw [hget, Option.getD_none, heq] at hgroup
      simp at hgroup
    | some l =>
      rw [hget, Option.getD_some] at hgroup
      exact ⟨l, List.mem_map.mpr ⟨_, InsertionMap.get_eq_some.mp hget, rfl⟩, hgroup ▸ hpairs⟩

end Marks

/-! ### What is left -/

section Restores

variable {laggedTicks : List ℕ} {events before after : List Event} {e : Event} {m : Marks}
  {s : Scan}

lemma map_fst_zipIdx (l : List Event) (n : ℕ) : (l.zipIdx n).map Prod.fst = l := by
  simp

lemma find?_zipIdx {p : Event → Bool} {l : List Event} {n : ℕ} :
    ((l.zipIdx n).find? (p ·.1)).map Prod.fst = l.find? p := by
  induction l generalizing n with
  | nil => rfl
  | cons x l ih =>
    rw [List.zipIdx_cons, List.find?_cons, List.find?_cons]
    cases p x with
    | true => rfl
    | false => exact ih

lemma split_at {earlier later : List Entry}
    (h : (before ++ e :: after).zipIdx = earlier ++ (e, before.length) :: later) :
    earlier = before.zipIdx ∧ later = after.zipIdx (before.length + 1) := by
  have hlength : earlier.length = before.length := by
    have hget : (before ++ e :: after).zipIdx[earlier.length]? = some (e, before.length) := by
      rw [h, List.getElem?_append_right le_rfl]
      simp
    rw [List.getElem?_zipIdx] at hget
    obtain ⟨x, -, hx⟩ := Option.map_eq_some_iff.mp hget
    simpa using congrArg Prod.snd hx
  rw [List.zipIdx_append, List.zipIdx_cons, Nat.zero_add] at h
  obtain ⟨hleft, hright⟩ := List.append_inj h.symm (by simp [hlength])
  exact ⟨hleft, (List.cons.inj hright).2⟩

lemma follows_iff {r : Entry} :
    Follows (before ++ e :: after).zipIdx (e, before.length) r ↔ ∃ roomId, dies roomId e ∧
      (after.zipIdx (before.length + 1)).find? (spawns roomId ·.1) = some r := by
  constructor
  · rintro ⟨roomId, earlier, later, heq, hdies, hnext⟩
    obtain ⟨-, rfl⟩ := split_at heq
    exact ⟨roomId, hdies, hnext⟩
  · rintro ⟨roomId, hdies, hnext⟩
    refine ⟨roomId, before.zipIdx, _, ?_, hdies, hnext⟩
    rw [List.zipIdx_append, List.zipIdx_cons, Nat.zero_add]

lemma exists_follows_iff :
    (∃ d, Follows (before ++ e :: after).zipIdx d (e, before.length)) ↔ Respawn before e := by
  constructor
  · rintro ⟨d, roomId, earlier, later, heq, hdies, hnext⟩
    obtain ⟨hspawns, between, rest, rfl, hbetween⟩ := List.find?_eq_some_iff_append.mp hnext
    have heq' : (before ++ e :: after).zipIdx =
        (earlier ++ d :: between) ++ (e, before.length) :: rest := by
      rw [heq, List.append_assoc]
      rfl
    have hbefore := congrArg (List.map Prod.fst) (split_at heq').1
    rw [map_fst_zipIdx, List.map_append, List.map_cons] at hbefore
    refine ⟨roomId, hspawns, _, _, _, hbefore.symm, hdies, fun x hx => ?_⟩
    obtain ⟨entry, hentry, rfl⟩ := List.mem_map.mp hx
    simpa using hbetween entry hentry
  · rintro ⟨roomId, hspawns, earlier, death, between, rfl, hdies, hbetween⟩
    refine ⟨(death, earlier.length), roomId, earlier.zipIdx, _, ?_, hdies,
      List.find?_eq_some_iff_append.mpr ⟨hspawns, between.zipIdx (earlier.length + 1),
        after.zipIdx ((earlier ++ death :: between).length + 1), rfl, fun entry hentry => ?_⟩⟩
    · rw [List.append_assoc, List.zipIdx_append, List.cons_append, List.zipIdx_cons,
        List.zipIdx_append, List.zipIdx_cons]
      simp only [List.length_append, List.length_cons, Nat.zero_add]
      congr 5 <;> omega
    · simpa using hbetween entry.1 (List.fst_mem_of_mem_zipIdx hentry)

lemma exists_next_iff (Q : Event → Prop) :
    (∃ r, Follows (before ++ e :: after).zipIdx (e, before.length) r ∧ Q r.1) ↔
      ∃ roomId respawn, dies roomId e ∧ after.find? (spawns roomId) = some respawn ∧
        Q respawn := by
  constructor
  · rintro ⟨r, hfollows, hQ⟩
    obtain ⟨roomId, hdies, hnext⟩ := follows_iff.1 hfollows
    refine ⟨roomId, r.1, hdies, ?_, hQ⟩
    rw [← find?_zipIdx, hnext]
    rfl
  · rintro ⟨roomId, respawn, hdies, hnext, hQ⟩
    rw [← find?_zipIdx] at hnext
    obtain ⟨r, hr, rfl⟩ := Option.map_eq_some_iff.mp hnext
    exact ⟨r, follows_iff.2 ⟨roomId, hdies, hr⟩, hQ⟩

lemma rewrite_of_mem {entry : Entry} {tile : Coords} (h : (entry, tile) ∈ m.interpolatedDeaths)
    (hunique : ∀ t, (entry, t) ∈ m.interpolatedDeaths → t = tile) :
    m.rewrite entry =
      { entry.1 with type := .npcUpdate, xCoord := tile.x, yCoord := tile.y } := by
  have hfind : m.interpolatedDeaths.find? (·.1 = entry) = some (entry, tile) := by
    cases hfound : m.interpolatedDeaths.find? (·.1 = entry) with
    | none => simpa using List.find?_eq_none.mp hfound _ h
    | some found =>
      obtain ⟨entry', t⟩ := found
      obtain rfl : entry' = entry := by simpa using List.find?_some hfound
      rw [hunique t (List.mem_of_find?_eq_some hfound)]
  unfold Marks.rewrite
  rw [hfind]
  dsimp only
  split_ifs <;> rfl

lemma rewrite_of_notMem {entry : Entry} (h : ∀ tile, (entry, tile) ∉ m.interpolatedDeaths) :
    m.rewrite entry =
      if entry ∈ m.respawns then { entry.1 with type := .npcUpdate } else entry.1 := by
  have hfind : m.interpolatedDeaths.find? (·.1 = entry) = none := by
    refine List.find?_eq_none.mpr fun x hx heq => ?_
    obtain rfl : x.1 = entry := by simpa using heq
    exact h x.2 hx
  unfold Marks.rewrite
  rw [hfind]

lemma next_unique {roomId roomId' : ℕ} {x y : Event} (hdies : dies roomId e)
    (hnext : after.find? (spawns roomId) = some x) (hdies' : dies roomId' e)
    (hnext' : after.find? (spawns roomId') = some y) : y = x := by
  have hroom := (dies_iff.1 hdies).2.symm.trans (dies_iff.1 hdies').2
  rw [Option.some.inj hroom, hnext'] at hnext
  exact Option.some.inj hnext

lemma Marks.Has.corrects (h : m.Has laggedTicks (Follows (before ++ after).zipIdx)) :
    Corrects laggedTicks before after
      (((after.zipIdx before.length).filter (· ∉ m.droppedDeaths)).map m.rewrite) := by
  induction after generalizing before with
  | nil => exact .nil
  | cons e after ih =>
    have hrest : Corrects laggedTicks (before ++ [e]) after
        (((after.zipIdx (before.length + 1)).filter (· ∉ m.droppedDeaths)).map m.rewrite) := by
      have hsplit : before ++ e :: after = (before ++ [e]) ++ after := by simp
      have hih := ih (hsplit ▸ h)
      rwa [List.length_append, List.length_singleton] at hih
    have hdropped : (e, before.length) ∈ m.droppedDeaths ↔ ∃ roomId respawn, dies roomId e ∧
        after.find? (spawns roomId) = some respawn ∧ midpoint laggedTicks e respawn = none :=
      (h.dropped _).trans (exists_next_iff (midpoint laggedTicks e · = none))
    have hinterpolated : ∀ tile, ((e, before.length), tile) ∈ m.interpolatedDeaths ↔
        ∃ roomId respawn, dies roomId e ∧ after.find? (spawns roomId) = some respawn ∧
          midpoint laggedTicks e respawn = some tile :=
      fun tile => (h.interpolated _ tile).trans
        (exists_next_iff (midpoint laggedTicks e · = some tile))
    rw [List.zipIdx_cons]
    by_cases hnext : ∃ roomId respawn, dies roomId e ∧
      after.find? (spawns roomId) = some respawn
    · obtain ⟨roomId, respawn, hdies, hnext⟩ := hnext
      cases htile : midpoint laggedTicks e respawn with
      | none =>
        have hmem := hdropped.mpr ⟨roomId, respawn, hdies, hnext, htile⟩
        rw [List.filter_cons_of_neg (by simp [hmem])]
        exact .dropDeath hdies hnext htile hrest
      | some tile =>
        have hnot : (e, before.length) ∉ m.droppedDeaths := by
          intro hmem
          obtain ⟨roomId', x, hdies', hnext', htile'⟩ := hdropped.mp hmem
          rw [next_unique hdies hnext hdies' hnext', htile] at htile'
          cases htile'
        have hunique : ∀ t, ((e, before.length), t) ∈ m.interpolatedDeaths → t = tile := by
          intro t ht
          obtain ⟨roomId', x, hdies', hnext', htile'⟩ := (hinterpolated t).mp ht
          rw [next_unique hdies hnext hdies' hnext', htile] at htile'
          exact (Option.some.inj htile').symm
        have hmem := (hinterpolated tile).mpr ⟨roomId, respawn, hdies, hnext, htile⟩
        rw [List.filter_cons_of_pos (by simp [hnot]), List.map_cons,
          rewrite_of_mem hmem hunique]
        exact .rewriteDeath hdies hnext htile hrest
    · have hnot : (e, before.length) ∉ m.droppedDeaths := by
        intro hmem
        obtain ⟨roomId, x, hdies, hx, -⟩ := hdropped.mp hmem
        exact hnext ⟨roomId, x, hdies, hx⟩
      have hnone : ∀ tile, ((e, before.length), tile) ∉ m.interpolatedDeaths := by
        intro tile hmem
        obtain ⟨roomId, x, hdies, hx, -⟩ := (hinterpolated tile).mp hmem
        exact hnext ⟨roomId, x, hdies, hx⟩
      have hdeath : ¬SpuriousDeath e after := by
        rintro ⟨roomId, hdies, x, hx, hspawns⟩
        obtain ⟨y, hy⟩ := Option.isSome_iff_exists.mp (List.find?_isSome.mpr ⟨x, hx, hspawns⟩)
        exact hnext ⟨roomId, y, hdies, hy⟩
      have hrespawn := (h.respawns (e, before.length)).trans exists_follows_iff
      rw [List.filter_cons_of_pos (by simp [hnot]), List.map_cons, rewrite_of_notMem hnone]
      by_cases hspawn : Respawn before e
      · rw [if_pos (hrespawn.mpr hspawn)]
        exact .rewriteSpawn hspawn hrest
      · rw [if_neg (mt hrespawn.mp hspawn)]
        exact .keep hspawn hdeath hrest

lemma corrects_of_apply {corrected : List Event} {correction : Option (List Applied)}
    (h : tryApplyOsrs238NylocasCorrection events = some (corrected, correction)) :
    ∃ s, scan events.zipIdx = some s ∧ Corrects s.laggedTicks [] events corrected := by
  unfold tryApplyOsrs238NylocasCorrection at h
  obtain ⟨s, hscan, h⟩ := Option.bind_eq_some_iff.mp h
  have hmarks := Scan.has_marks hscan
  refine ⟨s, hscan, ?_⟩
  have hcorrects := @Marks.Has.corrects s.laggedTicks [] events s.marks hmarks
  dsimp only at h
  split_ifs at h with hempty
  · cases h
    have hnone : ∀ d r, ¬Follows events.zipIdx d r := by
      intro d r hfollows
      have hmem := (hmarks.respawns r).mpr ⟨d, hfollows⟩
      rw [hempty] at hmem
      cases hmem
    have hdropped : s.marks.droppedDeaths = [] := by
      refine List.eq_nil_iff_forall_not_mem.mpr fun d hd => ?_
      obtain ⟨r, hfollows, -⟩ := (hmarks.dropped d).mp hd
      exact hnone d r hfollows
    have hsame : ∀ entry, s.marks.rewrite entry = entry.1 := by
      intro entry
      rw [rewrite_of_notMem, if_neg (by simp [hempty])]
      intro tile hmem
      obtain ⟨r, hfollows, -⟩ := (hmarks.interpolated entry tile).mp hmem
      exact hnone entry r hfollows
    have hall : ((events.zipIdx ([] : List Event).length).filter
        (· ∉ s.marks.droppedDeaths)).map s.marks.rewrite = events := by
      rw [hdropped, funext hsame]
      simp
    rwa [hall] at hcorrects
  · cases h
    exact hcorrects

lemma apply_of_pairwise (hread : ∀ e ∈ events, Readable e)
    (h : events.Pairwise fun a b => ∀ roomId, dies roomId a → ¬spawns roomId b) :
    tryApplyOsrs238NylocasCorrection events = some (events, none) := by
  have hscan : (scan events.zipIdx).isSome :=
    (isSome_scan _).mpr fun e he => hread _ (List.fst_mem_of_mem_zipIdx he)
  obtain ⟨s, hs⟩ := Option.isSome_iff_exists.mp hscan
  have hempty : s.marks.respawns = [] := by
    refine List.eq_nil_iff_forall_not_mem.mpr fun r hr => ?_
    obtain ⟨d, roomId, earlier, later, heq, hdies, hnext⟩ := ((Scan.has_marks hs).respawns r).mp hr
    have hsplit := congrArg (List.map Prod.fst) heq
    rw [map_fst_zipIdx, List.map_append, List.map_cons] at hsplit
    rw [hsplit] at h
    have hafter := (List.pairwise_cons.mp (List.pairwise_append.mp h).2.1).1
    have hmem : r.1 ∈ later.map Prod.fst :=
      List.mem_map_of_mem (List.mem_of_find?_eq_some hnext)
    have hspawns := List.find?_some hnext
    exact hafter r.1 hmem roomId hdies hspawns
  unfold tryApplyOsrs238NylocasCorrection
  rw [hs]
  exact if_pos hempty

lemma Corrects.readable {corrected : List Event} (h : Corrects laggedTicks before after corrected)
    (hread : ∀ e ∈ after, Readable e) : ∀ e ∈ corrected, Readable e := by
  induction h with
  | nil => exact hread
  | keep hspawn hdeath hrest ih =>
    obtain ⟨hhead, htail⟩ := List.forall_mem_cons.mp hread
    exact List.forall_mem_cons.mpr ⟨hhead, ih htail⟩
  | rewriteSpawn hspawn hrest ih | rewriteDeath hdies hnext htile hrest ih =>
    obtain ⟨-, htail⟩ := List.forall_mem_cons.mp hread
    exact List.forall_mem_cons.mpr ⟨by simp [Readable], ih htail⟩
  | dropDeath hdies hnext htile hrest ih => exact ih (List.forall_mem_cons.mp hread).2

end Restores

/-- **A correction restores the life cycle of each NPC**: no spawn of an NPC is left after its
death, the deaths that are left are those that it does not spawn after, every event but a spurious
death or spawn is kept in its place, and what is corrected is not corrected again. -/
theorem tryApply_restores {events corrected : List Event} {correction : Option (List Applied)}
    (h : tryApplyOsrs238NylocasCorrection events = some (corrected, correction)) :
    (corrected.Pairwise fun a b => ∀ roomId, dies roomId a → ¬spawns roomId b) ∧
      (∀ roomId, corrected.filter (dies roomId) = terminalDeaths roomId events) ∧
      (∃ s, scan events.zipIdx = some s ∧ Corrects s.laggedTicks [] events corrected) ∧
      (corrected.map (·.tick)).Sublist (events.map (·.tick)) ∧
      tryApplyOsrs238NylocasCorrection corrected = some (corrected, none) := by
  obtain ⟨s, hscan, hcorrects⟩ := corrects_of_apply h
  have hread : ∀ e ∈ events, Readable e := by
    have hentries := (isSome_scan events.zipIdx).mp (Option.isSome_iff_exists.mpr ⟨s, hscan⟩)
    intro e he
    rw [← map_fst_zipIdx events 0] at he
    obtain ⟨entry, hentry, rfl⟩ := List.mem_map.mp he
    exact hentries entry hentry
  exact ⟨hcorrects.pairwise, hcorrects.filter_dies, ⟨s, hscan, hcorrects⟩, hcorrects.sublist,
    apply_of_pairwise (hcorrects.readable hread) hcorrects.pairwise⟩

/-- An NPC is lost for a moment on its way from `(4, 6)` to `(4, 8)`, and another one for longer. -/
theorem tryApply_restores_lost :
    let npc (roomId : ℕ) : Npc := ⟨8342, roomId, 11, 0, none⟩
    let event (type : EventType) (tick : ℕ) (y : ℤ) (roomId : ℕ) : Event :=
      { type, tick, xCoord := 4, yCoord := y, npc := some (npc roomId) }
    let events := [event .npcSpawn 1 0 7, event .npcSpawn 1 0 8, event .npcDeath 8 6 7,
      event .npcSpawn 9 8 7, event .npcDeath 10 3 8, event .npcSpawn 14 7 8,
      event .npcDeath 20 9 7]
    let corrected := [event .npcSpawn 1 0 7, event .npcSpawn 1 0 8, event .npcUpdate 8 7 7,
      event .npcUpdate 9 8 7, event .npcUpdate 14 7 8, event .npcDeath 20 9 7]
    let applied := [⟨.rewriteSpawn, 9, some 7⟩, ⟨.rewriteSpawn, 14, some 8⟩,
      ⟨.rewriteDeath, 8, some 7⟩, ⟨.dropDeath, 10, some 8⟩]
    tryApplyOsrs238NylocasCorrection events = some (corrected, some applied) ∧
      (∀ roomId, corrected.filter (dies roomId) = terminalDeaths roomId events) ∧
      tryApplyOsrs238NylocasCorrection corrected = some (corrected, none) := by
  intro npc event events corrected applied
  have happly : tryApplyOsrs238NylocasCorrection events = some (corrected, some applied) := by
    decide
  have h := tryApply_restores happly
  exact ⟨happly, h.2.1, h.2.2.2.2⟩

/-- An NPC is lost for a moment, and then dies twice: two deaths are left. -/
theorem not_singleDeath_twice :
    ¬∀ events corrected applied,
      tryApplyOsrs238NylocasCorrection events = some (corrected, some applied) →
        ∀ roomId, (corrected.filter (dies roomId)).length ≤ 1 := by
  intro h
  let event (type : EventType) (tick : ℕ) : Event :=
    { type, tick, npc := some ⟨8342, 7, 11, 0, none⟩ }
  let applied : List Applied := [⟨.rewriteSpawn, 9, some 7⟩, ⟨.dropDeath, 8, some 7⟩]
  have hdeaths := h [event .npcSpawn 1, event .npcDeath 8, event .npcSpawn 9, event .npcDeath 20,
    event .npcDeath 21] [event .npcSpawn 1, event .npcUpdate 9, event .npcDeath 20,
    event .npcDeath 21] applied (by decide) 7
  exact absurd hdeaths (by decide)

end Blert.Timeline.NylocasCorrection

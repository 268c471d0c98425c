import Blert.Keyset
import Blert.Theatre.Measures

/-!
The pivots of Sotetseg's mazes.

What the merged clients report of a maze is united and put into the timeline as one path of the
maze, on the tick on which the maze ends. The processor has the pivots of a maze once such a path
has all of its rows in one of the two worlds. In the challenge server a path is that of the maze
which has started last, whatever maze it names.
-/

namespace Blert.Theatre

open Lifecycle Checked Keyset
open Merging (EventType Coords)
open Processing (StageContext castUnsigned)

/-! ### Reports -/

/-- The pivots of a maze that a client reports. -/
structure SotePivots where
  maze : Maze
  overworld : List Coords
  underworld : List Coords

abbrev Ticks := List (Option (List Event))

def endTick (ticks : Ticks) (maze : Maze) : Option ℕ :=
  (ticks.zipIdx.filter fun (state, _) => state.any (·.any (isMazeEnd maze))).getLast?.map Prod.snd

def reported (world : SotePivots → List Coords) (clients : List (List SotePivots)) (maze : Maze) :
    List Coords :=
  (clients.flatten.filter (·.maze = maze)).flatMap world

/-- The path that unites the reports of a maze. -/
def mazePath (sorted : List Coords → List Coords) (clients : List (List SotePivots))
    (maze : Maze) : SoteMaze where
  maze
  overworldPivots := sorted (reported SotePivots.overworld clients maze)
  underworldPivots := sorted (reported SotePivots.underworld clients maze)

/-- The keys of an ordered map, by their rows. -/
def sortPivots (pivots : List Coords) : List Coords :=
  (pivots.dedup.insertionSort (· ≤ ·)).insertionSort (·.y ≤ ·.y)

def pathEvent (tick : ℕ) (path : SoteMaze) : Event :=
  { type := .tobSoteMazePath, stage := .tobSotetseg, tick, soteMaze := some path }

def emitPath (add : List Event → Event → List Event) (sorted : List Coords → List Coords)
    (clients : List (List SotePivots)) (ends : Maze → Option ℕ) (ticks : Ticks) (maze : Maze) :
    Ticks :=
  match ends maze with
  | some tick =>
    ticks.modify tick (·.map (add · (pathEvent tick (mazePath sorted clients maze))))
  | none => ticks

def mergeSotePivots (clients : List (List SotePivots)) (ticks : Ticks) : Ticks :=
  ([Maze.maze66, .maze33].filter fun maze => clients.flatten.any (·.maze = maze)).foldl
    (emitPath (· ++ [·]) sortPivots clients (endTick ticks)) ticks

def eventsOf (ticks : Ticks) : List Event := (ticks.map (·.getD [])).flatten

namespace ChallengeServer

/-- Events of a tick are kept by their types, in the order in which these came first. -/
def addSyntheticEvent (events : List Event) (event : Event) : List Event :=
  if events.any (·.type = event.type) then
    events.rdropWhile (·.type ≠ event.type) ++ event :: events.rtakeWhile (·.type ≠ event.type)
  else events ++ [event]

/-- The keys of a map, in the order in which they were first set. -/
def keys {α : Type} [DecidableEq α] (xs : List α) : List α := xs.reverse.dedup.reverse

lemma nodup_keys {α : Type} [DecidableEq α] (xs : List α) : (keys xs).Nodup :=
  List.nodup_reverse.mpr (List.nodup_dedup _)

def sortPivots (pivots : List Coords) : List Coords := (keys pivots).insertionSort (·.y ≤ ·.y)

def mergeSotePivots (clients : List (List SotePivots)) (ticks : Ticks) : Ticks :=
  (keys (clients.flatten.map SotePivots.maze)).foldl
    (emitPath addSyntheticEvent sortPivots clients (endTick ticks)) ticks

structure SoteMazeState where
  pivots : List ℤ := []
  startTick : ℕ
  endTick : ℕ := 0
  accuratePath : Bool := false
  partialPivots : List ℤ := List.replicate NUM_SOTETSEG_MAZE_PIVOTS (-1)
  chosenPlayer : Option String := none

/-- Puts pivots in their rows until every row has one. -/
def addPivots (maze : SoteMazeState) : List Coords → SoteMazeState
  | [] => maze
  | pivot :: pivots =>
    let pivotIndex := pivot.y / 2
    if pivot.y % 2 = 0 ∧ 0 ≤ pivotIndex ∧ maze.partialPivots[pivotIndex.toNat]? = some (-1) then
      let partialPivots := maze.partialPivots.set pivotIndex.toNat pivot.x
      if partialPivots.all (· ≠ -1) then
        { maze with partialPivots, pivots := partialPivots, accuratePath := true }
      else addPivots { maze with partialPivots } pivots
    else addPivots maze pivots

def handleSoteMazePath (currentMaze : SoteMazeState) (soteMaze : SoteMaze) : SoteMazeState :=
  if currentMaze.accuratePath then currentMaze
  else if soteMaze.underworldPivots.length = NUM_SOTETSEG_MAZE_PIVOTS then
    { currentMaze with pivots := soteMaze.underworldPivots.map Coords.x, accuratePath := true }
  else if soteMaze.overworldPivots.length = NUM_SOTETSEG_MAZE_PIVOTS then
    { currentMaze with pivots := soteMaze.overworldPivots.map Coords.x, accuratePath := true }
  else addPivots currentMaze soteMaze.underworldPivots

/-- Changes the maze that has started last, without which an error is thrown. -/
def changeLast (f : SoteMazeState → SoteMazeState) (mazes : List SoteMazeState) :
    Option (List SoteMazeState) :=
  mazes.getLast?.map fun maze => mazes.dropLast ++ [f maze]

def processChallengeEvent (mazes : List SoteMazeState) (event : Event) :
    Option (List SoteMazeState) :=
  match event.type with
  | .tobSoteMazeProc => event.soteMaze.map fun _ => mazes ++ [{ startTick := event.tick }]
  | .tobSoteMazePath => event.soteMaze.bind fun soteMaze =>
    if soteMaze.overworldTiles.isEmpty then changeLast (handleSoteMazePath · soteMaze) mazes
    else some mazes
  | .tobSoteMazeEnd => event.soteMaze.bind fun soteMaze =>
    changeLast (fun maze => { maze with
      endTick := event.tick
      chosenPlayer := soteMaze.chosenPlayer.or maze.chosenPlayer }) mazes
  | _ => some mazes

/-- The mazes after the events of a timeline. -/
def process (events : List Event) : Option (List SoteMazeState) :=
  events.foldlM processChallengeEvent []

end ChallengeServer

/-! ### True pivots -/

/-- The pivots of the mazes: a column for each row, and where the rows are in the two worlds. -/
structure Pivoted where
  column : Maze → Fin NUM_SOTETSEG_MAZE_PIVOTS → ℕ
  column_lt : ∀ maze row, column maze row < 2 ^ 31
  overworld : Fin NUM_SOTETSEG_MAZE_PIVOTS → ℤ
  overworld_strictMono : StrictMono overworld
  underworld : Fin NUM_SOTETSEG_MAZE_PIVOTS → ℤ
  underworld_strictMono : StrictMono underworld

def Pivoted.pivots (truth : Pivoted) (rows : Fin NUM_SOTETSEG_MAZE_PIVOTS → ℤ) (maze : Maze) :
    List Coords :=
  List.ofFn fun row => ⟨truth.column maze row, rows row⟩

def Pivoted.columns (truth : Pivoted) (maze : Maze) : List ℕ := List.ofFn (truth.column maze)

variable {truth : Pivoted} {rows : Fin NUM_SOTETSEG_MAZE_PIVOTS → ℤ} {maze : Maze}
  {coords : List Coords}

lemma pivots_pairwise (hrows : StrictMono rows) :
    (truth.pivots rows maze).Pairwise fun a b => a.y < b.y := by
  rw [Pivoted.pivots, List.pairwise_ofFn]
  exact fun _ _ h => hrows h

lemma pivots_nodup (hrows : StrictMono rows) : (truth.pivots rows maze).Nodup :=
  (pivots_pairwise hrows).imp fun h heq => absurd h (by rw [heq]; exact lt_irrefl _)

lemma length_pivots : (truth.pivots rows maze).length = NUM_SOTETSEG_MAZE_PIVOTS :=
  List.length_ofFn

/-! ### Paths -/

/-- What has been reported of a maze in a world is of the maze. -/
def Pivoted.Reports (truth : Pivoted) (clients : List (List SotePivots)) : Prop :=
  ∀ report ∈ clients.flatten,
    report.overworld ⊆ truth.pivots truth.overworld report.maze ∧
      report.underworld ⊆ truth.pivots truth.underworld report.maze

/-- Every row of a maze has been reported in one of the worlds. -/
def Pivoted.Covered (truth : Pivoted) (clients : List (List SotePivots)) (maze : Maze) : Prop :=
  truth.pivots truth.overworld maze ⊆ reported SotePivots.overworld clients maze ∨
    truth.pivots truth.underworld maze ⊆ reported SotePivots.underworld clients maze

/-- What is sorted is told by its members, which stand by their rows. -/
structure Sorts (sorted : List Coords → List Coords) : Prop where
  nodup : ∀ l, (sorted l).Nodup
  mem_iff : ∀ l c, c ∈ sorted l ↔ c ∈ l
  pairwise : ∀ l, (sorted l).Pairwise (·.y ≤ ·.y)

lemma sorts_sortPivots : Sorts sortPivots where
  nodup l := ((List.perm_insertionSort _ _).trans (List.perm_insertionSort _ _)).nodup_iff.mpr
    (List.nodup_dedup l)
  mem_iff l c := by simp [sortPivots]
  pairwise l := List.pairwise_insertionSort _ _

lemma ChallengeServer.sorts_sortPivots : Sorts ChallengeServer.sortPivots where
  nodup l := (List.perm_insertionSort _ _).nodup_iff.mpr (nodup_keys l)
  mem_iff l c := by simp [ChallengeServer.sortPivots, ChallengeServer.keys]
  pairwise l := List.pairwise_insertionSort _ _

section

variable {sorted : List Coords → List Coords}

lemma Sorts.subperm (hsorts : Sorts sorted) (hsub : coords ⊆ truth.pivots rows maze) :
    (sorted coords).Subperm (truth.pivots rows maze) :=
  List.subperm_of_subset (hsorts.nodup coords) fun c hc => hsub ((hsorts.mem_iff coords c).mp hc)

lemma Sorts.length_lt (hsorts : Sorts sorted) (hsub : coords ⊆ truth.pivots rows maze)
    (hnot : ¬truth.pivots rows maze ⊆ coords) :
    (sorted coords).length < NUM_SOTETSEG_MAZE_PIVOTS := by
  have hle := (hsorts.subperm hsub).length_le
  rw [length_pivots] at hle
  refine hle.lt_of_ne fun heq => hnot fun c hc => (hsorts.mem_iff coords c).mp ?_
  exact ((hsorts.subperm hsub).perm_of_length_le (by rw [heq, length_pivots])).symm.subset hc

lemma Sorts.eq_pivots (hsorts : Sorts sorted) (hrows : StrictMono rows)
    (hsub : coords ⊆ truth.pivots rows maze) (hall : truth.pivots rows maze ⊆ coords) :
    sorted coords = truth.pivots rows maze := by
  have hperm : (truth.pivots rows maze).Perm (sorted coords) :=
    (List.subperm_of_subset (pivots_nodup hrows)
      fun c hc => (hsorts.mem_iff coords c).mpr (hall hc)).antisymm (hsorts.subperm hsub)
  have heq := orderBy_eq hperm (pivots_pairwise hrows)
  rwa [orderBy, List.Pairwise.insertionSort_eq (hsorts.pairwise coords)] at heq

lemma fullPivots_eq (maze : Maze) (hrows : StrictMono rows) : ∃ v,
    fullPivots (truth.pivots rows maze) = some v ∧ v.toList = truth.columns maze := by
  have hsort : (truth.pivots rows maze).insertionSort (·.y ≤ ·.y) = truth.pivots rows maze :=
    List.Pairwise.insertionSort_eq ((pivots_pairwise hrows).imp le_of_lt)
  unfold fullPivots
  rw [dif_pos length_pivots]
  refine ⟨_, rfl, ?_⟩
  change ((truth.pivots rows maze).insertionSort (·.y ≤ ·.y)).map (castUnsigned ·.x) = _
  rw [hsort, Pivoted.pivots, Pivoted.columns, List.map_ofFn]
  refine congrArg List.ofFn (funext fun row => ?_)
  have hlt := truth.column_lt maze row
  simp only [Function.comp_apply, castUnsigned]
  omega
end

lemma fullPivots_none {coords : List Coords} (h : coords.length ≠ NUM_SOTETSEG_MAZE_PIVOTS) :
    fullPivots coords = none := dif_neg h

lemma length_le_of_rows (pivots : List Coords)
    (h : ∀ row < NUM_SOTETSEG_MAZE_PIVOTS, ∃ pivot ∈ pivots, (pivot.y / 2).toNat = row) :
    NUM_SOTETSEG_MAZE_PIVOTS ≤ pivots.length := by
  have hsub : List.range NUM_SOTETSEG_MAZE_PIVOTS ⊆
      pivots.map fun pivot : Coords => (pivot.y / 2).toNat := fun row hrow =>
    List.mem_map.mpr (h row (List.mem_range.mp hrow))
  simpa using (List.subperm_of_subset List.nodup_range hsub).length_le

lemma getElem_addPivot (rows : Vector (Option ℕ) NUM_SOTETSEG_MAZE_PIVOTS) {pivot : Coords}
    {row : ℕ} (hrow : row < NUM_SOTETSEG_MAZE_PIVOTS) (hne : (pivot.y / 2).toNat ≠ row) :
    (addPivot rows pivot)[row] = rows[row] := by
  unfold addPivot
  split
  · dsimp only
    split
    · split
      · rfl
      · rw [Vector.getElem_set, if_neg hne]
    · rfl
  · rfl

lemma foldl_addPivot (pivots : List Coords) (row : ℕ) (hrow : row < NUM_SOTETSEG_MAZE_PIVOTS)
    (h : ((pivots.foldl addPivot (Vector.replicate _ none))[row]).isSome) :
    ∃ pivot ∈ pivots, (pivot.y / 2).toNat = row := by
  induction pivots using List.reverseRecOn with
  | nil => simp at h
  | append_singleton pivots pivot ih =>
    rw [List.foldl_append, List.foldl_cons, List.foldl_nil] at h
    by_cases heq : (pivot.y / 2).toNat = row
    · exact ⟨pivot, by simp, heq⟩
    · rw [getElem_addPivot _ hrow heq] at h
      obtain ⟨pivot, hmem, heq⟩ := ih h
      exact ⟨pivot, by simp [hmem], heq⟩

variable {clients : List (List SotePivots)} {kind : Maze} {tick : ℕ}

lemma reported_subset (world : SotePivots → List Coords) (rows : Fin NUM_SOTETSEG_MAZE_PIVOTS → ℤ)
    (h : ∀ report ∈ clients.flatten, world report ⊆ truth.pivots rows report.maze)
    (kind : Maze) : reported world clients kind ⊆ truth.pivots rows kind := by
  intro c hc
  obtain ⟨report, hmem, hc⟩ := List.mem_flatMap.mp hc
  obtain ⟨hmem, hkind⟩ := List.mem_filter.mp hmem
  exact of_decide_eq_true hkind ▸ h report hmem hc

lemma not_covered (h : ¬clients.flatten.any (·.maze = kind)) : ¬truth.Covered clients kind := by
  have hnone (world : SotePivots → List Coords) : reported world clients kind = [] := by
    have hfilter : clients.flatten.filter (·.maze = kind) = [] :=
      List.filter_eq_nil_iff.mpr fun report hmem hkind => h (List.any_eq_true.mpr ⟨_, hmem, hkind⟩)
    rw [reported, hfilter, List.flatMap_nil]
  have hne (rows : Fin NUM_SOTETSEG_MAZE_PIVOTS → ℤ) : ¬truth.pivots rows kind ⊆ [] := by
    intro hsub
    have hlength : (truth.pivots rows kind).length = NUM_SOTETSEG_MAZE_PIVOTS := length_pivots
    rw [List.subset_nil.mp hsub] at hlength
    cases hlength
  rintro (hcovered | hcovered) <;> exact hne _ (hnone _ ▸ hcovered)

lemma addPath_reported (h : truth.Reports clients) :
    (truth.Covered clients kind → (addPath (Vector.replicate _ none)
      (mazePath sortPivots clients kind)).toList = truth.columns kind) ∧
    (¬truth.Covered clients kind → (addPath (Vector.replicate _ none)
      (mazePath sortPivots clients kind)).toList = []) := by
  have hover := reported_subset SotePivots.overworld truth.overworld (fun r hr => (h r hr).1) kind
  have hunder := reported_subset SotePivots.underworld truth.underworld (fun r hr => (h r hr).2)
    kind
  unfold addPath mazePath
  dsimp only
  by_cases hall : truth.pivots truth.underworld kind ⊆ reported SotePivots.underworld clients kind
  · obtain ⟨v, hv, hlist⟩ := fullPivots_eq kind truth.underworld_strictMono
    rw [sorts_sortPivots.eq_pivots truth.underworld_strictMono hunder hall, hv]
    exact ⟨fun _ => hlist, fun hnot => absurd (.inr hall) hnot⟩
  have hlt := sorts_sortPivots.length_lt hunder hall
  rw [fullPivots_none hlt.ne]
  by_cases hall' : truth.pivots truth.overworld kind ⊆ reported SotePivots.overworld clients kind
  · obtain ⟨v, hv, hlist⟩ := fullPivots_eq kind truth.overworld_strictMono
    rw [sorts_sortPivots.eq_pivots truth.overworld_strictMono hover hall', hv]
    exact ⟨fun _ => hlist, fun hnot => absurd (.inl hall') hnot⟩
  rw [fullPivots_none (sorts_sortPivots.length_lt hover hall').ne]
  refine ⟨fun hcovered => (hcovered.elim hall' hall).elim, fun _ => ?_⟩
  dsimp only [Option.or]
  rw [if_neg]
  · rfl
  · intro hrows
    exact absurd (length_le_of_rows _ fun row hrow =>
      foldl_addPivot _ row hrow (Vector.all_eq_true.mp hrows row hrow)) hlt.not_ge

namespace ChallengeServer

lemma addPivots_pivots (pivots seen : List Coords) (m : SoteMazeState)
    (hlength : m.partialPivots.length = NUM_SOTETSEG_MAZE_PIVOTS)
    (hrows : ∀ row x, m.partialPivots[row]? = some x → x ≠ -1 →
      ∃ pivot ∈ seen, (pivot.y / 2).toNat = row)
    (hlt : seen.length + pivots.length < NUM_SOTETSEG_MAZE_PIVOTS) :
    (addPivots m pivots).pivots = m.pivots := by
  induction pivots generalizing seen m with
  | nil => rfl
  | cons pivot pivots ih =>
    rw [List.length_cons, ← add_assoc, add_right_comm] at hlt
    have hset : ∀ row x, (m.partialPivots.set (pivot.y / 2).toNat pivot.x)[row]? = some x →
        x ≠ -1 → ∃ p ∈ pivot :: seen, (p.y / 2).toNat = row := by
      intro row x hx hne
      rcases eq_or_ne (pivot.y / 2).toNat row with heq | hrow
      · exact ⟨pivot, List.mem_cons_self, heq⟩
      · rw [List.getElem?_set_ne hrow] at hx
        obtain ⟨p, hp, heq⟩ := hrows row x hx hne
        exact ⟨p, List.mem_cons_of_mem _ hp, heq⟩
    unfold addPivots
    dsimp only
    split
    · split
      · next hall =>
        have hle := length_le_of_rows (pivot :: seen) fun row hrow => by
          have hget := List.getElem?_eq_getElem
            (l := m.partialPivots.set (pivot.y / 2).toNat pivot.x) (i := row) (by simpa [hlength])
          exact hset row _ hget
            (of_decide_eq_true (List.all_eq_true.mp hall _ (List.getElem_mem _)))
        simp only [List.length_cons] at hle
        omega
      · exact ih (pivot :: seen) _ (by simpa using hlength) hset hlt
    · refine ih (pivot :: seen) m hlength (fun row x hx hne => ?_) hlt
      obtain ⟨p, hp, heq⟩ := hrows row x hx hne
      exact ⟨p, List.mem_cons_of_mem _ hp, heq⟩

def SoteMazeState.known (m : SoteMazeState) : List ℤ × Bool × List ℤ :=
  (m.pivots, m.accuratePath, m.partialPivots)

def SoteMazeState.Fresh (m : SoteMazeState) : Prop :=
  m.known = ([], false, List.replicate NUM_SOTETSEG_MAZE_PIVOTS (-1))

/-- What is recorded of a maze: its columns if every row has been reported, and else nothing. -/
def Recorded (truth : Pivoted) (clients : List (List SotePivots)) (kind : Maze)
    (m : SoteMazeState) : Prop :=
  (truth.Covered clients kind → m.pivots = (truth.columns kind).map Int.ofNat) ∧
    (¬truth.Covered clients kind → m.pivots = [])

lemma recorded_handleSoteMazePath (h : truth.Reports clients) {m : SoteMazeState} (hm : m.Fresh) :
    Recorded truth clients kind (handleSoteMazePath m (mazePath sortPivots clients kind)) := by
  have hover := reported_subset SotePivots.overworld truth.overworld (fun r hr => (h r hr).1) kind
  have hunder := reported_subset SotePivots.underworld truth.underworld (fun r hr => (h r hr).2)
    kind
  have hcolumns (rows : Fin NUM_SOTETSEG_MAZE_PIVOTS → ℤ) :
      (truth.pivots rows kind).map Coords.x = (truth.columns kind).map Int.ofNat := by
    simp [Pivoted.pivots, Pivoted.columns, List.map_ofFn, Function.comp_def]
  obtain ⟨hpivots, haccurate, hunset⟩ : m.pivots = [] ∧ m.accuratePath = false ∧
      m.partialPivots = List.replicate NUM_SOTETSEG_MAZE_PIVOTS (-1) := by
    simpa [SoteMazeState.Fresh, SoteMazeState.known] using hm
  unfold handleSoteMazePath mazePath
  rw [if_neg (by simp [haccurate])]
  dsimp only
  by_cases hall : truth.pivots truth.underworld kind ⊆ reported SotePivots.underworld clients kind
  · rw [sorts_sortPivots.eq_pivots truth.underworld_strictMono hunder hall, if_pos length_pivots]
    exact ⟨fun _ => hcolumns _, fun hnot => absurd (.inr hall) hnot⟩
  have hlt := sorts_sortPivots.length_lt hunder hall
  rw [if_neg hlt.ne]
  by_cases hall' : truth.pivots truth.overworld kind ⊆ reported SotePivots.overworld clients kind
  · rw [sorts_sortPivots.eq_pivots truth.overworld_strictMono hover hall', if_pos length_pivots]
    exact ⟨fun _ => hcolumns _, fun hnot => absurd (.inl hall') hnot⟩
  rw [if_neg (sorts_sortPivots.length_lt hover hall').ne]
  refine ⟨fun hcovered => (hcovered.elim hall' hall).elim, fun _ => ?_⟩
  rw [addPivots_pivots _ [] m (by simp [hunset]) (fun row x hx hne => ?_)
    (by simpa using hlt), hpivots]
  rw [hunset] at hx
  exact absurd (List.eq_of_mem_replicate (List.mem_of_getElem? hx)) hne

end ChallengeServer

/-! ### Mazes of a timeline -/

def isMazeEvent (e : Event) : Bool :=
  e.type = .tobSoteMazeProc ∨ e.type = .tobSoteMazePath ∨ e.type = .tobSoteMazeEnd

/-- The events of mazes name them and are not passed over, and the paths among them have tiles. -/
def Named (ticks : Ticks) : Prop :=
  ∀ e ∈ eventsOf ticks, isMazeEvent e → isSkipped e = false ∧
    ∃ path, e.soteMaze = some path ∧ (e.type = .tobSoteMazePath → path.overworldTiles ≠ [])

structure Runs (kind : Maze) (before : Ticks) (last : List Event) (after : Ticks) : Prop where
  started : (eventsOf before).countP (isMazeProc kind) = 1
  ended : last.any (isMazeEnd kind)
  not_started : ∀ e ∈ last ++ eventsOf after, isMazeProc kind e = false
  not_ended : ∀ e ∈ eventsOf before ++ eventsOf after, isMazeEnd kind e = false

def Held (ticks : Ticks) : Prop :=
  ∀ kind, ∃ before last after, ticks = before ++ some last :: after ∧ Runs kind before last after

/-- The first maze ends on a tick before the one on which the second one starts. -/
def InTurn (ticks : Ticks) : Prop :=
  ∃ first last second last' after, ticks = first ++ some last :: (second ++ some last' :: after) ∧
    Runs .maze66 first last (second ++ some last' :: after) ∧
    Runs .maze33 (first ++ some last :: second) last' after ∧
    ∀ e ∈ eventsOf first ++ last, isMazeProc .maze33 e = false

lemma eventsOf_append (ticks ticks' : Ticks) :
    eventsOf (ticks ++ ticks') = eventsOf ticks ++ eventsOf ticks' := by
  simp [eventsOf]

lemma eventsOf_cons (es : List Event) (ticks : Ticks) :
    eventsOf (some es :: ticks) = es ++ eventsOf ticks := rfl

section

variable {before after : Ticks} {last : List Event}

lemma Runs.endTick (h : Runs kind before last after) :
    endTick (before ++ some last :: after) kind = some before.length := by
  have hnone {ticks : Ticks} (n : ℕ) (hticks : ∀ e ∈ eventsOf ticks, isMazeEnd kind e = false) :
      (ticks.zipIdx n).filter (fun (state, _) => state.any (·.any (isMazeEnd kind))) = [] := by
    refine List.filter_eq_nil_iff.mpr fun (state, tick) hmem hany => ?_
    obtain ⟨es, rfl, hes⟩ : ∃ es, state = some es ∧ es.any (isMazeEnd kind) := by
      cases state with
      | none => cases hany
      | some es => exact ⟨es, rfl, hany⟩
    obtain ⟨e, he, hend⟩ := List.any_eq_true.mp hes
    have hmem' : es ∈ ticks.map (·.getD []) :=
      List.mem_map.mpr ⟨some es, List.fst_mem_of_mem_zipIdx hmem, rfl⟩
    rw [hticks e (List.mem_flatten.mpr ⟨es, hmem', he⟩)] at hend
    cases hend
  unfold Theatre.endTick
  rw [List.zipIdx_append, List.zipIdx_cons, List.filter_append,
    List.filter_cons_of_pos (by simpa using h.ended),
    hnone _ fun e he => h.not_ended e (List.mem_append_left _ he),
    hnone _ fun e he => h.not_ended e (List.mem_append_right _ he)]
  simp

end

/-! ### The processor -/

def SotetsegState.pivots (s : SotetsegState) (kind : Maze) : Option Pivots :=
  (s.maze kind).map SotetsegMaze.pivots

def isPath (kind : Maze) (e : Event) : Bool :=
  e.type = .tobSoteMazePath ∧
    e.soteMaze.any fun path => path.maze = kind ∧ path.overworldTiles.isEmpty

def Pivots.record (pivots : Pivots) (path : SoteMaze) : Pivots :=
  match pivots with
  | .incomplete rows => addPath rows path
  | _ => pivots

def nextPivots (kind : Maze) (pivots : Option Pivots) (e : Event) : Option Pivots :=
  if isMazeProc kind e then some (.incomplete (Vector.replicate _ none))
  else if isPath kind e then pivots.map fun p => e.soteMaze.elim p p.record
  else pivots

lemma pivots_setMaze (s : SotetsegState) (kind kind' : Maze) (maze : SotetsegMaze) :
    (s.setMaze kind maze).pivots kind' =
      if kind = kind' then some maze.pivots else s.pivots kind' := by
  cases kind <;> cases kind' <;> rfl

lemma pivots_recordMazeProc (s : SotetsegState) (ctx : StageContext) (tick : ℕ)
    (kind kind' : Maze) : (recordMazeProc s ctx tick kind).1.pivots kind' =
      if kind = kind' then some (.incomplete (Vector.replicate _ none)) else s.pivots kind' := by
  cases kind <;> cases kind' <;> rfl

lemma pivots_recordMazeEnd (s : SotetsegState) (ctx : StageContext) (tick : ℕ) (path : SoteMaze)
    (kind : Maze) : (recordMazeEnd s ctx tick path).1.pivots kind = s.pivots kind := by
  unfold recordMazeEnd
  cases hmaze : s.maze path.maze with
  | none => rfl
  | some maze =>
    dsimp only
    rw [pivots_setMaze]
    split_ifs with h
    · subst h
      simp [SotetsegState.pivots, hmaze]
    · rfl

lemma pivots_recordMazePath (s : SotetsegState) (path : SoteMaze) (kind : Maze) :
    (recordMazePath s path).pivots kind =
      if path.maze = kind then (s.pivots kind).map (Pivots.record · path) else s.pivots kind := by
  unfold recordMazePath
  split_ifs with h
  · subst h
    cases hmaze : s.maze path.maze with
    | none => simp [SotetsegState.pivots, hmaze]
    | some maze =>
      dsimp only
      rw [SotetsegState.pivots, SotetsegState.pivots, hmaze, Option.map_some, Option.map_some]
      cases hpivots : maze.pivots with
      | incomplete rows =>
        dsimp only
        rw [← SotetsegState.pivots, pivots_setMaze, if_pos rfl]
        rfl
      | complete | accumulated =>
        dsimp only
        rw [hmaze, Option.map_some, hpivots]
        rfl
  · cases hmaze : s.maze path.maze with
    | none => rfl
    | some maze =>
      dsimp only
      split
      · rw [pivots_setMaze, if_neg h]
      · rfl

lemma pivots_nextMazes (ctx : StageContext) (s : SotetsegState) (e : Event) (kind : Maze) :
    (nextMazes ctx s e).pivots kind = nextPivots kind (s.pivots kind) e := by
  unfold nextMazes nextPivots isMazeProc isPath
  cases htype : e.type <;> cases hpath : e.soteMaze <;>
    simp [pivots_recordMazeProc, pivots_recordMazeEnd, pivots_recordMazePath, apply_ite
      (SotetsegState.pivots · kind)]
  rename_i path
  by_cases htiles : path.overworldTiles = [] <;> simp [htiles]

section

variable {world : World} {p : TheatreProcessor} {ctx : StageContext} {events : List Event}
  {r r' : Run} {places : List ℕ} {index : ℕ}

lemma pivots_step (hkept : Kept p ctx events r) (kind : Maze)
    (hr : r.processor.sotetseg.pivots kind =
      (handledAt events places).foldl (nextPivots kind) none) (h : step world r index = .ok r') :
    r'.processor.sotetseg.pivots kind =
      (handledAt events (places ++ [index])).foldl (nextPivots kind) none := by
  obtain ⟨event, hevent, hcases⟩ := step_cases h
  obtain ⟨e, he, hbase⟩ := hkept.event hevent
  have hskip : isSkipped event = isSkipped e :=
    (congrArg isSkipped hbase : isSkipped event.base = isSkipped e.base)
  rw [handledAt_append he, ← hskip]
  obtain ⟨hskipped, rfl⟩ | ⟨hskipped, handled, keep, hhandled, rfl⟩ := hcases
  · rw [if_pos hskipped, List.append_nil]
    exact hr
  · have hnext := pivots_nextMazes (r.tracked world event).ctx
      (r.tracked world event).processor.sotetseg event kind
    have heq : nextPivots kind (r.processor.sotetseg.pivots kind) event =
        nextPivots kind (r.processor.sotetseg.pivots kind) e :=
      (congrArg (nextPivots kind (r.processor.sotetseg.pivots kind)) hbase :
        nextPivots kind _ event.base = nextPivots kind _ e.base)
    rw [hskipped, if_neg (c := false = true) Bool.false_ne_true, List.foldl_append, ← hr,
      List.foldl_cons, List.foldl_nil, ← heq]
    exact (congrArg (·.pivots kind) (sotetseg_processChallengeEvent hhandled)).trans hnext

lemma pivots_interpret {challenge : ChallengeInfo} {customData : Option CustomData}
    {stage : Stage} {party : List String} (kind : Maze)
    (h : interpret world (.new challenge customData) (.new stage party) events = .ok r) :
    r.processor.sotetseg.pivots kind = (handled events).foldl (nextPivots kind) none := by
  have hinv := interpret_inv (P := fun places r =>
    Kept (.new challenge customData) (.new stage party) events r ∧
      r.processor.sotetseg.pivots kind = (handledAt events places).foldl (nextPivots kind) none)
    (fun places index r r' hr hstep => ⟨hr.1.step hstep, pivots_step hr.1 kind hr.2 hstep⟩) ?_ h
  · rw [← handledAt_range]
    exact hinv.2
  · refine ⟨⟨rfl, rfl, rfl, rfl, rfl, rfl⟩, ?_⟩
    cases kind <;> rfl

end

/-! ### The merged timeline -/

/-- What of a timeline changes the pivots of a maze. -/
def marks (kind : Maze) (e : Event) : Bool := isMazeProc kind e || isPath kind e

def sieve (p : Event → Bool) (ticks : Ticks) : Ticks := ticks.map (·.map (·.filter p))

lemma eventsOf_sieve (p : Event → Bool) (ticks : Ticks) :
    eventsOf (sieve p ticks) = (eventsOf ticks).filter p := by
  rw [eventsOf, eventsOf, sieve, List.filter_flatten, List.map_map, List.map_map]
  congr 1
  refine List.map_congr_left fun state _ => ?_
  cases state <;> rfl

lemma foldl_marks (kind : Maze) (events : List Event) (pivots : Option Pivots) :
    events.foldl (nextPivots kind) pivots =
      (events.filter (marks kind)).foldl (nextPivots kind) pivots := by
  rw [List.foldl_filter]
  congr 1
  funext pivots e
  unfold nextPivots marks
  cases isMazeProc kind e <;> cases isPath kind e <;> rfl

lemma map_modify {α β : Type} {f : α → β} {g : α → α} {h : β → β} (hcomm : ∀ x, f (g x) = h (f x))
    (xs : List α) (i : ℕ) : (xs.modify i g).map f = (xs.map f).modify i h := by
  refine List.ext_getElem? fun j => ?_
  simp only [List.getElem?_map, List.getElem?_modify]
  cases xs[j]? with
  | none => rfl
  | some x => by_cases hij : i = j <;> simp [hij, hcomm]

lemma modify_length {α : Type} (f : α → α) (xs : List α) (x : α) (ys : List α) :
    (xs ++ x :: ys).modify xs.length f = xs ++ f x :: ys := by
  induction xs with
  | nil => rfl
  | cons y xs ih => simp [ih]

section

variable {ends : Maze → Option ℕ}

lemma sieve_emitPath (ticks : Ticks) (maze : Maze) :
    sieve (marks kind) (emitPath (· ++ [·]) sortPivots clients ends ticks maze) =
      if maze = kind then
        emitPath (· ++ [·]) sortPivots clients ends (sieve (marks kind) ticks) maze
      else sieve (marks kind) ticks := by
  unfold emitPath
  cases ends maze with
  | none => simp
  | some tick =>
    dsimp only
    have hmark : marks kind (pathEvent tick (mazePath sortPivots clients maze)) =
        decide (maze = kind) := by
      simp [marks, isMazeProc, isPath, mazePath, pathEvent]
    split_ifs with hmaze
    · subst hmaze
      refine map_modify (fun state => ?_) ticks tick
      cases state <;> simp [hmark]
    · refine (map_modify (h := id) (fun state => ?_) ticks tick).trans (List.modify_id _ _)
      cases state <;> simp [hmark, hmaze]

lemma sieve_foldl {mazes : List Maze} (hnodup : mazes.Nodup) (ticks : Ticks) :
    sieve (marks kind) (mazes.foldl (emitPath (· ++ [·]) sortPivots clients ends) ticks) =
      if kind ∈ mazes then
        emitPath (· ++ [·]) sortPivots clients ends (sieve (marks kind) ticks) kind
      else sieve (marks kind) ticks := by
  induction mazes generalizing ticks with
  | nil => rfl
  | cons maze mazes ih =>
    obtain ⟨hmaze, hnodup⟩ := List.nodup_cons.mp hnodup
    rw [List.foldl_cons, ih hnodup, sieve_emitPath]
    by_cases heq : maze = kind
    · subst heq
      simp [hmaze]
    · simp [heq, Ne.symm heq]

lemma marks_mergeSotePivots (clients : List (List SotePivots)) {before after : Ticks}
    {last : List Event} (hnamed : Named (before ++ some last :: after))
    (hruns : Runs kind before last after) :
    ∃ proc, isMazeProc kind proc = true ∧
      (handled (eventsOf (mergeSotePivots clients (before ++ some last :: after)))).filter
          (marks kind) =
        proc :: if clients.flatten.any (·.maze = kind) then
          [pathEvent before.length (mazePath sortPivots clients kind)] else [] := by
  have hmarks : ∀ e ∈ eventsOf (before ++ some last :: after),
      marks kind e = isMazeProc kind e := by
    intro e he
    have hpath : isPath kind e = false := by
      by_contra hmark
      obtain ⟨htype, hany⟩ := of_decide_eq_true (Bool.of_not_eq_false hmark)
      obtain ⟨-, path, hpath, htiles⟩ := hnamed e he (by simp [isMazeEvent, htype])
      simp only [hpath, Option.any_some, decide_eq_true_eq, List.isEmpty_iff] at hany
      exact htiles htype hany.2
    rw [marks, hpath, Bool.or_false]
  rw [Named, eventsOf_append, eventsOf_cons] at hnamed
  rw [eventsOf_append, eventsOf_cons] at hmarks
  have hlater : ∀ e ∈ last ++ eventsOf after, marks kind e = false := fun e he =>
    (hmarks e (List.mem_append_right _ he)).trans (hruns.not_started e he)
  have hlast : last.filter (marks kind) = [] :=
    List.filter_eq_nil_iff.mpr fun e he => by simp [hlater e (List.mem_append_left _ he)]
  have hafter : (eventsOf after).filter (marks kind) = [] :=
    List.filter_eq_nil_iff.mpr fun e he => by simp [hlater e (List.mem_append_right _ he)]
  obtain ⟨proc, hbefore⟩ : ∃ proc, (eventsOf before).filter (marks kind) = [proc] := by
    rw [List.filter_congr fun e he => hmarks e (List.mem_append_left _ he),
      ← List.length_eq_one_iff, ← List.countP_eq_length_filter]
    exact hruns.started
  obtain ⟨hmem, hproc⟩ := List.mem_filter.mp (hbefore ▸ List.mem_singleton_self proc)
  have hmem := List.mem_append_left (last ++ eventsOf after) hmem
  rw [hmarks proc hmem] at hproc
  have hskip : isSkipped proc = false :=
    (hnamed proc hmem (by simp [isMazeEvent, (of_decide_eq_true hproc).1])).1
  have hsieve : sieve (marks kind) (before ++ some last :: after) =
      sieve (marks kind) before ++ some [] :: sieve (marks kind) after := by simp [sieve, hlast]
  have hkinds : kind ∈ [Maze.maze66, .maze33].filter (fun maze =>
      clients.flatten.any (·.maze = maze)) ↔ clients.flatten.any (·.maze = kind) := by
    cases kind <;> simp
  refine ⟨proc, hproc, ?_⟩
  rw [handled, List.filter_comm, ← eventsOf_sieve, mergeSotePivots,
    sieve_foldl (List.Nodup.filter _ (by decide)), hsieve, if_congr hkinds rfl rfl]
  split_ifs with hkind
  · have hlength : before.length = (sieve (marks kind) before).length := by simp [sieve]
    have hpathSkip (tick : ℕ) (path : SoteMaze) : isSkipped (pathEvent tick path) = false := rfl
    rw [emitPath, hruns.endTick]
    dsimp only
    rw [hlength, modify_length, eventsOf_append, Option.map_some, eventsOf_cons, eventsOf_sieve,
      eventsOf_sieve, hbefore, hafter]
    simp [hskip, hpathSkip]
  · rw [eventsOf_append, eventsOf_cons, eventsOf_sieve, eventsOf_sieve, hbefore, hafter]
    simp [hskip]

lemma pivots_mergeSotePivots {before after : Ticks} {last : List Event}
    (hnamed : Named (before ++ some last :: after)) (hruns : Runs kind before last after)
    (h : truth.Reports clients) :
    ∃ pivots, (handled (eventsOf (mergeSotePivots clients (before ++ some last :: after)))).foldl
        (nextPivots kind) none = some pivots ∧
      (truth.Covered clients kind → pivots.toList = truth.columns kind) ∧
      (¬truth.Covered clients kind → pivots.toList = []) := by
  obtain ⟨proc, hproc, hmarks⟩ := marks_mergeSotePivots clients hnamed hruns
  rw [foldl_marks, hmarks]
  split_ifs with hkind
  · refine ⟨_, ?_, addPath_reported h⟩
    rw [List.foldl_cons, List.foldl_cons, List.foldl_nil, nextPivots, nextPivots, if_pos hproc]
    simp [isMazeProc, isPath, pathEvent, mazePath, Pivots.record]
  · refine ⟨.incomplete (Vector.replicate _ none), ?_, fun hcovered => ?_, fun _ => rfl⟩
    · simp [nextPivots, hproc]
    · exact absurd hcovered (not_covered hkind)

end

/-! ### The challenge server -/

namespace ChallengeServer

variable {mazes : List SoteMazeState} {es : List Event} {e : Event}

/-- An event of a maze that neither starts one nor is a path of pivots. -/
def Calm (e : Event) : Prop :=
  isMazeEvent e → e.type ≠ .tobSoteMazeProc ∧
    ∃ path, e.soteMaze = some path ∧ (e.type = .tobSoteMazePath → path.overworldTiles ≠ [])

lemma step_calm (mazes : List SoteMazeState) (m : SoteMazeState) (h : Calm e) :
    ∃ m', processChallengeEvent (mazes ++ [m]) e = some (mazes ++ [m']) ∧
      m'.known = m.known := by
  unfold processChallengeEvent
  split
  · next htype => exact absurd htype (h (by simp [isMazeEvent, htype])).1
  · next htype =>
    obtain ⟨-, path, hpath, htiles⟩ := h (by simp [isMazeEvent, htype])
    exact ⟨m, by simp [hpath, htiles htype], rfl⟩
  · next htype =>
    obtain ⟨-, path, hpath, -⟩ := h (by simp [isMazeEvent, htype])
    exact ⟨{ m with endTick := e.tick, chosenPlayer := path.chosenPlayer.or m.chosenPlayer },
      by simp [hpath, changeLast], rfl⟩
  · exact ⟨m, rfl, rfl⟩

lemma run_calm (mazes : List SoteMazeState) (m : SoteMazeState) (h : ∀ e ∈ es, Calm e) :
    ∃ m', es.foldlM processChallengeEvent (mazes ++ [m]) = some (mazes ++ [m']) ∧
      m'.known = m.known := by
  induction es generalizing m with
  | nil => exact ⟨m, rfl, rfl⟩
  | cons e es ih =>
    obtain ⟨m₁, hstep, hknown⟩ := step_calm mazes m (h e List.mem_cons_self)
    obtain ⟨m₂, hrun, hknown'⟩ := ih m₁ fun e he => h e (List.mem_cons_of_mem _ he)
    exact ⟨m₂, by rw [List.foldlM_cons, hstep]; exact hrun, hknown'.trans hknown⟩

lemma run_quiet (h : ∀ e ∈ es, Calm e ∧ e.type ≠ .tobSoteMazeEnd) :
    es.foldlM processChallengeEvent mazes = some mazes := by
  induction es with
  | nil => rfl
  | cons e es ih =>
    have hstep : processChallengeEvent mazes e = some mazes := by
      obtain ⟨hcalm, hend⟩ := h e List.mem_cons_self
      unfold processChallengeEvent
      split
      · next htype => exact absurd htype (hcalm (by simp [isMazeEvent, htype])).1
      · next htype =>
        obtain ⟨-, path, hpath, htiles⟩ := hcalm (by simp [isMazeEvent, htype])
        simp [hpath, htiles htype]
      · next htype => exact absurd htype hend
      · rfl
    rw [List.foldlM_cons, hstep]
    exact ih fun e he => h e (List.mem_cons_of_mem _ he)

lemma exists_addSyntheticEvent (events : List Event) (event : Event) :
    ∃ u v, events = u ++ v ∧ addSyntheticEvent events event = u ++ event :: v := by
  unfold addSyntheticEvent
  split
  · exact ⟨_, _, List.rdropWhile_append_rtakeWhile.symm, rfl⟩
  · exact ⟨events, [], (List.append_nil _).symm, rfl⟩

def withPath (clients : List (List SotePivots)) (kind : Maze) (tick : ℕ) (last : List Event) :
    List Event :=
  if kind ∈ keys (clients.flatten.map SotePivots.maze) then
    addSyntheticEvent last (pathEvent tick (mazePath sortPivots clients kind))
  else last

lemma run_maze (mazes : List SoteMazeState) (h : truth.Reports clients)
    {before last : List Event} (tick : ℕ)
    (hstart : before.countP (isMazeProc kind) = 1)
    (hbefore : ∀ e ∈ before, isMazeProc kind e = true ∨ Calm e ∧ e.type ≠ .tobSoteMazeEnd)
    (hlast : ∀ e ∈ last, Calm e) :
    ∃ m, (before ++ withPath clients kind tick last).foldlM processChallengeEvent mazes =
      some (mazes ++ [m]) ∧ Recorded truth clients kind m := by
  obtain ⟨proc, hmem, hproc⟩ := List.countP_pos_iff.mp (hstart ▸ Nat.one_pos)
  obtain ⟨xs, ys, rfl⟩ := List.append_of_mem hmem
  rw [List.countP_append, List.countP_cons_of_pos hproc] at hstart
  have hquiet {zs : List Event} (hsub : zs ⊆ xs ++ proc :: ys)
      (hcount : zs.countP (isMazeProc kind) = 0) : ∀ e ∈ zs, Calm e ∧ e.type ≠ .tobSoteMazeEnd :=
    fun e he => (hbefore e (hsub he)).resolve_left (List.countP_eq_zero.mp hcount e he)
  have hxs := hquiet (fun e he => List.mem_append_left _ he) (by omega)
  have hys := hquiet (fun e he => List.mem_append_right _ (List.mem_cons_of_mem _ he)) (by omega)
  have hnew : processChallengeEvent mazes proc = some (mazes ++ [{ startTick := proc.tick }]) := by
    obtain ⟨htype, hany⟩ := of_decide_eq_true hproc
    cases hpath : proc.soteMaze with
    | none => simp [hpath] at hany
    | some path => simp [processChallengeEvent, htype, hpath]
  simp only [List.append_assoc, List.foldlM_append, List.cons_append, List.foldlM_cons,
    run_quiet hxs, run_quiet hys, hnew, Option.bind_eq_bind, Option.bind_some]
  unfold withPath
  split_ifs with hkind
  · obtain ⟨u, v, rfl, hadd⟩ := exists_addSyntheticEvent last
      (pathEvent tick (mazePath sortPivots clients kind))
    obtain ⟨m₁, hrun₁, hknown₁⟩ := run_calm mazes { startTick := proc.tick }
      fun e he => hlast e (List.mem_append_left v he)
    obtain ⟨m₂, hrun₂, hknown₂⟩ := run_calm mazes
      (handleSoteMazePath m₁ (mazePath sortPivots clients kind))
      fun e he => hlast e (List.mem_append_right u he)
    refine ⟨m₂, ?_, ?_⟩
    · rw [hadd, List.foldlM_append, hrun₁]
      simpa [processChallengeEvent, pathEvent, mazePath, changeLast] using hrun₂
    · have hpivots : m₂.pivots = _ := congrArg Prod.fst hknown₂
      rw [Recorded, hpivots]
      exact recorded_handleSoteMazePath h hknown₁
  · obtain ⟨m₁, hrun, hknown⟩ := run_calm mazes { startTick := proc.tick } hlast
    refine ⟨m₁, hrun, fun hcovered => absurd hcovered (not_covered ?_), fun _ => ?_⟩
    · simpa [keys] using hkind
    · exact congrArg Prod.fst hknown

lemma foldl_emitPath {ends : Maze → Option ℕ} {first second after : Ticks} {kinds : List Maze}
    (hnodup : kinds.Nodup) (hfirst : ends .maze66 = some first.length)
    (hsecond : ends .maze33 = some (first.length + 1 + second.length)) (last last' : List Event) :
    kinds.foldl (emitPath addSyntheticEvent sortPivots clients ends)
        (first ++ some last :: (second ++ some last' :: after)) =
      first ++ some (if .maze66 ∈ kinds then addSyntheticEvent last
          (pathEvent first.length (mazePath sortPivots clients .maze66)) else last) ::
        (second ++ some (if .maze33 ∈ kinds then addSyntheticEvent last'
          (pathEvent (first.length + 1 + second.length) (mazePath sortPivots clients .maze33))
            else last') :: after) := by
  induction kinds generalizing last last' with
  | nil => rfl
  | cons kind kinds ih =>
    obtain ⟨hkind, hkinds⟩ := List.nodup_cons.mp hnodup
    rw [List.foldl_cons]
    cases kind with
    | maze66 =>
      rw [emitPath, hfirst]
      dsimp only
      rw [modify_length, Option.map_some, ih hkinds]
      simp [hkind]
    | maze33 =>
      have hlength : first.length + 1 + second.length = (first ++ some last :: second).length := by
        simp only [List.length_append, List.length_cons]
        omega
      have hassoc (last' : List Event) : first ++ some last :: (second ++ some last' :: after) =
          (first ++ some last :: second) ++ some last' :: after := by simp
      rw [emitPath, hsecond]
      dsimp only
      rw [hassoc, hlength, modify_length, Option.map_some, ← hlength, ← hassoc, ih hkinds]
      simp [hkind]

lemma process_mergeSotePivots (h : truth.Reports clients) {ticks : Ticks} (hnamed : Named ticks)
    (hturn : InTurn ticks) :
    ∃ m m', process (eventsOf (mergeSotePivots clients ticks)) = some [m, m'] ∧
      Recorded truth clients .maze66 m ∧ Recorded truth clients .maze33 m' := by
  obtain ⟨first, last, second, last', after, rfl, hfirst, hsecond, hnone⟩ := hturn
  have hassoc : first ++ some last :: (second ++ some last' :: after) =
      (first ++ some last :: second) ++ some last' :: after := by simp
  have hlength : (first ++ some last :: second).length = first.length + 1 + second.length := by
    simp only [List.length_append, List.length_cons]
    omega
  have hends : endTick (first ++ some last :: (second ++ some last' :: after)) .maze33 =
      some (first.length + 1 + second.length) := by
    rw [hassoc, hsecond.endTick, hlength]
  have hcalm (e : Event)
      (he : e ∈ eventsOf (first ++ some last :: (second ++ some last' :: after)))
      (h66 : isMazeProc .maze66 e = false) (h33 : isMazeProc .maze33 e = false) : Calm e := by
    intro hmaze
    obtain ⟨-, path, hpath, htiles⟩ := hnamed e he hmaze
    refine ⟨fun htype => ?_, path, hpath, htiles⟩
    cases hkind : path.maze with
    | maze66 => simp [isMazeProc, htype, hpath, hkind] at h66
    | maze33 => simp [isMazeProc, htype, hpath, hkind] at h33
  have hquiet (e : Event)
      (he : e ∈ eventsOf (first ++ some last :: (second ++ some last' :: after)))
      (h66 : isMazeEnd .maze66 e = false) (h33 : isMazeEnd .maze33 e = false) :
      e.type ≠ .tobSoteMazeEnd := by
    intro htype
    obtain ⟨-, path, hpath, -⟩ := hnamed e he (by simp [isMazeEvent, htype])
    cases hkind : path.maze with
    | maze66 => simp [isMazeEnd, htype, hpath, hkind] at h66
    | maze33 => simp [isMazeEnd, htype, hpath, hkind] at h33
  simp only [eventsOf_append, eventsOf_cons, List.mem_append] at hcalm hquiet hnone
  obtain ⟨hproc, -, hlater, hend⟩ := id hfirst
  obtain ⟨hproc', -, hlater', hend'⟩ := hsecond
  simp only [eventsOf_append, eventsOf_cons, List.mem_append] at hlater hlater' hend hend' hproc'
  have hproc' : (eventsOf second).countP (isMazeProc .maze33) = 1 := by
    have hnone' : (eventsOf first ++ last).countP (isMazeProc .maze33) = 0 :=
      List.countP_eq_zero.mpr fun e he => by simp [hnone e (List.mem_append.mp he)]
    rwa [← List.append_assoc, List.countP_append, hnone', Nat.zero_add] at hproc'
  have hbefore : ∀ e ∈ eventsOf first, isMazeProc .maze66 e = true ∨
      Calm e ∧ e.type ≠ .tobSoteMazeEnd := by
    intro e he
    rw [or_iff_not_imp_left, Bool.not_eq_true]
    exact fun hproc => ⟨hcalm e (.inl he) hproc (hnone e (.inl he)),
      hquiet e (.inl he) (hend e (.inl he)) (hend' e (.inl (.inl he)))⟩
  have hlast : ∀ e ∈ last, Calm e := fun e he =>
    hcalm e (.inr (.inl he)) (hlater e (.inl he)) (hnone e (.inr he))
  have hbefore' : ∀ e ∈ eventsOf second, isMazeProc .maze33 e = true ∨
      Calm e ∧ e.type ≠ .tobSoteMazeEnd := by
    intro e he
    rw [or_iff_not_imp_left, Bool.not_eq_true]
    exact fun hproc => ⟨hcalm e (.inr (.inr (.inl he))) (hlater e (.inr (.inl he))) hproc,
      hquiet e (.inr (.inr (.inl he))) (hend e (.inr (.inl he))) (hend' e (.inl (.inr (.inr he))))⟩
  have hlast' : ∀ e ∈ last', Calm e := fun e he =>
    hcalm e (.inr (.inr (.inr (.inl he)))) (hlater e (.inr (.inr (.inl he)))) (hlater' e (.inl he))
  have hafter : ∀ e ∈ eventsOf after, Calm e ∧ e.type ≠ .tobSoteMazeEnd := fun e he =>
    ⟨hcalm e (.inr (.inr (.inr (.inr he)))) (hlater e (.inr (.inr (.inr he))))
      (hlater' e (.inr he)), hquiet e (.inr (.inr (.inr (.inr he))))
        (hend e (.inr (.inr (.inr he)))) (hend' e (.inr he))⟩
  obtain ⟨m, hrun, hm⟩ := run_maze [] h first.length hproc hbefore hlast
  obtain ⟨m', hrun', hm'⟩ := run_maze [m] h (first.length + 1 + second.length) hproc'
    hbefore' hlast'
  refine ⟨m, m', ?_, hm, hm'⟩
  rw [mergeSotePivots, foldl_emitPath (nodup_keys _) hfirst.endTick hends]
  have hevents (es es' : List Event) :
      eventsOf (first ++ some es :: (second ++ some es' :: after)) =
        (eventsOf first ++ es) ++ ((eventsOf second ++ es') ++ eventsOf after) := by
    simp [eventsOf_append, eventsOf_cons]
  rw [hevents, process, List.foldlM_append, ← withPath, hrun, Option.bind_eq_bind, Option.bind_some,
    List.nil_append, List.foldlM_append, ← withPath, hrun']
  exact run_quiet hafter

end ChallengeServer

section Sotetseg

def soteTruth : Pivoted where
  column _ row := row
  column_lt _ row := row.2.trans (by decide)
  overworld row := row.1
  overworld_strictMono := fun _ _ h => Int.ofNat_lt.mpr h
  underworld row := row.1
  underworld_strictMono := fun _ _ h => Int.ofNat_lt.mpr h

def soteReports : List (List SotePivots) :=
  [[{ maze := .maze66, overworld := soteTruth.pivots soteTruth.overworld .maze66
      underworld := [] }]]

/-- The second maze starts after the first one has ended. -/
def apartMazes : Ticks :=
  [some [mazeEvent .tobSoteMazeProc 0 .maze66], some [mazeEvent .tobSoteMazeEnd 1 .maze66],
   some [mazeEvent .tobSoteMazeProc 2 .maze33], some [mazeEvent .tobSoteMazeEnd 3 .maze33]]

/-- The second maze starts on the tick on which the first one ends. -/
def closeMazes : Ticks :=
  [some [mazeEvent .tobSoteMazeProc 0 .maze66],
   some [mazeEvent .tobSoteMazeEnd 1 .maze66, mazeEvent .tobSoteMazeProc 1 .maze33],
   some [mazeEvent .tobSoteMazeEnd 2 .maze33]]

end Sotetseg

end Blert.Theatre

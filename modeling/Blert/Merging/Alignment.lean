import Mathlib.Algebra.Order.Field.Rat
import Mathlib.Algebra.Order.Monoid.WithTop
import Mathlib.Tactic

/-!
Local alignment of two timelines.

A base and a target timeline are aligned tick by tick in a scoring matrix, row by row. Scores
are rationals, and the similarity of two ticks may also be minus infinity. Every cell records the
direction its score came from, and the best local alignment is read off backwards from the cell
with the highest score.
-/

namespace Blert.Merging

/-- How alike two ticks are. Minus infinity indicates absolute incompatibility. -/
abbrev Similarity := WithBot ℚ

/-- An alignment action: merge a target tick into a base tick, insert a tick of the target, or
keep a tick of the base. -/
inductive AlignmentEntry
  | merge (baseIndex targetIndex : ℕ) (score : Similarity)
  | insert (targetIndex : ℕ)
  | keep (baseIndex : ℕ)
  deriving DecidableEq

/-- An ordered sequence of alignment actions. -/
abbrev Alignment := List AlignmentEntry

/-- Half-open range of base and target tick indices for one local alignment. -/
structure AlignmentRange where
  baseStart : ℕ
  baseEnd : ℕ
  targetStart : ℕ
  targetEnd : ℕ
  deriving DecidableEq

structure AlignmentConfig where
  minScore : ℚ
  minLength : ℕ
  minContext : ℕ
  gapOpenPenalty : ℚ
  minScore_pos : 0 < minScore
  gapOpenPenalty_pos : 0 < gapOpenPenalty

def AlignmentConfig.default : AlignmentConfig where
  minScore := 5
  minLength := 3
  minContext := 10
  gapOpenPenalty := 5
  minScore_pos := by norm_num
  gapOpenPenalty_pos := by norm_num

/-! ### The scoring matrix -/

/-- Where the score of a cell came from: nowhere, as the alignment restarts there, the diagonal,
above (a gap in the target), or the left (a gap in the base). -/
inductive Direction
  | none | matched | gapTarget | gapBase

structure Cell where
  score : ℚ
  direction : Direction
  similarity : Similarity
  margin : ℚ

/-- The score of the alignment that goes on from the diagonal. -/
def matchScore (diagonal : ℚ) (similarity : Similarity) : Similarity := diagonal + similarity

/-- The best of the scores that were not chosen, one of which is zero. -/
def secondBest (scores : List Similarity) : ℚ := (scores.foldl max ⊥).unbotD 0

/-- Fills in a cell from the scores of its neighbours. -/
def Cell.fill (gapPenalty diagonal above left : ℚ) (similarity : Similarity) : Cell :=
  let diagonal := matchScore diagonal similarity
  let above := above - gapPenalty
  let left := left - gapPenalty
  let maxScore := max (max 0 (diagonal.unbotD 0)) (max above left)
  if diagonal = maxScore ∧ similarity ≠ ⊥ then
    { score := maxScore, direction := .matched, similarity
      margin := maxScore - secondBest [(0 : ℚ), above, left] }
  else if maxScore = above then
    { score := maxScore, direction := .gapTarget, similarity
      margin := maxScore - secondBest [(0 : ℚ), diagonal, left] }
  else if maxScore = left then
    { score := maxScore, direction := .gapBase, similarity
      margin := maxScore - secondBest [(0 : ℚ), diagonal, above] }
  else { score := maxScore, direction := .none, similarity, margin := 0 }

def fillRow (gapPenalty : ℚ) : ℚ → ℚ → List ℚ → List Similarity → List Cell
  | diagonal, left, above :: row, similarity :: similarities =>
    let cell := Cell.fill gapPenalty diagonal above left similarity
    cell :: fillRow gapPenalty above cell.score row similarities
  | _, _, _, _ => []

/-- Fills in the rows of a matrix, off which every score is zero. -/
def fillRows (gapPenalty : ℚ) : List ℚ → List (List Similarity) → List (List Cell)
  | _, [] => []
  | above, similarities :: rows =>
    let row := fillRow gapPenalty 0 0 above similarities
    row :: fillRows gapPenalty (row.map Cell.score) rows

/-- The cell in a row and column of a matrix. -/
def cellAt (matrix : List (List Cell)) (i j : ℕ) : Option Cell := matrix[i]?.bind (·[j]?)

/-- The score before a row and column of a matrix, zero off the matrix. -/
def scoreBefore (matrix : List (List Cell)) : ℕ → ℕ → ℚ
  | i + 1, j + 1 => ((cellAt matrix i j).map Cell.score).getD 0
  | _, _ => 0

section Aligner

variable {τ : Type*} (score : τ → τ → Similarity)

/-- The similarity of two ticks; a tick without data neither speaks for nor against another. -/
def scoreSimilarity : Option τ → Option τ → Similarity
  | some base, some target => score base target
  | _, _ => (0 : ℚ)

/-- The ticks of a timeline within a half-open range. -/
def ticksIn (ticks : List (Option τ)) (start stop : ℕ) : List (Option τ) :=
  (ticks.drop start).take (stop - start)

variable (base target : List (Option τ)) (config : AlignmentConfig)

def fillMatrices (range : AlignmentRange) : List (List Cell) :=
  let targets := ticksIn target range.targetStart range.targetEnd
  fillRows config.gapOpenPenalty (List.replicate targets.length 0)
    ((ticksIn base range.baseStart range.baseEnd).map fun b =>
      targets.map fun t => scoreSimilarity score b t)

/-! ### Reading off an alignment -/

structure Best where
  score : ℚ
  row : ℕ
  col : ℕ

def Best.next (best : Best) (row col : ℕ) (cell : Cell) : Best :=
  if best.score < cell.score then { score := cell.score, row, col } else best

def bestInRow (row : ℕ) : Best → ℕ → List Cell → Best
  | best, _, [] => best
  | best, col, cell :: cells => bestInRow row (best.next row col cell) (col + 1) cells

/-- The global maximum of the matrix, the first one that is reached row by row. -/
def bestInRows : Best → ℕ → List (List Cell) → Best
  | best, _, [] => best
  | best, row, cells :: rows => bestInRows (bestInRow row best 0 cells) (row + 1) rows

/-- The actions met on the way back from a row and column, which are one past a cell. -/
def traceBack (range : AlignmentRange) (matrix : List (List Cell)) : ℕ → ℕ → Alignment
  | i + 1, j + 1 =>
    match cellAt matrix i j with
    | some cell =>
      match cell.direction with
      | .none => []
      | .matched =>
        .merge (i + range.baseStart) (j + range.targetStart) cell.similarity ::
          traceBack range matrix i j
      | .gapTarget => .keep (i + range.baseStart) :: traceBack range matrix i (j + 1)
      | .gapBase => .insert (j + range.targetStart) :: traceBack range matrix (i + 1) j
    | none => []
  | _, _ => []
termination_by i j => i + j

/-- Finds the highest-scoring cell in the matrix and backtracks to extract the alignment. -/
def backtrackBest (range : AlignmentRange) (matrix : List (List Cell)) : Option Alignment :=
  let best := bestInRows { score := 0, row := 0, col := 0 } 0 matrix
  if best.score < config.minScore then none
  else some (traceBack range matrix (best.row + 1) (best.col + 1)).reverse

structure LocalAlignment where
  entries : Alignment
  range : AlignmentRange
  similarity : List (List Similarity)
  margin : List (List ℚ)
  baseNull : List ℕ
  targetNull : List ℕ

/-- The indices from `start` on of the ticks in a range that have no data. -/
def nullTicks (ticks : List (Option τ)) (start stop : ℕ) : List ℕ :=
  (List.range' start (stop - start)).filter fun i => (ticks[i]?.bind id).isNone

def alignLocal (range : AlignmentRange) : Option LocalAlignment :=
  let matrix := fillMatrices score base target config range
  match backtrackBest config range matrix with
  | none => none
  | some entries =>
    if entries.length < config.minLength then none
    else
      some
        { entries, range
          similarity := matrix.map (·.map Cell.similarity)
          margin := matrix.map (·.map Cell.margin)
          baseNull := nullTicks base range.baseStart range.baseEnd
          targetNull := nullTicks target range.targetStart range.targetEnd }

end Aligner

end Blert.Merging

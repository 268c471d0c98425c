import Blert.Merging.Consolidator
import Blert.Merging.SimilarityScorer
import Mathlib.Data.List.DropRight

/-!
How much confidence there is in a merge step.

Structurally, a local alignment falls into anchors, where one target tick only was compatible, and
ambiguous segments, scored by how many paths they could have taken and by how decisively each
action was chosen. The content of a step is scored by how often the clients disagree. The
exponential and the logarithm are parameters.
-/

namespace Blert.Merging

/-! ### Arithmetic -/

def safeDiv (numerator denominator : ℚ) : ℚ := if denominator > 0 then numerator / denominator else 0

def softMin (exp log : ℚ → ℚ) (values : List ℚ) (temperature : ℚ) : ℚ :=
  if values.isEmpty then 1
  else
    let mean := (values.map fun v => exp (-v / temperature)).sum / values.length
    (-temperature) * log mean

def noisyOr (a b : ℚ) : ℚ := 1 - (1 - a) * (1 - b)

namespace Confidence

/-! ### Counting matchings -/

/-- Cells in the order of rows, and of columns within a row. -/
def sortCells (cells : List (ℕ × ℕ)) : List (ℕ × ℕ) :=
  cells.insertionSort fun a b => a.1 < b.1 ∨ a.1 = b.1 ∧ a.2 ≤ b.2

/-- A cell with the number of monotone matchings of each size that end at it. -/
structure CountedCell where
  row : ℕ
  col : ℕ
  counts : List ℕ

def countCell (size : ℕ) (before : List CountedCell) (cell : ℕ × ℕ) : CountedCell :=
  let smaller := before.filter fun c => c.row < cell.1 ∧ c.col < cell.2
  { row := cell.1, col := cell.2
    counts := (List.range (size + 1)).map fun s =>
      if s = 0 then 0
      else if s = 1 then 1
      else (smaller.map fun c => c.counts.getD (s - 1) 0).sum }

def countCells (size : ℕ) (cells : List (ℕ × ℕ)) : List CountedCell :=
  cells.foldl (fun before cell => before ++ [countCell size before cell]) []

/-- The number of matchings of a size that strictly increase in both row and column. -/
def countMonotoneMatchings (cells : List (ℕ × ℕ)) (size : ℕ) : ℕ :=
  if size = 0 then 1
  else ((countCells size (sortCells cells)).map fun c => c.counts.getD size 0).sum

/-- Region size above which the exact path count is replaced by a closed-form estimate. -/
def maxExactRegion : ℕ := 1024

def maxPathCount : ℚ := 10 ^ 9

/-- Multiplies in the factors of a binomial coefficient from the `i`-th on. -/
def boundedProduct (n : ℕ) : ℕ → ℕ → ℚ → ℚ
  | 0, _, result => result
  | steps + 1, i, result =>
    let result := result * (n - i) / (i + 1)
    if result > maxPathCount then maxPathCount else boundedProduct n steps (i + 1) result

def boundedBinomial (n k : ℕ) : ℚ :=
  if k > n then 0 else boundedProduct n (min k (n - k)) 0 1

/-! ### Anchors and segments -/

/-- An ambiguous compatible run of actions, from its first to its last ambiguous merge. -/
structure Segment where
  entries : Alignment
  region : AlignmentRange
  deriving DecidableEq

inductive AlignmentPartition
  | anchor (baseIndex targetIndex : ℕ)
  | segment (segment : Segment)
  deriving DecidableEq

section Partition

variable (la : LocalAlignment)

def isNullMerge (baseIndex targetIndex : ℕ) : Bool :=
  baseIndex ∈ la.baseNull || targetIndex ∈ la.targetNull

def similarityAt (iRel jRel : ℕ) : Option Similarity := la.similarity[iRel]?.bind (·[jRel]?)

/-- Whether a cell is compatible. Null columns are not real alternatives. -/
def compatible (iRel jRel : ℕ) : Bool :=
  (similarityAt la iRel jRel).any (· ≠ ⊥) && la.range.targetStart + jRel ∉ la.targetNull

/-- The lower bound of a run of compatible cells. -/
def plateauLow (iRel : ℕ) : ℕ → ℕ
  | 0 => 0
  | lo + 1 => if compatible la iRel lo then plateauLow iRel lo else lo + 1

/-- The upper bound of a run of compatible cells, with `n` more cells in the row. -/
def plateauHigh (iRel : ℕ) : ℕ → ℕ → ℕ
  | 0, hi => hi
  | n + 1, hi => if compatible la iRel (hi + 1) then plateauHigh iRel n (hi + 1) else hi

/-- The contiguous run of compatible cells around a cell of a row. -/
def plateauBounds (iRel jRel : ℕ) : ℕ × ℕ :=
  (plateauLow la iRel jRel,
    plateauHigh la iRel (((la.similarity[iRel]?).elim 0 List.length) - 1 - jRel) jRel)

/-- The plateau of a merge that is no null merge. -/
def entryBounds : AlignmentEntry → Option (ℕ × ℕ)
  | .merge baseIndex targetIndex _ =>
    if isNullMerge la baseIndex targetIndex then none
    else some (plateauBounds la (baseIndex - la.range.baseStart)
      (targetIndex - la.range.targetStart))
  | _ => none

/-- How many cells the plateau of an entry has, none for what is no merge. -/
def plateau (e : AlignmentEntry) : ℕ := (entryBounds la e).elim 0 fun (lo, hi) => hi - lo + 1

def isAmbiguousMerge (e : AlignmentEntry) : Bool := plateau la e > 1

def anchorOf (e : AlignmentEntry) : Option (ℕ × ℕ) :=
  match e with
  | .merge baseIndex targetIndex _ => if plateau la e = 1 then some (baseIndex, targetIndex) else none
  | _ => none

/-- The pending entries from the first to the last ambiguous merge among them. -/
def trim (pending : Alignment) : Alignment :=
  (pending.dropWhile fun e => !isAmbiguousMerge la e).rdropWhile fun e => !isAmbiguousMerge la e

/-- The segment of the entries between two anchors, if they have an ambiguous merge. A side
without an anchor is bounded by the segment's own merges. -/
def flushPending (leftAnchor rightAnchor : Option (ℕ × ℕ)) (pending : Alignment) :
    List AlignmentPartition :=
  let entries := trim la pending
  if entries.isEmpty then []
  else
    let bounds := entries.filterMap (entryBounds la)
    let low := (bounds.map Prod.fst).min?.getD 0
    let high := (bounds.map Prod.snd).max?.getD 0
    [.segment
      { entries
        region :=
          { baseStart := leftAnchor.elim (firstMerge entries).1 (·.1 + 1)
            baseEnd := rightAnchor.elim ((lastMerge entries).1 + 1) (·.1)
            targetStart := leftAnchor.elim (la.range.targetStart + low) (·.2 + 1)
            targetEnd := rightAnchor.elim (la.range.targetStart + high + 1) (·.2) } }]

/-- Goes through entries with those pending since the last anchor. -/
def partitionFrom (prevAnchor : Option (ℕ × ℕ)) (pending : Alignment) :
    Alignment → List AlignmentPartition
  | [] => flushPending la prevAnchor none pending
  | e :: entries =>
    match anchorOf la e with
    | some anchor =>
      flushPending la prevAnchor (some anchor) pending ++
        .anchor anchor.1 anchor.2 :: partitionFrom (some anchor) [] entries
    | none => partitionFrom prevAnchor (pending ++ [e]) entries

/-- Partitions a local alignment into anchors and segments. -/
def partitionAlignment : List AlignmentPartition := partitionFrom la none [] la.entries

/-! ### Scoring segments -/

/-- The indices of a range whose ticks have data. -/
def nonNull (null : List ℕ) (start stop : ℕ) : List ℕ :=
  (List.range' start (stop - start)).filter (· ∉ null)

/-- The reciprocal of the number of distinct monotone paths the merges of a segment could have
taken through its compatible cells. -/
def segmentDiscriminability (segment : Segment) : ℚ :=
  let mergeCount := segment.entries.countP fun e =>
    match e with
    | .merge baseIndex targetIndex _ => !isNullMerge la baseIndex targetIndex
    | _ => false
  let bases := nonNull la.baseNull segment.region.baseStart segment.region.baseEnd
  let targets := nonNull la.targetNull segment.region.targetStart segment.region.targetEnd
  let paths : ℚ :=
    if bases.length * targets.length > maxExactRegion then
      boundedBinomial bases.length mergeCount * boundedBinomial targets.length mergeCount
    else
      let cells := bases.flatMap fun b => (targets.filter fun t =>
        (similarityAt la (b - la.range.baseStart) (t - la.range.targetStart)).any (· ≠ ⊥)).map (b, ·)
      countMonotoneMatchings cells mergeCount
  if paths ≤ 1 then 1 else 1 / paths

structure StructuralWeights where
  supportScale : ℚ
  supportTemperature : ℚ

structure ContentWeights where
  disagreement : ℚ
  largeGap : ℚ
  attackMappedFailure : ℚ

structure ConfidenceWeights where
  /-- Weight of the structural axis in the overall score. -/
  axis : ℚ
  structural : StructuralWeights
  content : ContentWeights

def defaultConfidenceWeights : ConfidenceWeights where
  axis := 1 / 2
  structural := { supportScale := 5, supportTemperature := 1 / 10 }
  content := { disagreement := 3 / 5, largeGap := 1 / 5, attackMappedFailure := 1 / 5 }

def marginAt (baseIndex targetIndex : ℕ) : ℚ :=
  ((la.margin[baseIndex - la.range.baseStart]?.bind
    (·[targetIndex - la.range.targetStart]?)).getD 0)

section Support

variable (exp log : ℚ → ℚ) (weights : StructuralWeights) (baselineMergeWeight : ℚ)

def support (margin : ℚ) : ℚ := 1 - exp (-margin / weights.supportScale)

/-- The support of each action, given the base and target tick of the action before. The flat
reward every merge earns is not evidence for it. -/
def supports : ℕ → ℕ → Alignment → List ℚ
  | _, _, [] => []
  | _, _, .merge baseIndex targetIndex _ :: entries =>
    if isNullMerge la baseIndex targetIndex then supports baseIndex targetIndex entries
    else
      support exp weights (max 0 (marginAt la baseIndex targetIndex - baselineMergeWeight)) ::
        supports baseIndex targetIndex entries
  | _, curTarget, .keep baseIndex :: entries =>
    support exp weights (marginAt la baseIndex curTarget) :: supports baseIndex curTarget entries
  | curBase, _, .insert targetIndex :: entries =>
    support exp weights (marginAt la curBase targetIndex) :: supports curBase targetIndex entries

/-- How strongly the actions of a segment were preferred. -/
def segmentBonusSupport (segment : Segment) : ℚ :=
  softMin exp log (supports la exp weights baselineMergeWeight 0 0 segment.entries)
    weights.supportTemperature

end Support

end Partition

/-! ### The axes -/

structure SegmentConfidence where
  baseStart : ℕ
  baseEnd : ℕ
  discriminability : ℚ
  bonusSupport : ℚ
  score : ℚ

structure StructuralConfidence where
  value : ℚ
  identity : Bool
  targetCoverage : ℚ
  segments : List SegmentConfidence
  /-- Index of the lowest scoring segment. -/
  worstSegmentIdx : Option ℕ

structure ContentConfidence where
  value : ℚ
  disagreementRate : ℚ
  largeGapRate : ℚ
  attackMappedFailureRate : ℚ

structure StepConfidence where
  overall : ℚ
  structural : StructuralConfidence
  content : ContentConfidence

def isMismatch : QualityFlag → Bool
  | .attackTypeMismatch .. | .attackTargetMismatch .. | .spellTypeMismatch ..
  | .spellTargetMismatch .. | .npcAttackTypeMismatch .. | .npcAttackTargetMismatch .. => true
  | _ => false

def isLargeGap : QualityFlag → Bool
  | .largeTemporalGap .. => true
  | _ => false

def isAttackMappedFailure : QualityFlag → Bool
  | .unexpectedConflict .. | .attackMappedNotFound .. => true
  | _ => false

def computeContentConfidence (counters : ReconciliationCounters) (qualityFlags : List QualityFlag)
    (weights : ContentWeights) : ContentConfidence :=
  let attempts := counters.playerAttacks + counters.playerSpells + counters.npcAttacks
  let disagreementRate := safeDiv (qualityFlags.countP isMismatch) attempts
  let largeGapRate := safeDiv (qualityFlags.countP isLargeGap) counters.streamEventPairs
  let attackMappedFailureRate :=
    safeDiv (qualityFlags.countP isAttackMappedFailure) counters.attackMappedEvents
  let penalty := clamp (weights.disagreement * disagreementRate + weights.largeGap * largeGapRate +
    weights.attackMappedFailure * attackMappedFailureRate) 0 1
  { value := 1 - penalty, disagreementRate, largeGapRate, attackMappedFailureRate }

/-- What has been added up over the local alignments. -/
structure QualitySum where
  segments : List SegmentConfidence := []
  weightedQualitySum : ℚ := 0
  totalMergeCount : ℕ := 0

section Structural

variable (exp log : ℚ → ℚ) (weights : StructuralWeights) (baselineMergeWeight : ℚ)

def scoreSegment (la : LocalAlignment) (segment : Segment) : SegmentConfidence :=
  let discriminability := segmentDiscriminability la segment
  let bonusSupport := segmentBonusSupport la exp log weights baselineMergeWeight segment
  { baseStart := segment.region.baseStart, baseEnd := segment.region.baseEnd
    discriminability, bonusSupport, score := noisyOr discriminability bonusSupport }

def partQuality (la : LocalAlignment) : AlignmentPartition → ℚ × ℚ
  | .anchor .. => (1, 1)
  | .segment segment =>
    let span : ℚ := (segment.region.baseEnd : ℚ) - segment.region.baseStart
    ((scoreSegment exp log weights baselineMergeWeight la segment).score * span, span)

def partSegment (la : LocalAlignment) : AlignmentPartition → Option SegmentConfidence
  | .anchor .. => none
  | .segment segment => some (scoreSegment exp log weights baselineMergeWeight la segment)

def QualitySum.add (w : QualitySum) (la : LocalAlignment) : QualitySum :=
  let parts := partitionAlignment la
  let qualities := parts.map (partQuality exp log weights baselineMergeWeight la)
  let qualityNum := (qualities.map Prod.fst).sum
  let qualityDen := (qualities.map Prod.snd).sum
  let segments := w.segments ++ parts.filterMap (partSegment exp log weights baselineMergeWeight la)
  if qualityDen = 0 then { w with segments }
  else
    let mergeCount := la.entries.countP fun e => match e with | .merge .. => true | _ => false
    { segments
      weightedQualitySum := w.weightedQualitySum + qualityNum / qualityDen * mergeCount
      totalMergeCount := w.totalMergeCount + mergeCount }

/-- The index of the first segment with the lowest score. -/
def worstSegment (segments : List SegmentConfidence) : Option ℕ :=
  (segments.zipIdx.foldl (fun worst (segment, i) =>
    match worst with
    | none => some (segment, i)
    | some (lowest, j) =>
      if segment.score < lowest.score then some (segment, i) else some (lowest, j))
    (none : Option (SegmentConfidence × ℕ))).map Prod.snd

def computeStructuralConfidence : Option AlignmentResult → StructuralConfidence
  | none =>
    { value := 1, identity := true, targetCoverage := 1, segments := [], worstSegmentIdx := none }
  | some alignment =>
    let w := alignment.alignments.foldl (QualitySum.add exp log weights baselineMergeWeight) {}
    { value := safeDiv w.weightedQualitySum w.totalMergeCount * alignment.targetCoverage
      identity := false
      targetCoverage := alignment.targetCoverage
      segments := w.segments
      worstSegmentIdx := worstSegment w.segments }

end Structural

end Confidence

open Confidence

/-- The confidence in a merge step, whose alignment is null for an identity mapping. -/
def scoreStepConfidence (exp log : ℚ → ℚ) (alignment : Option AlignmentResult)
    (counters : ReconciliationCounters) (qualityFlags : List QualityFlag)
    (weights : ConfidenceWeights) (baselineMergeWeight : ℚ) : StepConfidence :=
  let content := computeContentConfidence counters qualityFlags weights.content
  let structural :=
    computeStructuralConfidence exp log weights.structural baselineMergeWeight alignment
  { overall := weights.axis * structural.value + (1 - weights.axis) * content.value
    structural, content }

end Blert.Merging

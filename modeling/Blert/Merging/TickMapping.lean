import Blert.Merging.Aligner
import Blert.Slots

/-!
Tick mappings.

A merge step numbers the ticks of the merged timeline anew and keeps, for base and target, where
each of their ticks went and where each merged tick came from. A chain of such steps resolves a
merged tick back to the tick of any client merged so far.
-/

namespace Blert.Merging

abbrev ClientId := ℤ

/-- Maps tick indices between a client's tick space and the merged timeline's. -/
structure TickMapping where
  forward : List (Option ℕ)
  reverse : List (Option ℕ)

namespace TickMapping

def identity (tickCount : ℕ) : TickMapping :=
  { forward := (List.range tickCount).map some, reverse := (List.range tickCount).map some }

def toMerged (m : TickMapping) (clientTick : ℕ) : Option ℕ := slot m.forward clientTick

def toClient (m : TickMapping) (mergedTick : ℕ) : Option ℕ := slot m.reverse mergedTick

end TickMapping

structure Mappings where
  base : TickMapping
  target : TickMapping
  mergedTickCount : ℕ

/-! ### Numbering the merged ticks -/

/-- Where the ticks met so far went, and how far the merged and the base timeline are. -/
structure Numbering where
  baseToMerged : List (Option ℕ)
  targetToMerged : List (Option ℕ)
  mergedPos : ℕ
  basePos : ℕ

namespace Numbering

/-- A base tick goes to the next merged tick. -/
def placeBase (w : Numbering) (baseIndex : ℕ) : Numbering :=
  { w with
    baseToMerged := w.baseToMerged.set baseIndex (some w.mergedPos)
    mergedPos := w.mergedPos + 1 }

/-- A target tick goes to the next merged tick. -/
def placeTarget (w : Numbering) (targetIndex : ℕ) : Numbering :=
  { w with
    targetToMerged := w.targetToMerged.set targetIndex (some w.mergedPos)
    mergedPos := w.mergedPos + 1 }

/-- A base and a target tick both go to the next merged tick. -/
def placeBoth (w : Numbering) (baseIndex targetIndex : ℕ) : Numbering :=
  { w with
    baseToMerged := w.baseToMerged.set baseIndex (some w.mergedPos)
    targetToMerged := w.targetToMerged.set targetIndex (some w.mergedPos)
    mergedPos := w.mergedPos + 1 }

/-- Copies the next base ticks at their natural positions. -/
def copyBase (w : Numbering) : ℕ → Numbering
  | 0 => w
  | ticks + 1 => copyBase { w.placeBase w.basePos with basePos := w.basePos + 1 } ticks

def copyTarget (w : Numbering) (targetIndex : ℕ) : ℕ → Numbering
  | 0 => w
  | ticks + 1 => copyTarget (w.placeTarget targetIndex) (targetIndex + 1) ticks

def placeEntry (w : Numbering) : AlignmentEntry → Numbering
  | .merge baseIndex targetIndex _ => w.placeBoth baseIndex targetIndex
  | .keep baseIndex => w.placeBase baseIndex
  | .insert targetIndex => w.placeTarget targetIndex

/-- Copies the base ticks before an alignment, and places its entries. -/
def placeAlignment (w : Numbering) (entries : Alignment) : Numbering :=
  let w := w.copyBase ((firstMerge entries).1 - w.basePos)
  { entries.foldl placeEntry w with basePos := (lastMerge entries).1 + 1 }

/-- Target ticks before the first merge are one-sided if that is at base tick 0. -/
def prepend (w : Numbering) (alignments : List Alignment) : Numbering :=
  match alignments.head? with
  | some entries =>
    if (firstMerge entries).1 = 0 ∧ (firstMerge entries).2 > 0 then
      w.copyTarget 0 (firstMerge entries).2
    else w
  | none => w

/-- Target ticks after the last merge are one-sided if that is at the base's final tick. -/
def append (w : Numbering) (baseTickCount targetTickCount : ℕ) (alignments : List Alignment) :
    Numbering :=
  match alignments.getLast? with
  | some entries =>
    if (lastMerge entries).1 + 1 = baseTickCount ∧ (lastMerge entries).2 + 1 < targetTickCount then
      w.copyTarget ((lastMerge entries).2 + 1) (targetTickCount - ((lastMerge entries).2 + 1))
    else w
  | none => w

end Numbering

def numberTicks (baseTickCount targetTickCount : ℕ) (alignments : List Alignment) : Numbering :=
  let w : Numbering :=
    { baseToMerged := List.replicate baseTickCount none
      targetToMerged := List.replicate targetTickCount none
      mergedPos := 0, basePos := 0 }
  let w := alignments.foldl Numbering.placeAlignment (w.prepend alignments)
  (w.copyBase (baseTickCount - w.basePos)).append baseTickCount targetTickCount alignments

def fromAlignment (baseTickCount targetTickCount : ℕ) (alignments : List Alignment) : Mappings :=
  let w := numberTicks baseTickCount targetTickCount alignments
  { base := { forward := w.baseToMerged, reverse := invert w.mergedPos w.baseToMerged }
    target := { forward := w.targetToMerged, reverse := invert w.mergedPos w.targetToMerged }
    mergedTickCount := w.mergedPos }

/-! ### Chains of merge steps -/

structure MappingChainEntry where
  targetClientId : ClientId
  mappings : Mappings

/-- The tick mappings of a merge operation: those of its committed steps, and of the step in
flight. -/
structure MergeMapping where
  baseClientId : ClientId
  chain : List MappingChainEntry
  inFlight : Option MappingChainEntry

namespace MergeMapping

def new (baseClientId : ClientId) : MergeMapping := { baseClientId, chain := [], inFlight := none }

/-- Sets the in-flight entry for the current merge step. -/
def begin (m : MergeMapping) (targetClientId : ClientId) (mappings : Mappings) : MergeMapping :=
  { m with inFlight := some { targetClientId, mappings } }

/-- Commits the in-flight entry to the chain. -/
def commit (m : MergeMapping) : MergeMapping :=
  match m.inFlight with
  | some entry => { m with chain := m.chain ++ [entry], inFlight := none }
  | none => m

def discard (m : MergeMapping) : MergeMapping := { m with inFlight := none }

/-- Walks the chain backwards from its last entry, which comes first here. -/
def resolveChain (baseClientId clientId : ClientId) : List MappingChainEntry → ℕ → Option ℕ
  | [], current => if clientId = baseClientId then some current else none
  | entry :: chain, current =>
    if entry.targetClientId = clientId then entry.mappings.target.toClient current
    else
      match entry.mappings.base.toClient current with
      | some current => resolveChain baseClientId clientId chain current
      | none => none

def resolveClientTick (m : MergeMapping) (mergedIndex : ℕ) (clientId : ClientId) : Option ℕ :=
  match m.inFlight with
  | some entry =>
    if entry.targetClientId = clientId then entry.mappings.target.toClient mergedIndex
    else
      match entry.mappings.base.toClient mergedIndex with
      | some current => resolveChain m.baseClientId clientId m.chain.reverse current
      | none => none
  | none => resolveChain m.baseClientId clientId m.chain.reverse mergedIndex

end MergeMapping

end Blert.Merging

import Blert.Merging.Classification

/-!
How far a merged timeline can be trusted.

The ticks at which clients disagreed are recorded in the tick space of the client of the step. Of
the finished timeline, a prefix matches the true tick count of the server, and a prefix of that
is corroborated by enough clients for strict analysis.
-/

namespace Blert.Merging

structure TrustedPrefixOptions where
  /-- Length of the final merged timeline. -/
  totalTicks : ℕ
  /-- Leading offset applied by end alignment. -/
  offset : ℕ
  /-- Whether the merged output inherited accuracy from an accurate base. -/
  inheritedAccuracy : Bool
  /-- How the stage's reference tick count was selected. -/
  referenceMethod : ReferenceSelectionMethod

def recordContestedTicks (ctx : MergeContext) (clientId : ClientId) (flags : List QualityFlag) :
    MergeContext :=
  let localTicks := flags.filterMap fun flag => do
    let tick ← contestedFlagTick flag
    match tick with
    | .ofNat tick => ctx.mapping.resolveClientTick tick clientId
    | .negSucc _ => none
  if localTicks = [] then ctx
  else
    let contested := (ctx.contestedTicks.get clientId).getD []
    { ctx with
      contestedTicks := ctx.contestedTicks.set clientId
        (localTicks.foldl (fun ticks tick => if tick ∈ ticks then ticks else ticks ++ [tick])
          contested) }

lemma mapping_recordContestedTicks (ctx : MergeContext) (clientId : ClientId)
    (flags : List QualityFlag) : (recordContestedTicks ctx clientId flags).mapping = ctx.mapping := by
  unfold recordContestedTicks
  dsimp only
  split_ifs <;> rfl

lemma clients_recordContestedTicks (ctx : MergeContext) (clientId : ClientId)
    (flags : List QualityFlag) : (recordContestedTicks ctx clientId flags).clients = ctx.clients := by
  unfold recordContestedTicks
  dsimp only
  split_ifs <;> rfl

structure TrustedPrefixes where
  /-- The exclusive tick at which the merged timeline can no longer be trusted to match the true
  server tick count. -/
  accurateUntil : ℕ
  /-- The exclusive tick at which the merged event stream can no longer be trusted for strict
  analysis. -/
  queryableUntil : ℕ

structure Contributor where
  id : ClientId
  firstIssueTick : WithTop ℕ
  firstCorrectionTick : WithTop ℕ
  isParticipant : Bool

structure TickSupport where
  /-- Number of internally contiguous clients contributing to this tick. -/
  contiguousCount : ℕ := 0
  /-- Subset of internally contiguous clients without game corrections. -/
  cleanCount : ℕ := 0
  /-- Whether any contiguous contributor is a participant. -/
  hasParticipant : Bool := false
  /-- Whether any contributor's data was contested by other clients. -/
  contested : Bool := false

def minTick (ticks : List ℕ) : WithTop ℕ := (ticks.map WithTop.some).foldl min ⊤

def collectContributors (ctx : MergeContext) : List Contributor :=
  (ctx.clients.values.filter (·.status = .merged)).map fun { client, .. } =>
    { id := client.clientId
      firstIssueTick := minTick client.consistencyIssues
      firstCorrectionTick := minTick client.corrections
      isParticipant := !client.isSpectator }

def TickSupport.add (mappingTick : ℕ) (mapping : MergeMapping)
    (contested : InsertionMap ClientId (List ℕ)) (w : TickSupport) (c : Contributor) :
    TickSupport :=
  match mapping.resolveClientTick mappingTick c.id with
  | none => w
  | some localTick =>
    let contiguous : Bool := c.firstIssueTick > localTick
    let clean : Bool := c.firstCorrectionTick > localTick
    { contiguousCount := w.contiguousCount + contiguous.toNat
      cleanCount := w.cleanCount + (contiguous && clean).toNat
      hasParticipant := w.hasParticipant || contiguous && c.isParticipant
      contested := w.contested || localTick ∈ (contested.get c.id).getD [] }

/-- What the contributors corroborate on a single tick. -/
def supportAtTick (mappingTick : ℕ) (contributors : List Contributor) (mapping : MergeMapping)
    (contested : InsertionMap ClientId (List ℕ)) : TickSupport :=
  contributors.foldl (TickSupport.add mappingTick mapping contested) {}

/-- The ends of the prefixes, once they have been met. -/
structure PrefixEnds where
  accurateUntil : Option ℕ
  queryableUntil : Option ℕ

/-- Goes on with a tick. Accuracy requires two contiguous clients, with either one participant or
a server-verified tick 0. -/
def PrefixEnds.next (inheritedAccuracy knownToStartAtZero : Bool) (support : ℕ → TickSupport)
    (w : PrefixEnds) (m : ℕ) : PrefixEnds :=
  let s := support m
  let lacksSufficientContributors : Bool :=
    s.contiguousCount < 2 ∨ (!s.hasParticipant ∧ !knownToStartAtZero)
  let hasTimingIssues := !inheritedAccuracy && lacksSufficientContributors
  let lacksUncorrectedClients : Bool := s.cleanCount < min 2 s.contiguousCount
  { accurateUntil := w.accurateUntil.or (if lacksSufficientContributors then some m else none)
    queryableUntil := w.queryableUntil.or
      (if hasTimingIssues || s.contested || lacksUncorrectedClients then some m else none) }

/-- Computes the accurate and queryable prefixes of a finalized merged timeline. -/
def computeTrustedPrefixes (ctx : MergeContext) (opts : TrustedPrefixOptions) : TrustedPrefixes :=
  let contributors := collectContributors ctx
  let knownToStartAtZero : Bool := opts.offset = 0 ∧ opts.referenceMethod = .preciseServer
  let support := fun m =>
    if m ≥ opts.offset then
      supportAtTick (m - opts.offset) contributors ctx.mapping ctx.contestedTicks
    else {}
  let ends := (List.range opts.totalTicks).foldl
    (PrefixEnds.next opts.inheritedAccuracy knownToStartAtZero support)
    { accurateUntil := if opts.inheritedAccuracy then some opts.totalTicks else none
      queryableUntil := none }
  let accurateUntil := ends.accurateUntil.getD opts.totalTicks
  { accurateUntil, queryableUntil := min (ends.queryableUntil.getD opts.totalTicks) accurateUntil }

lemma accurateUntil_next {inherited known : Bool} {support : ℕ → TickSupport} {w : PrefixEnds}
    {n : ℕ} (h : w.accurateUntil = some n) (ms : List ℕ) :
    (ms.foldl (PrefixEnds.next inherited known support) w).accurateUntil = some n := by
  induction ms generalizing w with
  | nil => exact h
  | cons m ms ih =>
    refine ih ?_
    show w.accurateUntil.or _ = _
    rw [h]
    rfl

lemma accurateUntil_inherited (ctx : MergeContext) {opts : TrustedPrefixOptions}
    (h : opts.inheritedAccuracy = true) :
    (computeTrustedPrefixes ctx opts).accurateUntil = opts.totalTicks := by
  unfold computeTrustedPrefixes
  dsimp only
  rw [accurateUntil_next (if_pos h)]
  rfl

end Blert.Merging

import Blert.Merging.Atomicity

/-!
What the trusted prefixes of a merged timeline say.

Whether a tick is supported is told from the clients that have been merged: which of them have the
tick, whether they are contiguous and uncorrected up to it, and whether it is contested. Each
prefix is the longest one whose ticks are all supported. A timeline as long as the precise count
asks for is known to start at tick zero, but so is a longer one, which the end alignment leaves as
it is.
-/

namespace Blert.Merging

/-! ### Support, client by client -/

def MergeContext.mergedClients (ctx : MergeContext) : List ClientEvents :=
  (ctx.clients.values.filter (·.status = .merged)).map RegisteredClient.client

/-- A precise server count that the timeline has not been aligned with. -/
def TrustedPrefixOptions.knownToStartAtZero (opts : TrustedPrefixOptions) : Bool :=
  opts.offset = 0 ∧ opts.referenceMethod = .preciseServer

section Support

variable (ctx : MergeContext) (opts : TrustedPrefixOptions) (m : ℕ) (client : ClientEvents)

/-- The client's own tick at a tick of the timeline. -/
def localTick : Option ℕ :=
  if m ≥ opts.offset then ctx.mapping.resolveClientTick (m - opts.offset) client.clientId
  else none

/-- The client has the tick, and no issues up to it. -/
def contiguousAt : Bool :=
  (localTick ctx opts m client).any fun tick => client.consistencyIssues.all (tick < ·)

/-- The client has the tick, and no corrections up to it. -/
def cleanAt : Bool :=
  (localTick ctx opts m client).any fun tick => client.corrections.all (tick < ·)

/-- Others disagreed with the client about the tick. -/
def contestedAt : Bool :=
  (localTick ctx opts m client).any (· ∈ (ctx.contestedTicks.get client.clientId).getD [])

def AccurateAt : Prop :=
  opts.inheritedAccuracy = true ∨ 2 ≤ ctx.mergedClients.countP (contiguousAt ctx opts m) ∧
    (opts.knownToStartAtZero = true ∨
      ∃ client ∈ ctx.mergedClients, contiguousAt ctx opts m client ∧ ¬client.isSpectator)

/-- What strict analysis of a tick rests on. -/
structure QueryableAt : Prop where
  accurate : AccurateAt ctx opts m
  uncontested : ∀ client ∈ ctx.mergedClients, ¬contestedAt ctx opts m client
  uncorrected : min 2 (ctx.mergedClients.countP (contiguousAt ctx opts m)) ≤
    ctx.mergedClients.countP fun client =>
      contiguousAt ctx opts m client && cleanAt ctx opts m client

end Support

/-- A prefix of `n` ticks is the longest one whose ticks all have a property. -/
structure LongestPrefix (p : ℕ → Prop) (n k : ℕ) : Prop where
  le : k ≤ n
  all : ∀ m < k, p m
  fails : k < n → ¬p k

/-- What is claimed of the prefixes of a timeline. -/
structure TrustedPrefixes.Truthful (ctx : MergeContext) (opts : TrustedPrefixOptions)
    (reference : ReferenceSelection) (prefixes : TrustedPrefixes) : Prop where
  queryable_le : prefixes.queryableUntil ≤ prefixes.accurateUntil
  accurate_le : prefixes.accurateUntil ≤ opts.totalTicks
  accurate : LongestPrefix (AccurateAt ctx opts) opts.totalTicks prefixes.accurateUntil
  queryable : LongestPrefix (QueryableAt ctx opts) opts.totalTicks prefixes.queryableUntil
  zero : opts.knownToStartAtZero = true →
    reference.method = .preciseServer ∧ opts.totalTicks = reference.count + 1

/-! ### The support of a tick -/

lemma lt_minTick {ticks : List ℕ} {tick : ℕ} :
    tick < minTick ticks ↔ ∀ i ∈ ticks, tick < i := by
  have hfold : ∀ w : WithTop ℕ, (tick : WithTop ℕ) < (ticks.map WithTop.some).foldl min w ↔
      (tick : WithTop ℕ) < w ∧ ∀ i ∈ ticks, tick < i := by
    induction ticks with
    | nil => simp
    | cons i ticks ih =>
      intro w
      rw [List.map_cons, List.foldl_cons, ih, List.forall_mem_cons, lt_min_iff, and_assoc]
      exact Iff.and Iff.rfl (Iff.and WithTop.coe_lt_coe Iff.rfl)
  exact (hfold ⊤).trans (and_iff_right (WithTop.coe_lt_top tick))

def contributor (client : ClientEvents) : Contributor :=
  { id := client.clientId
    firstIssueTick := minTick client.consistencyIssues
    firstCorrectionTick := minTick client.corrections
    isParticipant := !client.isSpectator }

lemma collectContributors_eq (ctx : MergeContext) :
    collectContributors ctx = ctx.mergedClients.map contributor := by
  unfold collectContributors MergeContext.mergedClients
  rw [List.map_map]
  rfl

variable {ctx : MergeContext} {opts : TrustedPrefixOptions} {m : ℕ}

def supportOf (ctx : MergeContext) (opts : TrustedPrefixOptions) (m : ℕ)
    (clients : List ClientEvents) : TickSupport where
  contiguousCount := clients.countP (contiguousAt ctx opts m)
  cleanCount := clients.countP fun c => contiguousAt ctx opts m c && cleanAt ctx opts m c
  hasParticipant := clients.any fun c => contiguousAt ctx opts m c && !c.isSpectator
  contested := clients.any (contestedAt ctx opts m)

lemma add_contributor (hm : m ≥ opts.offset) (w : TickSupport) (c : ClientEvents) :
    w.add (m - opts.offset) ctx.mapping ctx.contestedTicks (contributor c) =
      { contiguousCount := w.contiguousCount + (contiguousAt ctx opts m c).toNat
        cleanCount := w.cleanCount + (contiguousAt ctx opts m c && cleanAt ctx opts m c).toNat
        hasParticipant := w.hasParticipant || contiguousAt ctx opts m c && !c.isSpectator
        contested := w.contested || contestedAt ctx opts m c } := by
  unfold TickSupport.add contiguousAt cleanAt contestedAt localTick
  rw [if_pos hm]
  have hid : (contributor c).id = c.clientId := rfl
  rw [hid]
  cases ctx.mapping.resolveClientTick (m - opts.offset) c.clientId with
  | none => simp
  | some tick =>
    have hissue : decide ((contributor c).firstIssueTick > tick) =
        c.consistencyIssues.all (tick < ·) := by
      rw [Bool.eq_iff_iff, decide_eq_true_iff, List.all_eq_true]
      simpa [contributor] using @lt_minTick c.consistencyIssues tick
    have hcorrection : decide ((contributor c).firstCorrectionTick > tick) =
        c.corrections.all (tick < ·) := by
      rw [Bool.eq_iff_iff, decide_eq_true_iff, List.all_eq_true]
      simpa [contributor] using @lt_minTick c.corrections tick
    dsimp only
    rw [hissue, hcorrection]
    rfl

lemma foldl_add (hm : m ≥ opts.offset) (w : TickSupport) (clients : List ClientEvents) :
    (clients.map contributor).foldl
        (TickSupport.add (m - opts.offset) ctx.mapping ctx.contestedTicks) w =
      { contiguousCount := w.contiguousCount + (supportOf ctx opts m clients).contiguousCount
        cleanCount := w.cleanCount + (supportOf ctx opts m clients).cleanCount
        hasParticipant := w.hasParticipant || (supportOf ctx opts m clients).hasParticipant
        contested := w.contested || (supportOf ctx opts m clients).contested } := by
  induction clients generalizing w with
  | nil => simp [supportOf]
  | cons c clients ih =>
    rw [List.map_cons, List.foldl_cons, add_contributor hm, ih]
    simp only [supportOf, List.countP_cons, List.any_cons, Bool.or_assoc, TickSupport.mk.injEq,
      and_true]
    refine ⟨?_, ?_⟩
    · cases contiguousAt ctx opts m c <;> simp [Nat.add_assoc, Nat.add_comm]
    · cases contiguousAt ctx opts m c && cleanAt ctx opts m c <;>
        simp [Nat.add_assoc, Nat.add_comm]

lemma support_eq :
    (if m ≥ opts.offset then
      supportAtTick (m - opts.offset) (collectContributors ctx) ctx.mapping ctx.contestedTicks
    else {}) = supportOf ctx opts m ctx.mergedClients := by
  split_ifs with hm
  · unfold supportAtTick
    rw [collectContributors_eq, foldl_add hm]
    simp
  · have hnone : ∀ c, localTick ctx opts m c = none := fun c => if_neg hm
    have hcont : ∀ c, contiguousAt ctx opts m c = false := fun c => by
      unfold contiguousAt
      rw [hnone]
      rfl
    have hcount : ctx.mergedClients.countP (contiguousAt ctx opts m) = 0 :=
      List.countP_eq_zero.mpr fun c _ => by simp [hcont]
    simp [supportOf, contestedAt, hcont, hcount, hnone]

/-! ### The prefixes -/

lemma longestPrefix_find {p : ℕ → Bool} {P : ℕ → Prop} (h : ∀ m, p m = true ↔ ¬P m) (n : ℕ) :
    LongestPrefix P n (((List.range n).find? p).getD n) := by
  cases hfind : (List.range n).find? p with
  | none =>
    refine ⟨le_rfl, fun m hm => ?_, fun hlt => absurd hlt (lt_irrefl n)⟩
    have hp := List.find?_eq_none.mp hfind m (List.mem_range.mpr hm)
    exact not_not.mp fun hP => hp ((h m).mpr hP)
  | some k =>
    obtain ⟨hk, hmem, hbefore⟩ := List.find?_range_eq_some.mp hfind
    refine ⟨(List.mem_range.mp hmem).le, fun m hm => ?_, fun _ => (h k).mp hk⟩
    have hp := hbefore m hm
    exact not_not.mp fun hP => by simp [(h m).mpr hP] at hp

lemma LongestPrefix.mono {P Q : ℕ → Prop} {n j k : ℕ} (hQ : LongestPrefix Q n j)
    (hP : LongestPrefix P n k) (h : ∀ m, Q m → P m) : j ≤ k := by
  by_contra hlt
  exact hP.fails (by have := hQ.le; omega) (h k (hQ.all k (by omega)))

/-- Too few clients support a tick for its accuracy. -/
def lacksSufficientContributors (known : Bool) (s : TickSupport) : Bool :=
  s.contiguousCount < 2 ∨ (!s.hasParticipant ∧ !known)

def hasIssues (inherited known : Bool) (s : TickSupport) : Bool :=
  (!inherited && lacksSufficientContributors known s) || s.contested ||
    s.cleanCount < min 2 s.contiguousCount

lemma foldl_next (inherited known : Bool) (support : ℕ → TickSupport) (w : PrefixEnds)
    (ms : List ℕ) :
    ms.foldl (PrefixEnds.next inherited known support) w =
      { accurateUntil := w.accurateUntil.or
          (ms.find? fun m => lacksSufficientContributors known (support m))
        queryableUntil := w.queryableUntil.or
          (ms.find? fun m => hasIssues inherited known (support m)) } := by
  induction ms generalizing w with
  | nil => simp
  | cons m ms ih =>
    rw [List.foldl_cons, ih, List.find?_cons, List.find?_cons]
    unfold PrefixEnds.next
    congr 1
    · show (w.accurateUntil.or
        (if lacksSufficientContributors known (support m) then some m else none)).or _ = _
      cases lacksSufficientContributors known (support m) <;> simp
    · show (w.queryableUntil.or
        (if hasIssues inherited known (support m) then some m else none)).or _ = _
      cases hasIssues inherited known (support m) <;> simp

lemma lacksSufficientContributors_iff :
    ¬lacksSufficientContributors opts.knownToStartAtZero (supportOf ctx opts m ctx.mergedClients) ↔
      2 ≤ ctx.mergedClients.countP (contiguousAt ctx opts m) ∧
        (opts.knownToStartAtZero = true ∨
          ∃ client ∈ ctx.mergedClients, contiguousAt ctx opts m client ∧ ¬client.isSpectator) := by
  have hany : (supportOf ctx opts m ctx.mergedClients).hasParticipant = true ↔
      ∃ client ∈ ctx.mergedClients, contiguousAt ctx opts m client ∧ ¬client.isSpectator := by
    unfold supportOf
    simp
  rw [← hany]
  unfold lacksSufficientContributors
  cases opts.knownToStartAtZero <;>
    cases (supportOf ctx opts m ctx.mergedClients).hasParticipant <;> simp [supportOf] <;> omega

lemma hasIssues_iff :
    hasIssues opts.inheritedAccuracy opts.knownToStartAtZero
        (supportOf ctx opts m ctx.mergedClients) = true ↔ ¬QueryableAt ctx opts m := by
  have htiming : (!opts.inheritedAccuracy && lacksSufficientContributors opts.knownToStartAtZero
      (supportOf ctx opts m ctx.mergedClients)) = true ↔ ¬AccurateAt ctx opts m := by
    unfold AccurateAt
    rw [← lacksSufficientContributors_iff, not_or, not_not, Bool.and_eq_true, Bool.not_eq_true',
      Bool.not_eq_true]
  have hcontested : (supportOf ctx opts m ctx.mergedClients).contested = true ↔
      ¬∀ client ∈ ctx.mergedClients, ¬contestedAt ctx opts m client := by
    unfold supportOf
    simp
  have hcorrected : decide ((supportOf ctx opts m ctx.mergedClients).cleanCount <
      min 2 (supportOf ctx opts m ctx.mergedClients).contiguousCount) = true ↔
      ¬min 2 (ctx.mergedClients.countP (contiguousAt ctx opts m)) ≤ ctx.mergedClients.countP
        fun client => contiguousAt ctx opts m client && cleanAt ctx opts m client := by
    rw [decide_eq_true_iff, not_le]
    rfl
  unfold hasIssues
  rw [Bool.or_eq_true, Bool.or_eq_true, htiming, hcontested, hcorrected]
  constructor
  · rintro ((h | h) | h) hq
    · exact h hq.accurate
    · exact h hq.uncontested
    · exact h hq.uncorrected
  · intro hq
    by_contra hall
    rw [not_or, not_or, not_not, not_not, not_not] at hall
    exact hq ⟨hall.1.1, hall.1.2, hall.2⟩

lemma longest_computeTrustedPrefixes (ctx : MergeContext) (opts : TrustedPrefixOptions) :
    LongestPrefix (AccurateAt ctx opts) opts.totalTicks
        (computeTrustedPrefixes ctx opts).accurateUntil ∧
      LongestPrefix (QueryableAt ctx opts) opts.totalTicks
        (computeTrustedPrefixes ctx opts).queryableUntil := by
  have hsupport : (fun m => if m ≥ opts.offset then
      supportAtTick (m - opts.offset) (collectContributors ctx) ctx.mapping ctx.contestedTicks
      else {}) = fun m => supportOf ctx opts m ctx.mergedClients := funext fun m => support_eq
  have hqueryable := longestPrefix_find (fun m => @hasIssues_iff ctx opts m) opts.totalTicks
  have haccurate : LongestPrefix (AccurateAt ctx opts) opts.totalTicks
      (computeTrustedPrefixes ctx opts).accurateUntil := by
    cases hinherited : opts.inheritedAccuracy with
    | true =>
      rw [accurateUntil_inherited ctx hinherited]
      exact ⟨le_rfl, fun m _ => .inl hinherited, fun hlt => absurd hlt (lt_irrefl _)⟩
    | false =>
      unfold computeTrustedPrefixes
      dsimp only
      rw [hsupport, foldl_next, hinherited]
      refine longestPrefix_find (fun m => ?_) opts.totalTicks
      show lacksSufficientContributors opts.knownToStartAtZero _ = true ↔ _
      unfold AccurateAt
      rw [hinherited, ← lacksSufficientContributors_iff]
      simp
  refine ⟨haccurate, ?_⟩
  have hle := hqueryable.mono haccurate fun m hq => hq.accurate
  have hmin : (computeTrustedPrefixes ctx opts).queryableUntil =
      min (((List.range opts.totalTicks).find? fun m => hasIssues opts.inheritedAccuracy
        opts.knownToStartAtZero (supportOf ctx opts m ctx.mergedClients)).getD opts.totalTicks)
        (computeTrustedPrefixes ctx opts).accurateUntil := by
    unfold computeTrustedPrefixes
    dsimp only
    rw [hsupport, foldl_next]
    rfl
  rw [hmin, min_eq_left hle]
  exact hqueryable

/-! ### The end of a merge -/

namespace MergedTimeline

/-- What the prefixes of an aligned timeline are computed with. -/
def trustedPrefixOptions (w : MergedTimeline) (offset : ℕ) : TrustedPrefixOptions where
  totalTicks := w.ticks.length
  offset
  inheritedAccuracy := w.inheritedAccurate
  referenceMethod := w.reference.method

/-- The timeline is longer than the precise count of the server. -/
def Overlong (w : MergedTimeline) : Prop :=
  w.reference.method = .preciseServer ∧ w.reference.count + 1 < w.ticks.length

variable {w w' : MergedTimeline} {offset : ℕ}

lemma endAlignToReference_cases (h : w.endAlignToReference = .ok (w', offset)) :
    w'.reference = w.reference ∧
      (offset = 0 ∧ w' = w ∧
          (w.reference.method = .recordedTicks ∨ w.reference.count + 1 ≤ w.ticks.length) ∨
        0 < offset ∧ offset = w.reference.count + 1 - w.ticks.length) := by
  unfold endAlignToReference at h
  dsimp only at h
  split_ifs at h with hstays
  · cases h
    exact ⟨rfl, .inl ⟨rfl, rfl, hstays.imp_right fun hle => by omega⟩⟩
  · obtain ⟨shifted, -, h⟩ := Fallible.bind_eq_ok.mp h
    cases h
    exact ⟨rfl, .inr ⟨Nat.pos_of_ne_zero fun h0 => hstays (.inr h0), rfl⟩⟩

lemma knownToStartAtZero_iff (h : w.endAlignToReference = .ok (w', offset)) :
    (w'.trustedPrefixOptions offset).knownToStartAtZero = true ↔
      w.reference.method = .preciseServer ∧ w.reference.count + 1 ≤ w.ticks.length := by
  obtain ⟨href, ⟨rfl, rfl, hlong⟩ | ⟨hpos, heq⟩⟩ := endAlignToReference_cases h
  · unfold TrustedPrefixOptions.knownToStartAtZero
    rw [decide_eq_true_iff]
    constructor
    · rintro ⟨-, hmethod⟩
      refine ⟨hmethod, hlong.resolve_left fun hrecorded => ?_⟩
      cases hmethod.symm.trans hrecorded
    · exact fun hprecise => ⟨rfl, hprecise.1⟩
  · unfold TrustedPrefixOptions.knownToStartAtZero
    rw [decide_eq_true_iff]
    constructor
    · exact fun hzero => absurd hzero.1 hpos.ne'
    · exact fun hprecise => absurd hprecise.2 (by omega)

/-- **The trusted prefixes are maximal**, and they are truthful exactly if the timeline is no
longer than the precise count of the server. -/
theorem trustedPrefixes_truthful (h : w.endAlignToReference = .ok (w', offset)) :
    ∃ events, w.finalizeMerge = .ok events ∧
      (TrustedPrefixes.Truthful w'.ctx (w'.trustedPrefixOptions offset) w.reference
          ⟨events.accurateUntil, events.queryableUntil⟩ ↔ ¬w.Overlong) := by
  unfold finalizeMerge
  rw [h]
  refine ⟨_, rfl, ?_⟩
  show TrustedPrefixes.Truthful w'.ctx (w'.trustedPrefixOptions offset) w.reference
    (computeTrustedPrefixes w'.ctx (w'.trustedPrefixOptions offset)) ↔ _
  obtain ⟨haccurate, hqueryable⟩ :=
    longest_computeTrustedPrefixes w'.ctx (w'.trustedPrefixOptions offset)
  have hzero := knownToStartAtZero_iff h
  constructor
  · rintro htruth ⟨hmethod, hlong⟩
    have hknown := hzero.mpr ⟨hmethod, hlong.le⟩
    have hlength := (htruth.zero hknown).2
    obtain ⟨-, ⟨rfl, rfl, -⟩ | ⟨hpos, heq⟩⟩ := endAlignToReference_cases h
    · exact hlong.ne' hlength
    · omega
  · intro hover
    refine ⟨hqueryable.mono haccurate fun m hq => hq.accurate, haccurate.le, haccurate, hqueryable,
      fun hknown => ?_⟩
    obtain ⟨hmethod, hlong⟩ := hzero.mp hknown
    obtain ⟨-, ⟨rfl, rfl, -⟩ | ⟨hpos, heq⟩⟩ := endAlignToReference_cases h
    · exact ⟨hmethod, le_antisymm (not_lt.mp fun hlt => hover ⟨hmethod, hlt⟩) hlong⟩
    · omega

end MergedTimeline

/-! ### Two spectators -/

namespace Sample

/-- A tick on which a client sees the Maiden, who walks. -/
def watched (clientId : ClientId) (tick : ℕ) : Option TickState :=
  some (.new tick [] ∅ (InsertionMap.set ∅ 1
    { id := 8360, position := { x := tick, y := 0 }, hitpoints := { current := 100, base := 100 }
      attack := none, sourceClientId := clientId }) ∅)

def spectator (clientId : ClientId) (recordedTicks : ℕ) (serverTicks : Option ServerTicks) :
    ClientEvents where
  clientId
  recordedTicks
  accurate := false
  serverTicks
  primaryPlayer := none
  badData := false
  consistencyIssues := []
  corrections := []
  tickStates := (List.range (recordedTicks + 1)).map (watched clientId)
  length_tickStates := by simp

/-- A spectator with a precise server count that has missed ticks, and one with more ticks. -/
def spectators (count : ℕ) : List ClientEvents :=
  [spectator 1 9 (some { count, precise := true }), spectator 2 11 none]

/-- What the spectators' events merge into. -/
def watchedTimeline (count : ℕ) : Option MergedTimeline :=
  (startMerge .tobMaiden (spectators count)).map fun start =>
    (start.run.execAll env true start.steps).timeline

end Sample

/-- The timeline of the spectators is as long as the server count asks for. -/
theorem trustedPrefixes_spectators :
    ∃ w, Sample.watchedTimeline 11 = some w ∧ ∃ events, w.finalizeMerge = .ok events ∧
      events.accurateUntil = 10 ∧
      TrustedPrefixes.Truthful w.ctx (w.trustedPrefixOptions 0) w.reference
        ⟨events.accurateUntil, events.queryableUntil⟩ := by
  obtain ⟨w, hw⟩ : ∃ w, Sample.watchedTimeline 11 = some w :=
    Option.isSome_iff_exists.mp (by decide)
  have hcount : w.reference.count + 1 = w.ticks.length := by
    have h : (Sample.watchedTimeline 11).map (fun w => w.reference.count + 1) =
        (Sample.watchedTimeline 11).map fun w => w.ticks.length := by decide +kernel
    simpa [hw] using h
  have huntil : w.finalizeMerge.toOption.map (·.accurateUntil) = some 10 := by
    have h : (Sample.watchedTimeline 11).map
        (fun w => w.finalizeMerge.toOption.map (·.accurateUntil)) = some (some 10) := by
      decide +kernel
    simpa [hw] using h
  have halign : w.endAlignToReference = .ok (w, 0) := if_pos (.inr (by omega))
  obtain ⟨events, hevents, hiff⟩ := MergedTimeline.trustedPrefixes_truthful halign
  rw [hevents] at huntil
  exact ⟨w, hw, events, hevents, Option.some_inj.mp huntil, hiff.mpr fun h => by have := h.2; omega⟩

/-- A timeline two ticks longer than the precise count counts as starting at tick zero, so that
the spectators' ticks count as accurate. -/
theorem not_truthful_spectators :
    ∃ w, Sample.watchedTimeline 10 = some w ∧ ∃ events, w.finalizeMerge = .ok events ∧
      events.accurateUntil = 10 ∧
      ¬TrustedPrefixes.Truthful w.ctx (w.trustedPrefixOptions 0) w.reference
        ⟨events.accurateUntil, events.queryableUntil⟩ := by
  obtain ⟨w, hw⟩ : ∃ w, Sample.watchedTimeline 10 = some w :=
    Option.isSome_iff_exists.mp (by decide)
  have hlength : w.ticks.length = 12 ∧ w.reference = { count := 10, method := .preciseServer } := by
    have h : (Sample.watchedTimeline 10).map (fun w => (w.ticks.length, w.reference)) =
        some (12, { count := 10, method := .preciseServer }) := by decide +kernel
    simpa [hw] using h
  have huntil : w.finalizeMerge.toOption.map (·.accurateUntil) = some 10 := by
    have h : (Sample.watchedTimeline 10).map
        (fun w => w.finalizeMerge.toOption.map (·.accurateUntil)) = some (some 10) := by
      decide +kernel
    simpa [hw] using h
  cases hfinal : w.finalizeMerge with
  | error e =>
    rw [hfinal] at huntil
    cases huntil
  | ok events =>
    rw [hfinal] at huntil
    refine ⟨w, hw, events, hfinal, Option.some_inj.mp huntil, fun htruth => ?_⟩
    have hknown : (w.trustedPrefixOptions 0).knownToStartAtZero = true :=
      decide_eq_true ⟨rfl, congrArg (·.method) hlength.2⟩
    have hzero := (htruth.zero hknown).2
    rw [show (w.trustedPrefixOptions 0).totalTicks = 12 from hlength.1, hlength.2] at hzero
    cases hzero

end Blert.Merging

import Blert.Merging.Columns

/-!
Composed tick mappings stay exact.

What a merge operation should know of each client merged so far is a partial equivalence between
the client's ticks and the merged ones: the client's own mapping of the step that added it,
composed with the base mappings of the steps since. Walking the chain of steps backwards resolves
merged ticks exactly as these compositions do.
-/

namespace Blert.Merging

/-- Mappings each of which is the inverse of itself. -/
def Mappings.Invertible (maps : Mappings) : Prop :=
  Inverse maps.base.forward maps.base.reverse ∧ Inverse maps.target.forward maps.target.reverse

abbrev StepMappings := { maps : Mappings // maps.Invertible }

namespace StepMappings

def base (maps : StepMappings) : ℕ ≃. ℕ := maps.2.1.equiv

def target (maps : StepMappings) : ℕ ≃. ℕ := maps.2.2.equiv

lemma inverse_identity (n : ℕ) :
    Inverse (TickMapping.identity n).forward (TickMapping.identity n).reverse := by
  intro i p
  have hslot : ∀ i p, slot ((List.range n).map some) i = some p ↔ i < n ∧ i = p := by
    intro i p
    rw [slot_eq_some, List.getElem?_map]
    by_cases hi : i < n <;> simp [hi]
  unfold TickMapping.identity
  rw [hslot, hslot]
  omega

/-- The mappings of a step between accurate clients. -/
def identity (baseTickCount targetTickCount mergedTickCount : ℕ) : StepMappings :=
  ⟨{ base := .identity baseTickCount, target := .identity targetTickCount, mergedTickCount },
    inverse_identity _, inverse_identity _⟩

/-- The mappings of a step between clients whose timelines were aligned. -/
def aligned {τ : Type*} (score : τ → τ → Similarity) (base target : List (Option τ))
    (config : AlignmentConfig) : StepMappings :=
  ⟨fromAlignment base.length target.length
      ((align score base target config).alignments.map LocalAlignment.entries),
    (align_exact score base target config).base_inverse,
    (align_exact score base target config).target_inverse⟩

end StepMappings

/-! ### Sequences of merge steps -/

inductive MappingOp
  | begin (targetClientId : ClientId) (maps : StepMappings)
  | commit
  | discard

namespace MergeMapping

def exec (m : MergeMapping) : MappingOp → MergeMapping
  | .begin targetClientId maps => m.begin targetClientId maps.1
  | .commit => m.commit
  | .discard => m.discard

def run (baseClientId : ClientId) (ops : List MappingOp) : MergeMapping :=
  ops.foldl exec (new baseClientId)

end MergeMapping

/-- What should be known of each client: its mapping by the committed steps, and the step in
flight. -/
structure Composition where
  committed : ClientId → ℕ ≃. ℕ
  inFlight : Option (ClientId × StepMappings)

namespace Composition

/-- No step yet: the base is the merged timeline, and nothing is known of other clients. -/
def new (baseClientId : ClientId) : Composition where
  committed := fun clientId => if clientId = baseClientId then PEquiv.refl ℕ else ⊥
  inFlight := none

/-- A step adds its target and takes the clients merged before along. -/
def extend (committed : ClientId → ℕ ≃. ℕ) (step : ClientId × StepMappings) :
    ClientId → ℕ ≃. ℕ := fun clientId =>
  if step.1 = clientId then step.2.target else (committed clientId).trans step.2.base

def exec (s : Composition) : MappingOp → Composition
  | .begin targetClientId maps => { s with inFlight := some (targetClientId, maps) }
  | .commit =>
    match s.inFlight with
    | some step => { committed := extend s.committed step, inFlight := none }
    | none => s
  | .discard => { s with inFlight := none }

def run (baseClientId : ClientId) (ops : List MappingOp) : Composition :=
  ops.foldl exec (new baseClientId)

/-- The mapping of a client by the committed steps and the one in flight. -/
def mapping (s : Composition) : ClientId → ℕ ≃. ℕ :=
  match s.inFlight with
  | some step => extend s.committed step
  | none => s.committed

end Composition

/-! ### Resolving ticks -/

/-- The mapping operation holds what should be known, and its chain resolves as the committed
steps compose. -/
structure Holds (baseClientId : ClientId) (m : MergeMapping) (s : Composition) : Prop where
  base : m.baseClientId = baseClientId
  inFlight : m.inFlight = s.inFlight.map fun step =>
    { targetClientId := step.1, mappings := step.2.1 }
  chain : ∀ clientId p, MergeMapping.resolveChain baseClientId clientId m.chain.reverse p =
    (s.committed clientId).symm p

lemma resolve_extend {committed : ClientId → ℕ ≃. ℕ} {step : ClientId × StepMappings}
    {clientId : ClientId} {p : ℕ} {rest : ℕ → Option ℕ}
    (h : ∀ p, rest p = (committed clientId).symm p) :
    (if step.1 = clientId then step.2.1.target.toClient p
      else match step.2.1.base.toClient p with
        | some current => rest current
        | none => none) = (Composition.extend committed step clientId).symm p := by
  unfold Composition.extend
  split_ifs with hid
  · rfl
  · have hbase : step.2.1.base.toClient p = step.2.base.symm p := rfl
    rw [PEquiv.symm_trans_rev, hbase]
    show _ = (step.2.base.symm p).bind _
    cases step.2.base.symm p with
    | none => rfl
    | some current => exact h current

section Run

variable {baseClientId : ClientId} {m : MergeMapping} {s : Composition}

lemma holds_new : Holds baseClientId (.new baseClientId) (.new baseClientId) where
  base := rfl
  inFlight := rfl
  chain clientId p := by
    unfold MergeMapping.new Composition.new
    simp only [List.reverse_nil, MergeMapping.resolveChain]
    split_ifs <;> rfl

lemma holds_exec (h : Holds baseClientId m s) (op : MappingOp) :
    Holds baseClientId (m.exec op) (s.exec op) := by
  cases op with
  | begin targetClientId maps => exact ⟨h.base, rfl, h.chain⟩
  | discard => exact ⟨h.base, rfl, h.chain⟩
  | commit =>
    have hin := h.inFlight
    cases hs : s.inFlight with
    | none =>
      rw [hs] at hin
      simpa [MergeMapping.exec, MergeMapping.commit, Composition.exec, hin, hs] using h
    | some step =>
      rw [hs] at hin
      simp only [MergeMapping.exec, MergeMapping.commit, Composition.exec, hin, hs,
        Option.map_some]
      refine ⟨h.base, rfl, fun clientId p => ?_⟩
      rw [List.reverse_append]
      exact resolve_extend (h.chain clientId)

lemma holds_run (baseClientId : ClientId) (ops : List MappingOp) :
    Holds baseClientId (.run baseClientId ops) (.run baseClientId ops) := by
  induction ops using List.reverseRecOn with
  | nil => exact holds_new
  | append_singleton ops op ih =>
    unfold MergeMapping.run Composition.run
    rw [List.foldl_append, List.foldl_append]
    exact holds_exec ih op

lemma Holds.resolve (h : Holds baseClientId m s) (p : ℕ) (clientId : ClientId) :
    m.resolveClientTick p clientId = (s.mapping clientId).symm p := by
  have hin := h.inFlight
  unfold MergeMapping.resolveClientTick Composition.mapping
  cases hs : s.inFlight with
  | none =>
    rw [hs] at hin
    rw [hin, h.base]
    exact h.chain clientId p
  | some step =>
    rw [hs] at hin
    rw [hin, h.base]
    exact resolve_extend (h.chain clientId)

lemma run_discarded (ops : List MappingOp) (targetClientId : ClientId) (maps : StepMappings)
    (h : (MergeMapping.run baseClientId ops).inFlight = none) :
    MergeMapping.run baseClientId (ops ++ [.begin targetClientId maps, .discard]) =
      MergeMapping.run baseClientId ops := by
  unfold MergeMapping.run at h ⊢
  rw [List.foldl_append]
  generalize ops.foldl MergeMapping.exec (.new baseClientId) = m at h
  obtain ⟨b, chain, inFlight⟩ := m
  cases h
  rfl

end Run

/-- **Composed tick mappings stay exact.** After any sequence of beginning, committing and
discarding merge steps, the composed mapping of every client is injective, a merged tick resolves
to a client's tick exactly when the composed mapping takes that tick there, and a step that was
discarded changes nothing that is answered afterwards. -/
theorem composed_exact (baseClientId : ClientId) (ops : List MappingOp) :
    let mapping := (Composition.run baseClientId ops).mapping
    let m := MergeMapping.run baseClientId ops
    (∀ clientId t t' p, mapping clientId t = some p → mapping clientId t' = some p → t = t') ∧
    (∀ clientId p t, m.resolveClientTick p clientId = some t ↔ mapping clientId t = some p) ∧
    (m.inFlight = none → ∀ targetClientId maps rest p clientId,
      (MergeMapping.run baseClientId
        (ops ++ [.begin targetClientId maps, .discard] ++ rest)).resolveClientTick p clientId =
      (MergeMapping.run baseClientId (ops ++ rest)).resolveClientTick p clientId) := by
  intro mapping m
  refine ⟨fun clientId t t' p h h' => (mapping clientId).inj h h', fun clientId p t => ?_,
    fun hnone targetClientId maps rest p clientId => ?_⟩
  · rw [(holds_run baseClientId ops).resolve p clientId]
    exact (mapping clientId).mem_iff_mem
  · have hrun := run_discarded ops targetClientId maps hnone
    unfold MergeMapping.run at hrun ⊢
    rw [List.foldl_append, hrun, ← List.foldl_append]

end Blert.Merging

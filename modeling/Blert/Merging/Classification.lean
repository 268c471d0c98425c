import Blert.Merging.Context

/-!
Which client a merge starts from.

Clients whose tick counts are accurate but differ are demoted to the most common count, or all of
them if there is none. The base is an accurate client, or else the most complete one, and other
clients match it if they are accurate too.
-/

namespace Blert.Merging

inductive ReferenceSelectionMethod
  | accurateModal | preciseServer | impreciseServer | recordedTicks
  deriving DecidableEq

structure ReferenceSelection where
  count : ℕ
  method : ReferenceSelectionMethod
  deriving DecidableEq

structure ClassifiedClients where
  base : ClientEvents
  matching : List ClientEvents
  mismatched : List ClientEvents
  referenceTicks : ReferenceSelection

def modes (ks : List ℕ) : List ℕ :=
  ks.dedup.filter fun k => ks.count k = (ks.map ks.count).max?.getD 0

/-- The modal tick count, the highest one of a tie. -/
def getConsensusTicks (clients : List ClientEvents) (key : ClientEvents → ℕ) : ℕ :=
  (modes (clients.map key)).max?.getD 0

/-- The most complete client, with participants and client IDs as tiebreakers. -/
def selectBaseClient (clients : List ClientEvents) : Option ClientEvents :=
  (clients.insertionSort fun a b =>
    b.getFinalTick < a.getFinalTick ∨ b.getFinalTick = a.getFinalTick ∧
      (a.isSpectator < b.isSpectator ∨ a.isSpectator = b.isSpectator ∧
        a.clientId ≤ b.clientId)).head?

/-- The tick count a server reported, if it is precise or not as asked for. -/
def serverCount (precise : Bool) (client : ClientEvents) : Option ℕ :=
  (client.serverTicks.filter (·.precise = precise)).map ServerTicks.count

/-- The reference tick count of a stage without accurate clients. -/
def selectReferenceCount (clients : List ClientEvents) : ReferenceSelection :=
  let precise := clients.filterMap (serverCount true)
  let imprecise := clients.filterMap (serverCount false)
  if precise ≠ [] then
    { count := (modes precise).max?.getD 0, method := .preciseServer }
  else if imprecise ≠ [] then
    { count := (modes imprecise).max?.getD 0, method := .impreciseServer }
  else
    { count := (clients.map ClientEvents.getFinalTick).max?.getD 0, method := .recordedTicks }

/-- The base of a merge and the reference tick count. -/
def selectBase (clients : List ClientEvents) : Option (ClientEvents × ReferenceSelection) :=
  let accurateClients := clients.filter ClientEvents.isAccurate
  if accurateClients ≠ [] then do
    let referenceTicks := getConsensusTicks accurateClients ClientEvents.getFinalTick
    let candidates := accurateClients.filter (·.getFinalTick = referenceTicks)
    let base ← (candidates.insertionSort (·.clientId ≤ ·.clientId)).head?
    return (base, { count := referenceTicks, method := .accurateModal })
  else do
    let base ← selectBaseClient clients
    return (base, selectReferenceCount clients)

/-- Splits clients into the base, those that match it, and those that do not. There is no base
only without clients. -/
def classifyClients (clients : List ClientEvents) : Option ClassifiedClients := do
  let (base, referenceTicks) ← selectBase clients
  let others := clients.filter (·.clientId ≠ base.clientId)
  let isMatching := fun client : ClientEvents =>
    base.isAccurate && client.isAccurate && client.getFinalTick = referenceTicks.count
  return { base, referenceTicks, matching := others.filter isMatching,
           mismatched := others.filter fun client => !isMatching client }

/-- A client that has been demoted, if its accurate tick count is not the only mode of those of
all clients. -/
def demote (clients : List ClientEvents) (client : ClientEvents) : ClientEvents :=
  let accurateTicks := (clients.filter ClientEvents.isAccurate).map ClientEvents.getFinalTick
  if client.isAccurate ∧ modes accurateTicks ≠ [client.getFinalTick] then client.setAccurate false
  else client

def classifyAndUpdateClients (clients : List ClientEvents) : Option ClassifiedClients :=
  classifyClients (clients.map (demote clients))

/-! ### An accurate base -/

lemma method_selectReferenceCount (clients : List ClientEvents) :
    (selectReferenceCount clients).method ≠ .accurateModal := by
  unfold selectReferenceCount
  dsimp only
  split_ifs <;> nofun

lemma accurate_base {clients : List ClientEvents} {c : ClassifiedClients}
    (h : classifyClients clients = some c) (hmode : c.referenceTicks.method = .accurateModal) :
    c.base.isAccurate = true ∧ c.base.getFinalTick = c.referenceTicks.count := by
  obtain ⟨⟨base, reference⟩, hbase, h⟩ := Option.bind_eq_some_iff.mp h
  cases h
  unfold selectBase at hbase
  dsimp only at hbase hmode ⊢
  split_ifs at hbase with haccurate
  · obtain ⟨b, hb, hbase⟩ := Option.bind_eq_some_iff.mp hbase
    cases hbase
    have hmem := (List.perm_insertionSort _ _).mem_iff.mp (List.mem_of_mem_head? hb)
    obtain ⟨hacc, hticks⟩ := List.mem_filter.mp hmem
    exact ⟨(List.mem_filter.mp hacc).2, of_decide_eq_true hticks⟩
  · obtain ⟨b, -, hbase⟩ := Option.bind_eq_some_iff.mp hbase
    cases hbase
    exact absurd hmode (method_selectReferenceCount clients)

lemma selectBase_mem {clients : List ClientEvents} {base : ClientEvents}
    {reference : ReferenceSelection} (h : selectBase clients = some (base, reference)) :
    base ∈ clients := by
  unfold selectBase at h
  dsimp only at h
  split_ifs at h
  · obtain ⟨b, hb, h⟩ := Option.bind_eq_some_iff.mp h
    cases h
    have hmem := (List.perm_insertionSort _ _).mem_iff.mp (List.mem_of_mem_head? hb)
    exact List.mem_of_mem_filter (List.mem_of_mem_filter hmem)
  · obtain ⟨b, hb, h⟩ := Option.bind_eq_some_iff.mp h
    cases h
    exact (List.perm_insertionSort _ _).mem_iff.mp (List.mem_of_mem_head? hb)

/-- The base is one of the clients, and every client with another ID comes out of the
classification once. -/
lemma perm_classifyClients {clients : List ClientEvents} {c : ClassifiedClients}
    (h : classifyClients clients = some c) :
    c.base ∈ clients ∧
      (c.matching ++ c.mismatched).Perm (clients.filter (·.clientId ≠ c.base.clientId)) := by
  obtain ⟨⟨base, reference⟩, hbase, h⟩ := Option.bind_eq_some_iff.mp h
  cases h
  exact ⟨selectBase_mem hbase, List.filter_append_perm _ _⟩

lemma clientId_demote (clients : List ClientEvents) (client : ClientEvents) :
    (demote clients client).clientId = client.clientId := by
  unfold demote
  dsimp only
  split_ifs <;> rfl

end Blert.Merging

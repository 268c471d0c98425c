import Blert.Fence
import Blert.Redis.Scripts

/-!
Every challenge in the store is a fenced resource.

A start creates it and grants the initial epoch, a claim grants the next one, and the scripts of
its owner go through under the last epoch granted only. A deletion takes the challenge out of
the index together with its fence, so that nothing can claim it any more.
-/

namespace Blert.Redis

open Blert.Lifecycle

/-! ### Calls and what they grant -/

def Call.grants : Call → Reply → List (Uuid × Epoch)
  | .claim _ _ _ _ _, .claimed claims => claims
  | .start args _, .start (.created _) => [(args.uuid, Epoch.initial)]
  | _, _ => []

/-- The uuid a call makes up for the challenge it may create. -/
def Call.fresh : Call → Option Uuid
  | .start args _ => some args.uuid
  | _ => none

/-- The store, and every epoch granted so far. -/
structure System where
  store : Store
  granted : List (Uuid × Epoch)

namespace System

def init : System := { store := .empty, granted := [] }

def step (sys : System) (c : Call) : System :=
  { store := (c.exec sys.store).2, granted := sys.granted ++ c.grants (c.exec sys.store).1 }

def run (cs : List Call) : System := cs.foldl step init

@[simp] lemma run_nil : run [] = init := rfl
lemma run_snoc (cs : List Call) (c : Call) : run (cs ++ [c]) = (run cs).step c := by
  simp [run]

end System

/-! ### What a script leaves alone -/

/-- The part of the store that decides who owns what. -/
def Store.tenure (s : Store) :
    (Uuid → Option Lease) × OrdMap Uuid Timestamp × (Uuid → List JournalRecord) × Finset Uuid :=
  (s.lease, s.index, s.journal, s.expiring)

lemma tenure_fold {α : Type*} {f : Store → α → Store} (h : ∀ s a, (f s a).tenure = s.tenure)
    (as : List α) (s : Store) : (as.foldl f s).tenure = s.tenure := by
  induction as generalizing s with
  | nil => rfl
  | cons a as ih => exact (ih _).trans (h s a)

lemma tenure_leavePrevious (args : StartArgs) (now : Timestamp) (s : Store) (target : Uuid) :
    (leavePrevious args now s target).tenure = s.tenure := by
  unfold leavePrevious
  split
  · split_ifs <;> rfl
  · rfl

lemma tenure_startJoin (args : StartArgs) (now : Timestamp) (incumbent : Uuid) (s : Store) :
    (startJoin args now incumbent s).2.tenure = s.tenure :=
  tenure_leavePrevious args now s incumbent

lemma tenure_startCreate (args : StartArgs) (now : Timestamp) (s : Store) :
    (startCreate args now s).2.tenure =
      (Function.update s.lease args.uuid (some { fence := Epoch.initial, owner := args.creator }),
        s.index.insert args.uuid args.deadline, s.journal, s.expiring) := by
  have hleave := tenure_leavePrevious args now s args.uuid
  have hplayers := tenure_fold (f := fun s key => s.setRoute key args.uuid) (fun _ _ => rfl)
    args.players
  simp only [Store.tenure, Prod.mk.injEq] at hleave
  obtain ⟨h1, h2, h3, h4⟩ := hleave
  unfold startCreate
  dsimp only
  refine (hplayers _).trans ?_
  simp only [Store.tenure, Store.setRoute, h1, h2, h3, h4]

lemma tenure_rejoin (now : Timestamp) (uuid : Uuid) (client : RoutingKey) (join : Command)
    (s : Store) : (REJOIN now uuid client join s).2.tenure = s.tenure := by
  unfold REJOIN
  split_ifs <;> rfl

lemma tenure_send (now : Timestamp) (uuid : Uuid) (cmd : Command) (s : Store) :
    (SEND now uuid cmd s).2.tenure = s.tenure := by
  unfold SEND
  split_ifs <;> rfl

lemma tenure_clientSend (now : Timestamp) (client : RoutingKey) (cmd : Command) (s : Store) :
    (CLIENT_SEND now client cmd s).2.tenure = s.tenure := by
  unfold CLIENT_SEND
  split
  · rfl
  · split_ifs <;> rfl

lemma tenure_expireState (uuid : Uuid) (s : Store) :
    (expireState uuid s).tenure = s.tenure := by
  unfold expireState
  split_ifs <;> rfl

lemma delete_accepted {s : Store} {uuid : Uuid} {epoch : Epoch}
    (h : s.fence uuid = some epoch) (session : Uuid) (routes : Finset RoutingKey) :
    (DELETE uuid epoch session routes s).1 = true ∧
      (DELETE uuid epoch session routes s).2.tenure =
        (Function.update s.lease uuid none, s.index.erase uuid, s.journal,
          insert uuid s.expiring) := by
  unfold DELETE fenced
  rw [if_pos h]
  exact ⟨rfl, rfl⟩

/-! ### Challenges as fenced resources -/

def fenceOf (s : Store) (granted : List (Uuid × Epoch)) (uuid : Uuid) : Fence Epoch where
  holder := s.fence uuid
  granted := (granted.filter (·.1 = uuid)).map (·.2)
  written := (s.journal uuid).map JournalRecord.epoch

lemma fenceOf_tenure {s s' : Store} (h : s'.tenure = s.tenure) (granted : List (Uuid × Epoch))
    (uuid : Uuid) : fenceOf s' granted uuid = fenceOf s granted uuid := by
  simp only [Store.tenure, Prod.mk.injEq] at h
  simp only [fenceOf, Store.fence, h.1, h.2.2.1]

/-- The invariant of the store: what is indexed has a fence, and what was deleted does not. -/
structure Owned (s : Store) (granted : List (Uuid × Epoch)) : Prop where
  fence : ∀ uuid, (fenceOf s granted uuid).Inv
  indexed : ∀ uuid, s.index.contains uuid = true → ∃ epoch, s.fence uuid = some epoch
  expiring : ∀ uuid ∈ s.expiring, s.fence uuid = none ∧ uuid ∈ granted.map (·.1)

lemma owned_of_tenure {s s' : Store} {granted : List (Uuid × Epoch)} (h : Owned s granted)
    (ht : s'.tenure = s.tenure) : Owned s' granted := by
  have hfence := fenceOf_tenure ht granted
  simp only [Store.tenure, Prod.mk.injEq] at ht
  obtain ⟨h1, h2, -, h4⟩ := ht
  have hf : ∀ uuid, s'.fence uuid = s.fence uuid := fun uuid => by simp only [Store.fence, h1]
  refine ⟨fun uuid => by rw [hfence]; exact h.fence uuid, fun uuid hu => ?_, fun uuid hu => ?_⟩
  · rw [hf]
    exact h.indexed uuid (h2 ▸ hu)
  · rw [hf]
    exact h.expiring uuid (h4 ▸ hu)

lemma granted_of_fence {s : Store} {granted : List (Uuid × Epoch)} (h : Owned s granted)
    {uuid : Uuid} {epoch : Epoch} (hf : s.fence uuid = some epoch) : (uuid, epoch) ∈ granted := by
  have hmem := ((h.fence uuid).latest epoch hf).1
  obtain ⟨p, hp, rfl⟩ := List.mem_map.mp hmem
  obtain ⟨hp, hu⟩ := List.mem_filter.mp hp
  have hu : p.1 = uuid := by simpa using hu
  rw [← hu]
  exact hp

/-- A step keeps the invariant and moves each challenge's fence by steps of its own. -/
def Moves (s : Store) (granted : List (Uuid × Epoch)) (s' : Store)
    (granted' : List (Uuid × Epoch)) : Prop :=
  Owned s' granted' ∧
    ∀ uuid, Fence.Steps (fenceOf s granted uuid) (fenceOf s' granted' uuid)

lemma moves_of_tenure {s s' : Store} {granted : List (Uuid × Epoch)} (h : Owned s granted)
    (ht : s'.tenure = s.tenure) : Moves s granted s' granted :=
  ⟨owned_of_tenure h ht, fun uuid => by rw [fenceOf_tenure ht]⟩

lemma moves_of_steps {s s' : Store} {granted granted' : List (Uuid × Epoch)}
    (h : Owned s granted)
    (hsteps : ∀ uuid, Fence.Steps (fenceOf s granted uuid) (fenceOf s' granted' uuid))
    (hindexed : ∀ uuid, s'.index.contains uuid = true → ∃ epoch, s'.fence uuid = some epoch)
    (hexpiring : ∀ uuid ∈ s'.expiring, s'.fence uuid = none ∧ uuid ∈ granted'.map (·.1)) :
    Moves s granted s' granted' :=
  ⟨⟨fun uuid => (h.fence uuid).run (hsteps uuid), hindexed, hexpiring⟩, hsteps⟩

/-! ### The scripts of an owner -/

lemma moves_reindex {s : Store} {granted : List (Uuid × Epoch)} (h : Owned s granted)
    {uuid : Uuid} {epoch : Epoch} (hf : s.fence uuid = some epoch) (deadline : Timestamp) :
    Moves s granted { s with index := s.index.insert uuid deadline } granted := by
  refine moves_of_steps h (fun u => Relation.ReflTransGen.refl) (fun u hu => ?_) h.expiring
  rcases OrdMap.contains_insert.1 hu with rfl | hu
  · exact ⟨epoch, hf⟩
  · exact h.indexed u hu

lemma moves_append {s s' : Store} {granted : List (Uuid × Epoch)} (h : Owned s granted)
    {uuid : Uuid} {epoch : Epoch} (hf : s.fence uuid = some epoch) {batch : List JournalEntry}
    (ht : s'.tenure = (s.lease, s.index,
      Function.update s.journal uuid (s.journal uuid ++ [⟨epoch, batch⟩]), s.expiring)) :
    Moves s granted s' granted := by
  simp only [Store.tenure, Prod.mk.injEq] at ht
  obtain ⟨hl, hi, hj, he⟩ := ht
  have hfence : ∀ u, s'.fence u = s.fence u := fun u => by simp only [Store.fence, hl]
  refine moves_of_steps h (fun u => ?_) (fun u hu => ?_) (fun u hu => ?_)
  · by_cases hu : u = uuid
    · subst hu
      have hstep := Fence.Step.write (f := fenceOf s granted u) hf
      refine Relation.ReflTransGen.single ?_
      simpa [fenceOf, hfence, hj] using hstep
    · have hsame : fenceOf s' granted u = fenceOf s granted u := by
        simp [fenceOf, hfence, hu, hj]
      rw [hsame]
  · rw [hfence]
    exact h.indexed u (hi ▸ hu)
  · rw [hfence]
    exact h.expiring u (he ▸ hu)

lemma moves_delete {s s' : Store} {granted : List (Uuid × Epoch)} (h : Owned s granted)
    {uuid : Uuid} {epoch : Epoch} (hf : s.fence uuid = some epoch)
    (ht : s'.tenure = (Function.update s.lease uuid none, s.index.erase uuid, s.journal,
      insert uuid s.expiring)) : Moves s granted s' granted := by
  simp only [Store.tenure, Prod.mk.injEq] at ht
  obtain ⟨hl, hi, hj, he⟩ := ht
  have hfence : ∀ u, s'.fence u = if u = uuid then none else s.fence u := by
    intro u
    unfold Store.fence
    rw [hl]
    by_cases hu : u = uuid
    · subst hu
      simp
    · simp [hu]
  refine moves_of_steps h (fun u => ?_) (fun u hu => ?_) (fun u hu => ?_)
  · by_cases hu : u = uuid
    · subst hu
      have hstep := Fence.Step.destroy (f := fenceOf s granted u) hf
      refine Relation.ReflTransGen.single ?_
      simpa [fenceOf, hfence, hj] using hstep
    · have hsame : fenceOf s' granted u = fenceOf s granted u := by
        simp [fenceOf, hfence, hu, hj]
      rw [hsame]
  · rw [hi] at hu
    have hne : u ≠ uuid := by
      rintro rfl
      simp [OrdMap.contains, OrdMap.get_erase] at hu
    rw [OrdMap.contains_erase_of_ne hne] at hu
    rw [hfence, if_neg hne]
    exact h.indexed u hu
  · rw [he] at hu
    rw [hfence]
    rcases Finset.mem_insert.mp hu with rfl | hu
    · exact ⟨if_pos rfl, List.mem_map.mpr ⟨_, granted_of_fence h hf, rfl⟩⟩
    · refine ⟨?_, (h.expiring u hu).2⟩
      split_ifs
      · rfl
      · exact (h.expiring u hu).1

lemma moves_owned {s : Store} {granted : List (Uuid × Epoch)} (h : Owned s granted) {c : Call}
    {uuid : Uuid} {epoch : Epoch} (hc : c.owned = some (uuid, epoch)) :
    Moves s granted (c.exec s).2 granted := by
  by_cases hf : s.fence uuid = some epoch
  · have hfenced : ∀ writes, fenced uuid epoch writes s = (true, writes s) := fun _ => if_pos hf
    cases c with
    | renew u e deadline =>
      cases hc
      simp only [Call.exec, RENEW, hfenced]
      exact moves_reindex h hf deadline
    | release u e =>
      cases hc
      simp only [Call.exec, RELEASE, hfenced]
      exact moves_reindex h hf 0
    | append u e batch =>
      cases hc
      simp only [Call.exec, APPEND, hfenced]
      exact moves_append h hf rfl
    | project u e signal snapshot clients =>
      cases hc
      simp only [Call.exec, PROJECT, hfenced]
      exact moves_of_tenure h rfl
    | announce u e update =>
      cases hc
      simp only [Call.exec, ANNOUNCE, hfenced]
      exact moves_of_tenure h rfl
    | markProcessed u e stages =>
      cases hc
      simp only [Call.exec, SEAL, hfenced]
      exact moves_of_tenure h rfl
    | removeStream u e stage =>
      cases hc
      simp only [Call.exec, REMOVE_STREAM, hfenced]
      exact moves_of_tenure h rfl
    | delete u e session routes =>
      cases hc
      exact moves_delete h hf (delete_accepted hf session routes).2
    | _ => cases hc
  · rw [exec_of_stale hc hf]
    exact moves_of_tenure h rfl

/-! ### Claims and starts -/

lemma filter_grant (granted : List (Uuid × Epoch)) (uuid u : Uuid) (epoch : Epoch) :
    ((granted ++ [(uuid, epoch)]).filter (·.1 = u)).map (·.2) =
      (granted.filter (·.1 = u)).map (·.2) ++ if uuid = u then [epoch] else [] := by
  rw [List.filter_append, List.map_append]
  by_cases h : uuid = u <;> simp [h]

lemma moves_grant {s s' : Store} {granted : List (Uuid × Epoch)} (h : Owned s granted)
    {uuid : Uuid} {epoch : Epoch} {owner : Identity} {deadline : Timestamp}
    (ht : s'.tenure = (Function.update s.lease uuid (some ⟨epoch, owner⟩),
      s.index.insert uuid deadline, s.journal, s.expiring))
    (hgrant : (fenceOf s granted uuid).Step { fenceOf s granted uuid with
      holder := some epoch, granted := (fenceOf s granted uuid).granted ++ [epoch] })
    (hlive : uuid ∉ s.expiring) :
    Moves s granted s' (granted ++ [(uuid, epoch)]) := by
  simp only [Store.tenure, Prod.mk.injEq] at ht
  obtain ⟨hl, hi, hj, he⟩ := ht
  have hfence : ∀ u, s'.fence u = if u = uuid then some epoch else s.fence u := by
    intro u
    unfold Store.fence
    rw [hl]
    by_cases hu : u = uuid
    · subst hu
      simp
    · simp [hu]
  refine moves_of_steps h (fun u => ?_) (fun u hu => ?_) (fun u hu => ?_)
  · unfold fenceOf
    rw [filter_grant]
    by_cases hu : u = uuid
    · subst hu
      refine Relation.ReflTransGen.single ?_
      simpa [fenceOf, hfence, hj] using hgrant
    · have hne : uuid ≠ u := fun heq => hu heq.symm
      simp only [hfence, if_neg hu, if_neg hne, List.append_nil, hj]
      exact Relation.ReflTransGen.refl
  · rw [hfence]
    split_ifs with heq
    · exact ⟨_, rfl⟩
    · rcases OrdMap.contains_insert.1 (hi ▸ hu) with hu | hu
      · exact absurd hu heq
      · exact h.indexed u hu
  · rw [he] at hu
    obtain ⟨hnone, hmem⟩ := h.expiring u hu
    have hne : u ≠ uuid := fun heq => hlive (heq ▸ hu)
    rw [hfence, if_neg hne]
    refine ⟨hnone, ?_⟩
    rw [List.map_append]
    exact List.mem_append_left _ hmem

lemma moves_claimOne {s : Store} {granted : List (Uuid × Epoch)} (h : Owned s granted)
    {uuid : Uuid} {epoch : Epoch} (hf : s.fence uuid = some epoch) (claimant : Identity)
    (deadline : Timestamp) :
    Moves s granted (claimOne claimant deadline s uuid).2
      (granted ++ [(uuid, (claimOne claimant deadline s uuid).1)]) := by
  have hepoch : (s.fence uuid).getD 0 + 1 = epoch + 1 := by rw [hf]; rfl
  unfold claimOne
  simp only [hepoch]
  refine moves_grant h rfl (Fence.Step.grant (epoch + 1) hf (Nat.lt_succ_self _)) fun hex => ?_
  rw [(h.expiring uuid hex).1] at hf
  cases hf

lemma Moves.trans {s s' s'' : Store} {granted granted' granted'' : List (Uuid × Epoch)}
    (h : Moves s granted s' granted') (h' : Moves s' granted' s'' granted'') :
    Moves s granted s'' granted'' :=
  ⟨h'.1, fun uuid => (h.2 uuid).trans (h'.2 uuid)⟩

lemma moves_claimAll (claimant : Identity) (now deadline : Timestamp) (batchSize : ℕ)
    (skip : List Uuid) (granted : List (Uuid × Epoch)) :
    ∀ (index : List (Uuid × Timestamp)) (claimed : List (Uuid × Epoch)) (s : Store),
      Owned s (granted ++ claimed) → (∀ p ∈ index, ∃ epoch, s.fence p.1 = some epoch) →
      Moves s (granted ++ claimed)
        (claimAll claimant now deadline batchSize skip index claimed s).2
        (granted ++ (claimAll claimant now deadline batchSize skip index claimed s).1) := by
  intro index
  induction index with
  | nil => exact fun claimed s h _ => moves_of_tenure h rfl
  | cons p index ih =>
    obtain ⟨uuid, lapse⟩ := p
    intro claimed s h hidx
    have hrest : ∀ p ∈ index, ∃ epoch, s.fence p.1 = some epoch :=
      fun p hp => hidx p (List.mem_cons_of_mem _ hp)
    unfold claimAll
    split_ifs
    · exact moves_of_tenure h rfl
    · obtain ⟨epoch, hf⟩ := hidx _ List.mem_cons_self
      have hone := moves_claimOne h hf claimant deadline
      rw [List.append_assoc] at hone
      refine hone.trans (ih _ _ hone.1 fun p hp => ?_)
      obtain ⟨e, he⟩ := hrest p hp
      by_cases hu : p.1 = uuid
      · exact ⟨_, by simp [claimOne, Store.fence, hu]; rfl⟩
      · exact ⟨e, by simpa [claimOne, Store.fence, hu] using he⟩
    · exact ih claimed s h hrest

lemma moves_claim {s : Store} {granted : List (Uuid × Epoch)} (h : Owned s granted)
    (claimant : Identity) (now deadline : Timestamp) (batchSize : ℕ) (skip : List Uuid) :
    Moves s granted (CLAIM claimant now deadline batchSize skip s).2
      (granted ++ (CLAIM claimant now deadline batchSize skip s).1) := by
  have hpass := moves_claimAll claimant now deadline batchSize skip granted
    (s.index.entries.insertionSort indexLe) [] s (by simpa using h) fun p hp => ?_
  · rwa [List.append_nil] at hpass
  · have hp : (p.1, p.2) ∈ s.index.entries := (List.mem_insertionSort _).mp hp
    exact h.indexed p.1 (OrdMap.contains_iff.mpr ⟨p.2, OrdMap.mem_entries.mp hp⟩)

lemma moves_startCreate {s : Store} {granted : List (Uuid × Epoch)} (h : Owned s granted)
    {args : StartArgs} (hnew : args.uuid ∉ granted.map (·.1)) (now : Timestamp) :
    Moves s granted (startCreate args now s).2
      (granted ++ [(args.uuid, Epoch.initial)]) := by
  have hnone : (fenceOf s granted args.uuid).granted = [] := by
    unfold fenceOf
    rw [List.map_eq_nil_iff, List.filter_eq_nil_iff]
    intro p hp heq
    exact hnew (List.mem_map.mpr ⟨p, hp, by simpa using heq⟩)
  have hcreate := Fence.Step.create Epoch.initial hnone
  refine moves_grant h (tenure_startCreate args now s) ?_ fun hex =>
    hnew (h.expiring args.uuid hex).2
  rw [hnone]
  exact hcreate

lemma moves_start {s : Store} {granted : List (Uuid × Epoch)} (h : Owned s granted)
    {args : StartArgs} (hnew : args.uuid ∉ granted.map (·.1)) (now : Timestamp) :
    Moves s granted (START args now s).2
      (granted ++ (Call.start args now).grants (.start (START args now s).1)) := by
  have hcreate : Moves s granted (startCreate args now s).2
      (granted ++ (Call.start args now).grants (.start (startCreate args now s).1)) :=
    moves_startCreate h hnew now
  unfold START
  split
  · rename_i incumbent _
    split_ifs
    · show Moves s granted (startJoin args now incumbent s).2 (granted ++ [])
      rw [List.append_nil]
      exact moves_of_tenure h (tenure_startJoin args now incumbent s)
    · exact hcreate
  · exact hcreate

lemma moves_expireStreams {s : Store} {granted : List (Uuid × Epoch)} (h : Owned s granted)
    (uuid : Uuid) : Moves s granted (expireStreams uuid s) granted := by
  unfold expireStreams
  split_ifs with hex
  · obtain ⟨hnone, -⟩ := h.expiring uuid hex
    refine moves_of_steps h (fun u => ?_) h.indexed h.expiring
    by_cases hu : u = uuid
    · subst hu
      have hstep := Fence.Step.forget (f := fenceOf s granted u) hnone
      refine Relation.ReflTransGen.single ?_
      simpa [fenceOf, Store.fence] using hstep
    · simp only [fenceOf, Store.fence, Function.update_of_ne hu]
      exact Relation.ReflTransGen.refl
  · exact moves_of_tenure h rfl

/-! ### The run -/

lemma grants_of_owned {c : Call} {reply : Reply} {uuid : Uuid} {epoch : Epoch}
    (h : c.owned = some (uuid, epoch)) : c.grants reply = [] := by
  cases c <;> first | rfl | cases h

/-- **Every call is a step of the fences**, if what it creates was never granted before. -/
theorem moves_exec {s : Store} {granted : List (Uuid × Epoch)} (h : Owned s granted) {c : Call}
    (hnew : ∀ uuid, c.fresh = some uuid → uuid ∉ granted.map (·.1)) :
    Moves s granted (c.exec s).2 (granted ++ c.grants (c.exec s).1) := by
  have hsame : ∀ s', Moves s granted s' granted → Moves s granted s' (granted ++ []) := by
    intro s' hmove
    rwa [List.append_nil]
  cases hc : c.owned with
  | some p =>
    rw [grants_of_owned hc]
    exact hsame _ (moves_owned h hc)
  | none =>
    cases c with
    | claim claimant now deadline batchSize skip =>
      exact moves_claim h claimant now deadline batchSize skip
    | start args now => exact moves_start h (hnew _ rfl) now
    | rejoin now uuid client join =>
      exact hsame _ (moves_of_tenure h (tenure_rejoin now uuid client join s))
    | send now uuid cmd => exact hsame _ (moves_of_tenure h (tenure_send now uuid cmd s))
    | clientSend now client cmd =>
      exact hsame _ (moves_of_tenure h (tenure_clientSend now client cmd s))
    | expireState uuid => exact hsame _ (moves_of_tenure h (tenure_expireState uuid s))
    | expireStreams uuid => exact hsame _ (moves_expireStreams h uuid)
    | _ => cases hc

lemma claimAll_mem (claimant : Identity) (now deadline : Timestamp) (batchSize : ℕ)
    (skip : List Uuid) : ∀ (index : List (Uuid × Timestamp)) (claimed : List (Uuid × Epoch))
      (s : Store), ∀ p ∈ (claimAll claimant now deadline batchSize skip index claimed s).1,
      p ∈ claimed ∨ p.1 ∈ index.map (·.1) := by
  intro index
  induction index with
  | nil => exact fun claimed s p hp => Or.inl hp
  | cons q index ih =>
    intro claimed s p hp
    unfold claimAll at hp
    split_ifs at hp
    · exact Or.inl hp
    · rcases ih _ _ p hp with hp | hp
      · rcases List.mem_append.mp hp with hp | hp
        · exact Or.inl hp
        · rw [List.mem_singleton.mp hp]
          exact Or.inr List.mem_cons_self
      · exact Or.inr (List.mem_cons_of_mem _ hp)
    · rcases ih _ _ p hp with hp | hp
      · exact Or.inl hp
      · exact Or.inr (List.mem_cons_of_mem _ hp)

lemma granted_fresh {s : Store} {granted : List (Uuid × Epoch)} {fresh : List Uuid}
    (h : Owned s granted) (hfresh : ∀ uuid ∈ granted.map (·.1), uuid ∈ fresh) (c : Call) :
    ∀ uuid ∈ (granted ++ c.grants (c.exec s).1).map (·.1), uuid ∈ fresh ++ c.fresh.toList := by
  intro uuid hmem
  rw [List.map_append] at hmem
  rcases List.mem_append.mp hmem with hmem | hmem
  · exact List.mem_append_left _ (hfresh uuid hmem)
  · cases c with
    | claim claimant now deadline batchSize skip =>
      obtain ⟨p, hp, rfl⟩ := List.mem_map.mp hmem
      rcases claimAll_mem claimant now deadline batchSize skip _ _ _ p hp with hp | hp
      · cases hp
      · obtain ⟨q, hq, heq⟩ := List.mem_map.mp hp
        have hq : (q.1, q.2) ∈ s.index.entries := (List.mem_insertionSort _).mp hq
        obtain ⟨epoch, hf⟩ := h.indexed p.1
          (OrdMap.contains_iff.mpr ⟨q.2, heq ▸ OrdMap.mem_entries.mp hq⟩)
        exact List.mem_append_left _
          (hfresh _ (List.mem_map.mpr ⟨_, granted_of_fence h hf, rfl⟩))
    | start args now =>
      refine List.mem_append_right _ ?_
      unfold Call.grants at hmem
      split at hmem <;> simp_all [Call.fresh]
    | _ => cases hmem

lemma owned_empty : Owned .empty [] where
  fence _ := Fence.inv_empty
  indexed uuid h := by cases h
  expiring uuid h := by cases h

lemma owned_run {cs : List Call} (hfresh : (cs.filterMap Call.fresh).Nodup) :
    Owned (System.run cs).store (System.run cs).granted ∧
      ∀ uuid ∈ (System.run cs).granted.map (·.1), uuid ∈ cs.filterMap Call.fresh := by
  induction cs using List.reverseRecOn with
  | nil => exact ⟨owned_empty, by simp [System.init]⟩
  | append_singleton cs c ih =>
    rw [List.filterMap_append] at hfresh ⊢
    obtain ⟨hpre, -, hdisj⟩ := List.nodup_append.mp hfresh
    obtain ⟨hown, hsub⟩ := ih hpre
    rw [System.run_snoc]
    refine ⟨(moves_exec hown fun uuid hc hmem => ?_).1, ?_⟩
    · exact hdisj _ (hsub uuid hmem) _ (by simp [hc]) rfl
    · have hsub' := granted_fresh hown hsub c
      cases hc : c.fresh <;> simpa [hc, System.step] using hsub'

lemma steps_run {pre post : List Call} (hfresh : ((pre ++ post).filterMap Call.fresh).Nodup)
    (uuid : Uuid) :
    Fence.Steps (fenceOf (System.run pre).store (System.run pre).granted uuid)
      (fenceOf (System.run (pre ++ post)).store (System.run (pre ++ post)).granted uuid) := by
  induction post using List.reverseRecOn with
  | nil => rw [List.append_nil]
  | append_singleton post c ih =>
    rw [← List.append_assoc] at hfresh ⊢
    rw [List.filterMap_append] at hfresh
    obtain ⟨hpre, -, hdisj⟩ := List.nodup_append.mp hfresh
    obtain ⟨hown, hsub⟩ := owned_run hpre
    rw [System.run_snoc]
    refine (ih hpre).trans ((moves_exec hown fun uuid hc hmem => ?_).2 uuid)
    exact hdisj _ (hsub uuid hmem) _ (by simp [hc]) rfl

lemma nodup_of_fences {granted : List (Uuid × Epoch)}
    (h : ∀ uuid, ((granted.filter (·.1 = uuid)).map (·.2)).Nodup) : granted.Nodup := by
  rw [List.nodup_iff_sublist]
  intro p hp
  have hsub := (hp.filter (·.1 = p.1)).map (·.2)
  simp only [decide_true, List.filter_cons_of_pos, List.filter_nil, List.map_cons,
    List.map_nil] at hsub
  exact List.nodup_iff_sublist.mp (h p.1) p.2 hsub

/-- **Ownership is fenced**, for every order of calls by any instances in which no start makes up
a uuid that was made up before: no epoch of a challenge is granted twice; a script called with an
epoch changes nothing, and is told so, once a later one was granted; the epochs along a journal
never go back; and after a deletion was accepted no script called with any epoch of the challenge
changes anything. -/
theorem fencing {cs : List Call} (hfresh : (cs.filterMap Call.fresh).Nodup) :
    let sys := System.run cs
    sys.granted.Nodup ∧
    (∀ (c : Call) (uuid : Uuid) (epoch later : Epoch), c.owned = some (uuid, epoch) →
      (uuid, later) ∈ sys.granted → epoch < later →
      c.exec sys.store = (.accepted false, sys.store)) ∧
    (∀ uuid, ((sys.store.journal uuid).map JournalRecord.epoch).Pairwise (· ≤ ·)) ∧
    (∀ pre post uuid epoch session routes, cs = pre ++ .delete uuid epoch session routes :: post →
      ((Call.delete uuid epoch session routes).exec (System.run pre).store).1 = .accepted true →
      ∀ (c : Call) (epoch' : Epoch), c.owned = some (uuid, epoch') →
        c.exec sys.store = (.accepted false, sys.store)) := by
  intro sys
  obtain ⟨hown, -⟩ := owned_run hfresh
  refine ⟨nodup_of_fences fun uuid => (hown.fence uuid).nodup, ?_,
    fun uuid => (hown.fence uuid).written, ?_⟩
  · intro c uuid epoch later hc hmem hlt
    refine exec_of_stale hc ((hown.fence uuid).holder_ne (g := later) ?_ hlt)
    exact List.mem_map.mpr ⟨_, List.mem_filter.mpr ⟨hmem, by simp⟩, rfl⟩
  · intro pre post uuid epoch session routes hcs hacc c epoch' hc
    have hsplit : cs = (pre ++ [.delete uuid epoch session routes]) ++ post := by simp [hcs]
    rw [hsplit] at hfresh
    have hsteps := steps_run hfresh uuid
    rw [← hsplit] at hsteps
    have hpre : (pre.filterMap Call.fresh).Nodup := by
      rw [List.filterMap_append, List.filterMap_append] at hfresh
      exact (List.nodup_append.mp (List.nodup_append.mp hfresh).1).1
    obtain ⟨hownpre, -⟩ := owned_run hpre
    -- The deletion was accepted, so its epoch held the fence until then.
    have hheld : (System.run pre).store.fence uuid = some epoch := by
      by_contra hn
      rw [exec_of_stale (c := .delete uuid epoch session routes) rfl hn] at hacc
      cases hacc
    have hgone : (fenceOf (System.run (pre ++ [.delete uuid epoch session routes])).store
        (System.run (pre ++ [.delete uuid epoch session routes])).granted uuid).Gone := by
      rw [System.run_snoc]
      obtain ⟨-, ht⟩ := delete_accepted hheld session routes
      simp only [Store.tenure, Prod.mk.injEq] at ht
      refine ⟨?_, fun hnil => ?_⟩
      · show ((DELETE uuid epoch session routes (System.run pre).store).2.lease uuid).map _ = none
        rw [ht.1]
        simp
      · have hmem := ((hownpre.fence uuid).latest epoch hheld).1
        have hgrants : ((System.run pre).step (.delete uuid epoch session routes)).granted =
            (System.run pre).granted := List.append_nil _
        rw [hgrants] at hnil
        rw [show (fenceOf (System.run pre).store (System.run pre).granted uuid).granted = [] from
          hnil] at hmem
        cases hmem
    have hnone : sys.store.fence uuid = none := (hgone.run hsteps).1
    exact exec_of_stale hc (by rw [hnone]; simp)

/-- A challenge that lapses, is claimed by another instance and deleted by it. -/
def handover : List Call :=
  [.start soloStart 0, .claim "second" 20 30 16 [], .delete 7 2 1 {.directory "a", .client 1}]

/-- The first owner is fenced off by the claim, and the second one by its own deletion. -/
theorem fencing_handover :
    (Call.append 7 1 []).exec (System.run (handover.take 2)).store =
        (.accepted false, (System.run (handover.take 2)).store) ∧
      (Call.append 7 2 []).exec (System.run handover).store =
        (.accepted false, (System.run handover).store) :=
  ⟨(fencing (by decide)).2.1 _ 7 1 2 rfl (by decide) (by decide),
    (fencing (by decide)).2.2.2 (handover.take 2) [] 7 2 1 _ rfl (by decide) _ 2 rfl⟩

end Blert.Redis

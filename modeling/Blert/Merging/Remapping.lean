import Blert.Fallible
import Blert.Merging.Event

/-!
Remapping the ticks of an event.

An event has a tick of its own, and some types of events refer to ticks of other events. A remapping
goes through all of them once. A bounce that names no attack takes the tick of its own event for it,
so that its reference is the only one that is not carried over.
-/

namespace Blert.Merging

namespace Event

def references (e : Event) : List ℤ :=
  match e.type with
  | .tobXarpusExhumed => e.xarpusExhumed.toList.flatMap fun x => x.spawnTick :: x.healTicks
  | .tobVerzikAttackStyle => e.verzikAttackStyle.toList.map AttackStyle.npcAttackTick
  | .tobVerzikBounce => e.verzikBounce.toList.map VerzikBounce.npcAttackTick
  | .tobVerzikDawn => e.verzikDawn.toList.map VerzikDawn.attackTick
  | .mokhaiotlAttackStyle => e.mokhaiotlAttackStyle.toList.map AttackStyle.npcAttackTick
  | _ => []

/-- The event with its own tick and all its references mapped. -/
def mapTicks (f : ℤ → ℤ) (e : Event) : Event :=
  let e := { e with tick := f e.tick }
  match e.type with
  | .tobXarpusExhumed =>
    { e with
      xarpusExhumed := e.xarpusExhumed.map fun x => ⟨f x.spawnTick, x.healTicks.map f⟩ }
  | .tobVerzikAttackStyle =>
    { e with
      verzikAttackStyle := e.verzikAttackStyle.map fun s =>
        { s with npcAttackTick := f s.npcAttackTick } }
  | .tobVerzikBounce =>
    { e with
      verzikBounce := e.verzikBounce.map fun b => { b with npcAttackTick := f b.npcAttackTick } }
  | .tobVerzikDawn =>
    { e with verzikDawn := e.verzikDawn.map fun d => { d with attackTick := f d.attackTick } }
  | .mokhaiotlAttackStyle =>
    { e with
      mokhaiotlAttackStyle := e.mokhaiotlAttackStyle.map fun s =>
        { s with npcAttackTick := f s.npcAttackTick } }
  | _ => e

def referringTypes : List EventType :=
  [.tobXarpusExhumed, .tobVerzikAttackStyle, .tobVerzikBounce, .tobVerzikDawn,
    .mokhaiotlAttackStyle]

/-- The event has the payload that the references of its type are in. -/
def HasPayload (e : Event) : Prop :=
  match e.type with
  | .tobXarpusExhumed => e.xarpusExhumed.isSome
  | .tobVerzikAttackStyle => e.verzikAttackStyle.isSome
  | .tobVerzikBounce => e.verzikBounce.isSome
  | .tobVerzikDawn => e.verzikDawn.isSome
  | .mokhaiotlAttackStyle => e.mokhaiotlAttackStyle.isSome
  | _ => True

instance (e : Event) : Decidable e.HasPayload := by
  unfold HasPayload
  split <;> infer_instance

def NamesNoAttack (e : Event) : Prop :=
  e.type = .tobVerzikBounce ∧ e.verzikBounce.map VerzikBounce.npcAttackTick = some (-1)

instance (e : Event) : Decidable e.NamesNoAttack := inferInstanceAs (Decidable (_ ∧ _))

variable {e : Event} {f g : ℤ → ℤ}

lemma type_cases (e : Event) : e.type = .tobXarpusExhumed ∨ e.type = .tobVerzikAttackStyle ∨
    e.type = .tobVerzikBounce ∨ e.type = .tobVerzikDawn ∨ e.type = .mokhaiotlAttackStyle ∨
    e.type ∉ referringTypes := by
  simp only [referringTypes, List.mem_cons, List.not_mem_nil, or_false]
  tauto

lemma references_of_not_mem (h : e.type ∉ referringTypes) : e.references = [] := by
  unfold references
  split <;> simp_all [referringTypes]

lemma mapTicks_of_not_mem (h : e.type ∉ referringTypes) :
    e.mapTicks f = { e with tick := f e.tick } := by
  unfold mapTicks
  dsimp only
  split <;> simp_all [referringTypes]

lemma mapTicks_mapTicks : (e.mapTicks f).mapTicks g = e.mapTicks (g ∘ f) := by
  rcases e.type_cases with h | h | h | h | h | h
  · simp [mapTicks, h, Function.comp_def]
  · simp [mapTicks, h, Function.comp_def]
  · simp [mapTicks, h, Function.comp_def]
  · simp [mapTicks, h, Function.comp_def]
  · simp [mapTicks, h, Function.comp_def]
  · rw [mapTicks_of_not_mem h, mapTicks_of_not_mem h]
    exact mapTicks_of_not_mem (e := { e with tick := f e.tick }) h

end Event

open Event Fallible

def noting (f : ℤ → ℤ) (tick : ℤ) : StateT (List ℤ) (Except MergeError) ℤ := do
  modify (· ++ [tick])
  return f tick

variable {tagged : TaggedEvent} {f g : ℤ → ℤ}

lemma run_noting (tick : ℤ) (noted : List ℤ) :
    (noting f tick).run noted = .ok (f tick, noted ++ [tick]) := rfl

lemma run_mapM_noting (ticks noted : List ℤ) :
    (ticks.mapM (noting f)).run noted = .ok (ticks.map f, noted ++ ticks) := by
  induction ticks generalizing noted with
  | nil => simp; rfl
  | cons tick ticks ih =>
    rw [List.mapM_cons, StateT.run_bind, run_noting]
    change ((ticks.mapM (noting f)).run (noted ++ [tick]) >>= _) = _
    rw [ih]
    simp
    rfl

lemma run_remapEventTick (htype : tagged.event.type.isTickState = false)
    (hpayload : tagged.event.HasPayload) (hnamed : ¬tagged.event.NamesNoAttack) (noted : List ℤ) :
    (remapEventTick tagged (noting f)).run noted =
      .ok ({ tagged with event := tagged.event.mapTicks f },
        noted ++ tagged.event.tick :: tagged.event.references) := by
  unfold remapEventTick
  simp only [htype, Bool.false_eq_true, if_false]
  refine run_bind_ok.2 ⟨f tagged.event.tick, noted ++ [tagged.event.tick], rfl, ?_⟩
  rcases tagged.event.type_cases with h | h | h | h | h | h
  · obtain ⟨x, hx⟩ := Option.isSome_iff_exists.mp (by simpa [HasPayload, h] using hpayload)
    simp only [h, hx, mapTicks, references]
    refine run_bind_ok.2 ⟨x, _, rfl, run_bind_ok.2 ⟨f x.spawnTick, _, rfl,
      run_bind_ok.2 ⟨_, _, run_mapM_noting _ _, ?_⟩⟩⟩
    simp
    rfl
  · obtain ⟨x, hx⟩ := Option.isSome_iff_exists.mp (by simpa [HasPayload, h] using hpayload)
    simp only [h, hx, mapTicks, references]
    refine run_bind_ok.2 ⟨x, _, rfl, run_bind_ok.2 ⟨f x.npcAttackTick, _, rfl, ?_⟩⟩
    simp
    rfl
  · obtain ⟨x, hx⟩ := Option.isSome_iff_exists.mp (by simpa [HasPayload, h] using hpayload)
    have hne : x.npcAttackTick ≠ -1 := fun hx' => hnamed ⟨h, by simp [hx, hx']⟩
    simp only [h, hx, mapTicks, references]
    refine run_bind_ok.2 ⟨x, _, rfl, ?_⟩
    rw [if_neg hne]
    refine run_bind_ok.2 ⟨f x.npcAttackTick, _, rfl, ?_⟩
    simp
    rfl
  · obtain ⟨x, hx⟩ := Option.isSome_iff_exists.mp (by simpa [HasPayload, h] using hpayload)
    simp only [h, hx, mapTicks, references]
    refine run_bind_ok.2 ⟨x, _, rfl, run_bind_ok.2 ⟨f x.attackTick, _, rfl, ?_⟩⟩
    simp
    rfl
  · obtain ⟨x, hx⟩ := Option.isSome_iff_exists.mp (by simpa [HasPayload, h] using hpayload)
    simp only [h, hx, mapTicks, references]
    refine run_bind_ok.2 ⟨x, _, rfl, run_bind_ok.2 ⟨f x.npcAttackTick, _, rfl, ?_⟩⟩
    simp
    rfl
  · rw [mapTicks_of_not_mem h, references_of_not_mem h]
    split <;> simp_all [referringTypes]
    rfl

/-! ### Once each -/

/-- A mapping of ticks, which leaves what marks that there is no tick. -/
def keeping (f : ℤ → ℤ) (tick : ℤ) : ℤ := if tick = -1 then -1 else f tick

/-- The remapped event, without the ticks that were noted. -/
def remapped (f : ℤ → ℤ) (tagged : TaggedEvent) : Except MergeError TaggedEvent :=
  ((remapEventTick tagged (noting f)).run []).map Prod.fst

/-- A mapping takes ticks to ticks, and later ticks to later ones. -/
structure MapsTicks (f : ℤ → ℤ) : Prop where
  strictMono : StrictMono f
  nonneg : ∀ t, 0 ≤ t → 0 ≤ f t

/-- Remapping an event goes once through its tick and each of its references, but for one that marks
that there is none, and remapping it again is remapping it by both mappings in turn. -/
def RemapsOnce (tagged : TaggedEvent) : Prop :=
  ∀ f g, MapsTicks f → MapsTicks g →
    (remapEventTick tagged (noting f)).run [] =
        .ok ({ tagged with event := tagged.event.mapTicks (keeping f) },
          tagged.event.tick :: tagged.event.references.filter (· ≠ -1)) ∧
      (remapped f tagged).bind (remapped g) = remapped (g ∘ f) tagged

/-- An event whose tick and references are ticks, but for a bounce that names no attack. -/
structure WellFormed (e : Event) : Prop where
  notTickState : e.type.isTickState = false
  payload : e.HasPayload
  tick : 0 ≤ e.tick
  references : ∀ t ∈ e.references, 0 ≤ t ∨ e.NamesNoAttack

lemma mapTicks_congr {e : Event} (h : ∀ t ∈ e.tick :: e.references, f t = g t) :
    e.mapTicks f = e.mapTicks g := by
  have htick : f e.tick = g e.tick := h _ List.mem_cons_self
  have href : ∀ t ∈ e.references, f t = g t := fun t ht => h t (List.mem_cons_of_mem _ ht)
  rcases e.type_cases with hty | hty | hty | hty | hty | hty
  · cases hx : e.xarpusExhumed <;> simp_all [mapTicks, Event.references]
  · cases hx : e.verzikAttackStyle <;> simp_all [mapTicks, Event.references]
  · cases hx : e.verzikBounce <;> simp_all [mapTicks, Event.references]
  · cases hx : e.verzikDawn <;> simp_all [mapTicks, Event.references]
  · cases hx : e.mokhaiotlAttackStyle <;> simp_all [mapTicks, Event.references]
  · rw [mapTicks_of_not_mem hty, mapTicks_of_not_mem hty, htick]

lemma references_mapTicks {e : Event} : (e.mapTicks f).references = e.references.map f := by
  rcases e.type_cases with h | h | h | h | h | h
  · cases hx : e.xarpusExhumed <;> simp [mapTicks, Event.references, h, hx]
  · cases hx : e.verzikAttackStyle <;> simp [mapTicks, Event.references, h, hx]
  · cases hx : e.verzikBounce <;> simp [mapTicks, Event.references, h, hx]
  · cases hx : e.verzikDawn <;> simp [mapTicks, Event.references, h, hx]
  · cases hx : e.mokhaiotlAttackStyle <;> simp [mapTicks, Event.references, h, hx]
  · rw [mapTicks_of_not_mem h, references_of_not_mem h]
    exact references_of_not_mem (e := { e with tick := f e.tick }) h

lemma type_mapTicks {e : Event} : (e.mapTicks f).type = e.type := by
  rcases e.type_cases with h | h | h | h | h | h
  · simp [mapTicks, h]
  · simp [mapTicks, h]
  · simp [mapTicks, h]
  · simp [mapTicks, h]
  · simp [mapTicks, h]
  · rw [mapTicks_of_not_mem h]

lemma tick_mapTicks {e : Event} : (e.mapTicks f).tick = f e.tick := by
  rcases e.type_cases with h | h | h | h | h | h
  · simp [mapTicks, h]
  · simp [mapTicks, h]
  · simp [mapTicks, h]
  · simp [mapTicks, h]
  · simp [mapTicks, h]
  · rw [mapTicks_of_not_mem h]

lemma hasPayload_mapTicks {e : Event} (he : e.HasPayload) : (e.mapTicks f).HasPayload := by
  have htype := type_mapTicks (f := f) (e := e)
  rcases e.type_cases with h | h | h | h | h | h
  · simp_all [HasPayload, Event.mapTicks]
  · simp_all [HasPayload, Event.mapTicks]
  · simp_all [HasPayload, Event.mapTicks]
  · simp_all [HasPayload, Event.mapTicks]
  · simp_all [HasPayload, Event.mapTicks]
  · rw [mapTicks_of_not_mem h]
    exact he

lemma references_of_namesNoAttack {e : Event} (he : e.NamesNoAttack) : e.references = [-1] := by
  obtain ⟨x, hx, hx'⟩ := Option.map_eq_some_iff.mp he.2
  simp [Event.references, he.1, hx, hx']

lemma WellFormed.named {e : Event} (he : WellFormed e) (hnamed : ¬e.NamesNoAttack) :
    ∀ t ∈ e.tick :: e.references, 0 ≤ t := by
  intro t ht
  rcases List.mem_cons.mp ht with rfl | ht
  · exact he.tick
  · exact (he.references t ht).resolve_right hnamed

lemma WellFormed.mapTicks {e : Event} (he : WellFormed e) (hnamed : ¬e.NamesNoAttack)
    (hf : MapsTicks f) : WellFormed (e.mapTicks f) ∧ ¬(e.mapTicks f).NamesNoAttack := by
  have hticks := he.named hnamed
  have href : ∀ t ∈ (e.mapTicks f).references, 0 ≤ t := by
    rw [references_mapTicks]
    intro t ht
    obtain ⟨u, hu, rfl⟩ := List.mem_map.mp ht
    exact hf.nonneg u (hticks u (List.mem_cons_of_mem _ hu))
  refine ⟨⟨by rw [type_mapTicks]; exact he.notTickState, hasPayload_mapTicks he.payload, ?_,
    fun t ht => .inl (href t ht)⟩, fun h => ?_⟩
  · rw [tick_mapTicks]
    exact hf.nonneg _ he.tick
  · have := href (-1) (by rw [references_of_namesNoAttack h]; exact List.mem_cons_self)
    omega

lemma keeping_of_nonneg {t : ℤ} (ht : 0 ≤ t) : keeping f t = f t :=
  if_neg (by omega)

lemma remapped_of_named (he : WellFormed tagged.event) (hnamed : ¬tagged.event.NamesNoAttack) :
    remapped f tagged = .ok { tagged with event := tagged.event.mapTicks f } := by
  rw [remapped, run_remapEventTick he.notTickState he.payload hnamed]
  rfl

lemma remapsOnce_of_named (he : WellFormed tagged.event) (hnamed : ¬tagged.event.NamesNoAttack) :
    RemapsOnce tagged := by
  intro f g hf _
  have hticks := he.named hnamed
  have hmap : tagged.event.mapTicks (keeping f) = tagged.event.mapTicks f :=
    mapTicks_congr fun t ht => keeping_of_nonneg (hticks t ht)
  have hrefs : tagged.event.references.filter (· ≠ -1) = tagged.event.references := by
    refine List.filter_eq_self.mpr fun t ht => ?_
    have := hticks t (List.mem_cons_of_mem _ ht)
    exact decide_eq_true (by omega)
  constructor
  · rw [run_remapEventTick he.notTickState he.payload hnamed, hmap, hrefs]
    rfl
  · obtain ⟨he', hnamed'⟩ := he.mapTicks hnamed hf
    rw [remapped_of_named he hnamed, remapped_of_named he hnamed]
    change remapped g { tagged with event := tagged.event.mapTicks f } = _
    rw [remapped_of_named he' hnamed', mapTicks_mapTicks]

lemma remapped_of_namesNoAttack (he : WellFormed tagged.event)
    (hno : tagged.event.NamesNoAttack) (hf : MapsTicks f) :
    ∃ attack, 0 ≤ attack ∧ remapped f tagged = .ok { tagged with
      event := { tagged.event with
        tick := f tagged.event.tick
        verzikBounce := tagged.event.verzikBounce.map
          fun bounce => { bounce with npcAttackTick := attack } } } := by
  obtain ⟨hty, hbounce⟩ := hno
  obtain ⟨x, hx, hx'⟩ := Option.map_eq_some_iff.mp hbounce
  refine ⟨f (f tagged.event.tick), hf.nonneg _ (hf.nonneg _ he.tick), ?_⟩
  have hrun : (remapEventTick tagged (noting f)).run [] = .ok ({ tagged with
      event := { tagged.event with
        tick := f tagged.event.tick
        verzikBounce := some { x with npcAttackTick := f (f tagged.event.tick) } } },
      [tagged.event.tick, f tagged.event.tick]) := by
    unfold remapEventTick
    simp only [he.notTickState, Bool.false_eq_true, if_false]
    refine run_bind_ok.2 ⟨f tagged.event.tick, _, rfl, ?_⟩
    simp only [hty, hx]
    refine run_bind_ok.2 ⟨x, _, rfl, ?_⟩
    rw [if_pos hx']
    refine run_bind_ok.2 ⟨f (f tagged.event.tick), _, rfl, ?_⟩
    simp
    rfl
  rw [remapped, hrun, hx]
  rfl

/-- A bounce on tick 5 that names the attack on tick `attack`. -/
def bounceOnFive (attack : ℤ) : TaggedEvent where
  event :=
    { type := .tobVerzikBounce
      tick := 5
      verzikBounce := some { npcAttackTick := attack, bouncedPlayer := "" } }
  source := 1

end Blert.Merging

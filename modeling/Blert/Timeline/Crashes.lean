import Mathlib.Data.List.Sort
import Mathlib.Data.List.TakeWhile
import Blert.Timeline.ClientEvents
import Blert.Timeline.Ticks

/-!
What building a timeline comes to.

A malformed event makes a timeline fail with an error, which a client survives. An event of a type
that clients no longer send makes it panic, unless a malformed event is met before.
-/

namespace Blert.Timeline

open Fallible
open Merging (EventType Coords DataSource ClientId)

/-! ### Malformed events -/

/-- The event lacks what its state is read from. -/
def Malformed (e : Event) : Prop :=
  match e.type with
  | .npcSpawn | .npcUpdate | .npcDeath => e.npc = none
  | .playerUpdate => e.player = none ∨
      ∃ p ∈ e.player, ∃ raw ∈ p.equipmentDeltas, ∀ d, ItemDelta.parse raw ≠ .ok d
  | .playerDeath => e.player = none
  | .tobSoteMazePath => e.soteMaze = none
  | _ => False

def Deprecated (e : Event) : Prop := classify e.type = .deprecated

def Sees (e : Event) (name : String) : Prop :=
  (e.type = .playerUpdate ∨ e.type = .playerDeath) ∧ ∃ p ∈ e.player, p.name = name

/-- The action lacks what it is attached by, where its actor is looked for among the players that
are seen. -/
def ActionMalformed (seen : String → Prop) (e : Event) : Prop :=
  match e.type with
  | .npcAttack => e.npc = none ∨ e.npcAttack = none
  | .playerAttack => e.player = none ∨ e.playerAttack = none
  | .playerSpell => e.player = none ∨ ∃ p ∈ e.player, seen p.name ∧ e.playerSpell = none
  | _ => False

def isAction (e : TaggedEvent) : Bool :=
  e.event.type = .npcAttack || e.event.type = .playerAttack || e.event.type = .playerSpell

def HasState (players : OrdMap String (Option PlayerState)) (name : String) : Prop :=
  ∃ state, players.get name = some (some state)

/-! ### Reading events -/

section Reading

variable {history : List (Option TickState)} {r : Reading} {event : TaggedEvent}

lemma hasState_insert {players : OrdMap String (Option PlayerState)} {name name' : String}
    {state : PlayerState} :
    HasState (players.insert name (some state)) name' ↔ HasState players name' ∨ name = name' := by
  unfold HasState
  rw [OrdMap.get_insert]
  by_cases h : name' = name
  · simp [h]
  · simp [h, Ne.symm h]

lemma read_spec {state : PlayerState} {e : Event} {player : Player} {last : Option PlayerState}
    (htype : e.type = .playerUpdate ∨ e.type = .playerDeath) (hplayer : e.player = some player) :
    (¬Malformed e → ∃ state', state.read e player last = .ok state') ∧
      (Malformed e → ∃ m, state.read e player last = .error (.malformed m)) := by
  unfold Malformed PlayerState.read
  rcases htype with htype | htype
  · simp only [htype, hplayer, reduceCtorEq, false_or, Option.mem_some, exists_eq_left']
    cases hparse : Equipment.parse player.snapshot player.equipmentDeltas
        (last.map (·.equipment)) with
    | ok equipment =>
      refine ⟨fun _ => ⟨_, rfl⟩, fun ⟨raw, hraw, hnot⟩ => ?_⟩
      obtain ⟨d, hd⟩ := Equipment.exists_parse_iff.mp ⟨equipment, hparse⟩ raw hraw
      exact absurd hd (hnot d)
    | error raw =>
      refine ⟨fun hall => ?_, fun _ => ⟨_, rfl⟩⟩
      have hparses : ∀ raw ∈ player.equipmentDeltas, ∃ d, ItemDelta.parse raw = .ok d := by
        intro raw hraw
        by_contra hnone
        exact hall ⟨raw, hraw, not_exists.mp hnone⟩
      obtain ⟨e, he⟩ := Equipment.exists_parse_iff.mpr hparses
      rw [hparse] at he
      cases he
  · simp [htype, hplayer]

lemma extractPlayerState_spec
    (hindex : ∀ p ∈ event.event.player, p.partyIndex < r.lastPlayers.length)
    (htype : event.event.type = .playerUpdate ∨ event.event.type = .playerDeath) :
    (¬Malformed event.event → ∃ r', r.extractPlayerState history event = .ok r' ∧
      r'.lastPlayers.length = r.lastPlayers.length ∧ r'.reprocess = r.reprocess ∧
      ∀ name, HasState r'.players name ↔ HasState r.players name ∨ Sees event.event name) ∧
    (Malformed event.event →
      ∃ m, r.extractPlayerState history event = .error (.malformed m)) := by
  unfold Reading.extractPlayerState expectPlayer
  cases hplayer : event.event.player with
  | none =>
    have hbad : Malformed event.event := by
      unfold Malformed
      rcases htype with htype | htype <;> simp [htype, hplayer]
    exact ⟨fun h => absurd hbad h, fun _ => ⟨_, rfl⟩⟩
  | some player =>
    have hsees : ∀ name, Sees event.event name ↔ player.name = name := by
      intro name
      unfold Sees
      simp [htype, hplayer]
    obtain ⟨lastTick, hget⟩ : ∃ lastTick, r.lastPlayers[player.partyIndex]? = some lastTick :=
      ⟨_, List.getElem?_eq_getElem (hindex player hplayer)⟩
    simp only [bind, Except.bind, hget]
    obtain ⟨hok, hbad⟩ := @read_spec ((r.players.get player.name).join.getD (.initial event player
      (lastTick.bind (stateOn history · player.name)))) event.event player
      (lastTick.bind (stateOn history · player.name)) htype hplayer
    constructor
    · intro h
      obtain ⟨state', hstate⟩ := hok h
      simp only [hstate]
      refine ⟨_, rfl, List.length_set, rfl, fun name => ?_⟩
      rw [hsees]
      exact hasState_insert
    · intro h
      obtain ⟨m, hm⟩ := hbad h
      simp only [hm]
      exact ⟨m, rfl⟩

lemma extract_spec (hindex : ∀ p ∈ event.event.player, p.partyIndex < r.lastPlayers.length) :
    (¬Malformed event.event → ∃ r', r.extract history event = .ok r' ∧
      r'.lastPlayers.length = r.lastPlayers.length ∧ r'.reprocess = r.reprocess ∧
      ∀ name, HasState r'.players name ↔ HasState r.players name ∨ Sees event.event name) ∧
    (Malformed event.event → ∃ m, r.extract history event = .error (.malformed m)) := by
  have hunseen : ∀ {type}, event.event.type = type → type ≠ .playerUpdate → type ≠ .playerDeath →
      ∀ name, HasState r.players name ↔ HasState r.players name ∨ Sees event.event name := by
    intro type htype hupdate hdeath name
    exact (or_iff_left fun hsees => hsees.1.elim (fun h => hupdate (htype ▸ h))
      fun h => hdeath (htype ▸ h)).symm
  have hnpc : ∀ {type}, event.event.type = type →
      type = .npcSpawn ∨ type = .npcUpdate ∨ type = .npcDeath →
      (Malformed event.event ↔ event.event.npc = none) := by
    rintro type htype (rfl | rfl | rfl) <;> simp [Malformed, htype]
  unfold Reading.extract
  split
  case h_1 htype | h_2 htype | h_3 htype =>
    rw [hnpc htype (by decide)]
    unfold expectNpc
    cases event.event.npc with
    | none => exact ⟨fun h => absurd rfl h, fun _ => ⟨_, rfl⟩⟩
    | some npc =>
      exact ⟨fun _ => ⟨_, rfl, rfl, rfl, hunseen htype (by decide) (by decide)⟩, nofun⟩
  case h_4 htype => exact extractPlayerState_spec hindex (.inl htype)
  case h_5 htype => exact extractPlayerState_spec hindex (.inr htype)
  case h_6 htype | h_8 htype =>
    exact ⟨fun _ => ⟨_, rfl, rfl, rfl, hunseen htype (by decide) (by decide)⟩,
      fun h => by simp [Malformed, htype] at h⟩
  case h_7 htype =>
    have hmaze : Malformed event.event ↔ event.event.soteMaze = none := by
      simp [Malformed, htype]
    rw [hmaze]
    cases event.event.soteMaze with
    | none => exact ⟨fun h => absurd rfl h, fun _ => ⟨_, rfl⟩⟩
    | some maze =>
      exact ⟨fun _ => ⟨_, rfl, rfl, rfl, hunseen htype (by decide) (by decide)⟩, nofun⟩
  case h_9 hspawn hupdate hdeath hplayer hdies hblood hmaze hyellows =>
    refine ⟨fun _ => ⟨_, rfl, rfl, rfl, hunseen rfl hplayer hdies⟩, fun h => ?_⟩
    unfold Malformed at h
    split at h <;> contradiction

lemma dispatch_deprecated (h : Deprecated event.event) : r.dispatch event = .error .panic := by
  unfold Reading.dispatch
  rw [h]

lemma dispatch_ok (h : ¬Deprecated event.event) :
    ∃ r', r.dispatch event = .ok r' ∧ r'.lastPlayers = r.lastPlayers ∧ r'.players = r.players ∧
      r'.reprocess = r.reprocess ++ [event].filter isAction := by
  have hclass : isAction event = true → classify event.event.type = .tickState := by
    intro haction
    simp only [isAction, Bool.or_eq_true, decide_eq_true_eq] at haction
    rcases haction with (h | h) | h <;> rw [h] <;> rfl
  have hplain : ∀ c, classify event.event.type = c → c ≠ .tickState →
      r.reprocess = r.reprocess ++ [event].filter isAction := by
    intro c hc hne
    have hnot : isAction event = false :=
      Bool.eq_false_iff.mpr fun haction => hne (hc.symm.trans (hclass haction))
    simp [hnot]
  unfold Reading.dispatch
  split
  case h_1 hkind | h_2 hkind =>
    split
    case h_1 htype | h_2 htype | h_3 htype =>
      exact ⟨_, rfl, rfl, rfl, by simp [isAction, htype]⟩
    case h_4 hnpc hattack hspell =>
      have hnot : isAction event = false := by
        simp only [isAction, Bool.or_eq_false_iff, decide_eq_false_iff_not]
        exact ⟨⟨hnpc, hattack⟩, hspell⟩
      exact ⟨r, rfl, rfl, rfl, by simp [hnot]⟩
  case h_3 hkind | h_4 hkind | h_5 hkind =>
    exact ⟨_, rfl, rfl, rfl, hplain _ hkind (by decide)⟩
  case h_6 hkind => exact absurd hkind h

/-- The event is read, and is not of a type that makes reading panic. -/
def Readable (e : TaggedEvent) : Prop := ¬Malformed e.event ∧ ¬Deprecated e.event

lemma not_malformed_of_deprecated (h : Deprecated event.event) : ¬Malformed event.event := by
  intro hbad
  unfold Malformed at hbad
  unfold Deprecated at h
  split at hbad <;> simp_all [classify]

lemma step_spec (hindex : ∀ p ∈ event.event.player, p.partyIndex < r.lastPlayers.length) :
    (Readable event → ∃ r', r.step history event = .ok r' ∧
      r'.lastPlayers.length = r.lastPlayers.length ∧
      r'.reprocess = r.reprocess ++ [event].filter isAction ∧
      ∀ name, HasState r'.players name ↔ HasState r.players name ∨ Sees event.event name) ∧
    (Malformed event.event → ∃ m, r.step history event = .error (.malformed m)) ∧
    (Deprecated event.event → r.step history event = .error .panic) := by
  obtain ⟨hok, hbad⟩ := @extract_spec history r event hindex
  unfold Reading.step
  refine ⟨fun ⟨hread, hkind⟩ => ?_, fun h => ?_, fun h => ?_⟩
  · obtain ⟨r₁, hr₁, hlength, hreprocess, hseen⟩ := hok hread
    obtain ⟨r₂, hr₂, hlast, hplayers, hactions⟩ := @dispatch_ok r₁ event hkind
    refine ⟨r₂, bind_eq_ok.2 ⟨r₁, hr₁, hr₂⟩, by rw [hlast, hlength],
      by rw [hactions, hreprocess], fun name => ?_⟩
    rw [hplayers]
    exact hseen name
  · obtain ⟨m, hm⟩ := hbad h
    exact ⟨m, bind_eq_error.2 (.inl hm)⟩
  · obtain ⟨r₁, hr₁, -⟩ := hok (not_malformed_of_deprecated h)
    exact bind_eq_error.2 (.inr ⟨r₁, hr₁, dispatch_deprecated h⟩)

lemma foldlM_step_ok {events : List TaggedEvent} (hread : ∀ e ∈ events, Readable e)
    (hindex : ∀ e ∈ events, ∀ p ∈ e.event.player, p.partyIndex < r.lastPlayers.length) :
    ∃ r', events.foldlM (Reading.step history) r = .ok r' ∧
      r'.lastPlayers.length = r.lastPlayers.length ∧
      r'.reprocess = r.reprocess ++ events.filter isAction ∧
      ∀ name, HasState r'.players name ↔
        HasState r.players name ∨ ∃ e ∈ events, Sees e.event name := by
  induction events generalizing r with
  | nil => exact ⟨r, rfl, rfl, by simp, by simp⟩
  | cons e events ih =>
    obtain ⟨hhead, htail⟩ := List.forall_mem_cons.mp hread
    obtain ⟨hindexHead, hindexTail⟩ := List.forall_mem_cons.mp hindex
    obtain ⟨r₁, hr₁, hlength, hreprocess, hseen⟩ :=
      (@step_spec history r e hindexHead).1 hhead
    obtain ⟨r₂, hr₂, hlength', hreprocess', hseen'⟩ := ih htail (hlength ▸ hindexTail)
    refine ⟨r₂, ?_, hlength'.trans hlength, ?_, fun name => ?_⟩
    · rw [List.foldlM_cons]
      exact bind_eq_ok.2 ⟨r₁, hr₁, hr₂⟩
    · rw [hreprocess', hreprocess, List.append_assoc, ← List.filter_append]
      rfl
    · rw [hseen', hseen, List.exists_mem_cons_iff, or_assoc]

lemma foldlM_step_error {earlier later : List TaggedEvent} {e : TaggedEvent}
    (hread : ∀ x ∈ earlier, Readable x)
    (hindex : ∀ x ∈ earlier ++ e :: later, ∀ p ∈ x.event.player,
      p.partyIndex < r.lastPlayers.length) :
    (Malformed e.event → ∃ m, (earlier ++ e :: later).foldlM (Reading.step history) r =
      .error (.malformed m)) ∧
    (Deprecated e.event →
      (earlier ++ e :: later).foldlM (Reading.step history) r = .error .panic) := by
  obtain ⟨r₁, hr₁, hlength, -⟩ := @foldlM_step_ok history r earlier hread fun x hx =>
    hindex x (List.mem_append_left _ hx)
  obtain ⟨-, hbad, hdeprecated⟩ := @step_spec history r₁ e
    (hlength ▸ hindex e (List.mem_append_right _ List.mem_cons_self))
  constructor
  · intro h
    obtain ⟨m, hm⟩ := hbad h
    exact ⟨m, foldlM_eq_error.2 ⟨earlier, e, later, r₁, rfl, hr₁, hm⟩⟩
  · intro h
    exact foldlM_eq_error.2 ⟨earlier, e, later, r₁, rfl, hr₁, hdeprecated h⟩

end Reading

/-! ### Attaching actions -/

section Actions

variable {a : Actors} {event : TaggedEvent}

lemma attach_spec :
    (¬ActionMalformed (HasState a.players) event.event → ∃ a', a.attach event = .ok a' ∧
      ∀ name, HasState a'.players name ↔ HasState a.players name) ∧
    (ActionMalformed (HasState a.players) event.event →
      ∃ m, a.attach event = .error (.malformed m)) := by
  have hkeeps : ∀ {name : String} {state : PlayerState},
      a.players.get name = some (some state) → ∀ (state' : PlayerState) name',
        HasState (a.players.insert name (some state')) name' ↔ HasState a.players name' := by
    intro name state hget state' name'
    rw [hasState_insert]
    refine or_iff_left_of_imp ?_
    rintro rfl
    exact ⟨state, hget⟩
  unfold Actors.attach expectNpc expectPlayer
  split
  case h_1 htype =>
    simp only [ActionMalformed, htype]
    cases hnpc : event.event.npc with
    | none => exact ⟨fun h => absurd (.inl rfl) h, fun _ => ⟨_, rfl⟩⟩
    | some npc =>
      cases hattack : event.event.npcAttack with
      | none => exact ⟨fun h => absurd (.inr rfl) h, fun _ => ⟨_, rfl⟩⟩
      | some attack =>
        refine ⟨fun _ => ?_, by rintro (h | h) <;> cases h⟩
        simp only [bind, Except.bind]
        cases a.npcs.get npc.roomId with
        | none => exact ⟨a, rfl, fun _ => Iff.rfl⟩
        | some state => exact ⟨_, rfl, fun _ => Iff.rfl⟩
  case h_2 htype =>
    simp only [ActionMalformed, htype]
    cases hplayer : event.event.player with
    | none => exact ⟨fun h => absurd (.inl rfl) h, fun _ => ⟨_, rfl⟩⟩
    | some player =>
      cases hattack : event.event.playerAttack with
      | none => exact ⟨fun h => absurd (.inr rfl) h, fun _ => ⟨_, rfl⟩⟩
      | some attack =>
        refine ⟨fun _ => ?_, by rintro (h | h) <;> cases h⟩
        simp only [bind, Except.bind]
        split
        case h_1 state hget => exact ⟨_, rfl, hkeeps hget _⟩
        case h_2 => exact ⟨a, rfl, fun _ => Iff.rfl⟩
  case h_3 htype =>
    simp only [ActionMalformed, htype]
    cases hplayer : event.event.player with
    | none => exact ⟨fun h => absurd (.inl rfl) h, fun _ => ⟨_, rfl⟩⟩
    | some player =>
      simp only [bind, Except.bind]
      split
      case h_1 state hget =>
        cases hspell : event.event.playerSpell with
        | none =>
          exact ⟨fun h => absurd (.inr ⟨player, rfl, ⟨state, hget⟩, rfl⟩) h, fun _ => ⟨_, rfl⟩⟩
        | some spell =>
          refine ⟨fun _ => ⟨_, rfl, hkeeps hget _⟩, ?_⟩
          rintro (h | ⟨p, -, -, h⟩) <;> cases h
      case h_2 hnone =>
        refine ⟨fun _ => ⟨a, rfl, fun _ => Iff.rfl⟩, ?_⟩
        rintro (h | ⟨p, hp, ⟨state, hget⟩, -⟩)
        · cases h
        · cases hp
          exact absurd hget (hnone state)
  case h_4 hnpc hattack hspell =>
    refine ⟨fun _ => ⟨a, rfl, fun _ => Iff.rfl⟩, fun h => ?_⟩
    unfold ActionMalformed at h
    split at h <;> contradiction

lemma actionMalformed_congr {seen seen' : String → Prop} (h : ∀ name, seen name ↔ seen' name)
    {e : Event} : ActionMalformed seen e ↔ ActionMalformed seen' e := by
  rw [show seen = seen' from funext fun name => propext (h name)]

lemma attachActions_spec {actions : List TaggedEvent} :
    ((∀ e ∈ actions, ¬ActionMalformed (HasState a.players) e.event) →
      ∃ a', attachActions a actions = .ok a') ∧
    ((∃ e ∈ actions, ActionMalformed (HasState a.players) e.event) →
      ∃ m, attachActions a actions = .error (.malformed m)) := by
  unfold attachActions
  induction actions generalizing a with
  | nil => exact ⟨fun _ => ⟨a, rfl⟩, by simp⟩
  | cons e actions ih =>
    obtain ⟨hok, hbad⟩ := @attach_spec a e
    rw [List.forall_mem_cons, List.exists_mem_cons_iff, List.foldlM_cons]
    by_cases hhead : ActionMalformed (HasState a.players) e.event
    · obtain ⟨m, hm⟩ := hbad hhead
      exact ⟨fun h => absurd hhead h.1, fun _ => ⟨m, bind_eq_error.2 (.inl hm)⟩⟩
    · obtain ⟨a₁, ha₁, hseen⟩ := hok hhead
      obtain ⟨hok', hbad'⟩ := @ih a₁
      constructor
      · rintro ⟨-, htail⟩
        obtain ⟨a₂, ha₂⟩ := hok' fun x hx hx' =>
          htail x hx ((actionMalformed_congr hseen).mp hx')
        exact ⟨a₂, bind_eq_ok.2 ⟨a₁, ha₁, ha₂⟩⟩
      · rintro (h | ⟨x, hx, hx'⟩)
        · exact absurd h hhead
        · obtain ⟨m, hm⟩ := hbad' ⟨x, hx, (actionMalformed_congr hseen).mpr hx'⟩
          exact ⟨m, bind_eq_error.2 (.inr ⟨a₁, ha₁, hm⟩)⟩

end Actions

/-! ### Reading ticks -/

section Ticks

variable {party : List String} {recordedTicks n t : ℕ} {history : List (Option TickState)}
  {lastPlayers : List (Option ℕ)} {events : List TaggedEvent}

def SeenIn (events : List TaggedEvent) (name : String) : Prop :=
  ∃ e ∈ events, Sees e.event name

def TickReads (events : List TaggedEvent) : Prop :=
  (∀ e ∈ events, Readable e) ∧ ∀ e ∈ events, ¬ActionMalformed (SeenIn events) e.event

/-- A deprecated event is the first of a tick that is not readable. -/
def TickPanics (events : List TaggedEvent) : Prop :=
  ∃ earlier e later, events = earlier ++ e :: later ∧ (∀ x ∈ earlier, Readable x) ∧
    Deprecated e.event

/-- The party index of each player that an event has is one of the party. -/
def IndexesIn (size : ℕ) (events : List TaggedEvent) : Prop :=
  ∀ e ∈ events, ∀ p ∈ e.event.player, p.partyIndex < size

lemma hasState_initial {name : String} :
    ¬HasState (Reading.initial party lastPlayers).players name := by
  have hfold : ∀ (players : OrdMap String (Option PlayerState)),
      HasState (party.foldl (fun players p => players.insert p none) players) name →
        HasState players name := by
    induction party with
    | nil => exact fun _ h => h
    | cons p party ih =>
      intro players h
      obtain ⟨state, hstate⟩ := ih _ h
      rw [OrdMap.get_insert] at hstate
      split_ifs at hstate
      · cases hstate
      · exact ⟨state, hstate⟩
  intro h
  obtain ⟨state, hstate⟩ := hfold ∅ h
  cases hstate

lemma isAction_of_actionMalformed {seen : String → Prop} {e : TaggedEvent}
    (h : ActionMalformed seen e.event) : isAction e = true := by
  unfold ActionMalformed at h
  unfold isAction
  split at h <;> simp_all

lemma fromEvents_spec (hindex : IndexesIn lastPlayers.length events) :
    (TickReads events → ∃ r, TickState.fromEvents t party history lastPlayers events = .ok r ∧
      r.2.length = lastPlayers.length) ∧
    (TickPanics events →
      TickState.fromEvents t party history lastPlayers events = .error .panic) ∧
    (¬TickReads events → ¬TickPanics events →
      ∃ m, TickState.fromEvents t party history lastPlayers events = .error (.malformed m)) := by
  unfold TickState.fromEvents
  have hattach : (∀ e ∈ events, Readable e) → ∃ r', events.foldlM (Reading.step history)
      (.initial party lastPlayers) = .ok r' ∧ r'.lastPlayers.length = lastPlayers.length ∧
      r'.reprocess = events.filter isAction ∧
      ∀ name, HasState r'.players name ↔ SeenIn events name := by
    intro hread
    obtain ⟨r', hr', hlength, hreprocess, hseen⟩ :=
      @foldlM_step_ok history (.initial party lastPlayers) events hread hindex
    refine ⟨r', hr', hlength, by simpa [Reading.initial] using hreprocess, fun name => ?_⟩
    rw [hseen, or_iff_right hasState_initial]
    rfl
  refine ⟨fun ⟨hread, hactions⟩ => ?_, fun ⟨earlier, e, later, heq, hread, hkind⟩ => ?_,
    fun hnot hnotPanics => ?_⟩
  · obtain ⟨r', hr', hlength, hreprocess, hseen⟩ := hattach hread
    obtain ⟨a', ha'⟩ := (@attachActions_spec ⟨r'.players, r'.npcs⟩ r'.reprocess).1 fun e he hbad =>
      hactions e (List.mem_of_mem_filter (hreprocess ▸ he)) ((actionMalformed_congr hseen).mp hbad)
    exact ⟨_, bind_eq_ok.2 ⟨r', hr', bind_eq_ok.2 ⟨a', ha', rfl⟩⟩, hlength⟩
  · subst heq
    exact bind_eq_error.2 (.inl ((@foldlM_step_error history (.initial party lastPlayers)
      earlier later e hread hindex).2 hkind))
  · rcases forall_or_first Readable events with hread | ⟨earlier, e, later, rfl, hread, hbad⟩
    · obtain ⟨r', hr', hlength, hreprocess, hseen⟩ := hattach hread
      have hexists : ∃ e ∈ events, ActionMalformed (SeenIn events) e.event := by
        by_contra hnone
        exact hnot ⟨hread, fun e he hbad => hnone ⟨e, he, hbad⟩⟩
      obtain ⟨e, he, hbad⟩ := hexists
      have hmem : e ∈ r'.reprocess :=
        hreprocess ▸ List.mem_filter.mpr ⟨he, isAction_of_actionMalformed hbad⟩
      obtain ⟨m, hm⟩ := (@attachActions_spec ⟨r'.players, r'.npcs⟩ r'.reprocess).2
        ⟨e, hmem, (actionMalformed_congr hseen).mpr hbad⟩
      exact ⟨m, bind_eq_error.2 (.inr ⟨r', hr', bind_eq_error.2 (.inl hm)⟩)⟩
    · have hmalformed : Malformed e.event := by
        by_contra hgood
        exact hnotPanics ⟨earlier, e, later, rfl, hread, not_not.mp fun h => hbad ⟨hgood, h⟩⟩
      obtain ⟨m, hm⟩ := (@foldlM_step_error history (.initial party lastPlayers) earlier later e
        hread hindex).1 hmalformed
      exact ⟨m, bind_eq_error.2 (.inl hm)⟩

lemma tickReads_nil : TickReads [] := ⟨by simp, by simp⟩

lemma readTick_spec {b : Building} (hindex : IndexesIn party.length events)
    (hlast : b.lastPlayerUpdates.length = party.length) (hn : n < b.ticks.length) :
    (TickReads (eventsAt events n) → ∃ b', b.readTick party events n = .ok b' ∧
      b'.lastPlayerUpdates.length = party.length) ∧
    (TickPanics (eventsAt events n) → b.readTick party events n = .error .panic) ∧
    (¬TickReads (eventsAt events n) → ¬TickPanics (eventsAt events n) →
      ∃ m, b.readTick party events n = .error (.malformed m)) := by
  unfold Building.readTick
  by_cases hnil : eventsAt events n = []
  · rw [if_pos hnil, hnil]
    refine ⟨fun _ => ⟨b, rfl, hlast⟩, ?_, fun h => absurd tickReads_nil h⟩
    rintro ⟨earlier, e, later, heq, -⟩
    simp at heq
  · have hindexAt : IndexesIn b.lastPlayerUpdates.length (eventsAt events n) := by
      intro e he
      rw [hlast]
      exact hindex e (mem_eventsAt.1 he).1
    obtain ⟨hok, hpanic, hbad⟩ := @fromEvents_spec party n (b.ticks.take n) b.lastPlayerUpdates _
      hindexAt
    rw [if_neg hnil, drain_eq hnil (fun e he => (mem_eventsAt.1 he).2) hn]
    refine ⟨fun h => ?_, fun h => map_eq_error.2 (hpanic h), fun h h' => ?_⟩
    · obtain ⟨r, hr, hlength⟩ := hok h
      exact ⟨_, map_eq_ok.2 ⟨r, hr, rfl⟩, hlength.trans hlast⟩
    · obtain ⟨m, hm⟩ := hbad h h'
      exact ⟨m, map_eq_error.2 hm⟩

lemma reads_of_readTicks {b : Building} (hindex : IndexesIn party.length events)
    (hn : n ≤ recordedTicks + 1) (h : readTicks party recordedTicks events n = .ok b) :
    (∀ t < n, TickReads (eventsAt events t)) ∧ b.lastPlayerUpdates.length = party.length := by
  induction n generalizing b with
  | zero =>
    cases h
    exact ⟨fun t ht => absurd ht t.not_lt_zero, by simp [Building.initial]⟩
  | succ n ih =>
    rw [readTicks_succ] at h
    obtain ⟨b₀, hb₀, h⟩ := bind_eq_ok.1 h
    obtain ⟨hreads, hlast⟩ := ih (Nat.le_of_succ_le hn) hb₀
    have hlength := (readTicks_spec (Nat.le_of_succ_le hn) hb₀).1
    obtain ⟨hok, hpanic, hbad⟩ := readTick_spec hindex hlast (hlength ▸ hn)
    by_cases hn' : TickReads (eventsAt events n)
    · obtain ⟨b', hb', hlast'⟩ := hok hn'
      obtain rfl := Except.ok.inj (h.symm.trans hb')
      refine ⟨fun t ht => ?_, hlast'⟩
      rcases Nat.lt_succ_iff_lt_or_eq.mp ht with ht | rfl
      · exact hreads t ht
      · exact hn'
    · by_cases hpanics : TickPanics (eventsAt events n)
      · rw [hpanic hpanics] at h
        cases h
      · obtain ⟨m, hm⟩ := hbad hn' hpanics
        rw [hm] at h
        cases h

lemma readTicks_ok (hindex : IndexesIn party.length events) (hn : n ≤ recordedTicks + 1)
    (h : ∀ t < n, TickReads (eventsAt events t)) :
    ∃ b, readTicks party recordedTicks events n = .ok b := by
  induction n with
  | zero => exact ⟨_, readTicks_zero⟩
  | succ n ih =>
    obtain ⟨b, hb⟩ := ih (Nat.le_of_succ_le hn) fun t ht => h t (Nat.lt_succ_of_lt ht)
    have hlength := (readTicks_spec (Nat.le_of_succ_le hn) hb).1
    have hlast := (reads_of_readTicks hindex (Nat.le_of_succ_le hn) hb).2
    obtain ⟨b', hb', -⟩ := (readTick_spec hindex hlast (hlength ▸ hn)).1 (h n n.lt_succ_self)
    exact ⟨b', readTicks_succ ▸ bind_eq_ok.2 ⟨b, hb, hb'⟩⟩

lemma readTicks_panic_iff (hindex : IndexesIn party.length events) (hn : n ≤ recordedTicks + 1) :
    readTicks party recordedTicks events n = .error .panic ↔
      ∃ t < n, (∀ t' < t, TickReads (eventsAt events t')) ∧ TickPanics (eventsAt events t) := by
  induction n with
  | zero =>
    constructor
    · exact nofun
    · rintro ⟨t, ht, -⟩
      cases ht
  | succ n ih =>
    have hn' := Nat.le_of_succ_le hn
    rw [readTicks_succ, bind_eq_error, ih hn']
    constructor
    · rintro (⟨t, ht, h⟩ | ⟨b, hb, h⟩)
      · exact ⟨t, Nat.lt_succ_of_lt ht, h⟩
      · obtain ⟨hreads, hlast⟩ := reads_of_readTicks hindex hn' hb
        have hlength := (readTicks_spec hn' hb).1
        obtain ⟨hok, -, hbad⟩ := readTick_spec hindex hlast (hlength ▸ hn)
        refine ⟨n, n.lt_succ_self, hreads, ?_⟩
        by_contra hpanics
        by_cases hreadsAt : TickReads (eventsAt events n)
        · obtain ⟨b', hb', -⟩ := hok hreadsAt
          rw [hb'] at h
          cases h
        · obtain ⟨m, hm⟩ := hbad hreadsAt hpanics
          rw [hm] at h
          cases h
    · rintro ⟨t, ht, hreads, hpanics⟩
      rcases Nat.lt_succ_iff_lt_or_eq.mp ht with ht | rfl
      · exact .inl ⟨t, ht, hreads, hpanics⟩
      · obtain ⟨b, hb⟩ := readTicks_ok hindex hn' hreads
        have hlength := (readTicks_spec hn' hb).1
        have hlast := (reads_of_readTicks hindex hn' hb).2
        exact .inr ⟨b, hb, (readTick_spec hindex hlast (hlength ▸ hn)).2.1 hpanics⟩

/-- Every deprecated event comes after a malformed one: of an event, or of an action of an earlier
tick. -/
def Guarded (events : List TaggedEvent) : Prop :=
  ∀ earlier e later, events = earlier ++ e :: later → Deprecated e.event →
    ∃ x ∈ earlier, Malformed x.event ∨ (x.event.tick < e.event.tick ∧
      ActionMalformed (SeenIn (eventsAt events x.event.tick)) x.event)

lemma build_panic_iff (hsorted : events.Pairwise (·.event.tick ≤ ·.event.tick))
    (hbound : ∀ e ∈ events, e.event.tick ≤ recordedTicks)
    (hindex : IndexesIn party.length events) :
    build party recordedTicks events = .error .panic ↔ ¬Guarded events := by
  rw [build_eq hsorted hbound, map_eq_error, readTicks_panic_iff hindex le_rfl]
  constructor
  · rintro ⟨t, -, hreads, earlier, e, later, heq, hread, hkind⟩ hguarded
    obtain ⟨l₁, l₂, hevents, hl₁, hl₂⟩ := List.filter_eq_append_iff.mp heq
    obtain ⟨l₃, l₄, rfl, hl₃, htick, -⟩ := List.filter_eq_cons_iff.mp hl₂
    have htick := of_decide_eq_true htick
    rw [← List.append_assoc] at hevents
    obtain ⟨x, hx, hbad⟩ := hguarded _ e _ hevents hkind
    have hmem : x ∈ events := hevents ▸ List.mem_append_left _ hx
    have hle : x.event.tick ≤ e.event.tick :=
      (List.pairwise_append.mp (hevents ▸ hsorted)).2.2 x hx e List.mem_cons_self
    rcases hle.lt_or_eq with hlt | heqTick
    · obtain ⟨hreadable, hactions⟩ := hreads _ (htick ▸ hlt)
      have hmemAt : x ∈ eventsAt events x.event.tick := mem_eventsAt.2 ⟨hmem, rfl⟩
      rcases hbad with hbad | ⟨-, hbad⟩
      · exact (hreadable x hmemAt).1 hbad
      · exact hactions x hmemAt hbad
    · have hearlier : x ∈ earlier := by
        rcases List.mem_append.mp hx with hx | hx
        · exact hl₁ ▸ List.mem_filter.mpr ⟨hx, decide_eq_true (heqTick.trans htick)⟩
        · exact absurd (decide_eq_true (heqTick.trans htick)) (hl₃ x hx)
      rcases hbad with hbad | ⟨hlt, -⟩
      · exact (hread x hearlier).1 hbad
      · exact absurd heqTick hlt.ne
  · intro hnot
    unfold Guarded at hnot
    push Not at hnot
    obtain ⟨earlier, e, later, hevents, hkind, hgood⟩ := hnot
    -- The first deprecated event comes no later than the one at hand.
    rcases forall_or_first (fun x => ¬Deprecated x.event) events with
      hall | ⟨before, x, after, hsplit, hbefore, hx⟩
    · exact absurd hkind (hall e (hevents ▸ by simp))
    · have hx := not_not.mp hx
      have hwithin : (∀ y ∈ before, y ∈ earlier) ∧ x.event.tick ≤ e.event.tick := by
        rcases List.append_eq_append_iff.mp (hsplit.symm.trans hevents) with
          ⟨rest, rfl, hrest⟩ | ⟨rest, rfl, hrest⟩
        · refine ⟨fun y hy => List.mem_append_left _ hy, ?_⟩
          have hmem : e ∈ x :: after := hrest ▸ by simp
          rcases List.mem_cons.mp hmem with rfl | hmem
          · exact le_rfl
          · exact (List.pairwise_cons.mp (List.pairwise_append.mp (hsplit ▸ hsorted)).2.1).1 e hmem
        · cases rest with
          | nil =>
            obtain ⟨rfl, -⟩ := List.cons.inj hrest
            simp
          | cons y rest =>
            obtain ⟨rfl, -⟩ := List.cons.inj hrest
            exact absurd hkind (hbefore e (by simp))
      obtain ⟨hsub, hle⟩ := hwithin
      have hreadable : ∀ y ∈ before, Readable y := fun y hy =>
        ⟨(hgood y (hsub y hy)).1, hbefore y hy⟩
      have hmemX : x ∈ events := hsplit ▸ by simp
      refine ⟨x.event.tick, Nat.lt_succ_of_le (hbound x hmemX), fun t' ht' => ?_,
        eventsAt before x.event.tick, x, eventsAt after x.event.tick, ?_,
        fun y hy => hreadable y (mem_eventsAt.1 hy).1, hx⟩
      · have hmemBefore : ∀ y ∈ eventsAt events t', y ∈ before := by
          intro y hy
          obtain ⟨hmem, rfl⟩ := mem_eventsAt.1 hy
          rw [hsplit] at hmem
          rcases List.mem_append.mp hmem with hmem | hmem
          · exact hmem
          · rcases List.mem_cons.mp hmem with rfl | hmem
            · exact absurd ht' (lt_irrefl _)
            · have hle := (List.pairwise_cons.mp
                (List.pairwise_append.mp (hsplit ▸ hsorted)).2.1).1 y hmem
              exact absurd ht' (Nat.not_lt.mpr hle)
        refine ⟨fun y hy => hreadable y (hmemBefore y hy), fun y hy => ?_⟩
        have hgood := (hgood y (hsub y (hmemBefore y hy))).2
        obtain ⟨-, rfl⟩ := mem_eventsAt.1 hy
        exact hgood (ht'.trans_le hle)
      · rw [hsplit, eventsAt_append, List.append_cancel_left_eq]
        exact List.filter_cons_of_pos (decide_eq_true rfl)

end Ticks

/-! ### Client streams -/

/-- What is kept of an event once it is prepared. -/
def prepare (party : List String) (event : TaggedEvent) : Option TaggedEvent :=
  match event.event.player with
  | none => if isPivotReport event.event then none else some event
  | some player =>
    if isPivotReport event.event then none
    else (party.idxOf? player.name).map (withIndex event player)

def IndexFits (party : List String) (event : TaggedEvent) : Prop :=
  ∀ player ∈ event.event.player, ∀ index, party.idxOf? player.name = some index →
    index < 2 ^ 32

section ClientStreams

variable {party : List String} {sort : List TaggedEvent → List TaggedEvent} {stage : Lifecycle.Stage}
  {clientId : ClientId} {records : List ClientStageStream} {event : TaggedEvent}
  {events : List TaggedEvent} {p : Prepared} {client : ClientEvents}

lemma events_keep {event' : TaggedEvent} (h : isPivotReport event'.event = isPivotReport event.event) :
    (p.keep event').events =
      p.events ++ (if isPivotReport event.event then none else some event').toList := by
  unfold Prepared.keep
  rw [h]
  by_cases hpivot : isPivotReport event.event <;> simp [hpivot]

lemma prepared_step :
    (IndexFits party event → ∃ p', p.step party event = some p' ∧
      p'.events = p.events ++ (prepare party event).toList) ∧
    (¬IndexFits party event → p.step party event = none) := by
  unfold Prepared.step prepare IndexFits
  cases hplayer : event.event.player with
  | none => exact ⟨fun _ => ⟨_, rfl, events_keep rfl⟩, fun h => absurd (by simp) h⟩
  | some player =>
    cases hindex : party.idxOf? player.name with
    | none =>
      simp only [hindex]
      exact ⟨fun _ => ⟨_, rfl, by simp⟩, fun h => absurd (by simp [hindex]) h⟩
    | some index =>
      simp only [hindex]
      by_cases hfits : index < 2 ^ 32
      · have hfits' : ∀ p ∈ some player, ∀ i, party.idxOf? p.name = some i → i < 2 ^ 32 := by
          intro p hp i hi
          cases hp
          exact Option.some.inj (hindex.symm.trans hi) ▸ hfits
        refine ⟨fun _ => ⟨_, if_pos hfits, ?_⟩, fun h => absurd hfits' h⟩
        have hkeep := @events_keep event (p.recordPrimary event.event.type player)
          (withIndex event player index) rfl
        have hsame : (p.recordPrimary event.event.type player).events = p.events := by
          unfold Prepared.recordPrimary
          split_ifs <;> rfl
        rw [hkeep, hsame]
        rfl
      · refine ⟨fun h => absurd (h player rfl index hindex) hfits, fun _ => if_neg hfits⟩

lemma foldlM_prepared :
    (∀ e ∈ events, IndexFits party e) ∧ (∃ p', events.foldlM (Prepared.step party) p = some p' ∧
      p'.events = p.events ++ events.filterMap (prepare party)) ∨
    ¬(∀ e ∈ events, IndexFits party e) ∧ events.foldlM (Prepared.step party) p = none := by
  induction events generalizing p with
  | nil => exact .inl ⟨by simp, p, rfl, by simp⟩
  | cons e events ih =>
    obtain ⟨hok, hnone⟩ := @prepared_step party e p
    rw [List.forall_mem_cons, List.foldlM_cons]
    by_cases hfits : IndexFits party e
    · obtain ⟨p₁, hp₁, hevents⟩ := hok hfits
      rw [hp₁]
      rcases @ih p₁ with ⟨hall, p', hp', hevents'⟩ | ⟨hnot, hp'⟩
      · refine .inl ⟨⟨hfits, hall⟩, p', hp', ?_⟩
        rw [hevents', hevents, List.append_assoc]
        cases hprepare : prepare party e <;> simp [hprepare]
      · exact .inr ⟨fun h => hnot h.2, hp'⟩
    · rw [hnone hfits]
      exact .inr ⟨fun h => hfits h.1, rfl⟩

def keptEvents (sort : List TaggedEvent → List TaggedEvent) (party : List String)
    (stage : Lifecycle.Stage) (clientId : ClientId) (records : List ClientStageStream) :
    List TaggedEvent :=
  (collect sort stage clientId records).2.filterMap (prepare party)

lemma of_mem_prepare {event' : TaggedEvent} (h : prepare party event = some event') :
    event'.event.tick = event.event.tick ∧
      ∀ player ∈ event'.event.player, party.idxOf? player.name = some player.partyIndex := by
  unfold prepare at h
  cases hplayer : event.event.player with
  | none =>
    rw [hplayer] at h
    dsimp only at h
    split_ifs at h
    cases h
    exact ⟨rfl, by simp [hplayer]⟩
  | some player =>
    rw [hplayer] at h
    dsimp only at h
    split_ifs at h
    obtain ⟨index, hindex, rfl⟩ := Option.map_eq_some_iff.mp h
    refine ⟨rfl, fun player' hplayer' => ?_⟩
    cases hplayer'
    exact hindex

lemma indexesIn_of_idxOf? (h : ∀ e ∈ events, ∀ player ∈ e.event.player,
    party.idxOf? player.name = some player.partyIndex) : IndexesIn party.length events := by
  intro e he player hplayer
  obtain ⟨hlt, -⟩ := List.idxOf?_eq_some_iff.mp (h e he player hplayer)
  exact hlt

lemma preprocessEvents_spec :
    ((∀ e ∈ events, IndexFits party e) → ∃ client', preprocessEvents party client events =
      some (client', events.filterMap (prepare party)) ∧
      client'.recordedTicks = client.recordedTicks) ∧
    (¬(∀ e ∈ events, IndexFits party e) → preprocessEvents party client events = none) := by
  unfold preprocessEvents
  rcases @foldlM_prepared party events ⟨client.stageData, [], ∅, []⟩ with
    ⟨hfits, p, hp, hevents⟩ | ⟨hnot, hp⟩
  · refine ⟨fun _ => ?_, fun h => absurd hfits h⟩
    rw [hp]
    show ∃ client', (if 1 < p.primaryPlayers.length then _ else _) = _ ∧ _
    split_ifs
    · exact ⟨_, congrArg some (Prod.ext rfl hevents), by simp⟩
    · exact ⟨_, congrArg some (Prod.ext rfl hevents), by simp⟩
  · refine ⟨fun h => absurd h hnot, fun _ => ?_⟩
    rw [hp]
    rfl

lemma collect_spec (hsort : ∀ l, (sort l).Perm l ∧
      (sort l).Pairwise (·.event.tick ≤ ·.event.tick)) :
    (collect sort stage clientId records).2.Pairwise (·.event.tick ≤ ·.event.tick) ∧
      ∀ e ∈ (collect sort stage clientId records).2,
        e.event.tick ≤ (collect sort stage clientId records).1.recordedTicks := by
  unfold collect
  dsimp only
  refine ⟨(hsort _).2.sublist (List.takeWhile_sublist _), fun e he => ?_⟩
  rw [recordedTicks_noteIf]
  simpa using List.mem_takeWhile_imp he

lemma keptEvents_spec (hsort : ∀ l, (sort l).Perm l ∧
      (sort l).Pairwise (·.event.tick ≤ ·.event.tick)) :
    (keptEvents sort party stage clientId records).Pairwise (·.event.tick ≤ ·.event.tick) ∧
      (∀ e ∈ keptEvents sort party stage clientId records,
        e.event.tick ≤ (collect sort stage clientId records).1.recordedTicks) ∧
      ∀ e ∈ keptEvents sort party stage clientId records, ∀ player ∈ e.event.player,
        party.idxOf? player.name = some player.partyIndex := by
  obtain ⟨hsorted, hbound⟩ := @collect_spec sort stage clientId records hsort
  refine ⟨?_, fun e he => ?_, fun e he => ?_⟩
  · refine hsorted.filterMap _ fun a a' hle b hb b' hb' => ?_
    rw [(of_mem_prepare hb).1, (of_mem_prepare hb').1]
    exact hle
  · obtain ⟨a, ha, hprepare⟩ := List.mem_filterMap.mp he
    rw [(of_mem_prepare hprepare).1]
    exact hbound a ha
  · obtain ⟨a, -, hprepare⟩ := List.mem_filterMap.mp he
    exact (of_mem_prepare hprepare).2

end ClientStreams

/-- **A client's stream is read without a panic exactly if** the party index of each of its players
has 32 bits and every deprecated event that is kept comes after a malformed one. -/
theorem fromClientStream_isSome {sort : List TaggedEvent → List TaggedEvent}
    (hsort : ∀ l, (sort l).Perm l ∧ (sort l).Pairwise (·.event.tick ≤ ·.event.tick))
    (party : List String) (stage : Lifecycle.Stage) (clientId : ClientId)
    (records : List ClientStageStream) :
    (fromClientStream sort party stage clientId records).isSome ↔
      (∀ e ∈ (collect sort stage clientId records).2, IndexFits party e) ∧
        Guarded (keptEvents sort party stage clientId records) := by
  obtain ⟨hsorted, hbound, hindex⟩ := @keptEvents_spec party sort stage clientId records hsort
  obtain ⟨hok, hnone⟩ := @preprocessEvents_spec party (collect sort stage clientId records).2
    (collect sort stage clientId records).1
  have hunfold : fromClientStream sort party stage clientId records =
      (preprocessEvents party (collect sort stage clientId records).1
        (collect sort stage clientId records).2).bind fun r => r.1.withTimeline party r.2 := rfl
  rw [hunfold]
  by_cases hfits : ∀ e ∈ (collect sort stage clientId records).2, IndexFits party e
  · obtain ⟨client', hclient, hticks⟩ := hok hfits
    have hpanic := @build_panic_iff party client'.recordedTicks
      (keptEvents sort party stage clientId records) hsorted
      (fun e he => hticks.symm ▸ hbound e he) (indexesIn_of_idxOf? hindex)
    rw [hclient, and_iff_right hfits, ← not_iff_not, ← hpanic]
    show ¬(client'.withTimeline party (keptEvents sort party stage clientId records)).isSome ↔ _
    unfold ClientEvents.withTimeline
    cases build party client'.recordedTicks (keptEvents sort party stage clientId records) with
    | ok timeline => simp
    | error e => cases e <;> simp
  · rw [hnone hfits]
    simp [hfits]

def sortByTick (l : List TaggedEvent) : List TaggedEvent :=
  l.insertionSort fun a b => a.event.tick ≤ b.event.tick

lemma sortByTick_spec (l : List TaggedEvent) :
    (sortByTick l).Perm l ∧ (sortByTick l).Pairwise (·.event.tick ≤ ·.event.tick) := by
  have htotal : Std.Total fun a b : TaggedEvent => a.event.tick ≤ b.event.tick :=
    ⟨fun a b => le_total a.event.tick b.event.tick⟩
  have htrans : IsTrans TaggedEvent fun a b => a.event.tick ≤ b.event.tick :=
    ⟨fun a b c => le_trans⟩
  exact ⟨List.perm_insertionSort _ l, List.pairwise_insertionSort _ l⟩

/-- A spawn without its NPC keeps a deprecated event of a later tick from being reached. -/
theorem fromClientStream_isSome_malformed :
    let records := [ClientStageStream.events (some
      [{ type := .deprecatedStageUpdate, tick := 5 }, { type := .npcSpawn, tick := 3 }])]
    (fromClientStream sortByTick ["1Ogp"] .tobNylocas 1 records).isSome ∧
      Guarded (keptEvents sortByTick ["1Ogp"] .tobNylocas 1 records) := by
  intro records
  have hsome : (fromClientStream sortByTick ["1Ogp"] .tobNylocas 1 records).isSome := by
    decide
  have h := fromClientStream_isSome sortByTick_spec ["1Ogp"] .tobNylocas 1 records
  exact ⟨hsome, (h.mp hsome).2⟩

/-- A client that sends an event of a type that clients no longer send. -/
theorem not_returns_deprecated :
    ¬∀ sort : List TaggedEvent → List TaggedEvent,
      (∀ l, (sort l).Perm l ∧ (sort l).Pairwise (·.event.tick ≤ ·.event.tick)) →
        ∀ party stage clientId records,
          (fromClientStream sort party stage clientId records).isSome := by
  intro h
  have hsome := h sortByTick sortByTick_spec ["1Ogp"] .tobNylocas 1
    [.events (some [{ type := .deprecatedStageUpdate, tick := 0 }])]
  exact absurd hsome (by decide)

end Blert.Timeline

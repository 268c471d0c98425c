import Blert.Timeline.Crashes

/-!
Events that share a tick.

Events are sorted by their ticks alone, so that those of one tick may be read in any order. What a
tick comes to is the same in each of them where no two different events write to the same place.
-/

namespace Blert.Timeline

open Fallible
open Merging (EventType Coords ClientId)

/-! ### Places -/

inductive Place
  | npc (roomId : ℕ)
  | player (name : String)
  | npcAttack (roomId : ℕ)
  | playerAttack (name : String)
  | playerSpell (name : String)
  deriving DecidableEq

def place (e : Event) : Option Place :=
  match e.type with
  | .npcSpawn | .npcUpdate => e.npc.map fun npc => .npc npc.roomId
  | .playerUpdate | .playerDeath => e.player.map fun player => .player player.name
  | .npcAttack => e.npc.map fun npc => .npcAttack npc.roomId
  | .playerAttack => e.player.map fun player => .playerAttack player.name
  | .playerSpell => e.player.map fun player => .playerSpell player.name
  | _ => none

/-- No two different events of a tick write to the same place. -/
def WritesOnce (events : List TaggedEvent) : Prop :=
  ∀ a ∈ events, ∀ b ∈ events, a.event.tick = b.event.tick →
    place a.event ≠ none → place a.event = place b.event → a = b

/-! ### Graphics -/

lemma get_extend (source : ClientId) (coords : List Coords) (map : OrdMap Coords ClientId)
    (coord : Coords) :
    (coords.foldl (fun map coord => if map.contains coord then map else map.insert coord source)
      map).get coord = (map.get coord).or (if coord ∈ coords then some source else none) := by
  induction coords generalizing map with
  | nil => simp
  | cons c coords ih =>
    rw [List.foldl_cons, ih]
    by_cases hc : map.contains c
    · rw [if_pos hc]
      obtain ⟨v, hv⟩ := OrdMap.contains_iff.mp hc
      by_cases heq : coord = c
      · subst heq
        simp [hv]
      · simp [heq]
    · rw [if_neg hc, OrdMap.get_insert]
      by_cases heq : coord = c
      · subst heq
        have hnone : map.get coord = none := by simpa [OrdMap.contains] using hc
        simp [hnone]
      · simp [heq]

lemma extendFrom_comm (graphics : GraphicsState) (kind kind' : GraphicsKind) (source : ClientId)
    (coords coords' : List Coords) :
    (graphics.extendFrom kind source coords).extendFrom kind' source coords' =
      (graphics.extendFrom kind' source coords').extendFrom kind source coords := by
  unfold GraphicsState.extendFrom
  by_cases h : kind = kind'
  · subst h
    simp only [OrdMap.get_insert, if_true, Option.getD_some, OrdMap.insert_insert]
    congr 1
    refine OrdMap.ext_get fun coord => ?_
    simp only [get_extend, Option.or_assoc]
    congr 1
    by_cases hc : coord ∈ coords <;> by_cases hc' : coord ∈ coords' <;> simp [hc, hc']
  · rw [OrdMap.get_insert, if_neg (Ne.symm h), OrdMap.get_insert, if_neg h, OrdMap.insert_comm h]

/-! ### Reading a tick -/

/-- The state of a player once an update or a death is read, if it can be. -/
def playerAfter (history : List (Option TickState)) (r : Reading) (event : TaggedEvent)
    (player : Player) : PlayerState :=
  let last := (r.lastPlayers[player.partyIndex]?).join.bind (stateOn history · player.name)
  let state := (r.players.get player.name).join.getD (.initial event player last)
  (state.read event.event player last).toOption.getD state

/-- Applies what an event says, if it can be read. -/
def Reading.apply (history : List (Option TickState)) (r : Reading) (event : TaggedEvent) :
    Reading :=
  match event.event.type with
  | .npcSpawn | .npcUpdate =>
    event.event.npc.elim r fun npc => { r with
      npcs := r.npcs.insert npc.roomId (extractNpcState event npc history.getLast?.join) }
  | .playerUpdate | .playerDeath =>
    event.event.player.elim r fun player => { r with
      players := r.players.insert player.name (some (playerAfter history r event player))
      lastPlayers := r.lastPlayers.set player.partyIndex (some event.event.tick) }
  | .tobMaidenBloodSplats =>
    { r with graphics := r.graphics.extendFrom .maidenBloodSplats event.source
              event.event.maidenBloodSplats }
  | .tobSoteMazePath =>
    event.event.soteMaze.elim r fun maze => { r with
      graphics := r.graphics.extendFrom .soteMazeTiles event.source maze.overworldTiles }
  | .tobVerzikYellows =>
    { r with graphics := r.graphics.extendFrom .verzikYellows event.source
              event.event.verzikYellows }
  | _ => r

def isRetained (e : TaggedEvent) : Bool :=
  classify e.event.type = .solo || classify e.event.type = .stream ||
    classify e.event.type = .attackMapped

def Reading.keeping (r : Reading) (retainedEvents reprocess : List TaggedEvent) : Reading :=
  { r with retainedEvents, reprocess }

section Apply

variable {history : List (Option TickState)} {r : Reading} {a b : TaggedEvent}

lemma apply_keeping (xs ys : List TaggedEvent) :
    (r.keeping xs ys).apply history a = (r.apply history a).keeping xs ys := by
  unfold Reading.apply Reading.keeping
  split
  · cases a.event.npc <;> rfl
  · cases a.event.npc <;> rfl
  · cases a.event.player <;> rfl
  · cases a.event.player <;> rfl
  · rfl
  · cases a.event.soteMaze <;> rfl
  · rfl
  · rfl

lemma length_lastPlayers_apply :
    (r.apply history a).lastPlayers.length = r.lastPlayers.length := by
  unfold Reading.apply
  split
  · cases a.event.npc <;> rfl
  · cases a.event.npc <;> rfl
  · cases a.event.player <;> simp
  · cases a.event.player <;> simp
  · rfl
  · cases a.event.soteMaze <;> rfl
  · rfl
  · rfl

lemma extractPlayerState_eq (hmalformed : ¬Malformed a.event)
    (htype : a.event.type = .playerUpdate ∨ a.event.type = .playerDeath) {player : Player}
    (hplayer : a.event.player = some player) (hindex : player.partyIndex < r.lastPlayers.length) :
    r.extractPlayerState history a = .ok { r with
      players := r.players.insert player.name (some (playerAfter history r a player))
      lastPlayers := r.lastPlayers.set player.partyIndex (some a.event.tick) } := by
  have hget := List.getElem?_eq_getElem hindex
  unfold Reading.extractPlayerState expectPlayer playerAfter
  simp only [hplayer, bind, Except.bind, hget, Option.join_some]
  obtain ⟨state', hstate⟩ := (@read_spec ((r.players.get player.name).join.getD
    (.initial a player (r.lastPlayers[player.partyIndex].bind (stateOn history · player.name))))
    a.event player (r.lastPlayers[player.partyIndex].bind (stateOn history · player.name)) htype
    hplayer).1 hmalformed
  rw [hstate]
  rfl

lemma extract_eq (hmalformed : ¬Malformed a.event)
    (hindex : ∀ p ∈ a.event.player, p.partyIndex < r.lastPlayers.length) :
    r.extract history a = .ok (r.apply history a) := by
  unfold Reading.extract Reading.apply
  cases htype : a.event.type
  case npcSpawn | npcUpdate =>
    cases hnpc : a.event.npc with
    | none => exact absurd (by simp [Malformed, htype, hnpc]) hmalformed
    | some npc => simp [expectNpc, hnpc, bind, Except.bind, pure, Except.pure]
  case npcDeath =>
    cases hnpc : a.event.npc with
    | none => exact absurd (by simp [Malformed, htype, hnpc]) hmalformed
    | some npc => simp [expectNpc, hnpc, bind, Except.bind, pure, Except.pure]
  case playerUpdate | playerDeath =>
    cases hplayer : a.event.player with
    | none => exact absurd (by simp [Malformed, htype, hplayer]) hmalformed
    | some player =>
      exact extractPlayerState_eq hmalformed (by simp [htype]) hplayer (hindex player hplayer)
  case tobSoteMazePath =>
    cases hmaze : a.event.soteMaze with
    | none => exact absurd (by simp [Malformed, htype, hmaze]) hmalformed
    | some maze => rfl
  all_goals rfl

lemma dispatch_eq (h : ¬Deprecated a.event) :
    r.dispatch a = .ok (r.keeping (r.retainedEvents ++ [a].filter isRetained)
      (r.reprocess ++ [a].filter isAction)) := by
  unfold Deprecated at h
  unfold Reading.dispatch Reading.keeping isRetained isAction
  cases htype : a.event.type <;> simp [classify, htype] at h ⊢

lemma step_eq (hread : Readable a)
    (hindex : ∀ p ∈ a.event.player, p.partyIndex < r.lastPlayers.length) :
    r.step history a = .ok ((r.apply history a).keeping
      (r.retainedEvents ++ [a].filter isRetained) (r.reprocess ++ [a].filter isAction)) := by
  unfold Reading.step
  rw [extract_eq hread.1 hindex]
  have hretained : (r.apply history a).retainedEvents = r.retainedEvents ∧
      (r.apply history a).reprocess = r.reprocess := by
    have h : r.apply history a = (r.apply history a).keeping r.retainedEvents r.reprocess :=
      apply_keeping r.retainedEvents r.reprocess
    rw [h]
    exact ⟨rfl, rfl⟩
  refine (dispatch_eq hread.2).trans ?_
  rw [hretained.1, hretained.2]

lemma foldlM_step_eq {events : List TaggedEvent} (hread : ∀ e ∈ events, Readable e)
    (hindex : IndexesIn r.lastPlayers.length events) :
    events.foldlM (Reading.step history) r = .ok ((events.foldl (Reading.apply history) r).keeping
      (r.retainedEvents ++ events.filter isRetained) (r.reprocess ++ events.filter isAction)) := by
  induction events generalizing r with
  | nil => simp [Reading.keeping, pure, Except.pure]
  | cons e events ih =>
    obtain ⟨hhead, htail⟩ := List.forall_mem_cons.mp hread
    obtain ⟨hindexHead, hindexTail⟩ := List.forall_mem_cons.mp hindex
    have hfold : ∀ (events : List TaggedEvent) (r : Reading) (xs ys : List TaggedEvent),
        events.foldl (Reading.apply history) (r.keeping xs ys) =
          (events.foldl (Reading.apply history) r).keeping xs ys := by
      intro events
      induction events with
      | nil => exact fun _ _ _ => rfl
      | cons e events ih =>
        intro r xs ys
        rw [List.foldl_cons, apply_keeping, ih]
        rfl
    rw [List.foldlM_cons, step_eq hhead hindexHead]
    refine (ih htail ?_).trans ?_
    · intro x hx p hp
      exact (hindexTail x hx p hp).trans_eq length_lastPlayers_apply.symm
    · rw [hfold, List.foldl_cons]
      simp only [Reading.keeping, List.append_assoc, ← List.filter_append, List.singleton_append]

lemma apply_cases (history : List (Option TickState)) (a : TaggedEvent) :
    (∃ npc : Npc, place a.event = some (.npc npc.roomId) ∧ ∀ r : Reading, r.apply history a = { r with
      npcs := r.npcs.insert npc.roomId (Reading.extractNpcState a npc history.getLast?.join) }) ∨
    (∃ player, a.event.player = some player ∧ place a.event = some (.player player.name) ∧
      ∀ r : Reading, r.apply history a = { r with
        players := r.players.insert player.name (some (playerAfter history r a player))
        lastPlayers := r.lastPlayers.set player.partyIndex (some a.event.tick) }) ∨
    (∃ kind coords, ∀ r : Reading, r.apply history a = { r with
      graphics := r.graphics.extendFrom kind a.source coords }) ∨
    ∀ r : Reading, r.apply history a = r := by
  unfold Reading.apply place
  cases htype : a.event.type
  case npcSpawn | npcUpdate =>
    cases hnpc : a.event.npc with
    | none => exact .inr (.inr (.inr fun _ => rfl))
    | some npc => exact .inl ⟨npc, rfl, fun _ => rfl⟩
  case playerUpdate | playerDeath =>
    cases hplayer : a.event.player with
    | none => exact .inr (.inr (.inr fun _ => rfl))
    | some player => exact .inr (.inl ⟨player, rfl, rfl, fun _ => rfl⟩)
  case tobMaidenBloodSplats | tobVerzikYellows =>
    exact .inr (.inr (.inl ⟨_, _, fun _ => rfl⟩))
  case tobSoteMazePath =>
    cases hmaze : a.event.soteMaze with
    | none => exact .inr (.inr (.inr fun _ => rfl))
    | some maze => exact .inr (.inr (.inl ⟨_, _, fun _ => rfl⟩))
  all_goals exact .inr (.inr (.inr fun _ => rfl))

lemma playerAfter_other {player : Player} {name : String} {index : ℕ} {state : Option PlayerState}
    {tick : Option ℕ} (hname : player.name ≠ name) (hindex : player.partyIndex ≠ index) :
    playerAfter history { r with
      players := r.players.insert name state
      lastPlayers := r.lastPlayers.set index tick } a player = playerAfter history r a player := by
  unfold playerAfter
  simp only [OrdMap.get_insert, if_neg hname, List.getElem?_set_ne (Ne.symm hindex)]

lemma apply_comm (hplace : ∀ p, place a.event = some p → place b.event = some p → a = b)
    (hsource : a.source = b.source)
    (hindex : ∀ p ∈ a.event.player, ∀ q ∈ b.event.player,
      p.name ≠ q.name → p.partyIndex ≠ q.partyIndex) :
    (r.apply history a).apply history b = (r.apply history b).apply history a := by
  by_cases hsame : a = b
  · rw [hsame]
  have hne : ∀ p q, place a.event = some p → place b.event = some q → p ≠ q := by
    rintro p q hp hq rfl
    exact hsame (hplace p hp hq)
  rcases apply_cases history a with ⟨npc, hpa, ha⟩ | ⟨player, hplayer, hpa, ha⟩ |
    ⟨kind, coords, ha⟩ | ha
  all_goals rcases apply_cases history b with ⟨npc', hpb, hb⟩ | ⟨player', hplayer', hpb, hb⟩ |
    ⟨kind', coords', hb⟩ | hb
  all_goals simp only [ha, hb]
  case inl.inl =>
    have hroom : npc.roomId ≠ npc'.roomId := fun h => hne _ _ hpa hpb (by rw [h])
    rw [OrdMap.insert_comm hroom]
  case inr.inl.inr.inl =>
    have hname : player.name ≠ player'.name := fun h => hne _ _ hpa hpb (by rw [h])
    have hparty := hindex player hplayer player' hplayer' hname
    rw [playerAfter_other hname hparty, playerAfter_other hname.symm hparty.symm,
      OrdMap.insert_comm hname, List.set_comm _ _ hparty]
  case inr.inr.inl.inr.inr.inl =>
    rw [hsource, extendFrom_comm]
  all_goals rfl

end Apply

/-! ### Attaching actions -/

section Attach

variable {a b : TaggedEvent} {actors : Actors}

def Actors.attached (actors : Actors) (event : TaggedEvent) : Actors :=
  (actors.attach event).toOption.getD actors

lemma modify_seen {players : OrdMap String (Option PlayerState)} {name : String}
    {state : PlayerState} (h : players.get name = some (some state))
    (f : PlayerState → PlayerState) :
    players.modify name (Option.map f) = players.insert name (some (f state)) :=
  (OrdMap.modify_of_get h _).symm

lemma modify_unseen {players : OrdMap String (Option PlayerState)} {name : String}
    (h : ∀ state, players.get name ≠ some (some state)) (f : PlayerState → PlayerState) :
    players.modify name (Option.map f) = players := by
  refine OrdMap.ext_get fun k => ?_
  rw [OrdMap.get_modify]
  split_ifs with hk
  · subst hk
    cases hget : players.get k with
    | none => rfl
    | some state =>
      cases state with
      | none => rfl
      | some state => exact absurd hget (h state)
  · rfl

lemma attached_cases (a : TaggedEvent) :
    (∃ roomId f, place a.event = some (.npcAttack roomId) ∧
      ∀ actors : Actors, actors.attached a = { actors with npcs := actors.npcs.modify roomId f }) ∨
    (∃ name attack, place a.event = some (.playerAttack name) ∧
      ∀ actors : Actors, actors.attached a = { actors with
        players := actors.players.modify name (Option.map fun state => { state with attack }) }) ∨
    (∃ name spell, place a.event = some (.playerSpell name) ∧
      ∀ actors : Actors, actors.attached a = { actors with
        players := actors.players.modify name (Option.map fun state => { state with spell }) }) ∨
    ∀ actors : Actors, actors.attached a = actors := by
  unfold Actors.attached Actors.attach place
  cases htype : a.event.type
  case npcAttack =>
    cases hnpc : a.event.npc with
    | none => exact .inr (.inr (.inr fun _ => by simp [expectNpc, hnpc]; rfl))
    | some npc =>
      cases hattack : a.event.npcAttack with
      | none => exact .inr (.inr (.inr fun _ => by simp [expectNpc, hnpc]; rfl))
      | some attack =>
        refine .inl ⟨npc.roomId, fun state => { state with attack := some ⟨a.source, attack.attack,
          attack.target.map fun name => ⟨a.source, .player name⟩⟩ }, rfl, fun actors => ?_⟩
        simp only [expectNpc, hnpc, bind, Except.bind]
        cases hget : actors.npcs.get npc.roomId with
        | none =>
          rw [OrdMap.modify_of_get_none hget]
          rfl
        | some state =>
          rw [← OrdMap.modify_of_get hget]
          rfl
  case playerAttack =>
    cases hplayer : a.event.player with
    | none => exact .inr (.inr (.inr fun _ => by simp [expectPlayer, hplayer]; rfl))
    | some player =>
      cases hattack : a.event.playerAttack with
      | none => exact .inr (.inr (.inr fun _ => by simp [expectPlayer, hplayer]; rfl))
      | some attack =>
        refine .inr (.inl ⟨player.name, some ⟨a.source, parsePlayerAttack a.source attack⟩, rfl,
          fun actors => ?_⟩)
        simp only [expectPlayer, hplayer, bind, Except.bind]
        split
        case h_1 state hget => rw [modify_seen hget]; rfl
        case h_2 hnone => rw [modify_unseen hnone]; rfl
  case playerSpell =>
    cases hplayer : a.event.player with
    | none => exact .inr (.inr (.inr fun _ => by simp [expectPlayer, hplayer]; rfl))
    | some player =>
      cases hspell : a.event.playerSpell with
      | none =>
        refine .inr (.inr (.inr fun actors => ?_))
        simp only [expectPlayer, hplayer, bind, Except.bind]
        split <;> rfl
      | some spell =>
        refine .inr (.inr (.inl ⟨player.name,
          some ⟨a.source, ⟨spell.type, parseSpellTarget a.source spell.target⟩⟩, rfl,
          fun actors => ?_⟩))
        simp only [expectPlayer, hplayer, bind, Except.bind]
        split
        case h_1 state hget => rw [modify_seen hget]; rfl
        case h_2 hnone => rw [modify_unseen hnone]; rfl
  all_goals exact .inr (.inr (.inr fun _ => rfl))

lemma attached_comm (hplace : ∀ p, place a.event = some p → place b.event = some p → a = b) :
    (actors.attached a).attached b = (actors.attached b).attached a := by
  by_cases hsame : a = b
  · rw [hsame]
  have hne : ∀ p q, place a.event = some p → place b.event = some q → p ≠ q := by
    rintro p q hp hq rfl
    exact hsame (hplace p hp hq)
  rcases attached_cases a with ⟨roomId, f, hpa, ha⟩ | ⟨name, attack, hpa, ha⟩ |
    ⟨name, spell, hpa, ha⟩ | ha
  all_goals rcases attached_cases b with ⟨roomId', f', hpb, hb⟩ | ⟨name', attack', hpb, hb⟩ |
    ⟨name', spell', hpb, hb⟩ | hb
  all_goals simp only [ha, hb]
  case inl.inl => rw [OrdMap.modify_comm fun h => absurd (by rw [h]) (hne _ _ hpa hpb)]
  case inr.inl.inr.inl => rw [OrdMap.modify_comm fun h => absurd (by rw [h]) (hne _ _ hpa hpb)]
  case inr.inr.inl.inr.inr.inl => rw [OrdMap.modify_comm fun h => absurd (by rw [h]) (hne _ _ hpa hpb)]
  case inr.inl.inr.inr.inl =>
    -- An attack and a spell of one player are kept apart.
    rw [OrdMap.modify_comm fun _ state => by cases state <;> rfl]
  case inr.inr.inl.inr.inl =>
    rw [OrdMap.modify_comm fun _ state => by cases state <;> rfl]

lemma attachActions_eq {actions : List TaggedEvent} {actors' : Actors}
    (h : attachActions actors actions = .ok actors') :
    actors' = actions.foldl Actors.attached actors := by
  unfold attachActions at h
  induction actions generalizing actors with
  | nil =>
    cases h
    rfl
  | cons e actions ih =>
    rw [List.foldlM_cons] at h
    obtain ⟨actors₁, he, h⟩ := bind_eq_ok.1 h
    have hattached : actors.attached e = actors₁ := by
      unfold Actors.attached
      rw [he]
      rfl
    rw [List.foldl_cons, hattached]
    exact ih h

end Attach

/-! ### The state of a tick -/

/-- States of a tick that differ at most in the order of the events that they keep. -/
structure TickState.Alike (s s' : TickState) : Prop where
  tick : s.tick = s'.tick
  players : s.players = s'.players
  npcs : s.npcs = s'.npcs
  graphics : s.graphics = s'.graphics
  events : s.events.Perm s'.events

abbrev AlikeTicks (ticks ticks' : List (Option TickState)) : Prop :=
  List.Forall₂ (Option.Rel TickState.Alike) ticks ticks'

section Ticks

variable {party : List String} {t : ℕ} {history history' : List (Option TickState)}
  {lastPlayers : List (Option ℕ)} {events events' : List TaggedEvent}

def readingOf (party : List String) (history : List (Option TickState))
    (lastPlayers : List (Option ℕ)) (events : List TaggedEvent) : Reading :=
  events.foldl (Reading.apply history) (.initial party lastPlayers)

def actorsOf (r : Reading) (events : List TaggedEvent) : Actors :=
  (events.filter isAction).foldl Actors.attached ⟨r.players, r.npcs⟩

lemma fromEvents_eq (hindex : IndexesIn lastPlayers.length events) (hreads : TickReads events) :
    TickState.fromEvents t party history lastPlayers events =
      .ok ({ tick := t
             events := events.filter isRetained
             players := (actorsOf (readingOf party history lastPlayers events) events).players
             npcs := (actorsOf (readingOf party history lastPlayers events) events).npcs
             graphics := (readingOf party history lastPlayers events).graphics },
        (readingOf party history lastPlayers events).lastPlayers) := by
  obtain ⟨⟨state, last⟩, hok, -⟩ :=
    (@fromEvents_spec party t history lastPlayers events hindex).1 hreads
  rw [hok]
  unfold TickState.fromEvents at hok
  have hinitial : IndexesIn (Reading.initial party lastPlayers).lastPlayers.length events := hindex
  rw [foldlM_step_eq hreads.1 hinitial] at hok
  obtain ⟨r, hr, hok⟩ := bind_eq_ok.1 hok
  cases hr
  obtain ⟨actors, hactors, hok⟩ := bind_eq_ok.1 hok
  obtain rfl := attachActions_eq hactors
  cases hok
  rfl

lemma mem_seenIn_congr (h : events.Perm events') {name : String} :
    SeenIn events name ↔ SeenIn events' name :=
  ⟨fun ⟨e, he, hsees⟩ => ⟨e, h.mem_iff.mp he, hsees⟩,
    fun ⟨e, he, hsees⟩ => ⟨e, h.mem_iff.mpr he, hsees⟩⟩

lemma TickReads.perm (h : events.Perm events') (hreads : TickReads events) : TickReads events' :=
  ⟨fun e he => hreads.1 e (h.mem_iff.mpr he), fun e he hbad =>
    hreads.2 e (h.mem_iff.mpr he) ((actionMalformed_congr fun _ => mem_seenIn_congr h).mpr hbad)⟩

/-- Events of one client, whose players have an index each. -/
structure OfClient (party : List String) (clientId : ClientId) (events : List TaggedEvent) :
    Prop where
  source : ∀ e ∈ events, e.source = clientId
  index : ∀ e ∈ events, ∀ player ∈ e.event.player,
    party.idxOf? player.name = some player.partyIndex

lemma OfClient.partyIndex_ne {clientId : ClientId} (h : OfClient party clientId events)
    {a b : TaggedEvent} (ha : a ∈ events) (hb : b ∈ events) :
    ∀ p ∈ a.event.player, ∀ q ∈ b.event.player, p.name ≠ q.name → p.partyIndex ≠ q.partyIndex := by
  intro p hp q hq hname hindex
  obtain ⟨hlt, hget, -⟩ := List.idxOf?_eq_some_iff.mp (h.index a ha p hp)
  obtain ⟨hlt', hget', -⟩ := List.idxOf?_eq_some_iff.mp (h.index b hb q hq)
  simp only [hindex] at hget
  exact hname (hget.symm.trans hget')

lemma readingOf_perm {clientId : ClientId} (hclient : OfClient party clientId events)
    (honce : ∀ a ∈ events, ∀ b ∈ events,
      ∀ p, place a.event = some p → place b.event = some p → a = b)
    (h : events.Perm events') :
    readingOf party history lastPlayers events = readingOf party history lastPlayers events' := by
  refine h.foldl_eq' (fun a ha b hb r => ?_) _
  exact apply_comm (honce a ha b hb) ((hclient.source a ha).trans (hclient.source b hb).symm)
    (hclient.partyIndex_ne ha hb)

lemma actorsOf_perm {r : Reading} (honce : ∀ a ∈ events, ∀ b ∈ events,
      ∀ p, place a.event = some p → place b.event = some p → a = b)
    (h : events.Perm events') : actorsOf r events = actorsOf r events' := by
  refine (h.filter isAction).foldl_eq' (fun a ha b hb actors => ?_) _
  exact attached_comm (honce a (List.mem_of_mem_filter ha) b (List.mem_of_mem_filter hb))

/-! ### Histories that are alike -/

lemma AlikeTicks.getElem? (h : AlikeTicks history history') (i : ℕ) :
    Option.Rel TickState.Alike (history[i]?).join (history'[i]?).join := by
  induction h generalizing i with
  | nil => exact .none
  | cons hhead _ ih =>
    cases i with
    | zero => exact hhead
    | succ i => exact ih i

lemma AlikeTicks.getLast? (h : AlikeTicks history history') :
    Option.Rel TickState.Alike history.getLast?.join history'.getLast?.join := by
  rw [List.getLast?_eq_getElem?, List.getLast?_eq_getElem?, h.length_eq]
  exact h.getElem? _

lemma stateOn_alike (h : AlikeTicks history history') : stateOn history = stateOn history' := by
  funext tick name
  have hstate := h.getElem? tick
  unfold stateOn
  generalize (history[tick]?).join = s at hstate ⊢
  generalize (history'[tick]?).join = s' at hstate ⊢
  cases hstate with
  | none => rfl
  | some hstate => simp [hstate.players]

lemma extractNpcState_alike {s s' : Option TickState} (h : Option.Rel TickState.Alike s s')
    (event : TaggedEvent) (npc : Npc) :
    Reading.extractNpcState event npc s = Reading.extractNpcState event npc s' := by
  cases h with
  | none => rfl
  | some hstate => simp [Reading.extractNpcState, hstate.npcs]

lemma apply_alike (h : AlikeTicks history history') :
    Reading.apply history = Reading.apply history' := by
  funext r event
  unfold Reading.apply playerAfter
  simp only [stateOn_alike h, extractNpcState_alike h.getLast?]

lemma fromEvents_alike {clientId : ClientId} (hclient : OfClient party clientId events)
    (hlast : lastPlayers.length = party.length) (hreads : TickReads events)
    (honce : ∀ a ∈ events, ∀ b ∈ events,
      ∀ p, place a.event = some p → place b.event = some p → a = b)
    (h : events.Perm events') (hhistory : AlikeTicks history history') :
    ∃ s s' last, TickState.fromEvents t party history lastPlayers events = .ok (s, last) ∧
      TickState.fromEvents t party history' lastPlayers events' = .ok (s', last) ∧
      s.Alike s' ∧ last.length = party.length := by
  have hindex : IndexesIn lastPlayers.length events :=
    hlast ▸ indexesIn_of_idxOf? hclient.index
  have hindex' : IndexesIn lastPlayers.length events' := fun e he => hindex e (h.mem_iff.mpr he)
  have hreading : readingOf party history' lastPlayers events' =
      readingOf party history lastPlayers events := by
    rw [← readingOf_perm hclient honce h]
    unfold readingOf
    rw [apply_alike hhistory]
  have hlength : ∀ (events : List TaggedEvent) (r : Reading),
      (events.foldl (Reading.apply history) r).lastPlayers.length = r.lastPlayers.length := by
    intro events
    induction events with
    | nil => exact fun _ => rfl
    | cons e events ih => exact fun r => (ih _).trans length_lastPlayers_apply
  have hother := @fromEvents_eq party t history' lastPlayers events' hindex' (hreads.perm h)
  rw [hreading, ← actorsOf_perm honce h] at hother
  exact ⟨_, _, _, fromEvents_eq hindex hreads, hother, ⟨rfl, rfl, rfl, rfl, h.filter _⟩,
    (hlength events _).trans hlast⟩

/-! ### Timelines -/

structure Building.Alike (party : List String) (b b' : Building) : Prop where
  ticks : AlikeTicks b.ticks b'.ticks
  lastPlayerUpdates : b.lastPlayerUpdates = b'.lastPlayerUpdates
  length : b.lastPlayerUpdates.length = party.length

/-- Both come to something alike, or both meet a malformed event. -/
def AlikeResults {α : Type} (R : α → α → Prop) (x x' : Except Failure α) : Prop :=
  (∃ a a', x = .ok a ∧ x' = .ok a' ∧ R a a') ∨
    ∃ m m', x = .error (.malformed m) ∧ x' = .error (.malformed m')

lemma not_tickPanics (h : ∀ e ∈ events, ¬Deprecated e.event) : ¬TickPanics events := by
  rintro ⟨earlier, e, later, rfl, -, hkind⟩
  exact h e (by simp) hkind

lemma alikeTicks_set {ticks ticks' : List (Option TickState)} (h : AlikeTicks ticks ticks')
    {s s' : TickState} (hs : s.Alike s') (i : ℕ) :
    AlikeTicks (ticks.set i (some s)) (ticks'.set i (some s')) := by
  induction h generalizing i with
  | nil => exact .nil
  | cons hhead htail ih =>
    cases i with
    | zero => exact .cons (.some hs) htail
    | succ i => exact .cons hhead (ih i)

lemma readTick_alike {clientId : ClientId} {recordedTicks n : ℕ} {b b' : Building}
    (hclient : OfClient party clientId events) (honce : WritesOnce events)
    (hkind : ∀ e ∈ events, ¬Deprecated e.event) (h : events.Perm events')
    (hb : b.Alike party b') (hlength : b.ticks.length = recordedTicks + 1)
    (hn : n ≤ recordedTicks) :
    AlikeResults (Building.Alike party) (b.readTick party events n)
      (b'.readTick party events' n) := by
  have hperm : (eventsAt events n).Perm (eventsAt events' n) := h.filter _
  have hlength' : b'.ticks.length = recordedTicks + 1 := hb.ticks.length_eq ▸ hlength
  have hindex := indexesIn_of_idxOf? hclient.index
  have hindex' : IndexesIn party.length events' := fun e he => hindex e (h.mem_iff.mpr he)
  have hkindAt : ∀ e ∈ eventsAt events n, ¬Deprecated e.event :=
    fun e he => hkind e (mem_eventsAt.1 he).1
  have hkindAt' : ∀ e ∈ eventsAt events' n, ¬Deprecated e.event :=
    fun e he => hkindAt e (hperm.mem_iff.mpr he)
  by_cases hreads : TickReads (eventsAt events n)
  · refine .inl ?_
    by_cases hnil : eventsAt events n = []
    · have hnil' : eventsAt events' n = [] := (hnil ▸ hperm).nil_eq.symm
      exact ⟨b, b', if_pos hnil, if_pos hnil', hb⟩
    · have hnil' : eventsAt events' n ≠ [] := fun h => hnil (h ▸ hperm).eq_nil
      have hclientAt : OfClient party clientId (eventsAt events n) :=
        ⟨fun e he => hclient.source e (mem_eventsAt.1 he).1,
          fun e he => hclient.index e (mem_eventsAt.1 he).1⟩
      have honceAt : ∀ a ∈ eventsAt events n, ∀ c ∈ eventsAt events n,
          ∀ p, place a.event = some p → place c.event = some p → a = c := by
        intro a ha c hc p hpa hpc
        obtain ⟨ha, hta⟩ := mem_eventsAt.1 ha
        obtain ⟨hc, htc⟩ := mem_eventsAt.1 hc
        exact honce a ha c hc (hta.trans htc.symm) (by simp [hpa]) (hpa.trans hpc.symm)
      have htake : AlikeTicks (b.ticks.take n) (b'.ticks.take n) :=
        List.forall₂_take n hb.ticks
      obtain ⟨s, s', last, hs, hs', halike, hlast⟩ := fromEvents_alike (t := n) hclientAt hb.length
        hreads honceAt hperm htake
      have hread : b.readTick party events n = .ok (b.drained n (s, last)) := by
        unfold Building.readTick
        rw [if_neg hnil, drain_eq hnil (fun e he => (mem_eventsAt.1 he).2) (by omega), hs]
        rfl
      have hread' : b'.readTick party events' n = .ok (b'.drained n (s', last)) := by
        unfold Building.readTick
        rw [if_neg hnil', drain_eq hnil' (fun e he => (mem_eventsAt.1 he).2) (by omega),
          ← hb.lastPlayerUpdates, hs']
        rfl
      exact ⟨_, _, hread, hread', alikeTicks_set hb.ticks halike n, rfl, hlast⟩
  · have hreads' : ¬TickReads (eventsAt events' n) := fun h => hreads (h.perm hperm.symm)
    obtain ⟨m, hm⟩ := (@readTick_spec party n events b hindex hb.length (by omega)).2.2 hreads
      (not_tickPanics hkindAt)
    obtain ⟨m', hm'⟩ := (@readTick_spec party n events' b' hindex'
      (hb.lastPlayerUpdates ▸ hb.length) (by omega)).2.2 hreads' (not_tickPanics hkindAt')
    exact .inr ⟨m, m', hm, hm'⟩

lemma readTicks_alike {clientId : ClientId} {recordedTicks n : ℕ}
    (hclient : OfClient party clientId events) (honce : WritesOnce events)
    (hkind : ∀ e ∈ events, ¬Deprecated e.event) (h : events.Perm events')
    (hn : n ≤ recordedTicks + 1) :
    AlikeResults (Building.Alike party) (readTicks party recordedTicks events n)
      (readTicks party recordedTicks events' n) := by
  induction n with
  | zero =>
    refine .inl ⟨_, _, readTicks_zero, readTicks_zero, ?_, rfl, List.length_replicate⟩
    refine List.forall₂_same.mpr fun x hx => ?_
    rw [List.eq_of_mem_replicate hx]
    exact .none
  | succ n ih =>
    rw [readTicks_succ, readTicks_succ]
    rcases ih (Nat.le_of_succ_le hn) with ⟨b, b', hb, hb', halike⟩ | ⟨m, m', hm, hm'⟩
    · rw [hb, hb']
      exact readTick_alike hclient honce hkind h halike
        (readTicks_spec (Nat.le_of_succ_le hn) hb).1 (Nat.le_of_succ_le_succ hn)
    · rw [hm, hm']
      exact .inr ⟨m, m', rfl, rfl⟩

lemma build_alike {clientId : ClientId} {recordedTicks : ℕ}
    (hclient : OfClient party clientId events) (honce : WritesOnce events)
    (hkind : ∀ e ∈ events, ¬Deprecated e.event) (h : events.Perm events')
    (hsorted : events.Pairwise (·.event.tick ≤ ·.event.tick))
    (hsorted' : events'.Pairwise (·.event.tick ≤ ·.event.tick))
    (hbound : ∀ e ∈ events, e.event.tick ≤ recordedTicks) :
    AlikeResults (fun timeline timeline' => AlikeTicks timeline.ticks timeline'.ticks)
      (build party recordedTicks events) (build party recordedTicks events') := by
  rw [build_eq hsorted hbound, build_eq hsorted' fun e he => hbound e (h.mem_iff.mpr he)]
  rcases readTicks_alike hclient honce hkind h (Nat.le_refl (recordedTicks + 1)) with
    ⟨b, b', hb, hb', halike⟩ | ⟨m, m', hm, hm'⟩
  · rw [hb, hb']
    exact .inl ⟨_, _, rfl, rfl, halike.ticks⟩
  · rw [hm, hm']
    exact .inr ⟨m, m', rfl, rfl⟩

end Ticks

/-! ### Sorting -/

/-- The results that sorting by tick may have, if it need not be stable. -/
def Sorts (sort : List TaggedEvent → List TaggedEvent) : Prop :=
  ∀ l, (sort l).Perm l ∧ (sort l).Pairwise (·.event.tick ≤ ·.event.tick)

section Sorting

variable {sort sort' : List TaggedEvent → List TaggedEvent} {l : List TaggedEvent} {t : ℕ}

lemma eventsAt_sortByTick (l : List TaggedEvent) : eventsAt (sortByTick l) t = eventsAt l t := by
  have htotal : Std.Total fun a b : TaggedEvent => a.event.tick ≤ b.event.tick :=
    ⟨fun a b => le_total a.event.tick b.event.tick⟩
  have htrans : IsTrans TaggedEvent fun a b => a.event.tick ≤ b.event.tick :=
    ⟨fun a b c => le_trans⟩
  have hpairwise : (eventsAt l t).Pairwise fun a b => a.event.tick ≤ b.event.tick := by
    refine List.pairwise_of_forall_mem_list fun a ha b hb => ?_
    rw [(mem_eventsAt.1 ha).2, (mem_eventsAt.1 hb).2]
  have hsub : (eventsAt l t).Sublist (sortByTick l) :=
    List.sublist_insertionSort hpairwise List.filter_sublist
  have hsub' : (eventsAt l t).Sublist (eventsAt (sortByTick l) t) := by
    have h := hsub.filter (·.event.tick = t)
    unfold eventsAt at h ⊢
    simp only [List.filter_filter, Bool.and_self] at h
    exact h
  have hperm : (eventsAt (sortByTick l) t).Perm (eventsAt l t) := (sortByTick_spec l).1.filter _
  exact (hsub'.eq_of_length hperm.length_eq.symm).symm

lemma map_tick_sort (hsort : Sorts sort) (hsort' : Sorts sort') :
    (sort l).map (·.event.tick) = (sort' l).map (·.event.tick) := by
  have hperm : ((sort l).map (·.event.tick)).Perm ((sort' l).map (·.event.tick)) :=
    ((hsort l).1.trans (hsort' l).1.symm).map _
  exact hperm.eq_of_pairwise (fun a b _ _ => le_antisymm)
    (List.pairwise_map.mpr (hsort l).2) (List.pairwise_map.mpr (hsort' l).2)

lemma takeWhile_eq_filter (h : l.Pairwise (·.event.tick ≤ ·.event.tick)) (n : ℕ) :
    l.takeWhile (·.event.tick ≤ n) = l.filter (·.event.tick ≤ n) := by
  induction l with
  | nil => rfl
  | cons e l ih =>
    obtain ⟨hhead, htail⟩ := List.pairwise_cons.mp h
    by_cases he : e.event.tick ≤ n
    · simp [he, ih htail]
    · have hlater : ∀ x ∈ l, ¬x.event.tick ≤ n := fun x hx hle => he ((hhead x hx).trans hle)
      simp only [List.takeWhile_cons, List.filter_cons, he, decide_false]
      exact (List.filter_eq_nil_iff.mpr (by simpa using hlater)).symm

end Sorting

/-! ### Client streams -/

section ClientStreams

variable {sort sort' : List TaggedEvent → List TaggedEvent} {party : List String}
  {stage : Lifecycle.Stage} {clientId : ClientId} {records : List ClientStageStream}

def rawEvents (stage : Lifecycle.Stage) (clientId : ClientId) (records : List ClientStageStream) :
    List TaggedEvent :=
  (records.foldl Collected.read (.initial stage clientId)).rawEvents

lemma backfill_recordedTicks (client : ClientEvents) (l : List TaggedEvent) :
    (client.backfill l).recordedTicks =
      if client.recordedTicks = 0 then ((l.map (·.event.tick)).getLast?).getD 0
      else client.recordedTicks := by
  unfold ClientEvents.backfill
  rw [List.getLast?_map]
  cases l.getLast? with
  | none =>
    by_cases h : client.recordedTicks = 0
    · rw [if_pos h, h]
      rfl
    · rw [if_neg h]
  | some last =>
    by_cases h : client.recordedTicks = 0
    · rw [if_pos h]
      exact congrArg ClientEvents.recordedTicks (if_pos h)
    · rw [if_neg h]
      exact congrArg ClientEvents.recordedTicks (if_neg h)

lemma recordedTicks_collect (hsort : Sorts sort) (hsort' : Sorts sort') :
    (collect sort stage clientId records).1.recordedTicks =
      (collect sort' stage clientId records).1.recordedTicks := by
  unfold collect
  dsimp only
  rw [recordedTicks_noteIf, recordedTicks_noteIf, backfill_recordedTicks, backfill_recordedTicks,
    map_tick_sort hsort hsort']

lemma collect_eq_filter (hsort : Sorts sort) :
    (collect sort stage clientId records).2 = (sort (rawEvents stage clientId records)).filter
      (·.event.tick ≤ (collect sort stage clientId records).1.recordedTicks) := by
  rw [← takeWhile_eq_filter (hsort _).2]
  unfold collect
  dsimp only
  rw [recordedTicks_noteIf]
  rfl

lemma keptEvents_perm (hsort : Sorts sort) (hsort' : Sorts sort') :
    (keptEvents sort party stage clientId records).Perm
      (keptEvents sort' party stage clientId records) := by
  unfold keptEvents
  rw [collect_eq_filter hsort, collect_eq_filter hsort', recordedTicks_collect hsort hsort']
  exact (((hsort _).1.trans (hsort' _).1.symm).filter _).filterMap _

lemma source_rawEvents {e : TaggedEvent} (h : e ∈ rawEvents stage clientId records) :
    e.source = clientId := by
  have hfold : ∀ (records : List ClientStageStream) (c : Collected),
      c.client.clientId = clientId → (∀ e ∈ c.rawEvents, e.source = clientId) →
        ∀ e ∈ (records.foldl Collected.read c).rawEvents, e.source = clientId := by
    intro records
    induction records with
    | nil => exact fun _ _ h => h
    | cons record records ih =>
      intro c hid hevents
      refine ih (c.read record) ?_ ?_
      · cases record with
        | events events => cases events <;> exact hid
        | _ => exact hid
      · cases record with
        | events events =>
          cases events with
          | none => exact hevents
          | some events =>
            intro e he
            rcases List.mem_append.mp he with he | he
            · exact hevents e he
            · obtain ⟨x, -, rfl⟩ := List.mem_map.mp he
              exact hid
        | _ => exact hevents
  exact hfold records _ rfl (by simp [Collected.initial]) e h

lemma source_prepare {e e' : TaggedEvent} (h : prepare party e = some e') :
    e'.source = e.source := by
  unfold prepare at h
  cases hplayer : e.event.player with
  | none =>
    rw [hplayer] at h
    dsimp only at h
    split_ifs at h
    cases h
    rfl
  | some player =>
    rw [hplayer] at h
    dsimp only at h
    split_ifs at h
    obtain ⟨index, -, rfl⟩ := Option.map_eq_some_iff.mp h
    rfl

lemma ofClient_keptEvents (hsort : Sorts sort) :
    OfClient party clientId (keptEvents sort party stage clientId records) := by
  refine ⟨fun e he => ?_, (keptEvents_spec hsort).2.2⟩
  obtain ⟨x, hx, hprepare⟩ := List.mem_filterMap.mp he
  rw [collect_eq_filter hsort] at hx
  rw [source_prepare hprepare]
  exact source_rawEvents ((hsort _).1.mem_iff.mp (List.mem_of_mem_filter hx))

lemma timeline_noteIf (client : ClientEvents) (seen : Bool) (anomaly : Anomaly) :
    (client.noteIf seen anomaly).timeline = client.timeline := by
  unfold ClientEvents.noteIf
  split_ifs <;> rfl

lemma timeline_collect : (collect sort stage clientId records).1.timeline = ⟨[]⟩ := by
  have hread : ∀ (records : List ClientStageStream) (c : Collected),
      (records.foldl Collected.read c).client.timeline = c.client.timeline := by
    intro records
    induction records with
    | nil => exact fun _ => rfl
    | cons record records ih =>
      intro c
      rw [List.foldl_cons, ih]
      cases record with
      | events events => cases events <;> rfl
      | _ => rfl
  have hbackfill : ∀ (client : ClientEvents) (l : List TaggedEvent),
      (client.backfill l).timeline = client.timeline := by
    intro client l
    unfold ClientEvents.backfill
    split
    · split_ifs <;> rfl
    · rfl
  unfold collect
  dsimp only
  rw [timeline_noteIf, hbackfill, timeline_noteIf, hread]
  rfl

lemma timeline_preprocessEvents {client client' : ClientEvents} {events events' : List TaggedEvent}
    (h : preprocessEvents party client events = some (client', events')) :
    client'.timeline = client.timeline := by
  unfold preprocessEvents at h
  obtain ⟨p, -, h⟩ := Option.bind_eq_some_iff.mp h
  dsimp only at h
  split_ifs at h <;> cases h <;> simp [timeline_noteIf]

/-- The timeline that a client has once one is built: one that has a malformed event is empty. -/
def ofBuilt : Except Failure Timeline → Option Timeline
  | .ok timeline => some timeline
  | .error (.malformed _) => some ⟨[]⟩
  | .error .panic => none

def timelineOf (sort : List TaggedEvent → List TaggedEvent) (party : List String)
    (stage : Lifecycle.Stage) (clientId : ClientId) (records : List ClientStageStream) :
    Option Timeline :=
  (fromClientStream sort party stage clientId records).map (·.timeline)

lemma timelineOf_eq :
    ((∀ e ∈ (collect sort stage clientId records).2, IndexFits party e) →
      timelineOf sort party stage clientId records =
        ofBuilt (build party (collect sort stage clientId records).1.recordedTicks
          (keptEvents sort party stage clientId records))) ∧
    (¬(∀ e ∈ (collect sort stage clientId records).2, IndexFits party e) →
      timelineOf sort party stage clientId records = none) := by
  obtain ⟨hok, hnone⟩ := @preprocessEvents_spec party (collect sort stage clientId records).2
    (collect sort stage clientId records).1
  have hunfold : timelineOf sort party stage clientId records =
      ((preprocessEvents party (collect sort stage clientId records).1
        (collect sort stage clientId records).2).bind fun r =>
          r.1.withTimeline party r.2).map (·.timeline) := rfl
  rw [hunfold]
  refine ⟨fun hfits => ?_, fun hnot => by rw [hnone hnot]; rfl⟩
  obtain ⟨client, hclient, hticks⟩ := hok hfits
  have hempty : client.timeline = ⟨[]⟩ :=
    (timeline_preprocessEvents hclient).trans timeline_collect
  rw [hclient, ← hticks]
  show (client.withTimeline party (keptEvents sort party stage clientId records)).map _ = _
  unfold ClientEvents.withTimeline ofBuilt
  cases build party client.recordedTicks (keptEvents sort party stage clientId records) with
  | ok timeline => rfl
  | error e =>
    cases e with
    | panic => rfl
    | malformed m => exact congrArg some ((timeline_noteIf _ _ _).trans hempty)

lemma collect_perm (hsort : Sorts sort) (hsort' : Sorts sort') :
    (collect sort stage clientId records).2.Perm (collect sort' stage clientId records).2 := by
  rw [collect_eq_filter hsort, collect_eq_filter hsort', recordedTicks_collect hsort hsort']
  exact ((hsort _).1.trans (hsort' _).1.symm).filter _

/-- Where no two different events of a tick write to the same place, the timelines that a stream is
read into differ at most in the order of the events that they keep. -/
lemma timelineOf_alike (hsort : Sorts sort) (hsort' : Sorts sort')
    (hkind : ∀ e ∈ keptEvents sort party stage clientId records, ¬Deprecated e.event)
    (honce : WritesOnce (keptEvents sort party stage clientId records)) :
    Option.Rel (fun timeline timeline' => AlikeTicks timeline.ticks timeline'.ticks)
      (timelineOf sort party stage clientId records)
      (timelineOf sort' party stage clientId records) := by
  have hperm := @collect_perm sort sort' stage clientId records hsort hsort'
  obtain ⟨hok, hnone⟩ := @timelineOf_eq sort party stage clientId records
  obtain ⟨hok', hnone'⟩ := @timelineOf_eq sort' party stage clientId records
  by_cases hfits : ∀ e ∈ (collect sort stage clientId records).2, IndexFits party e
  · rw [hok hfits, hok' fun e he => hfits e (hperm.mem_iff.mpr he),
      recordedTicks_collect hsort' hsort]
    rcases build_alike (ofClient_keptEvents hsort) honce hkind (keptEvents_perm hsort hsort')
      (keptEvents_spec hsort).1 (keptEvents_spec hsort').1 (keptEvents_spec hsort).2.1 with
      ⟨timeline, timeline', hb, hb', halike⟩ | ⟨m, m', hm, hm'⟩
    · rw [hb, hb']
      exact .some halike
    · rw [hm, hm']
      exact .some .nil
  · rw [hnone hfits, hnone' fun h => hfits fun e he => h e (hperm.mem_iff.mp he)]
    exact .none

/-! ### Ties -/

/-- However the events of a stream are sorted, those of one tick reach the timeline in the order in
which they were recorded, and the timeline is the same. -/
def KeepsTies (party : List String) (stage : Lifecycle.Stage) (clientId : ClientId)
    (records : List ClientStageStream) : Prop :=
  ∀ sort, Sorts sort →
    keptEvents sort party stage clientId records =
        keptEvents sortByTick party stage clientId records ∧
      timelineOf sort party stage clientId records =
        timelineOf sortByTick party stage clientId records

/-- A sort that puts an event before the others of its tick. -/
def sortFirst (x : TaggedEvent) (l : List TaggedEvent) : List TaggedEvent :=
  sortByTick (if x ∈ l then x :: l.erase x else l)

lemma sorts_sortFirst (x : TaggedEvent) : Sorts (sortFirst x) := by
  intro l
  obtain ⟨hperm, hsorted⟩ := sortByTick_spec (if x ∈ l then x :: l.erase x else l)
  refine ⟨hperm.trans ?_, hsorted⟩
  split_ifs with hx
  · exact (List.perm_cons_erase hx).symm
  · exact .refl l

lemma eventsAt_filterMap_prepare (l : List TaggedEvent) (t : ℕ) :
    eventsAt (l.filterMap (prepare party)) t = (eventsAt l t).filterMap (prepare party) := by
  induction l with
  | nil => rfl
  | cons e l ih =>
    have hcons : ∀ e l, eventsAt (e :: l) t = eventsAt [e] t ++ eventsAt l t :=
      fun e l => eventsAt_append [e] l t
    rw [hcons e l, List.filterMap_append, ← ih, eventsAt_singleton]
    cases hprepare : prepare party e with
    | none =>
      rw [List.filterMap_cons_none hprepare]
      split_ifs <;> simp [hprepare]
    | some e' =>
      have htick := (of_mem_prepare hprepare).1
      rw [List.filterMap_cons_some hprepare, hcons, eventsAt_singleton, htick]
      split_ifs <;> simp [hprepare]

lemma eventsAt_keptEvents (hsort : Sorts sort) {t : ℕ}
    (ht : t ≤ (collect sort stage clientId records).1.recordedTicks) :
    eventsAt (keptEvents sort party stage clientId records) t =
      (eventsAt (sort (rawEvents stage clientId records)) t).filterMap (prepare party) := by
  unfold keptEvents
  rw [eventsAt_filterMap_prepare, collect_eq_filter hsort]
  congr 1
  unfold eventsAt
  rw [List.filter_filter]
  refine List.filter_congr fun e _ => ?_
  by_cases he : e.event.tick = t <;> simp [he, ht]

lemma keptEvents_sortFirst {a : TaggedEvent}
    (ha : a ∈ keptEvents sortByTick party stage clientId records) :
    ∃ x later, eventsAt (keptEvents (sortFirst x) party stage clientId records) a.event.tick =
      a :: later := by
  obtain ⟨x, hx, hprepare⟩ := List.mem_filterMap.mp ha
  have htick := (of_mem_prepare hprepare).1
  have hbound := (@collect_spec sortByTick stage clientId records sortByTick_spec).2 x hx
  rw [recordedTicks_collect sortByTick_spec (sorts_sortFirst x), ← htick] at hbound
  rw [collect_eq_filter sortByTick_spec] at hx
  have hraw := (sortByTick_spec _).1.mem_iff.mp (List.mem_of_mem_filter hx)
  have hcons : ∀ l, eventsAt (x :: l) a.event.tick = x :: eventsAt l a.event.tick :=
    fun l => List.filter_cons_of_pos (by simpa using htick.symm)
  have hkept := @eventsAt_keptEvents (sortFirst x) party stage clientId records
    (sorts_sortFirst x) a.event.tick hbound
  rw [sortFirst, if_pos hraw, eventsAt_sortByTick, hcons, List.filterMap_cons_some hprepare]
    at hkept
  exact ⟨x, _, hkept⟩

end ClientStreams

def prayingAt (tick prayers : ℕ) : Event :=
  { type := .playerUpdate, tick
    player := some ⟨"1Ogp", 0, .primary, [], some prayers, false, none, none, none, none, none,
      none, none⟩ }

end Blert.Timeline

import Blert.Timeline.Crashes
import Blert.Timeline.PlayerStates

/-!
What players wear.

A player wears what their updates say, one after the other. A timeline carries equipment on from
the last tick on which the player was seen, so that of several events of a player on a tick all but
the first start from nothing.
-/

namespace Blert.Timeline

open Fallible
open Merging (EventType Coords DataSource ClientId)

/-! ### Updates -/

def parsed (raws : List ℕ) : List ItemDelta :=
  raws.filterMap fun raw => (ItemDelta.parse raw).toOption

def Equipment.wear (equipment : Equipment) (d : ItemDelta) : Equipment :=
  Function.update equipment d.slot (change id d.isAdded d.id d.quantity (equipment d.slot))

/-- What is worn after an update, a snapshot being of everything. -/
def wornAfter (equipment : Equipment) (player : Player) : Equipment :=
  (parsed player.equipmentDeltas).foldl Equipment.wear
    (if player.snapshot then .empty else equipment)

def updateOf (name : String) (e : TaggedEvent) : Option Player :=
  if e.event.type = .playerUpdate then e.event.player.filter (·.name = name) else none

/-- What a player wears once all updates are applied. -/
def worn (name : String) (equipment : Equipment) (events : List TaggedEvent) : Equipment :=
  (events.filterMap (updateOf name)).foldl wornAfter equipment

def wornBefore (name : String) (events : List TaggedEvent) (n : ℕ) : Equipment :=
  worn name .empty (events.filter (·.event.tick < n))

def sees (name : String) (e : TaggedEvent) : Bool :=
  (e.event.type = .playerUpdate || e.event.type = .playerDeath) &&
    e.event.player.any (·.name = name)

/-- The events of a tick that have the player seen. -/
def seenAt (name : String) (events : List TaggedEvent) (t : ℕ) : List TaggedEvent :=
  (eventsAt events t).filter (sees name)

section Updates

variable {name : String} {events : List TaggedEvent} {e : TaggedEvent} {equipment : Equipment}
  {n : ℕ}

lemma updateOf_eq_some {player : Player} : updateOf name e = some player ↔
    e.event.type = .playerUpdate ∧ e.event.player = some player ∧ player.name = name := by
  unfold updateOf
  split_ifs with htype
  · simp [htype, Option.filter_eq_some_iff]
  · simp [htype]

lemma sees_of_updateOf {player : Player} (h : updateOf name e = some player) :
    sees name e = true := by
  obtain ⟨htype, hplayer, hname⟩ := updateOf_eq_some.1 h
  simp [sees, htype, hplayer, hname]

lemma type_ne_of_updateOf (h : updateOf name e = none) (hsees : sees name e = true) :
    e.event.type ≠ .playerUpdate := by
  intro htype
  unfold updateOf at h
  unfold sees at hsees
  rw [if_pos htype] at h
  cases hplayer : e.event.player with
  | none => simp [hplayer] at hsees
  | some player =>
    rw [hplayer, Option.filter_eq_none_iff] at h
    simp [hplayer] at hsees
    exact h player rfl (decide_eq_true hsees.2)

lemma worn_append (xs ys : List TaggedEvent) :
    worn name equipment (xs ++ ys) = worn name (worn name equipment xs) ys := by
  unfold worn
  rw [List.filterMap_append, List.foldl_append]

lemma wornBefore_zero : wornBefore name events 0 = .empty := by
  unfold wornBefore
  simp [worn]

lemma worn_filter_sees :
    worn name equipment (events.filter (sees name)) = worn name equipment events := by
  unfold worn
  rw [List.filterMap_filter]
  refine congrArg (List.foldl wornAfter equipment) (List.filterMap_congr fun e _ => ?_)
  cases hupdate : updateOf name e with
  | none => split_ifs <;> rfl
  | some player => rw [if_pos (sees_of_updateOf hupdate)]

lemma filter_lt_succ (h : events.Pairwise (·.event.tick ≤ ·.event.tick)) (n : ℕ) :
    events.filter (·.event.tick < n + 1) =
      events.filter (·.event.tick < n) ++ eventsAt events n := by
  induction events with
  | nil => rfl
  | cons e events ih =>
    obtain ⟨hle, hevents⟩ := List.pairwise_cons.mp h
    have ih := ih hevents
    unfold eventsAt at ih ⊢
    rcases lt_trichotomy e.event.tick n with hlt | heq | hgt
    · simpa [hlt, hlt.ne, hlt.le] using ih
    · have hnone : events.filter (·.event.tick < n) = [] :=
        List.filter_eq_nil_iff.mpr fun x hx hlt => by
          have := hle x hx
          simp only [decide_eq_true_eq] at hlt
          omega
      rw [hnone] at ih
      simpa [heq, hnone] using ih
    · simpa [hgt.ne', Nat.not_lt.mpr hgt.le, Nat.not_le.mpr hgt] using ih

lemma wornBefore_succ (h : events.Pairwise (·.event.tick ≤ ·.event.tick)) (n : ℕ) :
    wornBefore name events (n + 1) =
      worn name (wornBefore name events n) (seenAt name events n) := by
  unfold wornBefore seenAt
  rw [filter_lt_succ h, worn_append, worn_filter_sees]

lemma wornBefore_succ_of_nil (h : events.Pairwise (·.event.tick ≤ ·.event.tick))
    (hnil : seenAt name events n = []) :
    wornBefore name events (n + 1) = wornBefore name events n := by
  rw [wornBefore_succ h, hnil]
  rfl

end Updates

/-! ### What is rebuilt -/

/-- What an event leaves of the equipment that is rebuilt on its tick, if any yet, for a player who
wore other equipment before. -/
def rebuild (previous : Equipment) (current : Option Equipment) (e : TaggedEvent) :
    Option Equipment :=
  match e.event.type, e.event.player with
  | .playerUpdate, some player =>
    some ((parsed player.equipmentDeltas).foldl Equipment.apply
      (if player.snapshot ∨ current.isSome then .empty else previous))
  | _, _ => some (current.getD previous)

def rebuiltBefore (name : String) (events : List TaggedEvent) : ℕ → Equipment
  | 0 => .empty
  | n + 1 => ((seenAt name events n).foldl (rebuild (rebuiltBefore name events n)) none).getD
      (rebuiltBefore name events n)

section Rebuild

variable {name : String} {events : List TaggedEvent} {e : TaggedEvent} {previous : Equipment}
  {current : Option Equipment} {n : ℕ}

lemma rebuild_update {player : Player} (htype : e.event.type = .playerUpdate)
    (hplayer : e.event.player = some player) :
    rebuild previous current e = some ((parsed player.equipmentDeltas).foldl Equipment.apply
      (if player.snapshot ∨ current.isSome then .empty else previous)) := by
  unfold rebuild
  rw [htype, hplayer]

lemma rebuild_other (htype : e.event.type ≠ .playerUpdate) :
    rebuild previous current e = some (current.getD previous) := by
  unfold rebuild
  split
  · contradiction
  · rfl

lemma isSome_rebuild : (rebuild previous current e).isSome := by
  unfold rebuild
  split <;> rfl

lemma rebuild_eq_none_iff :
    events.foldl (rebuild previous) none = none ↔ events = [] := by
  induction events using List.reverseRecOn with
  | nil => simp
  | append_singleton events e ih =>
    rw [List.foldl_append]
    have hsome := @isSome_rebuild e previous (events.foldl (rebuild previous) none)
    constructor
    · intro h
      rw [List.foldl_cons, List.foldl_nil] at h
      rw [h] at hsome
      cases hsome
    · simp

lemma getD_foldl_rebuild_of_none (h : ∀ e ∈ events, e.event.type ≠ .playerUpdate) :
    (events.foldl (rebuild previous) current).getD previous = current.getD previous := by
  induction events generalizing current with
  | nil => rfl
  | cons e events ih =>
    obtain ⟨hhead, htail⟩ := List.forall_mem_cons.mp h
    rw [List.foldl_cons, ih htail, rebuild_other hhead]
    rfl

/-- The last update decides what is rebuilt: its deltas are applied to what was worn before if it
is the first event of the player's tick, and to nothing otherwise or if it is a snapshot. -/
lemma getD_foldl_rebuild {earlier later : List TaggedEvent} {player : Player}
    (hupdate : updateOf name e = some player)
    (hlater : ∀ x ∈ later, x.event.type ≠ .playerUpdate) :
    ((earlier ++ e :: later).foldl (rebuild previous) none).getD previous =
      (parsed player.equipmentDeltas).foldl Equipment.apply
        (if earlier = [] ∧ ¬player.snapshot then previous else .empty) := by
  obtain ⟨htype, hplayer, -⟩ := updateOf_eq_some.1 hupdate
  rw [List.foldl_append, List.foldl_cons, getD_foldl_rebuild_of_none hlater,
    rebuild_update htype hplayer, Option.getD_some]
  congr 1
  have hsome : (earlier.foldl (rebuild previous) none).isSome ↔ earlier ≠ [] := by
    rw [← Option.ne_none_iff_isSome, ne_eq, rebuild_eq_none_iff]
  by_cases hnil : earlier = [] <;> by_cases hsnapshot : player.snapshot <;>
    simp [hsome, hnil, hsnapshot]

end Rebuild

/-! ### What a timeline has -/

section Reads

variable {party : List String} {recordedTicks n i : ℕ} {history : List (Option TickState)}
  {r r' : Reading} {e : TaggedEvent} {name : String} {last : Option ℕ} {previous : Equipment}
  {earlier events : List TaggedEvent}

/-- What has been read of a player by the events of a tick so far. -/
structure ReadsAs (name : String) (i n : ℕ) (last : Option ℕ) (previous : Equipment)
    (earlier : List TaggedEvent) (r : Reading) : Prop where
  equipment : (r.players.get name).join.map (·.equipment) =
    (earlier.filter (sees name)).foldl (rebuild previous) none
  last : r.lastPlayers[i]? = some (if earlier.filter (sees name) = [] then last else some n)

lemma extract_frame (h : r.extract history e = .ok r') (hupdate : e.event.type ≠ .playerUpdate)
    (hdeath : e.event.type ≠ .playerDeath) :
    r'.players = r.players ∧ r'.lastPlayers = r.lastPlayers := by
  unfold Reading.extract at h
  split at h
  case h_1 | h_2 | h_3 =>
    obtain ⟨npc, -, h⟩ := bind_eq_ok.1 h
    cases h
    exact ⟨rfl, rfl⟩
  case h_4 htype => exact absurd htype hupdate
  case h_5 htype => exact absurd htype hdeath
  case h_7 =>
    cases hmaze : e.event.soteMaze with
    | none =>
      rw [hmaze] at h
      cases h
    | some maze =>
      rw [hmaze] at h
      cases h
      exact ⟨rfl, rfl⟩
  case h_6 | h_8 | h_9 =>
    cases h
    exact ⟨rfl, rfl⟩

lemma dispatch_frame (h : r.dispatch e = .ok r') :
    r'.players = r.players ∧ r'.lastPlayers = r.lastPlayers := by
  by_cases hkind : Deprecated e.event
  · rw [dispatch_deprecated hkind] at h
    cases h
  · obtain ⟨r₂, hr₂, hlast, hplayers, -⟩ := @dispatch_ok r e hkind
    obtain rfl := Except.ok.inj (h.symm.trans hr₂)
    exact ⟨hplayers, hlast⟩

lemma parse_ok {snapshot : Bool} {raws : List ℕ} {last : Option Equipment} {equipment : Equipment}
    (h : Equipment.parse snapshot raws last = .ok equipment) :
    equipment = (parsed raws).foldl Equipment.apply
      (if snapshot then .empty else last.getD .empty) := by
  unfold Equipment.parse at h
  generalize (if snapshot then Equipment.empty else last.getD Equipment.empty) = start at h ⊢
  induction raws generalizing start with
  | nil => exact (Except.ok.inj h).symm
  | cons raw raws ih =>
    rw [List.foldlM_cons] at h
    obtain ⟨next, hnext, h⟩ := bind_eq_ok.1 h
    cases hraw : ItemDelta.parse raw with
    | error message =>
      rw [hraw] at hnext
      cases hnext
    | ok d =>
      rw [hraw] at hnext
      cases hnext
      rw [ih _ h]
      simp [parsed, hraw, Except.toOption]

lemma equipment_read {state state' : PlayerState} {player : Player} {last : Option PlayerState}
    (h : state.read e.event player last = .ok state') :
    state'.equipment = if e.event.type = .playerUpdate then
        (parsed player.equipmentDeltas).foldl Equipment.apply
          (if player.snapshot then .empty else (last.map (·.equipment)).getD .empty)
      else state.equipment := by
  unfold PlayerState.read at h
  split at h
  case h_1 htype =>
    rw [if_pos htype]
    split at h
    case h_1 equipment hparse =>
      cases h
      exact parse_ok hparse
    case h_2 => cases h
  case h_2 htype =>
    cases h
    rw [if_neg (by simp [htype])]
  case h_3 => cases h

lemma extractPlayerState_ok (h : r.extractPlayerState history e = .ok r') :
    ∃ player lastTick state, e.event.player = some player ∧
      r.lastPlayers[player.partyIndex]? = some lastTick ∧
      ((r.players.get player.name).join.getD (.initial e player
        (lastTick.bind (stateOn history · player.name)))).read e.event player
          (lastTick.bind (stateOn history · player.name)) = .ok state ∧
      r' = { r with
        players := r.players.insert player.name (some state)
        lastPlayers := r.lastPlayers.set player.partyIndex (some e.event.tick) } := by
  unfold Reading.extractPlayerState at h
  obtain ⟨player, hplayer, h⟩ := bind_eq_ok.1 h
  have hplayer : e.event.player = some player := by
    unfold expectPlayer at hplayer
    cases he : e.event.player with
    | none =>
      rw [he] at hplayer
      cases hplayer
    | some p =>
      rw [he] at hplayer
      rw [Except.ok.inj hplayer]
  cases hlast : r.lastPlayers[player.partyIndex]? with
  | none =>
    rw [hlast] at h
    cases h
  | some lastTick =>
    rw [hlast] at h
    obtain ⟨state, hstate, h⟩ := bind_eq_ok.1 h
    exact ⟨player, lastTick, state, hplayer, hlast, hstate, (Except.ok.inj h).symm⟩

lemma sees_iff {player : Player} (hplayer : e.event.player = some player) :
    sees name e = true ↔ (e.event.type = .playerUpdate ∨ e.event.type = .playerDeath) ∧
      player.name = name := by
  simp [sees, hplayer]

lemma rebuild_read {player : Player} {state : PlayerState} {seen : List TaggedEvent}
    (hcurrent : (r.players.get player.name).join.map (·.equipment) =
      seen.foldl (rebuild previous) none)
    (hhistory : history.length = n)
    (hprevious : ((last.bind (stateOn history · player.name)).map (·.equipment)).getD .empty =
      previous)
    (hplayer : e.event.player = some player)
    (htype : e.event.type = .playerUpdate ∨ e.event.type = .playerDeath)
    (hstate : ((r.players.get player.name).join.getD (.initial e player
      ((if seen = [] then last else some n).bind (stateOn history · player.name)))).read e.event
        player ((if seen = [] then last else some n).bind (stateOn history · player.name)) =
          .ok state) :
    rebuild previous (seen.foldl (rebuild previous) none) e = some state.equipment := by
  have hread := equipment_read hstate
  have hbase : (((if seen = [] then last else some n).bind (stateOn history · player.name)).map
      (·.equipment)).getD .empty = if seen = [] then previous else .empty := by
    by_cases hseen : seen = []
    · rw [if_pos hseen, if_pos hseen, hprevious]
    · have hnone : stateOn history n player.name = none := by
        unfold stateOn
        rw [List.getElem?_eq_none hhistory.le]
        rfl
      rw [if_neg hseen, if_neg hseen, Option.bind_some, hnone]
      rfl
  have hsome : (seen.foldl (rebuild previous) none).isSome ↔ seen ≠ [] := by
    rw [← Option.ne_none_iff_isSome, ne_eq, rebuild_eq_none_iff]
  rcases htype with htype | htype
  · rw [if_pos htype, hbase] at hread
    rw [rebuild_update htype hplayer, hread]
    congr 2
    by_cases hseen : seen = [] <;> by_cases hsnapshot : player.snapshot <;>
      simp [hsome, hseen, hsnapshot]
  · have hother : e.event.type ≠ .playerUpdate := by simp [htype]
    rw [if_neg hother] at hread
    rw [rebuild_other hother, hread, ← hcurrent]
    cases hjoin : (r.players.get player.name).join with
    | some state' => rfl
    | none =>
      have hseen : seen = [] := by
        rw [hjoin] at hcurrent
        exact rebuild_eq_none_iff.1 hcurrent.symm
      exact congrArg some (hbase.trans (if_pos hseen)).symm

lemma ReadsAs.step (h : ReadsAs name i n last previous earlier r)
    (hi : party.idxOf? name = some i) (hhistory : history.length = n) (htick : e.event.tick = n)
    (hindex : ∀ p ∈ e.event.player, party.idxOf? p.name = some p.partyIndex)
    (hprevious : ((last.bind (stateOn history · name)).map (·.equipment)).getD .empty = previous)
    (hstep : r.step history e = .ok r') :
    ReadsAs name i n last previous (earlier ++ [e]) r' := by
  obtain ⟨r₁, hextract, hdispatch⟩ := bind_eq_ok.1 hstep
  obtain ⟨hplayers, hlast⟩ := dispatch_frame hdispatch
  -- An event that does not have the player seen changes nothing of them.
  have hskip : sees name e = false → r₁.players.get name = r.players.get name →
      r₁.lastPlayers[i]? = r.lastPlayers[i]? →
      ReadsAs name i n last previous (earlier ++ [e]) r' := by
    intro hsees hget hgetLast
    have hfilter : (earlier ++ [e]).filter (sees name) = earlier.filter (sees name) := by
      simp [hsees]
    constructor
    · rw [hfilter, hplayers, hget]
      exact h.equipment
    · rw [hfilter, hlast, hgetLast]
      exact h.last
  by_cases htype : e.event.type = .playerUpdate ∨ e.event.type = .playerDeath
  · have hextract : r.extractPlayerState history e = .ok r₁ := by
      unfold Reading.extract at hextract
      rcases htype with htype | htype <;> rwa [htype] at hextract
    obtain ⟨player, lastTick, state, hplayer, hlastTick, hstate, rfl⟩ :=
      extractPlayerState_ok hextract
    by_cases hname : player.name = name
    · subst hname
      have hpi : player.partyIndex = i :=
        Option.some.inj ((hindex player hplayer).symm.trans hi)
      subst hpi
      have hsees : sees player.name e = true := (sees_iff hplayer).mpr ⟨htype, rfl⟩
      have hfilter : (earlier ++ [e]).filter (sees player.name) =
          earlier.filter (sees player.name) ++ [e] := by simp [hsees]
      obtain rfl := Option.some.inj (hlastTick.symm.trans h.last)
      constructor
      · rw [hfilter, hplayers, List.foldl_append, OrdMap.get_insert, if_pos rfl]
        exact (rebuild_read h.equipment hhistory hprevious hplayer htype hstate).symm
      · have hlt : player.partyIndex < r.lastPlayers.length := by
          by_contra hge
          rw [List.getElem?_eq_none (Nat.not_lt.mp hge)] at hlastTick
          cases hlastTick
        rw [hfilter, hlast, if_neg (by simp), htick]
        exact List.getElem?_set_self hlt
    · refine hskip (Bool.eq_false_iff.mpr fun hsees => hname ((sees_iff hplayer).mp hsees).2) ?_ ?_
      · rw [OrdMap.get_insert, if_neg (Ne.symm hname)]
      · refine List.getElem?_set_ne fun heq => hname ?_
        have hindexPlayer := hindex player hplayer
        rw [heq] at hindexPlayer
        obtain ⟨_, hgetName, -⟩ := List.idxOf?_eq_some_iff.mp hi
        obtain ⟨_, hgetPlayer, -⟩ := List.idxOf?_eq_some_iff.mp hindexPlayer
        exact hgetPlayer.symm.trans hgetName
  · obtain ⟨hupdate, hdeath⟩ := not_or.mp htype
    obtain ⟨hsame, hsameLast⟩ := extract_frame hextract hupdate hdeath
    refine hskip ?_ (by rw [hsame]) (by rw [hsameLast])
    simp [sees, hupdate, hdeath]

lemma ReadsAs.foldlM (h : ReadsAs name i n last previous earlier r)
    (hi : party.idxOf? name = some i) (hhistory : history.length = n)
    (htick : ∀ e ∈ events, e.event.tick = n)
    (hindex : ∀ e ∈ events, ∀ p ∈ e.event.player, party.idxOf? p.name = some p.partyIndex)
    (hprevious : ((last.bind (stateOn history · name)).map (·.equipment)).getD .empty = previous)
    (hread : events.foldlM (Reading.step history) r = .ok r') :
    ReadsAs name i n last previous (earlier ++ events) r' := by
  induction events generalizing r earlier with
  | nil =>
    cases hread
    rwa [List.append_nil]
  | cons e events ih =>
    rw [List.foldlM_cons] at hread
    obtain ⟨r₁, hstep, hread⟩ := bind_eq_ok.1 hread
    obtain ⟨htickHead, htickTail⟩ := List.forall_mem_cons.mp htick
    obtain ⟨hindexHead, hindexTail⟩ := List.forall_mem_cons.mp hindex
    have hnext := h.step hi hhistory htickHead hindexHead hprevious hstep
    simpa using ih hnext htickTail hindexTail hread

lemma attach_frame {a a' : Actors} (h : a.attach e = .ok a') (name : String) :
    (a'.players.get name).join.map (·.equipment) = (a.players.get name).join.map (·.equipment) := by
  have hkeeps : ∀ {player : Player} {state : PlayerState}, a.players.get player.name =
      some (some state) → ∀ state' : PlayerState, state'.equipment = state.equipment →
        ((a.players.insert player.name (some state')).get name).join.map (·.equipment) =
          (a.players.get name).join.map (·.equipment) := by
    intro player state hget state' hsame
    rw [OrdMap.get_insert]
    split_ifs with hname
    · subst hname
      rw [hget]
      exact congrArg some hsame
    · rfl
  unfold Actors.attach at h
  split at h
  case h_1 =>
    obtain ⟨npc, -, h⟩ := bind_eq_ok.1 h
    split at h
    · cases h
    · split at h <;> cases h <;> rfl
  case h_2 =>
    obtain ⟨player, -, h⟩ := bind_eq_ok.1 h
    split at h
    · cases h
    · split at h
      case h_1 state hget =>
        cases h
        exact hkeeps hget _ rfl
      case h_2 =>
        cases h
        rfl
  case h_3 =>
    obtain ⟨player, -, h⟩ := bind_eq_ok.1 h
    split at h
    case h_1 state hget =>
      split at h
      · cases h
      · cases h
        exact hkeeps hget _ rfl
    case h_2 =>
      cases h
      rfl
  case h_4 =>
    cases h
    rfl

lemma attachActions_frame {a a' : Actors} {actions : List TaggedEvent}
    (h : attachActions a actions = .ok a') (name : String) :
    (a'.players.get name).join.map (·.equipment) = (a.players.get name).join.map (·.equipment) := by
  unfold attachActions at h
  induction actions generalizing a with
  | nil =>
    cases h
    rfl
  | cons e actions ih =>
    rw [List.foldlM_cons] at h
    obtain ⟨a₁, ha₁, h⟩ := bind_eq_ok.1 h
    exact (ih h).trans (attach_frame ha₁ name)

lemma fromEvents_reads {lastPlayers : List (Option ℕ)} {s : TickState × List (Option ℕ)}
    (hi : party.idxOf? name = some i) (hhistory : history.length = n)
    (htick : ∀ e ∈ events, e.event.tick = n)
    (hindex : ∀ e ∈ events, ∀ p ∈ e.event.player, party.idxOf? p.name = some p.partyIndex)
    (hlast : lastPlayers[i]? = some last)
    (hprevious : ((last.bind (stateOn history · name)).map (·.equipment)).getD .empty = previous)
    (h : TickState.fromEvents n party history lastPlayers events = .ok s) :
    (s.1.players.get name).join.map (·.equipment) =
        (events.filter (sees name)).foldl (rebuild previous) none ∧
      s.2[i]? = some (if events.filter (sees name) = [] then last else some n) := by
  obtain ⟨r, hr, h⟩ := bind_eq_ok.1 h
  obtain ⟨a, ha, h⟩ := bind_eq_ok.1 h
  cases h
  have hinitial : ReadsAs name i n last previous [] (.initial party lastPlayers) := by
    refine ⟨?_, hlast⟩
    have hnone : ((Reading.initial party lastPlayers).players.get name).join = none := by
      by_contra hsome
      obtain ⟨state, hstate⟩ := Option.ne_none_iff_exists'.mp hsome
      exact @hasState_initial party lastPlayers name ⟨state, Option.join_eq_some_iff.mp hstate⟩
    rw [hnone]
    rfl
  have hreads := hinitial.foldlM hi hhistory htick hindex hprevious hr
  rw [List.nil_append] at hreads
  exact ⟨(attachActions_frame ha name).trans hreads.equipment, hreads.last⟩

end Reads

/-- What a timeline that is being built has of a player, the ticks before one being read. -/
structure Carries (name : String) (i n : ℕ) (events : List TaggedEvent) (b : Building) : Prop where
  states : ∀ t < n, (stateOn b.ticks t name).map (·.equipment) =
    (seenAt name events t).foldl (rebuild (rebuiltBefore name events t)) none
  later : ∀ t, n ≤ t → stateOn b.ticks t name = none
  last : ∃ last, b.lastPlayerUpdates[i]? = some last ∧ (∀ t ∈ last, t < n) ∧
    ((last.bind (stateOn b.ticks · name)).map (·.equipment)).getD .empty =
      rebuiltBefore name events n

section Carries

variable {party : List String} {recordedTicks n i : ℕ} {events : List TaggedEvent} {name : String}
  {b b' : Building} {ticks : List (Option TickState)} {state : TickState} {t : ℕ}

lemma stateOn_set_self (h : t < ticks.length) :
    stateOn (ticks.set t (some state)) t name = (state.players.get name).join := by
  unfold stateOn
  rw [List.getElem?_set_self h]
  rfl

lemma stateOn_set_ne {t' : ℕ} (h : t' ≠ t) :
    stateOn (ticks.set t (some state)) t' name = stateOn ticks t' name := by
  unfold stateOn
  rw [List.getElem?_set_ne h.symm]

lemma stateOn_take (h : t < n) : stateOn (ticks.take n) t name = stateOn ticks t name := by
  unfold stateOn
  rw [List.getElem?_take_of_lt h]

lemma rebuiltBefore_succ_of_nil (h : seenAt name events n = []) :
    rebuiltBefore name events (n + 1) = rebuiltBefore name events n := by
  rw [rebuiltBefore, h]
  rfl

lemma Carries.readTick (h : Carries name i n events b) (hi : party.idxOf? name = some i)
    (hindex : ∀ e ∈ events, ∀ p ∈ e.event.player, party.idxOf? p.name = some p.partyIndex)
    (hn : n < b.ticks.length) (hread : b.readTick party events n = .ok b') :
    Carries name i (n + 1) events b' := by
  obtain ⟨last, hlast, hbound, hequipment⟩ := h.last
  have hsplit : ∀ t, t < n + 1 → t ≠ n → t < n := fun t ht hne =>
    lt_of_le_of_ne (Nat.le_of_lt_succ ht) hne
  unfold Building.readTick at hread
  by_cases hnil : eventsAt events n = []
  · rw [if_pos hnil] at hread
    cases hread
    have hseen : seenAt name events n = [] := by
      unfold seenAt
      rw [hnil]
      rfl
    refine ⟨fun t ht => ?_, fun t ht => h.later t (Nat.le_of_succ_le ht), last, hlast,
      fun t ht => Nat.lt_succ_of_lt (hbound t ht), ?_⟩
    · by_cases heq : t = n
      · subst heq
        rw [h.later t le_rfl, hseen]
        rfl
      · exact h.states t (hsplit t ht heq)
    · rw [hequipment, rebuiltBefore_succ_of_nil hseen]
  · rw [if_neg hnil, drain_eq hnil (fun e he => (mem_eventsAt.1 he).2) hn] at hread
    obtain ⟨s, hs, rfl⟩ := map_eq_ok.1 hread
    have hprevious : ((last.bind (stateOn (b.ticks.take n) · name)).map (·.equipment)).getD
        .empty = rebuiltBefore name events n := by
      rw [← hequipment]
      cases last with
      | none => rfl
      | some t => rw [Option.bind_some, Option.bind_some, stateOn_take (hbound t rfl)]
    obtain ⟨hstate, hlast'⟩ := fromEvents_reads hi (List.length_take_of_le hn.le)
      (fun e he => (mem_eventsAt.1 he).2)
      (fun e he => hindex e (mem_eventsAt.1 he).1) hlast hprevious hs
    have hself : (stateOn (b.drained n s).ticks n name).map (·.equipment) =
        (seenAt name events n).foldl (rebuild (rebuiltBefore name events n)) none :=
      (congrArg _ (stateOn_set_self hn)).trans hstate
    refine ⟨fun t ht => ?_, fun t ht => ?_, _, hlast', fun t ht => ?_, ?_⟩
    · by_cases heq : t = n
      · subst heq
        exact hself
      · rw [← h.states t (hsplit t ht heq)]
        exact congrArg _ (stateOn_set_ne heq)
    · rw [← h.later t (Nat.le_of_succ_le ht)]
      exact stateOn_set_ne (Nat.ne_of_gt ht)
    · split_ifs at ht
      · exact Nat.lt_succ_of_lt (hbound t ht)
      · cases ht
        exact n.lt_succ_self
    · change ((Option.bind (if seenAt name events n = [] then last else some n) _).map _).getD _ = _
      by_cases hseen : seenAt name events n = []
      · rw [if_pos hseen, rebuiltBefore_succ_of_nil hseen, ← hequipment]
        cases last with
        | none => rfl
        | some t =>
          rw [Option.bind_some, Option.bind_some]
          exact congrArg (fun st => (Option.map _ st).getD _)
            (stateOn_set_ne (hbound t rfl).ne)
      · rw [if_neg hseen, Option.bind_some, hself, rebuiltBefore]
        obtain ⟨equipment, hsome⟩ := Option.ne_none_iff_exists'.mp
          (mt rebuild_eq_none_iff.1 hseen)
        rw [hsome]
        rfl

lemma carries_readTicks (hi : party.idxOf? name = some i)
    (hindex : ∀ e ∈ events, ∀ p ∈ e.event.player, party.idxOf? p.name = some p.partyIndex)
    (hn : n ≤ recordedTicks + 1) (h : readTicks party recordedTicks events n = .ok b) :
    Carries name i n events b := by
  induction n generalizing b with
  | zero =>
    cases h
    obtain ⟨hlt, -⟩ := List.idxOf?_eq_some_iff.mp hi
    have hnone : ∀ t, stateOn (Building.initial party recordedTicks).ticks t name = none := by
      intro t
      unfold stateOn Building.initial
      rw [List.getElem?_replicate]
      split_ifs <;> rfl
    refine ⟨fun t ht => absurd ht t.not_lt_zero, fun t _ => hnone t, none, ?_, by simp, rfl⟩
    exact (List.getElem?_replicate).trans (if_pos hlt)
  | succ n ih =>
    rw [readTicks_succ] at h
    obtain ⟨b₀, hb₀, h⟩ := bind_eq_ok.1 h
    have hlength := (readTicks_spec (Nat.le_of_succ_le hn) hb₀).1
    exact (ih (Nat.le_of_succ_le hn) hb₀).readTick hi hindex (hlength ▸ hn) h

end Carries

end Blert.Timeline

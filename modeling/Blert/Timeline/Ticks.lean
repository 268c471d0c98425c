import Blert.Fallible
import Blert.Timeline.State

/-!
A timeline tick by tick.

Chronological events are read in runs of one tick. What is built of them is what a walk over the
ticks builds that reads the events of each tick in turn.
-/

namespace Blert.Timeline

open Fallible

def eventsAt (events : List TaggedEvent) (t : ℕ) : List TaggedEvent :=
  events.filter (·.event.tick = t)

def Building.readTick (party : List String) (events : List TaggedEvent) (b : Building) (t : ℕ) :
    Except Failure Building :=
  if eventsAt events t = [] then .ok b
  else { b with currentTick := eventsAt events t }.drain party

def readTicks (party : List String) (recordedTicks : ℕ) (events : List TaggedEvent) (n : ℕ) :
    Except Failure Building :=
  (List.range n).foldlM (Building.readTick party events) (.initial party recordedTicks)

section ReadTicks

variable {party : List String} {recordedTicks : ℕ} {events : List TaggedEvent} {m n t : ℕ}

lemma mem_eventsAt {e : TaggedEvent} : e ∈ eventsAt events t ↔ e ∈ events ∧ e.event.tick = t := by
  simp [eventsAt]

lemma eventsAt_eq_nil : eventsAt events t = [] ↔ ∀ e ∈ events, e.event.tick ≠ t := by
  simp [eventsAt, List.filter_eq_nil_iff]

lemma eventsAt_append (xs ys : List TaggedEvent) (t : ℕ) :
    eventsAt (xs ++ ys) t = eventsAt xs t ++ eventsAt ys t :=
  List.filter_append xs ys

lemma eventsAt_singleton (e : TaggedEvent) (t : ℕ) :
    eventsAt [e] t = if e.event.tick = t then [e] else [] := by
  simp [eventsAt, List.filter_cons]

lemma readTicks_zero : readTicks party recordedTicks events 0 = .ok (.initial party recordedTicks) :=
  rfl

lemma readTicks_succ :
    readTicks party recordedTicks events (n + 1) =
      readTicks party recordedTicks events n >>= fun b => b.readTick party events n := by
  unfold readTicks
  rw [List.range_succ, List.foldlM_append]
  simp

lemma readTicks_skip (hmn : m ≤ n) (h : ∀ t, m ≤ t → t < n → eventsAt events t = []) :
    readTicks party recordedTicks events n = readTicks party recordedTicks events m := by
  induction n, hmn using Nat.le_induction with
  | base => rfl
  | succ n hmn ih =>
    rw [readTicks_succ, ih fun t hm hn => h t hm (Nat.lt_succ_of_lt hn)]
    unfold Building.readTick
    rw [h n hmn n.lt_succ_self]
    simp only [if_true]
    cases readTicks party recordedTicks events m <;> rfl

lemma readTicks_congr {events' : List TaggedEvent}
    (h : ∀ t < n, eventsAt events t = eventsAt events' t) :
    readTicks party recordedTicks events n = readTicks party recordedTicks events' n := by
  induction n with
  | zero => rfl
  | succ n ih =>
    rw [readTicks_succ, readTicks_succ, ih fun t ht => h t (Nat.lt_succ_of_lt ht)]
    unfold Building.readTick
    rw [h n n.lt_succ_self]

def Building.drained (b : Building) (t : ℕ) (r : TickState × List (Option ℕ)) : Building where
  ticks := b.ticks.set t (some r.1)
  lastPlayerUpdates := r.2
  currentTick := []

lemma drain_eq {b : Building} {events : List TaggedEvent} (hne : events ≠ [])
    (hevents : ∀ e ∈ events, e.event.tick = t) (ht : t < b.ticks.length) :
    ({ b with currentTick := events } : Building).drain party =
      (TickState.fromEvents t party (b.ticks.take t) b.lastPlayerUpdates events).map
        (b.drained t) := by
  obtain ⟨first, rest, rfl⟩ := List.exists_cons_of_ne_nil hne
  obtain rfl := hevents first List.mem_cons_self
  unfold Building.drain
  dsimp only
  rw [if_neg (Nat.not_lt.mpr ht.le)]
  cases TickState.fromEvents first.event.tick party (b.ticks.take first.event.tick)
      b.lastPlayerUpdates (first :: rest) with
  | error e => rfl
  | ok r => exact if_neg ht.ne

lemma currentTick_drain {b b' : Building} (h : b.drain party = .ok b') : b'.currentTick = [] := by
  unfold Building.drain at h
  cases hcurrent : b.currentTick with
  | nil =>
    rw [hcurrent] at h
    cases h
  | cons first rest =>
    rw [hcurrent] at h
    dsimp only at h
    by_cases hlong : b.ticks.length < first.event.tick
    · rw [if_pos hlong] at h
      cases h
    · rw [if_neg hlong] at h
      obtain ⟨r, -, h⟩ := bind_eq_ok.1 h
      by_cases hend : first.event.tick = b.ticks.length
      · rw [if_pos hend] at h
        cases h
      · rw [if_neg hend] at h
        cases h
        rfl

lemma readTicks_spec {b : Building} (hn : n ≤ recordedTicks + 1)
    (h : readTicks party recordedTicks events n = .ok b) :
    b.ticks.length = recordedTicks + 1 ∧ b.currentTick = [] := by
  induction n generalizing b with
  | zero =>
    cases h
    exact ⟨List.length_replicate, rfl⟩
  | succ n ih =>
    rw [readTicks_succ] at h
    cases hb : readTicks party recordedTicks events n with
    | error e => rw [hb] at h; cases h
    | ok b₀ =>
      obtain ⟨hlength, hcurrent⟩ := ih (Nat.le_of_succ_le hn) hb
      rw [hb] at h
      change b₀.readTick party events n = .ok b at h
      unfold Building.readTick at h
      by_cases hnil : eventsAt events n = []
      · rw [if_pos hnil] at h
        cases h
        exact ⟨hlength, hcurrent⟩
      · rw [if_neg hnil, drain_eq hnil (fun e he => (mem_eventsAt.1 he).2) (by omega)] at h
        obtain ⟨r, -, rfl⟩ := map_eq_ok.1 h
        exact ⟨by simp [Building.drained, hlength], rfl⟩

lemma push_same {b : Building} {first event : TaggedEvent} {rest : List TaggedEvent}
    (hfirst : b.currentTick = first :: rest) (h : event.event.tick = first.event.tick) :
    b.push party event = .ok { b with currentTick := b.currentTick ++ [event] } := by
  unfold Building.push
  simp only [hfirst]
  rw [if_neg (not_not.mpr h), ← hfirst]
  rfl

lemma push_next {b : Building} {first event : TaggedEvent} {rest : List TaggedEvent}
    (hfirst : b.currentTick = first :: rest) (h : event.event.tick ≠ first.event.tick) :
    b.push party event = (b.drain party).map fun b => { b with currentTick := [event] } := by
  unfold Building.push
  rw [hfirst]
  dsimp only
  rw [if_pos h]
  cases hdrain : b.drain party with
  | error e => rfl
  | ok b' =>
    have hcurrent := currentTick_drain hdrain
    show Except.ok { b' with currentTick := b'.currentTick ++ [event] } = _
    rw [hcurrent]
    rfl

lemma foldlM_push {earlier : List TaggedEvent} {last : TaggedEvent}
    (h : (earlier ++ [last]).Pairwise (·.event.tick ≤ ·.event.tick)) :
    (earlier ++ [last]).foldlM (Building.push party) (.initial party recordedTicks) =
      (readTicks party recordedTicks (earlier ++ [last]) last.event.tick).map fun b =>
        { b with currentTick := eventsAt (earlier ++ [last]) last.event.tick } := by
  induction earlier using List.reverseRecOn generalizing last with
  | nil =>
    have hskip : ∀ t, 0 ≤ t → t < last.event.tick → eventsAt [last] t = [] := by
      intro t _ ht
      rw [eventsAt_singleton, if_neg ht.ne']
    rw [List.nil_append, readTicks_skip (Nat.zero_le _) hskip, readTicks_zero, eventsAt_singleton,
      if_pos rfl]
    rfl
  | append_singleton earlier e ih =>
    obtain ⟨hearlier, -, hle⟩ := List.pairwise_append.mp h
    have hlast : ∀ x ∈ earlier ++ [e], x.event.tick ≤ last.event.tick :=
      fun x hx => hle x hx last (List.mem_singleton_self last)
    have hbelow : ∀ x ∈ earlier ++ [e], x.event.tick ≤ e.event.tick := by
      intro x hx
      rcases List.mem_append.mp hx with hx | hx
      · exact (List.pairwise_append.mp hearlier).2.2 x hx e (List.mem_singleton_self e)
      · rw [List.mem_singleton.mp hx]
    have hmem : e ∈ eventsAt (earlier ++ [e]) e.event.tick :=
      mem_eventsAt.2 ⟨by simp, rfl⟩
    obtain ⟨first, rest, hfirst⟩ := List.exists_cons_of_ne_nil (List.ne_nil_of_mem hmem)
    have htick : first.event.tick = e.event.tick :=
      (mem_eventsAt.1 (hfirst ▸ List.mem_cons_self)).2
    -- Before the last event's tick, that event does not matter.
    have hsame : ∀ t < last.event.tick,
        eventsAt (earlier ++ [e]) t = eventsAt (earlier ++ [e] ++ [last]) t := by
      intro t ht
      rw [eventsAt_append _ [last], eventsAt_singleton, if_neg ht.ne', List.append_nil]
    rw [List.foldlM_append, ih hearlier, readTicks_congr fun t ht =>
      hsame t (ht.trans_le (hlast e (by simp)))]
    rcases (hlast e (by simp)).eq_or_lt with heq | hlt
    · rw [← heq, eventsAt_append _ [last], eventsAt_singleton, if_pos heq.symm]
      cases readTicks party recordedTicks (earlier ++ [e] ++ [last]) e.event.tick with
      | error e => rfl
      | ok b =>
        simp only [List.foldlM_cons, List.foldlM_nil, bind_pure]
        show ({ b with currentTick := eventsAt (earlier ++ [e]) e.event.tick } : Building).push
          party last = _
        rw [push_same hfirst (heq.symm.trans htick.symm)]
        rfl
    · have hskip : ∀ t, e.event.tick + 1 ≤ t → t < last.event.tick →
          eventsAt (earlier ++ [e] ++ [last]) t = [] := by
        intro t hle ht
        rw [← hsame t ht]
        exact eventsAt_eq_nil.2 fun x hx => ((hbelow x hx).trans_lt hle).ne
      have hnew : eventsAt (earlier ++ [e] ++ [last]) last.event.tick = [last] := by
        rw [eventsAt_append _ [last], eventsAt_singleton, if_pos rfl,
          eventsAt_eq_nil.2 fun x hx => ((hbelow x hx).trans_lt hlt).ne, List.nil_append]
      rw [readTicks_skip hlt hskip, readTicks_succ, hnew]
      cases readTicks party recordedTicks (earlier ++ [e] ++ [last]) e.event.tick with
      | error e => rfl
      | ok b =>
        have hne : eventsAt (earlier ++ [e] ++ [last]) e.event.tick ≠ [] := by
          rw [← hsame _ hlt]
          exact List.ne_nil_of_mem hmem
        have hread : b.readTick party (earlier ++ [e] ++ [last]) e.event.tick =
            ({ b with currentTick := eventsAt (earlier ++ [e]) e.event.tick } : Building).drain
              party := by
          unfold Building.readTick
          rw [if_neg hne, hsame _ hlt]
        simp only [List.foldlM_cons, List.foldlM_nil, bind_pure]
        show ({ b with currentTick := eventsAt (earlier ++ [e]) e.event.tick } : Building).push
          party last = Except.map _ (b.readTick party _ _)
        rw [push_next hfirst (htick ▸ hlt.ne'), hread]

lemma build_eq (h : events.Pairwise (·.event.tick ≤ ·.event.tick))
    (hbound : ∀ e ∈ events, e.event.tick ≤ recordedTicks) :
    build party recordedTicks events =
      (readTicks party recordedTicks events (recordedTicks + 1)).map fun b => ⟨b.ticks⟩ := by
  unfold build
  induction events using List.reverseRecOn with
  | nil =>
    rw [readTicks_skip (Nat.zero_le _) fun t _ _ => rfl, readTicks_zero]
    rfl
  | append_singleton earlier last ih =>
    have hlast := hbound last (by simp)
    have hbelow : ∀ x ∈ earlier ++ [last], x.event.tick ≤ last.event.tick := by
      intro x hx
      rcases List.mem_append.mp hx with hx | hx
      · exact (List.pairwise_append.mp h).2.2 x hx last (List.mem_singleton_self last)
      · rw [List.mem_singleton.mp hx]
    have hne : eventsAt (earlier ++ [last]) last.event.tick ≠ [] :=
      List.ne_nil_of_mem (mem_eventsAt.2 ⟨by simp, rfl⟩)
    rw [foldlM_push h, readTicks_skip (Nat.succ_le_succ hlast) fun t ht _ =>
      eventsAt_eq_nil.2 fun x hx => ((hbelow x hx).trans_lt ht).ne, readTicks_succ]
    cases readTicks party recordedTicks (earlier ++ [last]) last.event.tick with
    | error e => rfl
    | ok b =>
      have hread : b.readTick party (earlier ++ [last]) last.event.tick =
          ({ b with currentTick := eventsAt (earlier ++ [last]) last.event.tick } :
            Building).drain party := if_neg hne
      show (do
        let b ← if eventsAt (earlier ++ [last]) last.event.tick = [] then _
          else ({ b with currentTick := eventsAt (earlier ++ [last]) last.event.tick } :
            Building).drain party
        pure _) = Except.map _ (b.readTick party _ _)
      rw [if_neg hne, hread]
      cases ({ b with currentTick := eventsAt (earlier ++ [last]) last.event.tick } :
        Building).drain party <;> rfl

end ReadTicks

end Blert.Timeline

import Blert.Lifecycle.Recovery
import Blert.Redis.Routing

/-!
A client is in at most one challenge.

The last command in an inbox about whether a client takes part, a join or a removal, tells what
the actor will make of it once it has read everything. A client that is moved to another challenge
has a removal queued in the one it was routed to, so whatever inbox lets it in last is that of the
challenge its routing key names.
-/

namespace Blert.Redis

open Blert.Lifecycle

/-! ### Enrolment by the commands of an inbox -/

/-- Whether a client is in by a command, given whether it was in before. -/
def enrol (c : ClientId) (before : Bool) (cmd : Command) : Bool :=
  match cmd with
  | .create r => r.clientId = c || before
  | .join j => j.clientId = c || before
  | .clientMovedOn m => m.clientId ≠ c && before
  | _ => before

/-- Whether the last command about a client's part in a challenge lets it in. -/
def enrolled (c : ClientId) (entries : List Envelope) : Bool :=
  entries.foldl (fun before e => enrol c before e.cmd) false

@[simp] lemma enrolled_nil (c : ClientId) : enrolled c [] = false := rfl

@[simp] lemma enrolled_snoc (c : ClientId) (entries : List Envelope) (e : Envelope) :
    enrolled c (entries ++ [e]) = enrol c (enrolled c entries) e.cmd := by
  simp [enrolled]

/-! ### Clients of an actor -/

section Actors

variable {config : LifecycleConfig} {c : ClientId} {s : ChallengeState}

def admits : LifecycleEvent → Option ClientId
  | .clientJoined clientId _ _ _ => some clientId
  | _ => none

lemma contains_apply {e : JournalEntry} (h : (apply s e).clients.contains c = true) :
    s.clients.contains c = true ∨ admits e.event = some c := by
  rw [apply_clients] at h
  unfold clientsAfter OrdMap.contains at h
  cases he : e.event with
  | clientJoined id userId token recordingType =>
    rw [he] at h
    simp only [OrdMap.get_insert] at h
    by_cases hc : c = id
    · exact Or.inr (by rw [hc]; rfl)
    · rw [if_neg hc] at h
      exact Or.inl h
  | clientRejoined | clientStageReported | clientActivated | clientIdled =>
    rw [he] at h
    simp only [OrdMap.get_modify] at h
    refine Or.inl ?_
    unfold OrdMap.contains
    split_ifs at h <;> simpa using h
  | clientFinished | clientRemoved =>
    rw [he] at h
    simp only [OrdMap.get_erase] at h
    refine Or.inl ?_
    split_ifs at h
    · cases h
    · exact h
  | _ =>
    rw [he] at h
    exact Or.inl h

lemma contains_fold {batch : List JournalEntry}
    (h : (batch.foldl apply s).clients.contains c = true) :
    s.clients.contains c = true ∨ ∃ e ∈ batch, admits e.event = some c := by
  induction batch generalizing s with
  | nil => exact Or.inl h
  | cons e batch ih =>
    rcases ih h with h | ⟨e', he', hadmits⟩
    · rcases contains_apply h with h | h
      · exact Or.inl h
      · exact Or.inr ⟨e, List.mem_cons_self, h⟩
    · exact Or.inr ⟨e', List.mem_cons_of_mem _ he', hadmits⟩

lemma admits_update (u : Update) : ∀ e ∈ Lifecycle.update s u, admits e = none := by
  have hmode : ∀ e ∈ modeEvents s u, admits e = none := by
    unfold modeEvents
    grind [admits]
  have hparty : ∀ e ∈ partyEvents s u, admits e = none := by
    unfold partyEvents
    grind [admits]
  have hfinished : ∀ id cl p, ∀ e ∈ reportFinished s id cl p, admits e = none := by
    intro id cl p
    unfold reportFinished
    split_ifs <;> simp [admits]
  have hstarted : ∀ id cl p, ∀ e ∈ reportStarted s id cl p, admits e = none := by
    intro id cl p
    unfold reportStarted
    grind [admits]
  unfold Lifecycle.update
  grind [admits]

lemma enrol_of_admits {cmd : Command} {e : LifecycleEvent} (b : Bool)
    (h : e ∈ Lifecycle.decide s config cmd) (hadmits : admits e = some c) :
    enrol c b cmd = true := by
  have hpassive : e.isPassive = true → False := by
    intro hp
    cases e <;> first | exact Bool.false_ne_true hp | cases hadmits
  unfold Lifecycle.decide at h
  split_ifs at h
  · cases cmd with
    | processed report => exact (hpassive (processed_passive _ _ _ h)).elim
    | deadlineFired d => exact (hpassive (deadlineFired_passive _ _ _ h)).elim
    | _ => cases h
  · cases cmd with
    | processed report => exact (hpassive (processed_passive _ _ _ h)).elim
    | deadlineFired d => exact (hpassive (deadlineFired_passive _ _ _ h)).elim
    | update u =>
      rw [admits_update u e h] at hadmits
      cases hadmits
    | create | join => grind [create, join, admits, enrol]
    | _ => grind [finish, clientStatus, clientMovedOn, sealOpenStage, admits]

/-- What an actor makes of a message is what the message says of a client's part, unless the
challenge is over. -/
lemma enrol_handleCommand {a : Actor} {time : Timestamp} {env : Envelope}
    (hm : env.cmd.isMessage = true) {b : Bool}
    (hb : a.state.terminated = false → a.state.clients.contains c = true → b = true)
    (ht : (a.handleCommand config (.message time env hm)).state.terminated = false)
    (hc : (a.handleCommand config (.message time env hm)).state.clients.contains c = true) :
    enrol c b env.cmd = true := by
  have hlive : a.state.terminated = false := by
    by_contra hover
    have hnil : Lifecycle.decide a.state config env.cmd = [] := by
      unfold Lifecycle.decide
      rw [if_pos (by simpa using hover)]
      cases hcmd : env.cmd <;> first | rfl | (rw [hcmd] at hm; cases hm)
    have hsame : (a.handleCommand config (.message time env hm)).state = a.state := by
      simp [Actor.handleCommand, Actor.batch, Input.cmd, hnil]
    rw [hsame] at ht
    exact hover ht
  rcases contains_fold hc with hold | ⟨e, he, hadmits⟩
  · have hbefore := hb hlive hold
    cases hcmd : env.cmd with
    | clientMovedOn m =>
      -- The removal of a client that is in removes it.
      by_cases hid : m.clientId = c
      · subst hid
        have hbatch : (a.handleCommand config (.message time env hm)).state =
            apply a.state ⟨a.nextSeq, time, .command env.id, .clientRemoved m.clientId⟩ := by
          simp [Actor.handleCommand, Actor.batch, Input.cmd, Input.time, Input.cause, hcmd,
            Lifecycle.decide, hlive, clientMovedOn, hold]
        rw [hbatch, apply_clients] at hc
        simp [clientsAfter, OrdMap.contains, OrdMap.get_erase] at hc
      · simp [enrol, hid, hbefore]
    | _ => simp [enrol, hbefore]
  · exact enrol_of_admits b (event_of_mem_stamp he) hadmits

lemma contains_passive {a : Actor} {input : Input} (hi : input.position = none)
    (ht : (a.handleCommand config input).state.terminated = false)
    (hc : (a.handleCommand config input).state.clients.contains c = true) :
    a.state.terminated = false ∧ a.state.clients.contains c = true := by
  have hlater : Later a.state (a.handleCommand config input).state := by
    rw [← step_eq_handleCommand]
    exact later_fold (batch_passive hi)
  refine ⟨?_, ?_⟩
  · by_contra hover
    rw [hlater.terminated (by simpa using hover)] at ht
    cases ht
  · unfold OrdMap.contains at hc ⊢
    rcases hlater.clients c with hn | he
    · rw [hn] at hc
      cases hc
    · rwa [← he]

end Actors

/-! ### The roster -/

/-- The inbox of a challenge lets in no client but those whose routing key names it, and its actor
has in it only clients that what it has read lets in. -/
structure Host.Listed (s : Store) (u : Uuid) (h : Host) : Prop where
  indexed : s.index.contains u = true
  routed : ∀ c, enrolled c (s.inbox u).entries = true → s.route (.client c) = some u
  clients : ∀ c, h.actor.state.terminated = false → h.actor.state.clients.contains c = true →
    enrolled c ((s.inbox u).entries.take h.read) = true
  read : h.read ≤ (s.inbox u).entries.length

def World.Roster (w : World) : Prop := ∀ u h, w.hosts u = some h → h.Listed w.store u

/-- The requests that the coordinator makes: updates and finishes are sent to a challenge, status
changes to the one that their client is in. -/
def Action.Made : Action → Prop
  | .send _ _ cmd _ => (∃ u, cmd = .update u) ∨ ∃ f, cmd = .finish f
  | .sendToCurrentChallenge _ client cmd _ => ∃ s, cmd = .clientStatus s ∧ s.clientId = client
  | _ => True

def World.Drained (w : World) : Prop :=
  ∀ u h, w.hosts u = some h → (w.store.inbox u).entries.length ≤ h.read

/-- A client is among those of a challenge that is not over. -/
def World.Belongs (w : World) (c : ClientId) (u : Uuid) : Prop :=
  ∃ h, w.hosts u = some h ∧ h.actor.state.terminated = false ∧
    h.actor.state.clients.contains c = true

lemma World.Roster.route_of_belongs {w : World} (hr : w.Roster) (hd : w.Drained) {c : ClientId}
    {u : Uuid} (h : w.Belongs c u) : w.store.route (.client c) = some u := by
  obtain ⟨host, hh, hlive, hc⟩ := h
  have hin := (hr u host hh).clients c hlive hc
  rw [List.take_of_length_le (hd u host hh)] at hin
  exact (hr u host hh).routed c hin

lemma Host.Listed.of_store {s s' : Store} {u : Uuid} {h : Host} (hl : h.Listed s u)
    (hindex : s'.index.contains u = true)
    (hinbox : ∃ es, (s'.inbox u).entries = (s.inbox u).entries ++ es)
    (hrouted : ∀ c, enrolled c (s'.inbox u).entries = true → s'.route (.client c) = some u) :
    h.Listed s' u := by
  obtain ⟨es, heq⟩ := hinbox
  refine ⟨hindex, hrouted, fun c hlive hc => ?_, ?_⟩
  · rw [heq, List.take_append_of_le_length hl.read]
    exact hl.clients c hlive hc
  · rw [heq, List.length_append]
    exact hl.read.trans (Nat.le_add_right _ _)

lemma Host.Listed.of_same {s s' : Store} {u : Uuid} {h : Host} (hl : h.Listed s u)
    (hindex : s'.index.contains u = s.index.contains u) (hinbox : s'.inbox u = s.inbox u)
    (hroute : ∀ key, s.route key = some u → s'.route key = some u) : h.Listed s' u := by
  refine hl.of_store (hindex.trans hl.indexed) ⟨[], by rw [hinbox, List.append_nil]⟩ fun c hc => ?_
  rw [hinbox] at hc
  exact hroute _ (hl.routed c hc)

/-! ### What requests queue -/

lemma entries_xadd (s : Store) (now : Timestamp) (uuid : Uuid) (cmd : Command) (u : Uuid) :
    ∃ id, ((s.xadd now uuid cmd).2.inbox u).entries =
      (s.inbox u).entries ++ if u = uuid then [⟨id, cmd⟩] else [] := by
  refine ⟨MsgId.next (s.inbox uuid).lastId now, ?_⟩
  by_cases hu : u = uuid
  · subst hu
    simp [Store.xadd]
  · simp [Store.xadd, hu]

/-- A command that says nothing of a client's part in the challenge. -/
def Neutral (c : ClientId) (cmd : Command) : Prop := ∀ b, enrol c b cmd = b

lemma enrolled_xadd_neutral {s : Store} {now : Timestamp} {uuid : Uuid} {cmd : Command}
    {c : ClientId} (h : Neutral c cmd) (u : Uuid) :
    enrolled c ((s.xadd now uuid cmd).2.inbox u).entries = enrolled c (s.inbox u).entries := by
  obtain ⟨id, heq⟩ := entries_xadd s now uuid cmd u
  rw [heq]
  split_ifs
  · rw [enrolled_snoc, h]
  · rw [List.append_nil]

section LeavePrevious

variable {args : StartArgs} {c : ClientId} (s : Store) (now : Timestamp) (target : Uuid)

lemma enrolled_leavePrevious_of_ne (args : StartArgs) (hremoval : Neutral c args.removal)
    (u : Uuid) :
    enrolled c ((leavePrevious args now s target).inbox u).entries =
      enrolled c (s.inbox u).entries := by
  unfold leavePrevious
  split
  · split_ifs
    · exact enrolled_xadd_neutral hremoval u
    · rfl
  · rfl

lemma enrolled_leavePrevious (args : StartArgs) {u : Uuid} (hclient : args.client = .client c)
    (hremoval : args.removal = .clientMovedOn ⟨c⟩) (hu : u ≠ target)
    (hidx : s.index.contains u = true)
    (hrouted : enrolled c (s.inbox u).entries = true → s.route (.client c) = some u) :
    enrolled c ((leavePrevious args now s target).inbox u).entries = false := by
  unfold leavePrevious
  rw [hclient, hremoval]
  cases hroute : s.route (.client c) with
  | none =>
    by_contra hin
    rw [hrouted (by simpa using hin)] at hroute
    cases hroute
  | some previous =>
    dsimp only
    by_cases hprev : previous = u
    · subst hprev
      rw [if_pos ⟨hu, hidx⟩]
      obtain ⟨id, heq⟩ := entries_xadd s now previous (.clientMovedOn ⟨c⟩) previous
      rw [heq, if_pos rfl]
      simp [enrol]
    · have hout : enrolled c (s.inbox u).entries = false := by
        by_contra hin
        have hr := hrouted (by simpa using hin)
        rw [hroute] at hr
        exact hprev (Option.some.inj hr)
      split_ifs
      · obtain ⟨id, heq⟩ := entries_xadd s now previous (.clientMovedOn ⟨c⟩) u
        rw [heq, if_neg (Ne.symm hprev), List.append_nil, hout]
      · exact hout

end LeavePrevious

/-! ### The roster is kept -/

lemma neutral_removal {c c' : ClientId} (h : c' ≠ c) : Neutral c (.clientMovedOn ⟨c'⟩) := by
  intro b
  simp [enrol, h]

lemma neutral_join {c : ClientId} {j : Join} (h : j.clientId ≠ c) : Neutral c (.join j) := by
  intro b
  simp [enrol, h]

lemma index_startCreate (args : StartArgs) (now : Timestamp) (s : Store) :
    (Redis.startCreate args now s).2.index.contains args.uuid = true := by
  unfold Redis.startCreate
  dsimp only
  rw [setAll_eq]
  simp [Store.xadd, Store.setRoute, OrdMap.contains, OrdMap.get_insert]

namespace World

variable {text : KeyText} {config : LifecycleConfig} {started : List Uuid} {w : World}

lemma roster_init : init.Roster := fun _ _ hh => by cases hh

lemma Roster.xadd (hr : w.Roster) (now : Timestamp) (uuid : Uuid) {cmd : Command}
    (hcmd : ∀ c, Neutral c cmd) :
    World.Roster { w with store := (w.store.xadd now uuid cmd).2 } := by
  intro u h hh
  refine (hr u h hh).of_store (hr u h hh).indexed ?_ fun c hc => ?_
  · obtain ⟨id, heq⟩ := entries_xadd w.store now uuid cmd u
    exact ⟨_, heq⟩
  · rw [enrolled_xadd_neutral (hcmd c)] at hc
    exact (hr u h hh).routed c hc

lemma Roster.startJoin (hr : w.Roster) {identity : Identity} {now deadline : Timestamp}
    {uuid incumbent : Uuid} {create : Create} {args : StartArgs}
    (hargs : args = Store.startArgs text identity deadline uuid create)
    (hinc : w.store.route args.directory = some incumbent) :
    World.Roster { w with store := (Redis.startJoin args now incumbent w.store).2 } := by
  subst hargs
  set args := Store.startArgs text identity deadline uuid create
  obtain ⟨hserves, hroute⟩ := startJoin_effect args hinc rfl rfl now
  set left := leavePrevious args now w.store incumbent with hleft
  intro u h hh
  obtain ⟨es, hgrown, -⟩ := hserves.inbox u
  refine (hr u h hh).of_store (hserves.index ▸ (hr u h hh).indexed) ⟨es, hgrown⟩ fun c hc => ?_
  obtain ⟨id, heq⟩ := entries_xadd (left.setRoute args.client incumbent) now incumbent args.join u
  change enrolled c (((left.setRoute args.client incumbent).xadd now incumbent
    args.join).2.inbox u).entries = true at hc
  rw [heq] at hc
  rw [hroute]
  by_cases hclient : create.clientId = c
  · subst hclient
    by_cases hu : u = incumbent
    · subst hu
      exact Function.update_self _ _ _
    · have hout := enrolled_leavePrevious w.store now incumbent args rfl rfl hu
        (hr u h hh).indexed ((hr u h hh).routed create.clientId)
      rw [if_neg hu, List.append_nil] at hc
      exact absurd (hout.symm.trans hc) Bool.false_ne_true
  · have hsame : enrolled c (left.inbox u).entries = enrolled c (w.store.inbox u).entries :=
      enrolled_leavePrevious_of_ne w.store now incumbent args (neutral_removal hclient) u
    have hjoin : Neutral c args.join := neutral_join hclient
    rw [Function.update_of_ne (by simpa [args, Store.startArgs] using Ne.symm hclient)]
    refine (hr u h hh).routed c (hsame ▸ ?_)
    split_ifs at hc
    · rwa [enrolled_snoc, hjoin] at hc
    · rwa [List.append_nil] at hc

lemma Roster.startCreate (hr : w.Roster) (hi : w.Inv text config started) {identity : Identity}
    {now deadline : Timestamp} {uuid : Uuid} (hnew : uuid ∉ started) {create : Create}
    {args : StartArgs} (hargs : args = Store.startArgs text identity deadline uuid create) :
    World.Roster
      { store := (Redis.startCreate args now w.store).2
        hosts := Function.update w.hosts uuid (some (.new config uuid create)) } := by
  subst hargs
  set args := Store.startArgs text identity deadline uuid create
  obtain ⟨hserves, hsame, htarget⟩ := serves_leavePrevious w.store args rfl now uuid
  have hcreates := startCreate_effect args now w.store
  change Creates args (leavePrevious args now w.store uuid) _ at hcreates
  set left := leavePrevious args now w.store uuid
  set s := (Redis.startCreate args now w.store).2
  have hroute : ∀ c, s.route (.client c) =
      if create.clientId = c then some uuid else w.store.route (.client c) := by
    intro c
    rw [hcreates.route, hsame]
    refine if_congr ?_ rfl rfl
    simp [args, Store.startArgs, directoryKey, playerKey, eq_comm]
  intro u h hh
  dsimp only at hh ⊢
  by_cases hu : u = uuid
  · -- The inbox of the new challenge holds its create, which is yet to be read.
    subst hu
    rw [Function.update_self] at hh
    obtain rfl := Option.some.inj hh
    obtain ⟨id, hin⟩ := hcreates.inbox
    change (s.inbox u).entries = (left.inbox u).entries ++ [⟨id, .create create⟩] at hin
    rw [htarget, (hi.unseen u hnew).inbox, List.nil_append] at hin
    refine ⟨?_, fun c hc => ?_, fun c _ hc => ?_, Nat.zero_le _⟩
    · exact index_startCreate args now w.store
    · rw [hin] at hc
      rw [hroute, if_pos (by simpa [enrolled, enrol] using hc)]
    · cases hc
  · rw [Function.update_of_ne hu] at hh
    obtain ⟨hidx, -, hinbox⟩ := keysOf_eq (hcreates.others u hu)
    obtain ⟨es, hgrown, -⟩ := hserves.inbox u
    refine (hr u h hh).of_store ?_ ⟨es, by rw [hinbox]; exact hgrown⟩ fun c hc => ?_
    · rw [hidx, hserves.index]
      exact (hr u h hh).indexed
    · rw [hinbox] at hc
      rw [hroute]
      by_cases hclient : create.clientId = c
      · subst hclient
        have hout := enrolled_leavePrevious w.store now uuid args rfl rfl hu
          (hr u h hh).indexed ((hr u h hh).routed create.clientId)
        exact absurd (hout.symm.trans hc) Bool.false_ne_true
      · have hkeep := enrolled_leavePrevious_of_ne w.store now uuid args
          (neutral_removal hclient) u
        rw [if_neg hclient]
        exact (hr u h hh).routed c (hkeep ▸ hc)

lemma Roster.start (hr : w.Roster) (hi : w.Inv text config started) (identity : Identity)
    (now deadline : Timestamp) {uuid : Uuid} (hnew : uuid ∉ started) (create : Create) :
    (step text config w (.start identity now deadline uuid create)).Roster := by
  set args := Store.startArgs text identity deadline uuid create with hargs
  rcases START_cases args now w.store with ⟨incumbent, hinc, heq⟩ | heq
  · have hstep : step text config w (.start identity now deadline uuid create) =
        { w with store := (Redis.startJoin args now incumbent w.store).2 } := by
      simp only [step, Store.start]
      rw [heq]
      rfl
    exact hstep ▸ hr.startJoin hargs hinc
  · have hstep : step text config w (.start identity now deadline uuid create) =
        { store := (Redis.startCreate args now w.store).2
          hosts := Function.update w.hosts uuid (some (.new config uuid create)) } := by
      simp only [step, Store.start]
      rw [heq]
      rfl
    exact hstep ▸ hr.startCreate hi hnew hargs

lemma Roster.rejoin (hr : w.Roster) (now : Timestamp) (uuid : Uuid) (join : Join) :
    (step text config w (.rejoin now uuid join)).Roster := by
  dsimp only [step]
  unfold Store.rejoin REJOIN
  split_ifs with hunknown hover helsewhere
  · exact hr
  · exact hr
  · exact hr
  · intro u h hh
    obtain ⟨id, heq⟩ := entries_xadd (w.store.setRoute (.client join.clientId) uuid) now uuid
      (.join join) u
    refine (hr u h hh).of_store (hr u h hh).indexed ⟨_, heq⟩ fun c hc => ?_
    change enrolled c (((w.store.setRoute (.client join.clientId) uuid).xadd now uuid
      (.join join)).2.inbox u).entries = true at hc
    rw [heq] at hc
    change Function.update w.store.route _ _ _ = _
    by_cases hclient : join.clientId = c
    · subst hclient
      by_cases hu : u = uuid
      · subst hu
        exact Function.update_self _ _ _
      · -- Its key would name the challenge that its last command let it into.
        rw [if_neg hu, List.append_nil] at hc
        have hold := (hr u h hh).routed join.clientId hc
        rw [hold] at helsewhere
        exact absurd hu (by simpa using helsewhere)
    · rw [Function.update_of_ne (by simpa using Ne.symm hclient)]
      refine (hr u h hh).routed c ?_
      split_ifs at hc
      · rwa [enrolled_snoc, neutral_join hclient] at hc
      · rwa [List.append_nil] at hc

lemma Roster.updateHost (hr : w.Roster) (uuid : Uuid) {f : Host → Host}
    (hf : ∀ h : Host, h.Listed w.store uuid → (f h).Listed w.store uuid) :
    (w.updateHost uuid f).Roster := by
  intro u h hh
  unfold World.updateHost at hh ⊢
  by_cases hu : u = uuid
  · subst hu
    simp only [Function.update_self, Option.map_eq_some_iff] at hh
    obtain ⟨h', hh', rfl⟩ := hh
    exact hf h' (hr u h' hh')
  · simp only [Function.update_of_ne hu] at hh
    exact hr u h hh

lemma Roster.delete (hr : w.Roster) (hi : w.Inv text config started) (uuid : Uuid) :
    (step text config w (.delete uuid)).Roster := by
  cases hc : w.concluded uuid with
  | none =>
    have hstep : step text config w (.delete uuid) = w := by simp only [step, hc]
    rw [hstep]
    exact hr
  | some host =>
    obtain ⟨s', heq, hdel⟩ := step_delete hi hc
    rw [heq]
    intro u h hh
    by_cases hu : u = uuid
    · subst hu
      simp only [Function.update_self] at hh
      cases hh
    · simp only [Function.update_of_ne hu] at hh
      obtain ⟨hidx, -, hinbox⟩ := keysOf_eq (hdel.others u hu)
      refine (hr u h hh).of_same hidx hinbox fun key hkey => ?_
      rw [hdel.route, if_neg, hkey]
      rintro ⟨-, hx⟩
      rw [hkey] at hx
      exact hu (Option.some.inj hx)

end World

section Hosts

variable {config : LifecycleConfig} {s : Store} {uuid : Uuid} {h : Host}

lemma Host.Listed.consume (hl : h.Listed s uuid) (time : Timestamp) :
    (h.consume config (s.inbox uuid) time).Listed s uuid := by
  unfold Host.consume
  cases hget : (s.inbox uuid).entries[h.read]? with
  | none => exact hl
  | some envelope =>
    have hread : h.read + 1 ≤ (s.inbox uuid).entries.length :=
      (List.getElem?_eq_some_iff.mp hget).1
    have htake : (s.inbox uuid).entries.take (h.read + 1) =
        (s.inbox uuid).entries.take h.read ++ [envelope] := by
      rw [List.take_add_one, hget, Option.toList_some]
    dsimp only
    split_ifs with hm
    · refine ⟨hl.indexed, hl.routed, fun c hlive hc => ?_, hread⟩
      change enrolled c ((s.inbox uuid).entries.take (h.read + 1)) = true
      rw [htake, enrolled_snoc]
      exact enrol_handleCommand hm (fun ht => hl.clients c ht) hlive hc
    · refine ⟨hl.indexed, hl.routed, fun c hlive hc => ?_, hread⟩
      change enrolled c ((s.inbox uuid).entries.take (h.read + 1)) = true
      rw [htake, enrolled_snoc]
      have hbefore := hl.clients c hlive hc
      cases hcmd : envelope.cmd <;> simp_all [enrol, Command.isMessage]

lemma Host.Listed.handle (hl : h.Listed s uuid) {input : Input} (hin : input.position = none) :
    (h.handle config input).Listed s uuid := by
  refine ⟨hl.indexed, hl.routed, fun c hlive hc => ?_, hl.read⟩
  obtain ⟨ht, hold⟩ := contains_passive hin hlive hc
  exact hl.clients c ht hold

end Hosts

namespace World

variable {text : KeyText} {config : LifecycleConfig} {started : List Uuid} {w : World}

theorem Roster.step (hr : w.Roster) (hi : w.Inv text config started) {action : Action}
    (hmade : action.Made) (hnew : ∀ u, action.fresh = some u → u ∉ started) :
    (World.step text config w action).Roster := by
  cases action with
  | start identity now deadline uuid create => exact hr.start hi _ _ _ (hnew _ rfl) _
  | rejoin now uuid join => exact hr.rejoin now uuid join
  | send now uuid cmd h =>
    have hneutral : ∀ c, Neutral c cmd := by
      intro c b
      rcases hmade with ⟨u, rfl⟩ | ⟨f, rfl⟩ <;> rfl
    dsimp only [World.step]
    unfold Store.send SEND
    split_ifs
    · exact hr
    · exact hr.xadd now uuid hneutral
  | sendToCurrentChallenge now client cmd h =>
    have hneutral : ∀ c, Neutral c cmd := by
      intro c b
      obtain ⟨s, rfl, -⟩ := hmade
      rfl
    dsimp only [World.step]
    unfold Store.sendToCurrentChallenge CLIENT_SEND
    split
    · exact hr
    · split_ifs
      · exact hr
      · exact hr.xadd now _ hneutral
  | consume uuid time => exact hr.updateHost uuid fun h hl => hl.consume time
  | deadline uuid time fired => exact hr.updateHost uuid fun h hl => hl.handle rfl
  | report uuid time processed => exact hr.updateHost uuid fun h hl => hl.handle rfl
  | project uuid cursor =>
    dsimp only [World.step]
    split
    · unfold Store.project PROJECT fenced
      split_ifs
      · exact fun u h hh => (hr u h hh).of_same rfl rfl fun _ => id
      · exact hr
    · exact hr
  | delete uuid => exact hr.delete hi uuid
  | expireState uuid =>
    dsimp only [World.step]
    unfold Redis.expireState
    split_ifs
    · exact fun u h hh => (hr u h hh).of_same rfl rfl fun _ => id
    · exact hr
  | expireStreams uuid =>
    dsimp only [World.step]
    unfold Redis.expireStreams
    split_ifs with hex
    · -- A challenge that has an actor does not expire.
      intro u h hh
      have hu : u ≠ uuid := by
        rintro rfl
        rw [(hi.challenge u).expiring hex] at hh
        cases hh
      exact (hr u h hh).of_same rfl (Function.update_of_ne hu _ _) fun _ => id
    · exact hr

theorem Roster.run (hr : w.Roster) (hi : w.Inv text config started) {actions : List Action}
    (hmade : ∀ a ∈ actions, a.Made) (hfresh : (started ++ actions.filterMap Action.fresh).Nodup) :
    (World.run text config w actions).Roster := by
  induction actions generalizing w started with
  | nil => exact hr
  | cons action actions ih =>
    have hsplit : started ++ (action :: actions).filterMap Action.fresh =
        (started ++ action.fresh.toList) ++ actions.filterMap Action.fresh := by
      cases h : action.fresh <;> simp [h]
    rw [hsplit] at hfresh
    have hnew : ∀ u, action.fresh = some u → u ∉ started := by
      intro u hu hmem
      have hnd := (List.nodup_append.mp hfresh).1
      rw [hu] at hnd
      exact (List.nodup_append.mp hnd).2.2 u hmem u (by simp) rfl
    exact ih (hr.step hi (hmade action List.mem_cons_self) hnew)
      (follows_step hi action hnew).inv (fun a ha => hmade a (List.mem_cons_of_mem _ ha)) hfresh

end World

open World

/-- **A client is in at most one challenge.** Whatever requests are made and in whatever order the
actors read them, uuids being made up only once: when all that was queued has been read, a client
that is in a challenge that is not over is routed to it, and so it is in no other. -/
theorem belongs_to_one {text : KeyText} {config : LifecycleConfig} {actions : List Action}
    (hmade : ∀ a ∈ actions, a.Made) (hfresh : (actions.filterMap Action.fresh).Nodup)
    (hd : (run text config init actions).Drained) (c : ClientId) :
    let w := run text config init actions
    (∀ u, w.Belongs c u → w.store.route (.client c) = some u) ∧
      ∀ u u', w.Belongs c u → w.Belongs c u' → u = u' := by
  intro w
  have hr : w.Roster := roster_init.run inv_init hmade (by simpa using hfresh)
  refine ⟨fun u => hr.route_of_belongs hd, fun u u' hu hu' => ?_⟩
  exact Option.some.inj ((hr.route_of_belongs hd hu).symm.trans (hr.route_of_belongs hd hu'))

/-- Another client rejoins the challenge of a client and the actor reads of both. -/
def pairMeets : List Action :=
  [.start "first" 1 100 7 soloRequest, .consume 7 1, lateJoin, .consume 7 3]

theorem pair_in_one :
    let w := run plainText soloConfig init pairMeets
    (∀ u, w.Belongs 2 u → w.store.route (.client 2) = some u) ∧
      ∀ u u', w.Belongs 2 u → w.Belongs 2 u' → u = u' := by
  refine belongs_to_one (by simp [pairMeets, lateJoin, Action.Made]) (by decide) (fun u h hh => ?_) 2
  -- Only the challenge that was started has an actor.
  have hread : ((run plainText soloConfig init pairMeets).hosts 7).all (fun h =>
      ((run plainText soloConfig init pairMeets).store.inbox 7).entries.length ≤ h.read) := by
    decide
  obtain rfl : u = 7 :=
    List.mem_singleton.mp ((follows_run inv_init (by decide)).1.mem_started hh)
  rw [hh] at hread
  simpa using hread

end Blert.Redis

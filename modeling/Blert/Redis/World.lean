import Blert.Lifecycle.Settling
import Blert.Redis.Effects

/-!
The store together with the actors that run its challenges.

An actor reads the entries of its inbox one by one, so that a request takes effect on the store
at once but on the actor only later. The first entry of an inbox is the create.
-/

namespace Blert.Redis

open Blert.Lifecycle

/-! ### The store and the actors that run its challenges -/

/-- An actor, how many entries of its inbox it has read, and the request that started its
challenge. -/
structure Host where
  actor : Actor
  read : ℕ
  request : Create

structure World where
  store : Store
  hosts : Uuid → Option Host

/-- What can happen next: a request, a step of the actor of a challenge, or keys expiring. -/
inductive Action
  | start (identity : Identity) (now deadline : Timestamp) (uuid : Uuid) (create : Create)
  | rejoin (now : Timestamp) (uuid : Uuid) (join : Join)
  | send (now : Timestamp) (uuid : Uuid) (cmd : Command) (isCreate : cmd.isCreate = false)
  | sendToCurrentChallenge (now : Timestamp) (client : ClientId) (cmd : Command)
      (isCreate : cmd.isCreate = false)
  | consume (uuid : Uuid) (time : Timestamp)
  | deadline (uuid : Uuid) (time : Timestamp) (fired : Deadline)
  | report (uuid : Uuid) (time : Timestamp) (processed : Processed)
  | project (uuid : Uuid) (cursor : MsgId)
  | delete (uuid : Uuid)
  | expireState (uuid : Uuid)
  | expireStreams (uuid : Uuid)

/-- The uuid an action makes up for the challenge it may create. -/
def Action.fresh : Action → Option Uuid
  | .start _ _ _ uuid _ => some uuid
  | _ => none

def Host.new (config : LifecycleConfig) (uuid : Uuid) (request : Create) : Host :=
  { actor := .new uuid config, read := 0, request }

/-- The actor of a challenge handles an input. -/
def Host.handle (config : LifecycleConfig) (h : Host) (input : Input) : Host :=
  { h with actor := h.actor.handleCommand config input }

/-- The actor of a challenge reads the next entry of its inbox, if there is one. -/
def Host.consume (config : LifecycleConfig) (inbox : Inbox) (time : Timestamp) (h : Host) : Host :=
  match inbox.entries[h.read]? with
  | none => h
  | some envelope =>
    let h := { h with read := h.read + 1 }
    if hm : envelope.cmd.isMessage = true then h.handle config (.message time envelope hm) else h

namespace World

variable (text : KeyText) (config : LifecycleConfig)

def init : World := { store := .empty, hosts := fun _ => none }

/-- Replaces the host of a challenge, if it has one. -/
def updateHost (w : World) (uuid : Uuid) (f : Host → Host) : World :=
  { w with hosts := Function.update w.hosts uuid ((w.hosts uuid).map f) }

/-- The host of a challenge that is over and fully processed, and so is to be deleted. -/
def concluded (w : World) (uuid : Uuid) : Option Host :=
  (w.hosts uuid).filter fun h => h.actor.state.terminated && h.actor.state.processing.settled

def step (w : World) : Action → World
  | .start identity now deadline uuid create =>
    match w.store.start text identity now deadline uuid create with
    | (.created _, store) =>
      { store, hosts := Function.update w.hosts uuid (some (.new config uuid create)) }
    | (.joined _ _, store) => { w with store }
  | .rejoin now uuid join => { w with store := (w.store.rejoin now uuid join).2 }
  | .send now uuid cmd _ => { w with store := (w.store.send now uuid cmd).2 }
  | .sendToCurrentChallenge now client cmd _ =>
    { w with store := (w.store.sendToCurrentChallenge now client cmd).2 }
  | .consume uuid time => w.updateHost uuid (Host.consume config (w.store.inbox uuid) time)
  | .deadline uuid time fired => w.updateHost uuid (Host.handle config · (.deadline time fired))
  | .report uuid time processed => w.updateHost uuid (Host.handle config · (.report time processed))
  | .project uuid cursor =>
    match w.hosts uuid with
    | some h => { w with store := (w.store.project uuid Epoch.initial h.actor.state cursor).2 }
    | none => w
  | .delete uuid =>
    match w.concluded uuid with
    | some h =>
      match w.store.delete text uuid Epoch.initial h.actor.state with
      | (true, store) => { store, hosts := Function.update w.hosts uuid none }
      | (false, store) => { w with store }
    | none => w
  | .expireState uuid => { w with store := expireState uuid w.store }
  | .expireStreams uuid => { w with store := expireStreams uuid w.store }

def run (w : World) (actions : List Action) : World := actions.foldl (step text config) w

end World

/-! ### Actors -/

section Actors

variable {config : LifecycleConfig} {uuid : Uuid}

lemma identity_fold {es : List JournalEntry} (h : ∀ e ∈ es, e.event.isCreated = false)
    (s : ChallengeState) :
    (es.foldl apply s).challengeType = s.challengeType ∧ (es.foldl apply s).party = s.party := by
  induction es generalizing s with
  | nil => exact ⟨rfl, rfl⟩
  | cons e es ih =>
    obtain ⟨hty, hparty⟩ := ih (fun e' he' => h e' (List.mem_cons_of_mem _ he')) (apply s e)
    have he := h e List.mem_cons_self
    rw [List.foldl_cons, hty, hparty, apply_challengeType, apply_party]
    cases hev : e.event with
    | challengeCreated _ _ _ _ _ _ =>
      rw [hev] at he
      cases he
    | _ => exact ⟨rfl, rfl⟩

lemma handle_identity (config : LifecycleConfig) (a : Actor) {input : Input}
    (h : input.isCreate = false) :
    (a.handleCommand config input).state.challengeType = a.state.challengeType ∧
      (a.handleCommand config input).state.party = a.state.party := by
  refine identity_fold (fun e he => ?_) a.state
  by_contra hc
  obtain ⟨c, hcmd, -⟩ := create_of_created (event_of_mem_stamp he) (by simpa using hc)
  rw [Input.isCreate, hcmd] at h
  cases h

lemma handle_new {input : Input} (h : input.position = none) :
    (Actor.new uuid config).handleCommand config input = Actor.new uuid config := by
  have hdec : Lifecycle.decide (Actor.new uuid config).state config input.cmd = [] := by
    cases input with
    | message t e hm => cases h
    | deadline t d => rfl
    | report t r => rfl
  simp [Actor.handleCommand, Actor.batch, hdec]

lemma handle_new_create (t : Timestamp) (id : MsgId) (c : Create) :
    let a := (Actor.new uuid config).handleCommand config (.message t ⟨id, .create c⟩ rfl)
    a.state.challengeType = c.challengeType ∧ a.state.party = c.party := by
  have hdec : Lifecycle.decide (Actor.new uuid config).state config (.create c) =
      [.challengeCreated uuid c.sessionUuid c.challengeType c.mode c.party c.stage,
       .clientJoined c.clientId c.userId c.sessionToken c.recordingType] := rfl
  simp [Actor.handleCommand, Actor.batch, Input.cmd, hdec, apply_challengeType, apply_party]

end Actors

/-! ### The inbox and its reader -/

def partyKeys (text : KeyText) (challengeType : ChallengeType) (party : List String) :
    Finset RoutingKey :=
  insert (directoryKey text challengeType party) (party.map (playerKey text)).toFinset

/-- The keys of the party and the players that a challenge was started for. -/
def Host.keys (text : KeyText) (h : Host) : Finset RoutingKey :=
  partyKeys text h.request.challengeType h.request.party

/-- The create is the first entry of the inbox and the only create. An actor that has read it
is of the challenge it asks for. -/
structure Host.Inv (config : LifecycleConfig) (uuid : Uuid) (inbox : Inbox) (h : Host) : Prop where
  inbox : ∃ id rest, inbox.entries = ⟨id, .create h.request⟩ :: rest ∧
    ∀ e ∈ rest, e.cmd.isCreate = false
  actor : (h.read = 0 ∧ h.actor = .new uuid config) ∨
    (0 < h.read ∧ h.actor.state.challengeType = h.request.challengeType ∧
      h.actor.state.party = h.request.party)

namespace Host.Inv

variable {config : LifecycleConfig} {uuid : Uuid} {inbox : Inbox} {h : Host}

lemma grows (hi : h.Inv config uuid inbox) {inbox' : Inbox} (hg : Grows inbox inbox') :
    h.Inv config uuid inbox' := by
  obtain ⟨id, rest, hin, hrest⟩ := hi.inbox
  obtain ⟨es, heq, hes⟩ := hg
  refine ⟨⟨id, rest ++ es, by rw [heq, hin, List.cons_append], fun e he => ?_⟩, hi.actor⟩
  rcases List.mem_append.mp he with he | he
  · exact hrest e he
  · exact hes e he

lemma handle (hi : h.Inv config uuid inbox) {input : Input} (hin : input.position = none) :
    (h.handle config input).Inv config uuid inbox := by
  refine ⟨hi.inbox, ?_⟩
  rcases hi.actor with ⟨hr, ha⟩ | ⟨hr, hty, hparty⟩
  · refine Or.inl ⟨hr, ?_⟩
    change h.actor.handleCommand config input = _
    rw [ha]
    exact handle_new hin
  · have hnc : input.isCreate = false := by cases input <;> first | rfl | cases hin
    obtain ⟨hty', hparty'⟩ := handle_identity config h.actor hnc
    exact Or.inr ⟨hr, hty'.trans hty, hparty'.trans hparty⟩

lemma consume (hi : h.Inv config uuid inbox) (time : Timestamp) :
    (h.consume config inbox time).Inv config uuid inbox := by
  obtain ⟨id, rest, hin, hrest⟩ := hi.inbox
  unfold Host.consume
  cases hget : inbox.entries[h.read]? with
  | none => exact hi
  | some envelope =>
    dsimp only
    rcases hi.actor with ⟨hr, ha⟩ | ⟨hr, hty, hparty⟩
    · -- The first entry is the create.
      obtain rfl : envelope = ⟨id, .create h.request⟩ := by
        rw [hin, hr] at hget
        exact (Option.some.inj hget).symm
      rw [dif_pos (show (Command.create h.request).isMessage = true from rfl)]
      refine ⟨hi.inbox, Or.inr ⟨Nat.succ_pos _, ?_⟩⟩
      simp only [Host.handle, ha]
      exact handle_new_create time id h.request
    · have hmem : envelope ∈ rest := by
        obtain ⟨n, hn⟩ := Nat.exists_eq_succ_of_ne_zero hr.ne'
        rw [hin, hn, List.getElem?_cons_succ] at hget
        exact List.mem_of_getElem? hget
      split_ifs with hm
      · have hkeep := handle_identity config h.actor
          (show (Input.message time envelope hm).isCreate = false from hrest envelope hmem)
        exact ⟨hi.inbox, Or.inr ⟨Nat.succ_pos _, hkeep.1.trans hty, hkeep.2.trans hparty⟩⟩
      · exact ⟨hi.inbox, Or.inr ⟨Nat.succ_pos _, hty, hparty⟩⟩

end Host.Inv

end Blert.Redis

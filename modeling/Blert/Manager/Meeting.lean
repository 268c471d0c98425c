import Blert.Manager.Start
import Blert.Transitions

/-!
Concurrent starts of a party meet in one challenge.

The calls of a party's clients run next to each other, one Redis command or database operation at a
time. At any moment no call has created a challenge that is still there, or one call is creating
one, or one is active: then what a transaction decides is to create in the first case, to wait in
the second and to join in the third.
-/

namespace Blert.Manager

open Optimistic Lifecycle Processing Redis

/-- The party, the challenge that its clients start, and the uuids that are in use. -/
structure Meeting where
  type : ChallengeType
  stage : Stage
  party : List String
  known : List Uuid

/-- The calls of the clients, each under a number, and what they share. -/
structure Calls (naming : Naming) (Custom : Type) where
  store : Database Custom
  call : ℕ → Option (StartTask naming Custom)
  /-- The uuids the calls have made up. -/
  made : List Uuid
  /-- The challenges that were created in the database. -/
  created : List Uuid

inductive CallAct (Custom : Type)
  | createOrJoin (i : ℕ) (req : StartRequest) (uuid : Uuid)
  | step (i : ℕ) (input : StartInput Custom)

section System

variable {naming : Naming} {Custom : Type} (m : Meeting)

def Meeting.challenges (naming : Naming) (s : Database Custom) : List Uuid :=
  s (.party m.type (partyMembers naming m.party))

/-- The challenge that a call creates in the database. -/
def StartTask.creates : StartTask naming Custom → StartInput Custom → List Uuid
  | .creating _ uuid _, .created _ => [uuid]
  | _, _ => []

/-- The state of the calls after one of them went on. -/
def Calls.going (w : Calls naming Custom) (i : ℕ) (s : Database Custom)
    (t : StartTask naming Custom) (created : List Uuid) : Calls naming Custom :=
  { w with store := s, call := Function.update w.call i (some t), created }

def Calls.stepped [DecidableEq Custom] (w : Calls naming Custom) (i : ℕ)
    (input : StartInput Custom) : Option (Calls naming Custom) := do
  let t ← w.call i
  let (s, t') ← t.step w.store input
  pure (w.going i s t' (w.created ++ t.creates input))

def CallAct.Enabled [DecidableEq Custom] (w : Calls naming Custom) : CallAct Custom → Prop
  | .createOrJoin i req uuid =>
    w.call i = none ∧ req.type = m.type ∧ req.stage = m.stage ∧ req.party = m.party ∧
      uuid ∉ m.known ∧ uuid ∉ w.made
  | .step i input => (w.stepped i input).isSome

def Calls.next [DecidableEq Custom] (w : Calls naming Custom) :
    CallAct Custom → Calls naming Custom
  | .createOrJoin i req uuid =>
    { w with
      call := Function.update w.call i (some (.createOrJoin req uuid))
      made := w.made ++ [uuid] }
  | .step i input => (w.stepped i input).getD w

def Meeting.system [DecidableEq Custom] :
    TransitionSystem (Calls naming Custom) (CallAct Custom) where
  Enabled := CallAct.Enabled m
  next := Calls.next

instance [DecidableEq Custom] (w : Calls naming Custom) :
    ∀ a, Decidable (m.system.Enabled w a)
  | .createOrJoin i _ _ =>
    have : Decidable (w.call i = none) := decidable_of_iff _ Option.isNone_iff_eq_none
    inferInstanceAs (Decidable (_ ∧ _))
  | .step i input => inferInstanceAs (Decidable ((w.stepped i input).isSome = true))

def CallAct.caller : CallAct Custom → ℕ
  | .createOrJoin i _ _ | .step i _ => i

/-- No key but those of its state and of its party holds anything of a challenge. -/
structure Bare (s : Database Custom) (u : Uuid) : Prop where
  clients : s (.clients u) = (∅ : OrdMap ClientId ChallengeClient)
  processed : s (.processed u) = ([] : List StageAttempt)
  streams : s (.streams u) = ([] : List StageAttempt)
  stream : ∀ stage, s (.stream u stage) = ([] : List String)
  timeout : OrdMap.get (s .timeouts) u = none
  client : ∀ c, s (.clientChallenge c) ≠ some u
  player : ∀ name, s (.player name) ≠ some u

structure NoTrace (s : Database Custom) (u : Uuid) : Prop extends Bare s u where
  challenge : s (.challenge u) = ({} : ChallengeHash Custom)
  party : ∀ type names, u ∉ (s (.party type names) : List Uuid)

/-- A challenge is not in progress, so that a start does not join it. -/
def Meeting.Settled (h : ChallengeHash Custom) : Prop :=
  ∀ x, h.found = some x → startAction m.stage h.timeoutState x = .create

/-- No call has begun, and the party has no challenge in progress. -/
structure Meeting.Init (w : Calls naming Custom) : Prop where
  call : ∀ i, w.call i = none
  made : w.made = []
  created : w.created = []
  unknown : ∀ u, u ∉ m.known → NoTrace w.store u
  settled : ∀ u ∈ m.challenges naming w.store, m.Settled (w.store (.challenge u))

def StartTask.ended : StartTask naming Custom → Bool
  | .returned _ _ | .failed _ _ => true
  | _ => false

def StartTask.request : StartTask naming Custom → StartRequest
  | .determining req _ _ | .creating req _ _ | .activating req _ _ _ | .deleting req _ _ => req
  | .joining req _ _ _ | .waiting req _ _ | .recording req _ | .returned req _ => req
  | .failed req _ => req

/-! ### What each call knows -/

/-- The challenge that a call creates, or would create. -/
def StartTask.own : StartTask naming Custom → Option Uuid
  | .determining _ uuid _ | .creating _ uuid _ | .activating _ uuid _ _ | .deleting _ uuid _ =>
    some uuid
  | _ => none

def StartTask.current : StartTask naming Custom → Option Uuid
  | .creating _ uuid _ | .activating _ uuid _ _ | .deleting _ uuid _ => some uuid
  | _ => none

/-- The challenges of a call that are in the database but not active yet. -/
def StartTask.inDatabase : StartTask naming Custom → List Uuid
  | .activating _ uuid _ _ => [uuid]
  | _ => []

def Meeting.Asks (req : StartRequest) : Prop :=
  req.type = m.type ∧ req.stage = m.stage ∧ req.party = m.party

/-- What was read, as far as it concerns challenges that no call has made up, holds still. -/
def Meeting.Seen (w : Calls naming Custom) : (Σ k, Val Custom k) → Prop
  | ⟨.party type names, listed⟩ =>
    type = m.type ∧ names = partyMembers naming m.party →
      ∀ u ∈ (listed : List Uuid), u ∉ w.made → m.Settled (w.store (.challenge u))
  | ⟨.challenge u, h⟩ => u ∉ w.made → h = w.store (.challenge u)
  | _ => True

/-- A client is in the challenge that was created, and has it as its active one. -/
structure Calls.Joined (w : Calls naming Custom) (req : StartRequest) (uuid : Uuid) : Prop where
  created : w.created = [uuid]
  client : OrdMap.contains (w.store (.clients uuid)) req.client.clientId = true
  active : w.store (.clientChallenge req.client.clientId) = some uuid

/-- No more than one challenge is created, in which are all whose calls have returned. -/
structure Calls.Met (w : Calls naming Custom) : Prop where
  one : w.created.length ≤ 1
  returned : ∀ i req response, w.call i = some (.returned req response) →
    w.Joined req response.uuid
  /-- A challenge whose creation has failed, or never began, is nowhere. -/
  gone : ∀ u ∈ w.made, u ∉ w.created → (∀ i t, w.call i = some t → t.current ≠ some u) →
    NoTrace w.store u
  /-- One is created, unless a creation has failed or all calls were refused. -/
  created : (∀ i t, w.call i = some t → t.ended = true) →
    (∀ i req, w.call i ≠ some (.failed req .createFailed)) →
    (∃ i t, w.call i = some t ∧ ∀ req, t ≠ .failed req .unsupportedMode) →
      ∃ u, w.created = [u]

/-- Once all calls have ended, and a challenge was created, all clients are in it. -/
def Calls.AllJoined (w : Calls naming Custom) : Prop :=
  (∀ i t, w.call i = some t → t.ended = true) → w.created ≠ [] →
    ∀ i t, w.call i = some t → ∃ u, w.Joined t.request u

def Meeting.Holds (w : Calls naming Custom) : StartTask naming Custom → Prop
  | .determining req uuid a =>
    m.Asks req ∧ uuid ∈ w.made ∧ NoTrace w.store uuid ∧ ∀ r ∈ a.reads, m.Seen w r
  | .creating req uuid _ | .activating req uuid _ _ | .deleting req uuid _ =>
    m.Asks req ∧ uuid ∈ w.made
  | .joining req uuid _ _ | .waiting req uuid _ => m.Asks req ∧ uuid ∈ w.made
  | .recording req response | .returned req response => w.Joined req response.uuid
  | .failed _ _ => True

structure Meeting.Common (w : Calls naming Custom) : Prop where
  calls : ∀ i t, w.call i = some t → m.Holds w t
  own : ∀ i j t t' u, w.call i = some t → w.call j = some t' → t.own = some u →
    t'.own = some u → i = j
  made : ∀ u ∈ w.made, u ∉ m.known
  unmade : ∀ u, u ∉ m.known → u ∉ w.made → NoTrace w.store u
  settled : ∀ u ∈ m.challenges naming w.store, u ∉ w.made → m.Settled (w.store (.challenge u))

/-- A call that has found no challenge in progress, or was refused. -/
def Calls.Fresh (w : Calls naming Custom) : StartTask naming Custom → Prop
  | .determining _ _ a => ∀ u h, (⟨.challenge u, h⟩ : Σ k, Val Custom k) ∈ a.reads → u ∈ w.made →
      h = ({} : ChallengeHash Custom)
  | .failed _ .unsupportedMode => True
  | _ => False

/-- The creation of a challenge has failed, or none has begun. -/
def Calls.Began (w : Calls naming Custom) : Prop :=
  (∃ i req, w.call i = some (.failed req .createFailed)) ∨
    ∀ i t, w.call i = some t → w.Fresh t

/-- What the party has: no challenge that was made up, one that a call is creating, or an active
one. -/
inductive Meeting.Progress (w : Calls naming Custom) : Prop
  | idle (free : ∀ i t, w.call i = some t → t.current = none) (created : w.created = [])
      (others : ∀ v ∈ w.made, NoTrace w.store v) (began : w.Began)
  | creating (i : ℕ) (t : StartTask naming Custom) (u : Uuid) (call : w.call i = some t)
      (current : t.current = some u)
      (only : ∀ j t', w.call j = some t' → t'.current ≠ none → j = i) (mem : u ∈ w.made)
      (listed : ∃ l, m.challenges naming w.store = l ++ [u] ∧ u ∉ l)
      (elsewhere : ∀ type names, ¬(type = m.type ∧ names = partyMembers naming m.party) →
        u ∉ (w.store (.party type names) : List Uuid))
      (hash : w.store (.challenge u) = initializing m.stage {}) (bare : Bare w.store u)
      (created : w.created = t.inDatabase) (others : ∀ v ∈ w.made, v ≠ u → NoTrace w.store v)
  | active (u : Uuid) (free : ∀ i t, w.call i = some t → t.current = none) (mem : u ∈ w.made)
      (listed : (m.challenges naming w.store).getLast? = some u)
      (found : ChallengeHash.found (w.store (.challenge u)) = some (.active, .inProgress, m.stage))
      (timeout : ChallengeHash.timeoutState (w.store (.challenge u)) = some .none)
      (created : w.created = [u]) (others : ∀ v ∈ w.made, v ≠ u → NoTrace w.store v)

/-! ### What a step keeps -/

variable {m} {w w' : Calls naming Custom} {i : ℕ} {t t' : StartTask naming Custom}

lemma update_cases {call : ℕ → Option (StartTask naming Custom)} {j : ℕ}
    {tj : StartTask naming Custom} (h : Function.update call i (some t') j = some tj) :
    (j = i ∧ tj = t') ∨ (j ≠ i ∧ call j = some tj) := by
  by_cases hji : j = i
  · subst hji
    rw [Function.update_self] at h
    exact Or.inl ⟨rfl, (Option.some.inj h).symm⟩
  · rw [Function.update_of_ne hji] at h
    exact Or.inr ⟨hji, h⟩

lemma Meeting.Seen.going {s : Database Custom} {created : List Uuid}
    (hash : ∀ u, u ∉ w.made → s (.challenge u) = w.store (.challenge u))
    {r : Σ k, Val Custom k} (h : m.Seen w r) : m.Seen (w.going i s t created) r := by
  obtain ⟨k, v⟩ := r
  cases k with
  | party type names =>
    intro hkey u hu hmade
    change m.Settled (s (.challenge u))
    rw [hash u hmade]
    exact h hkey u hu hmade
  | challenge u =>
    intro hmade
    change v = s (.challenge u)
    rw [hash u hmade]
    exact h hmade
  | _ => trivial

lemma Meeting.Holds.own_mem (h : m.Holds w t) {u : Uuid} (hu : t.own = some u) : u ∈ w.made := by
  cases t <;> cases hu
  · exact h.2.1
  · exact h.2
  · exact h.2
  · exact h.2

lemma Meeting.Common.going (hc : m.Common w) (hi : w.call i = some t) {s : Database Custom}
    {created : List Uuid} (hown : ∀ u, t'.own = some u → t.own = some u)
    (hash : ∀ u, u ∉ w.made → s (.challenge u) = w.store (.challenge u))
    (trace : ∀ u, t.own ≠ some u → NoTrace w.store u → NoTrace s u)
    (joined : ∀ req u, w.Joined req u → (w.going i s t' created).Joined req u)
    (listed : ∀ u ∈ m.challenges naming s, u ∉ w.made → u ∈ m.challenges naming w.store)
    (holds : m.Holds (w.going i s t' created) t') : m.Common (w.going i s t' created) where
  calls j tj hj := by
    rcases update_cases hj with ⟨rfl, rfl⟩ | ⟨hij, hj⟩
    · exact holds
    · have hold := hc.calls j tj hj
      cases tj with
      | determining req uuid a =>
        obtain ⟨hreq, hmade, htrace, hseen⟩ := hold
        refine ⟨hreq, hmade, trace uuid (fun hu => hij ?_) htrace, fun r hr =>
          (hseen r hr).going hash⟩
        exact hc.own j i _ t uuid hj hi rfl hu
      | recording req response => exact joined req response.uuid hold
      | returned req response => exact joined req response.uuid hold
      | _ => exact hold
  own j j' tj tj' u hj hj' hu hu' := by
    have hback : ∀ k tk, (w.going i s t' created).call k = some tk → tk.own = some u →
        ∃ tk', w.call k = some tk' ∧ tk'.own = some u := by
      intro k tk hk hu
      rcases update_cases hk with ⟨rfl, rfl⟩ | ⟨-, hk⟩
      · exact ⟨t, hi, hown u hu⟩
      · exact ⟨tk, hk, hu⟩
    obtain ⟨tk, hk, hku⟩ := hback j tj hj hu
    obtain ⟨tk', hk', hku'⟩ := hback j' tj' hj' hu'
    exact hc.own j j' tk tk' u hk hk' hku hku'
  made := hc.made
  unmade u hknown hmade :=
    trace u (fun hu => hmade ((hc.calls i t hi).own_mem hu)) (hc.unmade u hknown hmade)
  settled u hu hmade := by
    change m.Settled (s (.challenge u))
    rw [hash u hmade]
    exact hc.settled u (listed u hu hmade) hmade

lemma Meeting.Common.quiet (hc : m.Common w) (hi : w.call i = some t)
    (hown : ∀ u, t'.own = some u → t.own = some u)
    (holds : m.Holds (w.going i w.store t' w.created) t') :
    m.Common (w.going i w.store t' w.created) :=
  hc.going hi hown (fun _ _ => rfl) (fun _ _ h => h) (fun _ _ h => ⟨h.created, h.client, h.active⟩)
    (fun _ h _ => h) holds

lemma Calls.Began.going (hb : w.Began) (hi : w.call i = some t) (hlive : ∀ req e, t ≠ .failed req e)
    (hfresh : w.Fresh t → w.Fresh t') (s : Database Custom) (created : List Uuid) :
    (w.going i s t' created).Began := by
  rcases hb with ⟨j, req, hj⟩ | hall
  · have hji : j ≠ i := by
      rintro rfl
      exact hlive req _ (Option.some.inj (hi.symm.trans hj))
    exact Or.inl ⟨j, req, (Function.update_of_ne hji _ _).trans hj⟩
  · refine Or.inr fun j tj hj => ?_
    rcases update_cases hj with ⟨rfl, rfl⟩ | ⟨-, hj⟩
    · exact hfresh (hall j t hi)
    · exact hall j tj hj

lemma Meeting.Progress.quiet (hp : m.Progress w) (hi : w.call i = some t)
    (hlive : ∀ req e, t ≠ .failed req e)
    (hfresh : (∀ v ∈ w.made, NoTrace w.store v) → w.Fresh t → w.Fresh t')
    (hcurrent : t'.current = t.current) (hdatabase : t'.inDatabase = t.inDatabase) :
    m.Progress (w.going i w.store t' w.created) := by
  have hback : ∀ j tj, (w.going i w.store t' w.created).call j = some tj →
      ∃ tj', w.call j = some tj' ∧ tj'.current = tj.current := by
    intro j tj hj
    rcases update_cases hj with ⟨rfl, rfl⟩ | ⟨-, hj⟩
    · exact ⟨t, hi, hcurrent.symm⟩
    · exact ⟨tj, hj, rfl⟩
  cases hp with
  | idle free created others began =>
    refine .idle (fun j tj hj => ?_) created others (began.going hi hlive (hfresh others) _ _)
    obtain ⟨tj', hj', heq⟩ := hback j tj hj
    exact heq ▸ free j tj' hj'
  | creating i' t₀ u call current only mem listed elsewhere hash bare created others =>
    have honly : ∀ j tj, (w.going i w.store t' w.created).call j = some tj → tj.current ≠ none →
        j = i' := by
      intro j tj hj hne
      obtain ⟨tj', hj', heq⟩ := hback j tj hj
      exact only j tj' hj' (heq ▸ hne)
    by_cases hij : i' = i
    · subst hij
      obtain rfl := Option.some.inj (hi.symm.trans call)
      exact .creating i' t' u (Function.update_self _ _ _) (hcurrent.trans current) honly mem listed
        elsewhere hash bare (created.trans hdatabase.symm) others
    · exact .creating i' t₀ u ((Function.update_of_ne hij _ _).trans call) current honly mem listed
        elsewhere hash bare created others
  | active u free mem listed found timeout created others =>
    refine .active u (fun j tj hj => ?_) mem listed found timeout created others
    obtain ⟨tj', hj', heq⟩ := hback j tj hj
    exact heq ▸ free j tj' hj'

/-! ### Steps that write -/

section Writes

variable {s s' : Database Custom} {v : Uuid}

lemma NoTrace.keep (h : NoTrace s v)
    (own : s' (.challenge v) = s (.challenge v) ∧ s' (.clients v) = s (.clients v) ∧
      s' (.processed v) = s (.processed v) ∧ s' (.streams v) = s (.streams v) ∧
      ∀ stage, s' (.stream v stage) = s (.stream v stage))
    (timeout : OrdMap.get (s' .timeouts) v = none)
    (client : ∀ c, s' (.clientChallenge c) = some v → s (.clientChallenge c) = some v)
    (player : ∀ name, s' (.player name) = some v → s (.player name) = some v)
    (party : ∀ type names, v ∈ (s' (.party type names) : List Uuid) →
      v ∈ (s (.party type names) : List Uuid)) : NoTrace s' v where
  challenge := own.1.trans h.challenge
  clients := own.2.1.trans h.clients
  processed := own.2.2.1.trans h.processed
  streams := own.2.2.2.1.trans h.streams
  stream stage := (own.2.2.2.2 stage).trans (h.stream stage)
  timeout := timeout
  client c hc := h.client c (client c hc)
  player name hn := h.player name (player name hn)
  party type names hmem := h.party type names (party type names hmem)

lemma Bare.of_eq {u : Uuid} (h : Bare s u)
    (hs : ∀ k, (∀ v, k ≠ .challenge v) → (∀ type names, k ≠ .party type names) → s' k = s k) :
    Bare s' u where
  clients := (hs _ (by simp) (by simp)).trans h.clients
  processed := (hs _ (by simp) (by simp)).trans h.processed
  streams := (hs _ (by simp) (by simp)).trans h.streams
  stream stage := (hs _ (by simp) (by simp)).trans (h.stream stage)
  timeout := by
    rw [hs .timeouts (by simp) (by simp)]
    exact h.timeout
  client c := by
    rw [hs (.clientChallenge c) (by simp) (by simp)]
    exact h.client c
  player name := by
    rw [hs (.player name) (by simp) (by simp)]
    exact h.player name

end Writes

lemma Meeting.Asks.challenges {req : StartRequest} (h : m.Asks req) (s : Database Custom) :
    req.challenges naming s = m.challenges naming s := by
  unfold StartRequest.challenges Meeting.challenges
  rw [h.1, h.2.2]

lemma creation_commits (hc : m.Common w) (hidle : ∀ j tj, w.call j = some tj → tj.current = none)
    (hcreated : w.created = []) (hothers : ∀ v ∈ w.made, NoTrace w.store v) {req : StartRequest}
    {uuid : Uuid} {a : Attempt (determineStartAction naming req uuid)}
    (hi : w.call i = some (.determining req uuid a)) {sessionId : Option ℤ} {s : Database Custom}
    {listed : List Uuid} (hlisted : ∀ v ∈ listed, v ∈ req.challenges naming w.store)
    (hlist : req.challenges naming s = listed ++ [uuid])
    (hash : s (.challenge uuid) = initializing req.stage (w.store (.challenge uuid)))
    (hkeep : ∀ k, k ≠ .party req.type (partyMembers naming req.party) → k ≠ .challenge uuid →
      s k = w.store k) :
    m.Common (w.going i s (.creating req uuid sessionId) w.created) ∧
      m.Progress (w.going i s (.creating req uuid sessionId) w.created) := by
  obtain ⟨hreq, hmade, htrace, -⟩ := hc.calls i _ hi
  have hnot : uuid ∉ listed := fun hmem => htrace.party _ _ (hlisted uuid hmem)
  have hkeepTrace : ∀ v, v ≠ uuid → NoTrace w.store v → NoTrace s v := by
    intro v hv h
    refine h.keep ⟨hkeep _ nofun (by simpa using hv), hkeep _ nofun nofun, hkeep _ nofun nofun,
      hkeep _ nofun nofun, fun _ => hkeep _ nofun nofun⟩ ?_ (fun c => ?_) (fun name => ?_)
      fun type names hmem => ?_
    · rw [hkeep .timeouts nofun nofun]
      exact h.timeout
    · rw [hkeep (.clientChallenge c) nofun nofun]
      exact id
    · rw [hkeep (.player name) nofun nofun]
      exact id
    · by_cases hkey : Key.party type names = .party req.type (partyMembers naming req.party)
      · cases hkey
        rw [show s (.party req.type (partyMembers naming req.party)) = listed ++ [uuid] from hlist]
          at hmem
        rcases List.mem_append.mp hmem with hmem | hmem
        · exact hlisted v hmem
        · exact absurd (List.mem_singleton.mp hmem) hv
      · rwa [hkeep _ hkey nofun] at hmem
  refine ⟨hc.going hi (fun u hu => hu) (fun u hu => hkeep _ nofun ?_) (fun u hu => hkeepTrace u ?_)
    (fun _ _ h => ?_) (fun u hu hmade' => ?_) ⟨hreq, hmade⟩, ?_⟩
  · rintro heq
    cases heq
    exact hu hmade
  · rintro rfl
    exact hu rfl
  · have := h.created
    rw [hcreated] at this
    cases this
  · rw [← hreq.challenges, hlist] at hu
    rcases List.mem_append.mp hu with hu | hu
    · rw [← hreq.challenges]
      exact hlisted u hu
    · rw [List.mem_singleton.mp hu] at hmade'
      exact absurd hmade hmade'
  · refine .creating i _ uuid (Function.update_self _ _ _) rfl (fun j tj hj hne => ?_) hmade
      ⟨listed, by rw [← hlist, hreq.challenges]; rfl, hnot⟩ (fun type names hkey => ?_) ?_ ?_
      hcreated fun v hv hne => hkeepTrace v hne (hothers v hv)
    · rcases update_cases hj with ⟨rfl, -⟩ | ⟨-, hj⟩
      · rfl
      · exact absurd (hidle j tj hj) hne
    · change uuid ∉ (s (.party type names) : List Uuid)
      rw [hkeep (.party type names) (fun heq => hkey ?_) nofun]
      · exact htrace.party type names
      · cases heq
        exact ⟨hreq.1, by rw [hreq.2.2]⟩
    · change s (.challenge uuid) = _
      rw [hash, htrace.challenge, hreq.2.1]
    · exact htrace.toBare.of_eq fun k hk hk' => hkeep k (hk' _ _) (hk _)

lemma join_commits (hc : m.Common w) (hp : m.Progress w) {uuid : Uuid} (hmade : uuid ∈ w.made)
    (hactive : ChallengeHash.state (w.store (.challenge uuid)) = some .active)
    (hi : w.call i = some t) {req : StartRequest} {response : ChallengeStatusResponse}
    (hresponse : response.uuid = uuid)
    {client : ChallengeClient} {s : Database Custom}
    (hs : s = applyAll (setChallengeClient uuid req.client.clientId client) w.store) :
    m.Common (w.going i s (.recording req response) w.created) ∧
      m.Progress (w.going i s (.recording req response) w.created) := by
  have hnone : ¬NoTrace w.store uuid := by
    intro h
    rw [h.challenge] at hactive
    cases hactive
  have hkeep : ∀ k, k ≠ .clients uuid → k ≠ .clientChallenge req.client.clientId →
      s k = w.store k := by
    intro k hclients hclient
    simp [hs, setChallengeClient, Write.apply, hclients, hclient]
  have hclients : s (.clients uuid) =
      OrdMap.insert (w.store (.clients uuid)) req.client.clientId client := by
    simp [hs, setChallengeClient, Write.apply]
  have hclient : s (.clientChallenge req.client.clientId) = some uuid := by
    simp [hs, setChallengeClient, Write.apply]
  have htrace : ∀ v, v ≠ uuid → NoTrace w.store v → NoTrace s v := by
    intro v hv h
    refine h.keep ⟨hkeep _ (by simp) (by simp), hkeep _ (by simpa using hv) (by simp), hkeep _ (by simp) (by simp),
      hkeep _ (by simp) (by simp), fun _ => hkeep _ (by simp) (by simp)⟩ ?_ (fun c hcv => ?_) (fun name => ?_)
      fun type names => ?_
    · rw [hkeep .timeouts (by simp) (by simp)]
      exact h.timeout
    · by_cases hcr : c = req.client.clientId
      · subst hcr
        exact absurd (Option.some.inj (hclient.symm.trans hcv)).symm hv
      · rwa [hkeep (.clientChallenge c) (by simp) (by simpa using hcr)] at hcv
    · rw [hkeep (.player name) (by simp) (by simp)]
      exact id
    · rw [hkeep (.party type names) (by simp) (by simp)]
      exact id
  have hne : ∀ v, NoTrace w.store v → v ≠ uuid := by
    rintro v h rfl
    exact hnone h
  cases hp with
  | idle free created others => exact absurd (others uuid hmade) hnone
  | creating i' t₀ u call current only mem listed elsewhere hash bare created others =>
    by_cases hu : uuid = u
    · subst hu
      rw [hash] at hactive
      cases hactive
    · exact absurd (others uuid hmade hu) hnone
  | active u free mem listed found timeout created others =>
    obtain rfl : uuid = u := by
      by_contra hu
      exact hnone (others uuid hmade hu)
    have hjoined : ∀ req' u, w.Joined req' u →
        (w.going i s (.recording req response) w.created).Joined req' u := by
      intro req' u hj
      obtain rfl : uuid = u := by simpa [created] using hj.created
      refine ⟨hj.created, ?_, ?_⟩
      · change OrdMap.contains (s (.clients uuid)) req'.client.clientId = true
        rw [hclients, OrdMap.contains_insert]
        exact Or.inr hj.client
      · change s (.clientChallenge req'.client.clientId) = some uuid
        by_cases hcr : req'.client.clientId = req.client.clientId
        · rw [hcr, hclient]
        · rw [hkeep (.clientChallenge _) (by simp) (by simpa using hcr)]
          exact hj.active
    refine ⟨hc.going hi (fun _ h => by cases h) (fun u _ => hkeep _ (by simp) (by simp))
      (fun v _ h => htrace v (hne v h) h) hjoined (fun u hu _ => ?_) ⟨?_, ?_, ?_⟩, ?_⟩
    · rwa [Meeting.challenges, hkeep (.party _ _) (by simp) (by simp)] at hu
    · rw [hresponse]
      exact created
    · change OrdMap.contains (s (.clients response.uuid)) req.client.clientId = true
      rw [hresponse, hclients, OrdMap.contains_insert]
      exact Or.inl rfl
    · rw [hresponse]
      exact hclient
    · refine .active uuid (fun j tj hj => ?_) mem ?_ ?_ ?_ created fun v hv hne => htrace v hne
        (others v hv hne)
      · rcases update_cases hj with ⟨-, rfl⟩ | ⟨-, hj⟩
        · rfl
        · exact free j tj hj
      · rw [Meeting.challenges, ← hkeep (.party _ _) (by simp) (by simp)] at listed
        exact listed
      · rw [← hkeep (.challenge uuid) (by simp) (by simp)] at found
        exact found
      · rw [← hkeep (.challenge uuid) (by simp) (by simp)] at timeout
        exact timeout

lemma Meeting.Progress.current (hp : m.Progress w) (hi : w.call i = some t) {u : Uuid}
    (hu : t.current = some u) :
    (∀ j t', w.call j = some t' → t'.current ≠ none → j = i) ∧
      (∃ l, m.challenges naming w.store = l ++ [u] ∧ u ∉ l) ∧
      (∀ type names, ¬(type = m.type ∧ names = partyMembers naming m.party) →
        u ∉ (w.store (.party type names) : List Uuid)) ∧
      w.store (.challenge u) = initializing m.stage {} ∧ Bare w.store u ∧
      w.created = t.inDatabase ∧ ∀ v ∈ w.made, v ≠ u → NoTrace w.store v := by
  cases hp with
  | idle free => exact absurd ((free i t hi).symm.trans hu) nofun
  | creating i' t₀ u' call current only mem listed elsewhere hash bare created others =>
    obtain rfl : i = i' := only i t hi (by simp [hu])
    obtain rfl := Option.some.inj (hi.symm.trans call)
    obtain rfl := Option.some.inj (hu.symm.trans current)
    exact ⟨only, listed, elsewhere, hash, bare, created, others⟩
  | active u' free => exact absurd ((free i t hi).symm.trans hu) nofun

lemma not_joined (hbare : ∀ u ∈ w.created, Bare w.store u) (req : StartRequest) (u : Uuid) :
    ¬w.Joined req u := fun h =>
  (hbare u (by simp [h.created])).client _ h.active

lemma activation_commits (hc : m.Common w) (hp : m.Progress w) {req : StartRequest} {uuid : Uuid}
    {created : Created Custom} {a : Attempt (activateChallenge naming req uuid created)}
    (hi : w.call i = some (.activating req uuid created a)) {client : ChallengeClient}
    {s : Database Custom}
    (hash : s (.challenge uuid) = newChallengeState req uuid created (w.store (.challenge uuid)))
    (hclients : s (.clients uuid) =
      OrdMap.insert (w.store (.clients uuid)) req.client.clientId client)
    (hclient : s (.clientChallenge req.client.clientId) = some uuid)
    (hplayer : ∀ name, s (.player name) = w.store (.player name) ∨ s (.player name) = some uuid)
    (hkeep : ∀ k, k ≠ .challenge uuid → k ≠ .clients uuid →
      k ≠ .clientChallenge req.client.clientId → (∀ type names, k ≠ .session type names) →
        (∀ name, k ≠ .player name) → s k = w.store k) {response : ChallengeStatusResponse}
    (hresponse : response.uuid = uuid) :
    m.Common (w.going i s (.recording req response) w.created) ∧
      m.Progress (w.going i s (.recording req response) w.created) := by
  obtain ⟨hreq, hmade⟩ := hc.calls i _ hi
  obtain ⟨only, ⟨l, hlisted, -⟩, -, hhash, hbare, hcreated, hothers⟩ := hp.current hi rfl
  have htrace : ∀ v, v ≠ uuid → NoTrace w.store v → NoTrace s v := by
    intro v hv h
    refine h.keep ⟨hkeep _ (by simpa using hv) nofun nofun nofun nofun,
      hkeep _ nofun (by simpa using hv) nofun nofun nofun, hkeep _ nofun nofun nofun nofun nofun,
      hkeep _ nofun nofun nofun nofun nofun, fun _ => hkeep _ nofun nofun nofun nofun nofun⟩ ?_
      (fun c hcv => ?_) (fun name hname => ?_) fun type names => ?_
    · rw [hkeep .timeouts nofun nofun nofun nofun nofun]
      exact h.timeout
    · by_cases hcr : c = req.client.clientId
      · subst hcr
        exact absurd (Option.some.inj (hclient.symm.trans hcv)).symm hv
      · rwa [hkeep (.clientChallenge c) nofun nofun (by simpa using hcr) nofun nofun] at hcv
    · rcases hplayer name with heq | heq
      · rwa [heq] at hname
      · exact absurd (Option.some.inj (heq.symm.trans hname)).symm hv
    · rw [hkeep (.party type names) nofun nofun nofun nofun nofun]
      exact id
  have hlist : m.challenges naming s = m.challenges naming w.store :=
    hkeep (.party _ _) nofun nofun nofun nofun nofun
  refine ⟨hc.going hi nofun (fun u hu => hkeep _ ?_ nofun nofun nofun nofun)
    (fun v hv => htrace v ?_) (fun req' u h => absurd h (not_joined (fun u hu => ?_) req' u)) (fun u hu _ => hlist ▸ hu)
    ⟨?_, ?_, ?_⟩, ?_⟩
  · rintro heq
    cases heq
    exact hu hmade
  · rintro rfl
    exact hv rfl
  · obtain rfl : u = uuid := by simpa [hcreated, StartTask.inDatabase] using hu
    exact hbare
  · rw [hresponse]
    exact hcreated
  · change OrdMap.contains (s (.clients response.uuid)) req.client.clientId = true
    rw [hresponse, hclients, OrdMap.contains_insert]
    exact Or.inl rfl
  · rw [hresponse]
    exact hclient
  · refine .active uuid (fun j tj hj => ?_) hmade ?_ ?_ ?_ hcreated fun v hv hne =>
      htrace v hne (hothers v hv hne)
    · rcases update_cases hj with ⟨-, rfl⟩ | ⟨hji, hj⟩
      · rfl
      · by_contra hne
        exact hji (only j tj hj hne)
    · change (m.challenges naming s).getLast? = some uuid
      rw [hlist, hlisted, List.getLast?_append_of_ne_nil _ (by simp)]
      rfl
    · change ChallengeHash.found (s (.challenge uuid)) = _
      rw [hash, ← hreq.2.1]
      rfl
    · change ChallengeHash.timeoutState (s (.challenge uuid)) = _
      rw [hash, hhash]
      rfl

lemma deletion_commits (hc : m.Common w) (hp : m.Progress w) {req : StartRequest} {uuid : Uuid}
    {a : Attempt (deleteChallengeData naming uuid (some req.type) (some req.party))}
    (hi : w.call i = some (.deleting req uuid a)) {s : Database Custom}
    (hs : Deletes naming uuid (some req.type) (some req.party) w.store s) :
    m.Common (w.going i s (.failed req .createFailed) w.created) ∧
      m.Progress (w.going i s (.failed req .createFailed) w.created) := by
  obtain ⟨hreq, hmade⟩ := hc.calls i _ hi
  obtain ⟨only, ⟨l, hlisted, hnot⟩, helse, hhash, hbare, hcreated, hothers⟩ := hp.current hi rfl
  have hparty : ∀ type names, s (.party type names) =
      if type = m.type ∧ names = partyMembers naming m.party then l
      else w.store (.party type names) := by
    intro type names
    rw [hs.list, hreq.1, hreq.2.2]
    by_cases hkey : type = m.type ∧ names = partyMembers naming m.party
    · obtain ⟨rfl, rfl⟩ := hkey
      rw [if_pos ⟨rfl, rfl⟩, if_pos ⟨rfl, rfl⟩,
        show w.store (.party m.type (partyMembers naming m.party)) = l ++ [uuid] from hlisted,
        List.erase_append_right _ hnot]
      simp
    · rw [if_neg hkey, if_neg]
      rintro ⟨htype, hnames⟩
      exact hkey ⟨(Option.some.inj htype).symm, (Option.some.inj hnames).symm⟩
  have htrace : ∀ v, v ≠ uuid → NoTrace w.store v → NoTrace s v := by
    intro v hv h
    refine h.keep (hs.others v hv) ?_ (fun c => ?_) (fun name hname => ?_) fun type names hmem => ?_
    · rw [hs.timeouts, OrdMap.get_erase, if_neg hv]
      exact h.timeout
    · rw [hs.client]
      exact id
    · rcases hs.player name with heq | heq
      · rwa [heq] at hname
      · rw [heq] at hname
        cases hname
    · rw [hparty] at hmem
      split_ifs at hmem with hkey
      · rw [hkey.1, hkey.2]
        change v ∈ m.challenges naming w.store
        rw [hlisted]
        exact List.mem_append_left _ hmem
      · exact hmem
  have hgone : NoTrace s uuid :=
    { challenge := hs.challenge
      clients := hs.clients
      processed := hs.processed
      streams := hs.streams
      stream := fun stage => by
        rw [hs.stream]
        split_ifs
        · rfl
        · exact hbare.stream stage
      timeout := by rw [hs.timeouts, OrdMap.get_erase, if_pos rfl]
      client := fun c => by
        rw [hs.client]
        exact hbare.client c
      player := fun name => by
        rcases hs.player name with heq | heq
        · rw [heq]
          exact hbare.player name
        · rw [heq]
          exact nofun
      party := fun type names => by
        rw [hparty]
        split_ifs with hkey
        · exact hnot
        · exact helse type names hkey }
  refine ⟨hc.going hi nofun (fun u hu => (hs.others u ?_).1) (fun v hv => htrace v ?_)
    (fun req' u h => absurd h (not_joined (by simp [hcreated, StartTask.inDatabase]) req' u))
    (fun u hu _ => ?_) trivial, ?_⟩
  · rintro rfl
    exact hu hmade
  · rintro rfl
    exact hv rfl
  · rw [hlisted]
    change u ∈ (s (.party m.type (partyMembers naming m.party)) : List Uuid) at hu
    rw [hparty, if_pos ⟨rfl, rfl⟩] at hu
    exact List.mem_append_left _ hu
  · refine .idle (fun j tj hj => ?_) hcreated (fun v hv => ?_)
      (Or.inl ⟨i, req, Function.update_self _ _ _⟩)
    · rcases update_cases hj with ⟨-, rfl⟩ | ⟨hji, hj⟩
      · rfl
      · by_contra hne
        exact hji (only j tj hj hne)
    · by_cases hvu : v = uuid
      · subst hvu
        exact hgone
      · exact htrace v hvu (hothers v hv hvu)

/-! ### Steps of a call -/

lemma Meeting.Common.seen (hc : m.Common w) (k : Key) : m.Seen w ⟨k, w.store k⟩ := by
  cases k with
  | party type names =>
    rintro ⟨rfl, rfl⟩
    exact hc.settled
  | challenge u => exact fun _ => rfl
  | _ => trivial

lemma made_of_waits {reads : Txn.Reads (Val Custom)} (hseen : ∀ r ∈ reads, m.Seen w r)
    {listed : List Uuid} {last : Uuid} {hash : ChallengeHash Custom}
    {x : LifecycleState × ChallengeStatus × Stage}
    (hlisted : (⟨.party m.type (partyMembers naming m.party), listed⟩ : Σ k, Val Custom k) ∈ reads)
    (hlast : listed.getLast? = some last)
    (hhash : (⟨.challenge last, hash⟩ : Σ k, Val Custom k) ∈ reads)
    (hfound : hash.found = some x)
    (hact : startAction m.stage hash.timeoutState x = .deferredJoin) : last ∈ w.made := by
  by_contra hmade
  have hsettled := hseen _ hlisted ⟨rfl, rfl⟩ last (List.mem_of_getLast? hlast) hmade
  rw [← hseen _ hhash hmade] at hsettled
  rw [hsettled x hfound] at hact
  cases hact

lemma goes_quiet (hc : m.Common w) (hp : m.Progress w) (hi : w.call i = some t)
    (hlive : ∀ req e, t ≠ .failed req e) (hown : ∀ u, t'.own = some u → t.own = some u)
    (hcurrent : t'.current = t.current) (hdatabase : t'.inDatabase = t.inDatabase)
    (hfresh : (∀ v ∈ w.made, NoTrace w.store v) → w.Fresh t → w.Fresh t')
    (holds : m.Holds (w.going i w.store t' w.created) t') :
    m.Common (w.going i w.store t' w.created) ∧ m.Progress (w.going i w.store t' w.created) :=
  ⟨hc.quiet hi hown holds, hp.quiet hi hlive hfresh hcurrent hdatabase⟩

lemma retry_step (hc : m.Common w) (hp : m.Progress w) (hi : w.call i = some t)
    (hstep : t.retry = some t') :
    m.Common (w.going i w.store t' w.created) ∧ m.Progress (w.going i w.store t' w.created) := by
  have hold := hc.calls i t hi
  cases t <;> cases hstep
  all_goals
    refine goes_quiet hc hp hi (by simp) (fun u h => by simpa only [StartTask.own] using h)
      (by simp only [StartTask.current]) (by simp only [StartTask.inDatabase]) ?_ ?_
  · simp [Calls.Fresh]
  · exact ⟨hold.1, hold.2.1, hold.2.2.1, by simp⟩
  all_goals first | exact fun _ h => h | exact hold

section Proceed

variable {s : Database Custom} {req : StartRequest} {uuid : Uuid}

lemma decision_commits (hc : m.Common w) (hp : m.Progress w)
    {a : Attempt (determineStartAction naming req uuid)}
    (hi : w.call i = some (.determining req uuid a)) {d : StartActionDecision}
    {ws : Writes Custom} (hws : ws ≠ [])
    (heval : (determineStartAction naming req uuid).eval w.store = .ok (d, ws)) :
    m.Common (w.going i (applyAll ws w.store) (.decided req d) w.created) ∧
      m.Progress (w.going i (applyAll ws w.store) (.decided req d) w.created) := by
  obtain ⟨hreq, hmade, htrace, hseen⟩ := hc.calls i _ hi
  have hact : ∀ state, startAction req.stage (some .none) (state, .inProgress, m.stage) =
      if state = .initializing then .deferredJoin else .immediateJoin := by
    intro state
    simp [startAction, hreq.2.1]
  cases hp with
  | idle free created others began =>
    have hcreates : req.Creates naming w.store := by
      intro last hlast x hfound
      rw [hreq.challenges] at hlast
      by_cases hlastMade : last ∈ w.made
      · rw [(others last hlastMade).challenge] at hfound
        cases hfound
      · rw [hreq.2.1]
        exact hc.settled last (List.mem_of_getLast? hlast) hlastMade x hfound
    obtain ⟨sessionId, ws', listed, heval', hlisted, hlist, hash, hkeep⟩ :=
      eval_determine_create hcreates
    rw [heval] at heval'
    cases heval'
    exact creation_commits hc free created others hi hlisted hlist hash hkeep
  | creating i' t₀ u call current only mem listed elsewhere hash bare created others =>
    obtain ⟨l, hlisted, -⟩ := listed
    have hlast : (req.challenges naming w.store).getLast? = some u := by
      rw [hreq.challenges, hlisted, List.getLast?_concat]
    have hwait : (determineStartAction naming req uuid).eval w.store = .ok (.deferredJoin u, []) :=
      eval_determine_wait (x := (.initializing, .inProgress, m.stage)) hlast (by rw [hash]; rfl)
        (by rw [hash]; exact nofun) (by rw [hash]; exact hact _)
    rw [heval] at hwait
    cases hwait
    exact absurd rfl hws
  | active u free mem listed found timeout created others =>
    obtain ⟨response, client, ws', heval', hresponse, hs⟩ :=
      eval_determine_join (by rw [hreq.challenges, listed]) found (by rw [timeout]; exact nofun)
        (by rw [timeout]; exact hact _)
    rw [heval] at heval'
    cases heval'
    exact join_commits hc (.active u free mem listed found timeout created others) mem
      (ChallengeHash.state_of_found found) hi hresponse hs

variable [DecidableEq Custom]

lemma determining_step (hc : m.Common w) (hp : m.Progress w)
    {a : Attempt (determineStartAction naming req uuid)}
    (hi : w.call i = some (.determining req uuid a))
    (hstep : StartTask.proceed w.store (.determining req uuid a) = some (s, t')) :
    m.Common (w.going i s t' w.created) ∧ m.Progress (w.going i s t' w.created) := by
  obtain ⟨hreq, hmade, htrace, hseen⟩ := hc.calls i _ hi
  simp only [StartTask.proceed] at hstep
  cases hadv : a.advance w.store with
  | running a' =>
    rw [hadv] at hstep
    cases hstep
    refine goes_quiet hc hp hi (by simp) (fun u h => by simpa only [StartTask.own] using h)
      (by simp only [StartTask.current]) (by simp only [StartTask.inDatabase])
      (fun hidle hfresh u h hr hu => ?_)
      ⟨hreq, hmade, htrace, fun r hr => Meeting.Seen.going (fun _ _ => rfl) ?_⟩
    · rcases Attempt.mem_running hadv hr with hr | hr
      · exact hfresh u h hr hu
      · obtain rfl : h = w.store (.challenge u) := by simpa using hr
        exact (hidle u hu).challenge
    · rcases Attempt.mem_running hadv hr with hr | hr
      · exact hseen r hr
      · rw [hr]
        exact hc.seen _
  | ended result s' =>
    rw [hadv] at hstep
    rcases Attempt.ended_cases hadv with ⟨d, ws, rfl, hws, heval, rfl⟩ | ⟨d, rfl, hleads, rfl⟩ |
      ⟨e, rfl, htotal, rfl⟩
    · cases hstep
      exact decision_commits hc hp hi hws heval
    · cases hstep
      obtain ⟨listed, last, hash, x, rfl, hlisted, hlast, hhash, hfound, hact⟩ :=
        waits_of_leads hleads
      rw [hreq.1, hreq.2.2] at hlisted
      rw [hreq.2.1] at hact
      have hlastMade := made_of_waits hseen hlisted hlast hhash hfound hact
      refine goes_quiet hc hp hi (by simp) (by simp [StartTask.decided, StartTask.own])
        (by simp only [StartTask.decided, StartTask.current])
        (by simp only [StartTask.decided, StartTask.inDatabase]) (fun _ hfresh => ?_)
        ⟨hreq, hlastMade⟩
      rw [hfresh last hash hhash hlastMade] at hfound
      cases hfound
    · cases hstep
      exact absurd (total_determineStartAction uuid) htotal

lemma activating_step (hc : m.Common w) (hp : m.Progress w) {created : Created Custom}
    {a : Attempt (activateChallenge naming req uuid created)}
    (hi : w.call i = some (.activating req uuid created a))
    (hstep : StartTask.proceed w.store (.activating req uuid created a) = some (s, t')) :
    m.Common (w.going i s t' w.created) ∧ m.Progress (w.going i s t' w.created) := by
  have hold := hc.calls i _ hi
  simp only [StartTask.proceed] at hstep
  obtain ⟨client, ws, heval, -, hash, hclients, hclient, hplayer, hkeep⟩ :=
    eval_activateChallenge (s := w.store) naming req uuid created
  cases hadv : a.advance w.store with
  | running a' =>
    rw [hadv] at hstep
    cases hstep
    exact goes_quiet hc hp hi (by simp) (fun u h => by simpa only [StartTask.own] using h)
      (by simp only [StartTask.current]) (by simp only [StartTask.inDatabase]) (fun _ h => h) hold
  | ended result s' =>
    rw [hadv] at hstep
    rcases Attempt.ended_cases hadv with ⟨d, ws', rfl, -, heval', rfl⟩ | ⟨d, rfl, hleads, rfl⟩ |
      ⟨e, rfl, htotal, rfl⟩
    · cases hstep
      rw [heval] at heval'
      cases heval'
      exact activation_commits hc hp hi hash hclients hclient hplayer hkeep rfl
    · exact absurd rfl (writes_activateChallenge hleads)
    · exact absurd (total_activateChallenge uuid created) htotal

lemma deleting_step (hc : m.Common w) (hp : m.Progress w)
    {a : Attempt (deleteChallengeData naming uuid (some req.type) (some req.party))}
    (hi : w.call i = some (.deleting req uuid a))
    (hstep : StartTask.proceed w.store (.deleting req uuid a) = some (s, t')) :
    m.Common (w.going i s t' w.created) ∧ m.Progress (w.going i s t' w.created) := by
  have hold := hc.calls i _ hi
  simp only [StartTask.proceed] at hstep
  obtain ⟨ws, heval, hdeletes⟩ := eval_deleteChallengeData (s := w.store) naming uuid
    (some req.type) (some req.party)
  cases hadv : a.advance w.store with
  | running a' =>
    rw [hadv] at hstep
    cases hstep
    exact goes_quiet hc hp hi (by simp) (fun u h => by simpa only [StartTask.own] using h)
      (by simp only [StartTask.current]) (by simp only [StartTask.inDatabase]) (fun _ h => h) hold
  | ended result s' =>
    rw [hadv] at hstep
    rcases Attempt.ended_cases hadv with ⟨d, ws', rfl, -, heval', rfl⟩ | ⟨d, rfl, hleads, rfl⟩ |
      ⟨e, rfl, htotal, rfl⟩
    · cases hstep
      rw [heval] at heval'
      cases heval'
      exact deletion_commits hc hp hi hdeletes
    · exact absurd rfl (writes_deleteChallengeData hleads)
    · exact absurd (total_deleteChallengeData _ _ _) htotal

lemma joining_step (hc : m.Common w) (hp : m.Progress w) {retries : ℕ}
    {a : Attempt (deferredJoin req uuid)} (hi : w.call i = some (.joining req uuid retries a))
    (hstep : StartTask.proceed w.store (.joining req uuid retries a) = some (s, t')) :
    m.Common (w.going i s t' w.created) ∧ m.Progress (w.going i s t' w.created) := by
  have hold := hc.calls i _ hi
  simp only [StartTask.proceed] at hstep
  cases hadv : a.advance w.store with
  | running a' =>
    rw [hadv] at hstep
    cases hstep
    exact goes_quiet hc hp hi (by simp) (fun u h => by simpa only [StartTask.own] using h)
      (by simp only [StartTask.current]) (by simp only [StartTask.inDatabase]) (fun _ h => h) hold
  | ended result s' =>
    rw [hadv] at hstep
    rcases Attempt.ended_cases hadv with ⟨r, ws, rfl, hws, heval, rfl⟩ | ⟨r, rfl, hleads, rfl⟩ |
      ⟨e, rfl, -, rfl⟩
    · cases hstep
      obtain ⟨response, client, rfl, hresponse, -, hactive, hs⟩ := eval_deferredJoin heval hws
      exact join_commits hc hp hold.2 hactive hi hresponse hs
    · cases hstep
      obtain rfl := waits_of_deferredJoin hleads
      exact goes_quiet hc hp hi (by simp) (by simp [StartTask.attempted, StartTask.own])
        (by simp only [StartTask.attempted, StartTask.current])
        (by simp only [StartTask.attempted, StartTask.inDatabase]) (fun _ h => h) hold
    · cases hstep
      exact goes_quiet hc hp hi (by simp) (by simp [StartTask.own])
        (by simp only [StartTask.current]) (by simp only [StartTask.inDatabase])
        (fun _ h => absurd h id) trivial

end Proceed

lemma creating_step (hc : m.Common w) (hp : m.Progress w) {req : StartRequest} {uuid : Uuid}
    {sessionId : Option ℤ} (hi : w.call i = some (.creating req uuid sessionId))
    (created : Created Custom) :
    m.Common (w.going i w.store (.activating req uuid created (.start _)) (w.created ++ [uuid])) ∧
      m.Progress
        (w.going i w.store (.activating req uuid created (.start _)) (w.created ++ [uuid])) := by
  have hold := hc.calls i _ hi
  obtain ⟨only, listed, elsewhere, hash, bare, hcreated, others⟩ := hp.current hi rfl
  have hnone : w.created = [] := hcreated
  refine ⟨hc.going hi (fun u h => by simpa only [StartTask.own] using h) (fun _ _ => rfl)
    (fun _ _ h => h) (fun req u h => absurd h (not_joined (by simp [hnone]) req u))
    (fun _ h _ => h) hold,
    .creating i _ uuid (Function.update_self _ _ _) rfl (fun j tj hj hne => ?_)
    hold.2 listed elsewhere hash bare (by rw [hnone]; rfl) others⟩
  rcases update_cases hj with ⟨rfl, -⟩ | ⟨-, hj⟩
  · rfl
  · exact only j tj hj hne

/-! ### Calls that begin -/

lemma own_createOrJoin {req : StartRequest} {uuid u : Uuid}
    (h : (StartTask.createOrJoin req uuid : StartTask naming Custom).own = some u) : u = uuid := by
  unfold StartTask.createOrJoin at h
  split_ifs at h
  · cases h
  · simpa [StartTask.own] using h.symm

lemma current_createOrJoin (req : StartRequest) (uuid : Uuid) :
    (StartTask.createOrJoin req uuid : StartTask naming Custom).current = none := by
  unfold StartTask.createOrJoin
  split_ifs <;> simp only [StartTask.current]

lemma Calls.Fresh.begin {uuid : Uuid} (h : w.Fresh t) (hold : m.Holds w t)
    (htrace : NoTrace w.store uuid) (hmade : uuid ∉ w.made) (t' : StartTask naming Custom) :
    Calls.Fresh
      { w with call := Function.update w.call i (some t'), made := w.made ++ [uuid] } t := by
  cases t with
  | determining req u a =>
    intro v hash hr hv
    rcases List.mem_append.mp hv with hv | hv
    · exact h v hash hr hv
    · rw [List.mem_singleton.mp hv] at hr
      exact (hold.2.2.2 _ hr hmade).trans htrace.challenge
  | failed req failure => cases failure <;> first | exact trivial | exact h.elim
  | _ => exact h.elim

lemma Meeting.Holds.begin (h : m.Holds w t) (t' : StartTask naming Custom) (uuid : Uuid) :
    m.Holds { w with call := Function.update w.call i (some t'), made := w.made ++ [uuid] } t := by
  cases t with
  | determining req u a =>
    obtain ⟨hreq, hmade, htrace, hseen⟩ := h
    refine ⟨hreq, List.mem_append_left _ hmade, htrace, fun r hr => ?_⟩
    have hold := hseen r hr
    obtain ⟨k, v⟩ := r
    cases k with
    | party type names =>
      exact fun hkey u hu hnot => hold hkey u hu fun hmem => hnot (List.mem_append_left _ hmem)
    | challenge u => exact fun hnot => hold fun hmem => hnot (List.mem_append_left _ hmem)
    | _ => trivial
  | recording req response => exact ⟨h.created, h.client, h.active⟩
  | returned req response => exact ⟨h.created, h.client, h.active⟩
  | failed req failure => trivial
  | _ => exact ⟨h.1, List.mem_append_left _ h.2⟩

lemma Meeting.Init.invariant (h : m.Init w) : m.Common w ∧ m.Progress w where
  left :=
    { calls := fun i t hi => absurd hi (by simp [h.call i])
      own := fun i _ t _ _ hi => absurd hi (by simp [h.call i])
      made := by simp [h.made]
      unmade := fun u hknown _ => h.unknown u hknown
      settled := fun u hu _ => h.settled u hu }
  right := .idle (fun i t hi => absurd hi (by simp [h.call i])) h.created (by simp [h.made])
    (Or.inr fun i t hi => absurd hi (by simp [h.call i]))

/-! ### Runs -/

section Run

variable [DecidableEq Custom]

lemma call_step (hc : m.Common w) (hp : m.Progress w) (hi : w.call i = some t)
    {s : Database Custom} {input : StartInput Custom}
    (hstep : t.step w.store input = some (s, t')) :
    m.Common (w.going i s t' (w.created ++ t.creates input)) ∧
      m.Progress (w.going i s t' (w.created ++ t.creates input)) := by
  have hold := hc.calls i t hi
  cases input with
  | proceed =>
    have hnone : t.creates (.proceed : StartInput Custom) = [] := by cases t <;> rfl
    rw [hnone, List.append_nil]
    cases t with
    | determining req uuid a => exact determining_step hc hp hi hstep
    | activating req uuid created a => exact activating_step hc hp hi hstep
    | deleting req uuid a => exact deleting_step hc hp hi hstep
    | joining req uuid retries a => exact joining_step hc hp hi hstep
    | _ => cases hstep
  | retry =>
    have hnone : t.creates (.retry : StartInput Custom) = [] := by cases t <;> rfl
    rw [hnone, List.append_nil]
    obtain ⟨t'', hretry, heq⟩ := Option.map_eq_some_iff.mp hstep
    obtain ⟨rfl, rfl⟩ := Prod.mk.inj heq
    exact retry_step hc hp hi hretry
  | created created =>
    cases t with
    | creating req uuid sessionId =>
      obtain ⟨rfl, rfl⟩ := Prod.mk.inj (Option.some.inj hstep)
      exact creating_step hc hp hi created
    | _ => cases hstep
  | createFailed =>
    cases t with
    | creating req uuid sessionId =>
      obtain ⟨rfl, rfl⟩ := Prod.mk.inj (Option.some.inj hstep)
      rw [StartTask.creates, List.append_nil]
      · exact goes_quiet hc hp hi (by simp) (fun u h => by simpa only [StartTask.own] using h)
          (by simp only [StartTask.current]) (by simp only [StartTask.inDatabase]) (fun _ h => h)
          hold
      · simp
    | _ => cases hstep
  | waited =>
    cases t with
    | waiting req uuid retries =>
      rw [StartTask.creates, List.append_nil]
      · simp only [StartTask.step] at hstep
        split_ifs at hstep
        · obtain ⟨rfl, rfl⟩ := Prod.mk.inj (Option.some.inj hstep)
          exact goes_quiet hc hp hi (by simp) (by simp [StartTask.own]) rfl rfl
            (fun _ h => absurd h id) trivial
        · obtain ⟨rfl, rfl⟩ := Prod.mk.inj (Option.some.inj hstep)
          exact goes_quiet hc hp hi (by simp) (by simp [StartTask.own])
            (by simp only [StartTask.current]) (by simp only [StartTask.inDatabase]) (fun _ h => h)
            hold
      · simp
    | _ => cases hstep
  | recorded known =>
    cases t with
    | recording req response =>
      obtain ⟨rfl, rfl⟩ := Prod.mk.inj (Option.some.inj hstep)
      rw [StartTask.creates, List.append_nil]
      · cases known with
        | true =>
          exact goes_quiet hc hp hi (by simp) (by simp [StartTask.own]) rfl rfl (fun _ h => h)
            ⟨hold.created, hold.client, hold.active⟩
        | false =>
          exact goes_quiet hc hp hi (by simp) (by simp [StartTask.own]) rfl rfl
            (fun _ h => absurd h id) trivial
      · simp
    | _ => cases hstep

lemma begin_step (hc : m.Common w) (hp : m.Progress w) {req : StartRequest} {uuid : Uuid}
    (hen : CallAct.Enabled m w (.createOrJoin i req uuid)) :
    m.Common (w.next (.createOrJoin i req uuid)) ∧
      m.Progress (w.next (.createOrJoin i req uuid)) := by
  obtain ⟨hfree, htype, hstage, hparty, hknown, hmade⟩ := hen
  have htrace : NoTrace w.store uuid := hc.unmade uuid hknown hmade
  have hfreeNext : (∀ j tj, w.call j = some tj → tj.current = none) → ∀ j tj,
      (w.next (.createOrJoin i req uuid)).call j = some tj → tj.current = none := by
    intro free j tj hj
    rcases update_cases hj with ⟨-, rfl⟩ | ⟨-, hj⟩
    · exact current_createOrJoin req uuid
    · exact free j tj hj
  have hothers : ∀ (P : Uuid → Prop), (∀ v ∈ w.made, P v → NoTrace w.store v) →
      ∀ v ∈ w.made ++ [uuid], P v → NoTrace w.store v := by
    intro P others v hv hP
    rcases List.mem_append.mp hv with hv | hv
    · exact others v hv hP
    · rw [List.mem_singleton.mp hv]
      exact htrace
  refine ⟨⟨fun j tj hj => ?_, fun j j' tj tj' u hj hj' hu hu' => ?_, fun u hu => ?_,
    fun u hu hnot => hc.unmade u hu fun hmem => hnot (List.mem_append_left _ hmem),
    fun u hu hnot => hc.settled u hu fun hmem => hnot (List.mem_append_left _ hmem)⟩, ?_⟩
  · rcases update_cases hj with ⟨rfl, rfl⟩ | ⟨-, hj⟩
    · unfold StartTask.createOrJoin
      split_ifs
      · trivial
      · exact ⟨⟨htype, hstage, hparty⟩, List.mem_append_right _ (List.mem_singleton_self _),
          htrace, by simp⟩
    · exact (hc.calls j tj hj).begin _ uuid
  · rcases update_cases hj with ⟨rfl, rfl⟩ | ⟨-, hback⟩ <;>
      rcases update_cases hj' with ⟨rfl, rfl⟩ | ⟨-, hback'⟩
    · rfl
    · exact absurd (own_createOrJoin hu ▸ (hc.calls j' tj' hback').own_mem hu') hmade
    · exact absurd (own_createOrJoin hu' ▸ (hc.calls j tj hback).own_mem hu) hmade
    · exact hc.own j j' tj tj' u hback hback' hu hu'
  · rcases List.mem_append.mp hu with hu | hu
    · exact hc.made u hu
    · rw [List.mem_singleton.mp hu]
      exact hknown
  · cases hp with
    | idle free created others began =>
      refine .idle (hfreeNext free) created
        (fun v hv => hothers (fun _ => True) (fun v hv _ => others v hv) v hv trivial) ?_
      rcases began with ⟨j, req', hj⟩ | hall
      · have hji : j ≠ i := by
          rintro rfl
          rw [hfree] at hj
          cases hj
        exact Or.inl ⟨j, req', (Function.update_of_ne hji _ _).trans hj⟩
      · refine Or.inr fun j tj hj => ?_
        rcases update_cases hj with ⟨-, rfl⟩ | ⟨-, hj⟩
        · unfold StartTask.createOrJoin
          split_ifs
          · trivial
          · simp [Calls.Fresh]
        · exact (hall j tj hj).begin (hc.calls j tj hj) htrace hmade _
    | creating i' t₀ u call current only mem listed elsewhere hash bare created others =>
      have hi : i' ≠ i := by
        rintro rfl
        rw [hfree] at call
        cases call
      refine .creating i' t₀ u ((Function.update_of_ne hi _ _).trans call) current
        (fun j tj hj hne => ?_) (List.mem_append_left _ mem) listed elsewhere hash bare created
        (hothers _ others)
      rcases update_cases hj with ⟨-, rfl⟩ | ⟨-, hj⟩
      · exact absurd (current_createOrJoin req uuid) hne
      · exact only j tj hj hne
    | active u free mem listed found timeout created others =>
      exact .active u (hfreeNext free) (List.mem_append_left _ mem) listed found timeout created
        (hothers _ others)

lemma invariant_of_reachable (h : m.system.Reachable m.Init (fun _ _ => True) w) :
    m.Common w ∧ m.Progress w := by
  refine h.invariant (I := fun w => m.Common w ∧ m.Progress w) (fun _ => Meeting.Init.invariant) ?_
  intro w a ⟨hc, hp⟩ hen _
  cases a with
  | createOrJoin i req uuid => exact begin_step hc hp hen
  | step i input =>
    obtain ⟨w', hw'⟩ := Option.isSome_iff_exists.mp (show (w.stepped i input).isSome from hen)
    have hnext : m.system.next w (.step i input) = w' := by
      change (w.stepped i input).getD w = w'
      rw [hw']
      rfl
    rw [hnext]
    unfold Calls.stepped at hw'
    cases hi : w.call i with
    | none => simp [hi] at hw'
    | some t =>
      cases hstep : t.step w.store input with
      | none => simp [hi, hstep] at hw'
      | some r =>
        obtain ⟨s, t'⟩ := r
        simp only [hi, hstep, Option.bind_eq_bind, Option.bind_some, Option.pure_def,
          Option.some.injEq] at hw'
        subst hw'
        exact call_step hc hp hi hstep

lemma run_call {as : List (CallAct Custom)} (h : ∀ a ∈ as, a.caller ≠ i) :
    (m.system.run w as).call i = w.call i := by
  induction as generalizing w with
  | nil => rfl
  | cons a as ih =>
    have hnext : (w.next a).call i = w.call i := by
      have hne := (h a List.mem_cons_self).symm
      cases a with
      | createOrJoin j req uuid => exact Function.update_of_ne hne _ _
      | step j input =>
        unfold Calls.next Calls.stepped
        cases hj : w.call j with
        | none => simp [hj]
        | some t =>
          cases hstep : t.step w.store input with
          | none => simp [hj, hstep]
          | some r =>
            simp only [hj, hstep, Option.bind_eq_bind, Option.bind_some, Option.getD_some,
              Option.pure_def]
            exact Function.update_of_ne hne _ _
    exact (ih fun a ha => h a (List.mem_cons_of_mem _ ha)).trans hnext

end Run

end System

/-! ### A client that gives up -/

namespace Meeting

def alone : Meeting where
  type := .tob
  stage := Stage.tobMaiden
  party := ["a"]
  known := []

def asIs : Naming := ⟨id, id⟩

def asks (clientId : ClientId) : StartRequest where
  client :=
    { userId := clientId, clientId, sessionToken := "", pluginVersion := "", runeLiteVersion := "" }
  type := .tob
  mode := .tobRegular
  stage := Stage.tobMaiden
  party := ["a"]
  recordingType := .participant

def nothing : Calls asIs Unit where
  store := Database.empty
  call := fun _ => none
  made := []
  created := []

lemma init_nothing : alone.Init nothing where
  call _ := rfl
  made := rfl
  created := rfl
  unknown u _ :=
    { clients := rfl, processed := rfl, streams := rfl, stream := fun _ => rfl, timeout := rfl
      client := fun _ => nofun, player := fun _ => nofun, challenge := rfl, party := fun _ _ => by
        simp [nothing, Database.empty] }
  settled u hu := by simp [nothing, Database.empty, challenges] at hu

/-- While the challenge of one client is being created, another one waits for it too often. -/
def slowCreation : List (CallAct Unit) :=
  .createOrJoin 1 (asks 1) 1 :: List.replicate 3 (.step 1 .proceed) ++
    .createOrJoin 2 (asks 2) 2 :: List.replicate 4 (.step 2 .proceed) ++
    (List.replicate 10 [.step 2 .proceed, .step 2 .proceed, .step 2 .waited]).flatten ++
    [.step 1 (.created { databaseId := 1, sessionId := 1, playerIds := [1], customData := none }),
     .step 1 .proceed, .step 1 .proceed, .step 1 (.recorded true)]

lemma allows_slowCreation : alone.system.Allows (fun _ _ => True) nothing slowCreation := by
  decide +kernel

end Meeting

end Blert.Manager

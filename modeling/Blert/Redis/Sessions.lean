import Blert.Redis.Effects
import Blert.Transitions

/-!
The sessions that challenges are recorded in.

A party's directory key names its session. A session has a deadline, the set of its live
challenges, and a record of the party it belongs to. Old and new sessions of a party share the
directory key, so that a script that closes a session looks at what the key names first.
-/

namespace Blert.Redis

open Blert.Lifecycle

/-- The store and the keys of sessions. Besides, it is remembered which sessions there have been,
and in which of them each challenge was recorded when it was started. -/
structure SessionStore where
  store : Store
  directory : String → Option Uuid
  deadlines : OrdMap Uuid Timestamp
  partyRecord : Uuid → Option String
  created : Finset Uuid
  recordedIn : Uuid → Option Uuid

namespace SessionStore

def init : SessionStore where
  store := .empty
  directory _ := none
  deadlines := ∅
  partyRecord _ := none
  created := ∅
  recordedIn _ := none

/-! ### The scripts -/

inductive Resolution
  | existing (session : Uuid)
  | created

/-- The session that a party's directory key names, unless it is over. Active challenges keep a
session live. -/
def live (w : SessionStore) (party : String) (now : Timestamp) : Option Uuid :=
  (w.directory party).filter fun session =>
    (w.deadlines.get session).any (· > now) || (w.store.members session).card > 0

/-- Resolves the active session for a party, creating one if it has none. -/
def SESSION_RESOLVE (party : String) (uuid : Uuid) (now deadline : Timestamp)
    (w : SessionStore) : Resolution × SessionStore :=
  match w.live party now with
  | some session => (.existing session, { w with deadlines := w.deadlines.insert session deadline })
  | none =>
    (.created,
      { w with
        directory := Function.update w.directory party (some uuid)
        deadlines := w.deadlines.insert uuid deadline
        partyRecord := Function.update w.partyRecord uuid (some party)
        created := insert uuid w.created })

/-- Clears the routing key of a session's party, if it still names the session. -/
def unroute (w : SessionStore) (session : Uuid) : SessionStore :=
  match w.partyRecord session with
  | some party =>
    if w.directory party = some session then
      { w with directory := Function.update w.directory party none }
    else w
  | none => w

/-- Claims the sessions among some that have no active challenges, up to a batch. -/
def sweepAll (hold : Timestamp) (batchSize : ℕ) :
    List Uuid → List Uuid → SessionStore → List Uuid × SessionStore
  | [], claimed, w => (claimed, w)
  | uuid :: candidates, claimed, w =>
    if batchSize ≤ claimed.length then (claimed, w)
    else if (w.store.members uuid).card = 0 then
      sweepAll hold batchSize candidates (claimed ++ [uuid])
        ({ w with deadlines := w.deadlines.insert uuid hold }.unroute uuid)
    else sweepAll hold batchSize candidates claimed w

/-- Claims a batch of expired sessions for finalization. -/
def SESSION_SWEEP (now hold : Timestamp) (batchSize : ℕ) (w : SessionStore) :
    List Uuid × SessionStore :=
  let candidates := (w.deadlines.entries.filter (·.2 ≤ now)).insertionSort indexLe
  sweepAll hold batchSize (candidates.map Prod.fst) [] w

def SESSION_DELETE (session : Uuid) (w : SessionStore) : SessionStore :=
  let w := w.unroute session
  { w with
    deadlines := w.deadlines.erase session
    store := { w.store with members := Function.update w.store.members session ∅ }
    partyRecord := Function.update w.partyRecord session none }

def refresh (session : Uuid) (deadline : Timestamp) (w : SessionStore) : SessionStore :=
  match w.deadlines.get session with
  | some before =>
    if before < deadline then { w with deadlines := w.deadlines.insert session deadline } else w
  | none => w

/-- Starts a challenge. One that is created is recorded in the session of the request. -/
def start (args : StartArgs) (now : Timestamp) (w : SessionStore) : SessionStore :=
  match START args now w.store with
  | (.created _, store) =>
    { w with store, recordedIn := Function.update w.recordedIn args.uuid (some args.session) }
  | (.joined _ _, store) => { w with store }

/-- Deletes a challenge, whose state names the session it was recorded in. -/
def delete (uuid : Uuid) (epoch : Epoch) (routes : Finset RoutingKey) (w : SessionStore) :
    SessionStore :=
  match w.recordedIn uuid with
  | some session => { w with store := (DELETE uuid epoch session routes w.store).2 }
  | none => w

/-! ### Interleavings -/

inductive Action
  | resolve (party : String) (uuid : Uuid) (now deadline : Timestamp)
  | refresh (session : Uuid) (deadline : Timestamp)
  | sweep (now hold : Timestamp) (batchSize : ℕ)
  | deleteSession (session : Uuid)
  | start (args : StartArgs) (now : Timestamp)
  | deleteChallenge (uuid : Uuid) (epoch : Epoch) (routes : Finset RoutingKey)

/-- The scripts in any order. The uuid made up for a new session is not that of another one, and a
challenge is started in a session that has been resolved at some point. -/
def system : TransitionSystem SessionStore Action where
  Enabled w
    | .resolve _ uuid _ _ => uuid ∉ w.created
    | .start args _ => args.session ∈ w.created
    | _ => True
  next w
    | .resolve party uuid now deadline => (w.SESSION_RESOLVE party uuid now deadline).2
    | .refresh session deadline => w.refresh session deadline
    | .sweep now hold batchSize => (w.SESSION_SWEEP now hold batchSize).2
    | .deleteSession session => w.SESSION_DELETE session
    | .start args now => w.start args now
    | .deleteChallenge uuid epoch routes => w.delete uuid epoch routes

/-! ### What a sweep does -/

variable {w w' w'' : SessionStore} {swept swept' : List Uuid}

lemma unroute_eq (w : SessionStore) (session : Uuid) :
    w.unroute session = { w with directory := (w.unroute session).directory } := by
  unfold unroute
  split
  · split_ifs <;> rfl
  · rfl

lemma directory_unroute (w : SessionStore) (session : Uuid) (party : String) :
    (w.unroute session).directory party = w.directory party ∨
      w.directory party = some session ∧ (w.unroute session).directory party = none := by
  unfold unroute
  split
  · rename_i key _
    split_ifs with hnames
    · by_cases hparty : party = key
      · subst hparty
        exact .inr ⟨hnames, Function.update_self _ _ _⟩
      · exact .inl (Function.update_of_ne hparty _ _)
    · exact .inl rfl
  · exact .inl rfl

lemma directory_unroute_self {session : Uuid} {party : String}
    (h : w.partyRecord session = some party) :
    (w.unroute session).directory party ≠ some session := by
  unfold unroute
  rw [h]
  dsimp only
  split_ifs with hnames
  · show Function.update w.directory party none party ≠ some session
    rw [Function.update_self]
    nofun
  · exact hnames

/-- Sessions are swept that have no challenges, and routing keys are cleared that name them. -/
structure Sweeps (swept : List Uuid) (w w' : SessionStore) : Prop where
  store : w'.store = w.store
  partyRecord : w'.partyRecord = w.partyRecord
  created : w'.created = w.created
  recordedIn : w'.recordedIn = w.recordedIn
  kept : ∀ session, w.deadlines.contains session = true → w'.deadlines.contains session = true
  held : ∀ session, w'.deadlines.contains session = true →
    w.deadlines.contains session = true ∨ session ∈ swept
  directory : ∀ party, w'.directory party = w.directory party ∨
    ∃ session ∈ swept, w.directory party = some session ∧ w'.directory party = none
  idle : ∀ session ∈ swept, w.store.members session = ∅

lemma Sweeps.rfl : Sweeps [] w w :=
  ⟨Eq.refl _, Eq.refl _, Eq.refl _, Eq.refl _, fun _ h => h, fun _ h => .inl h,
    fun _ => .inl (Eq.refl _), nofun⟩

lemma Sweeps.trans (h : Sweeps swept w w') (h' : Sweeps swept' w' w'') :
    Sweeps (swept ++ swept') w w'' where
  store := h'.store.trans h.store
  partyRecord := h'.partyRecord.trans h.partyRecord
  created := h'.created.trans h.created
  recordedIn := h'.recordedIn.trans h.recordedIn
  kept session hs := h'.kept session (h.kept session hs)
  held session hs := by
    rcases h'.held session hs with hs | hs
    · exact (h.held session hs).imp_right (List.mem_append_left _)
    · exact .inr (List.mem_append_right _ hs)
  directory party := by
    rcases h.directory party with heq | ⟨session, hs, hnames, hnone⟩
    · rcases h'.directory party with heq' | ⟨session, hs, hnames, hnone⟩
      · exact .inl (heq'.trans heq)
      · exact .inr ⟨session, List.mem_append_right _ hs, heq ▸ hnames, hnone⟩
    · refine .inr ⟨session, List.mem_append_left _ hs, hnames, ?_⟩
      rcases h'.directory party with heq' | ⟨_, _, _, hnone'⟩
      · exact heq'.trans hnone
      · exact hnone'
  idle session hs := by
    rcases List.mem_append.mp hs with hs | hs
    · exact h.idle session hs
    · exact h.store ▸ h'.idle session hs

lemma sweeps_one {session : Uuid} (hold : Timestamp) (h : (w.store.members session).card = 0) :
    Sweeps [session] w ({ w with deadlines := w.deadlines.insert session hold }.unroute session) := by
  rw [unroute_eq]
  refine ⟨rfl, rfl, rfl, rfl, fun s hs => ?_, fun s hs => ?_, fun party => ?_, fun s hs => ?_⟩
  · exact OrdMap.contains_insert.mpr (.inr hs)
  · rcases OrdMap.contains_insert.mp hs with hs | hs
    · exact .inr (List.mem_singleton.mpr hs)
    · exact .inl hs
  · exact (directory_unroute _ session party).imp_right fun hnames =>
      ⟨session, List.mem_singleton_self _, hnames⟩
  · rw [List.mem_singleton.mp hs]
    exact Finset.card_eq_zero.mp h

lemma sweepAll_sweeps (hold : Timestamp) (batchSize : ℕ) (candidates claimed : List Uuid)
    (w : SessionStore) :
    ∃ swept ⊆ candidates, (sweepAll hold batchSize candidates claimed w).1 = claimed ++ swept ∧
      Sweeps swept w (sweepAll hold batchSize candidates claimed w).2 := by
  induction candidates generalizing claimed w with
  | nil => exact ⟨[], List.nil_subset _, (List.append_nil _).symm, .rfl⟩
  | cons uuid candidates ih =>
    unfold sweepAll
    split_ifs with hfull hidle
    · exact ⟨[], List.nil_subset _, (List.append_nil _).symm, .rfl⟩
    · obtain ⟨swept, hsub, hclaimed, hsweeps⟩ := ih (claimed ++ [uuid])
        ({ w with deadlines := w.deadlines.insert uuid hold }.unroute uuid)
      refine ⟨uuid :: swept, List.cons_subset_cons uuid hsub, ?_,
        (sweeps_one hold hidle).trans hsweeps⟩
      rw [hclaimed, List.append_assoc]
      rfl
    · obtain ⟨swept, hsub, hclaimed, hsweeps⟩ := ih claimed w
      exact ⟨swept, List.subset_cons_of_subset uuid hsub, hclaimed, hsweeps⟩

lemma SESSION_SWEEP_sweeps (now hold : Timestamp) (batchSize : ℕ) (w : SessionStore) :
    Sweeps (w.SESSION_SWEEP now hold batchSize).1 w (w.SESSION_SWEEP now hold batchSize).2 ∧
      ∀ session ∈ (w.SESSION_SWEEP now hold batchSize).1, w.deadlines.contains session = true := by
  obtain ⟨swept, hsub, hclaimed, hsweeps⟩ := sweepAll_sweeps hold batchSize
    (((w.deadlines.entries.filter (·.2 ≤ now)).insertionSort indexLe).map Prod.fst) [] w
  have heq : (w.SESSION_SWEEP now hold batchSize).1 = swept := hclaimed
  rw [heq]
  refine ⟨hsweeps, fun session hs => ?_⟩
  obtain ⟨entry, hentry, rfl⟩ := List.mem_map.mp (hsub hs)
  have hmem := List.mem_of_mem_filter ((List.perm_insertionSort _ _).mem_iff.mp hentry)
  exact OrdMap.contains_iff.mpr ⟨entry.2, OrdMap.mem_entries.mp hmem⟩

/-! ### What holds between the scripts -/

/-- A challenge is active between its creation and its deletion. -/
def Active (w : SessionStore) (challenge : Uuid) : Prop := w.store.index.contains challenge = true

/-- A party's key names a session that belongs to it. A session that has a deadline knows all the
active challenges that were recorded in it. -/
structure Consistent (w : SessionStore) : Prop where
  routed : ∀ party session, w.directory party = some session →
    w.partyRecord session = some party ∧ w.deadlines.contains session = true
  resolved : ∀ session, w.deadlines.contains session = true → session ∈ w.created
  recorded : ∀ challenge session, w.recordedIn challenge = some session → session ∈ w.created
  members : ∀ challenge session, w.recordedIn challenge = some session → w.Active challenge →
    w.deadlines.contains session = true → challenge ∈ w.store.members session

lemma consistent_init : init.Consistent :=
  ⟨nofun, nofun, nofun, nofun⟩

lemma Consistent.extend (h : w.Consistent) {session : Uuid}
    (hs : w.deadlines.contains session = true) (deadline : Timestamp) :
    Consistent { w with deadlines := w.deadlines.insert session deadline } := by
  have hiff : ∀ s, (w.deadlines.insert session deadline).contains s = true ↔
      w.deadlines.contains s = true := fun s => by
    rw [OrdMap.contains_insert]
    exact ⟨fun hor => hor.elim (fun heq => heq ▸ hs) id, .inr⟩
  refine ⟨fun party s hnames => ?_, fun s hd => ?_, h.recorded, fun c s hc hactive hd => ?_⟩
  · exact (h.routed party s hnames).imp_right (hiff s).mpr
  · exact h.resolved s ((hiff s).mp hd)
  · exact h.members c s hc hactive ((hiff s).mp hd)

lemma Consistent.refresh (h : w.Consistent) (session : Uuid) (deadline : Timestamp) :
    (w.refresh session deadline).Consistent := by
  unfold SessionStore.refresh
  split
  · rename_i before hbefore
    split_ifs
    · exact h.extend (OrdMap.contains_iff.mpr ⟨before, hbefore⟩) deadline
    · exact h
  · exact h

lemma Consistent.resolve (h : w.Consistent) {uuid : Uuid} (hfresh : uuid ∉ w.created)
    (party : String) (now deadline : Timestamp) :
    (w.SESSION_RESOLVE party uuid now deadline).2.Consistent := by
  unfold SESSION_RESOLVE
  split
  · rename_i session hlive
    have hnames := (Option.filter_eq_some_iff.mp hlive).1
    exact h.extend (h.routed party session hnames).2 deadline
  · refine ⟨fun p s hnames => ?_, fun s hd => ?_, fun c s hc => ?_, fun c s hc hactive hd => ?_⟩
    · have hnames : Function.update w.directory party (some uuid) p = some s := hnames
      by_cases hp : p = party
      · subst hp
        rw [Function.update_self, Option.some_inj] at hnames
        subst hnames
        exact ⟨Function.update_self _ _ _, OrdMap.contains_insert.mpr (.inl rfl)⟩
      · rw [Function.update_of_ne hp] at hnames
        obtain ⟨hrecord, hd⟩ := h.routed p s hnames
        have hne : s ≠ uuid := fun heq => hfresh (heq ▸ h.resolved s hd)
        exact ⟨(Function.update_of_ne hne _ _).trans hrecord, OrdMap.contains_insert.mpr (.inr hd)⟩
    · rcases OrdMap.contains_insert.mp hd with rfl | hd
      · exact Finset.mem_insert_self _ _
      · exact Finset.mem_insert_of_mem (h.resolved s hd)
    · exact Finset.mem_insert_of_mem (h.recorded c s hc)
    · rcases OrdMap.contains_insert.mp hd with rfl | hd
      · exact absurd (h.recorded c s hc) hfresh
      · exact h.members c s hc hactive hd

lemma Consistent.sweeps (h : w.Consistent) (hs : Sweeps swept w w')
    (hheld : ∀ session ∈ swept, w.deadlines.contains session = true) : w'.Consistent := by
  have hback : ∀ session, w'.deadlines.contains session = true →
      w.deadlines.contains session = true := fun session hd =>
    (hs.held session hd).elim id (hheld session)
  refine ⟨fun party session hnames => ?_, fun session hd => ?_, fun c session hc => ?_,
    fun c session hc hactive hd => ?_⟩
  · rcases hs.directory party with heq | ⟨_, _, _, hnone⟩
    · obtain ⟨hrecord, hd⟩ := h.routed party session (heq ▸ hnames)
      exact ⟨hs.partyRecord ▸ hrecord, hs.kept session hd⟩
    · rw [hnone] at hnames
      cases hnames
  · exact hs.created ▸ h.resolved session (hback session hd)
  · exact hs.created ▸ h.recorded c session (hs.recordedIn ▸ hc)
  · rw [hs.store]
    exact h.members c session (hs.recordedIn ▸ hc) (by unfold Active at *; rwa [← hs.store])
      (hback session hd)

lemma Consistent.deleteSession (h : w.Consistent) (session : Uuid) :
    (w.SESSION_DELETE session).Consistent := by
  unfold SESSION_DELETE
  rw [unroute_eq]
  have hne : ∀ s, (w.deadlines.erase session).contains s = true →
      s ≠ session ∧ w.deadlines.contains s = true := fun s hd => by
    by_cases heq : s = session
    · subst heq
      simp [OrdMap.contains, OrdMap.get_erase] at hd
    · exact ⟨heq, OrdMap.contains_erase_of_ne heq ▸ hd⟩
  refine ⟨fun party s hnames => ?_, fun s hd => h.resolved s (hne s hd).2, h.recorded,
    fun c s hc hactive hd => ?_⟩
  · have hbefore : w.directory party = some s := by
      rcases directory_unroute w session party with heq | ⟨-, hnone⟩
      · exact heq ▸ hnames
      · cases hnone.symm.trans hnames
    obtain ⟨hrecord, hd⟩ := h.routed party s hbefore
    have hs : s ≠ session := fun heq => by
      subst heq
      exact directory_unroute_self hrecord hnames
    refine ⟨(Function.update_of_ne hs _ _).trans hrecord, ?_⟩
    exact (OrdMap.contains_erase_of_ne hs).symm ▸ hd
  · obtain ⟨hs, hd⟩ := hne s hd
    show c ∈ Function.update w.store.members session ∅ s
    rw [Function.update_of_ne hs]
    exact h.members c s hc hactive hd

/-! ### Challenges -/

lemma leavePrevious_keeps (args : StartArgs) (now : Timestamp) (s : Store) (target : Uuid) :
    (leavePrevious args now s target).index = s.index ∧
      (leavePrevious args now s target).members = s.members := by
  unfold leavePrevious
  split
  · split_ifs <;> exact ⟨rfl, rfl⟩
  · exact ⟨rfl, rfl⟩

lemma start_cases (args : StartArgs) (now : Timestamp) (w : SessionStore) :
    ∃ store, (w.start args now = { w with store } ∧ store.index = w.store.index ∧
        store.members = w.store.members) ∨
      (w.start args now =
          { w with store, recordedIn := Function.update w.recordedIn args.uuid args.session } ∧
        store.index = w.store.index.insert args.uuid args.deadline ∧
        store.members = Function.update w.store.members args.session
          (insert args.uuid (w.store.members args.session))) := by
  unfold start
  rcases START_cases args now w.store with ⟨incumbent, -, heq⟩ | heq
  · obtain ⟨hindex, hmembers⟩ := leavePrevious_keeps args now w.store incumbent
    rw [heq]
    exact ⟨(startJoin args now incumbent w.store).2, .inl ⟨rfl, hindex, hmembers⟩⟩
  · obtain ⟨hindex, hmembers⟩ := leavePrevious_keeps args now w.store args.uuid
    rw [heq]
    refine ⟨(startCreate args now w.store).2, .inr ⟨rfl, ?_, ?_⟩⟩
    · unfold startCreate
      dsimp only
      rw [setAll_eq]
      simp only [Store.xadd, Store.setRoute, hindex]
    · unfold startCreate
      dsimp only
      rw [setAll_eq]
      simp only [Store.xadd, Store.setRoute, hmembers]

lemma Consistent.start (h : w.Consistent) {args : StartArgs} (hsession : args.session ∈ w.created)
    (now : Timestamp) : (w.start args now).Consistent := by
  obtain ⟨store, ⟨heq, hindex, hmembers⟩ | ⟨heq, hindex, hmembers⟩⟩ := start_cases args now w
  · rw [heq]
    refine ⟨h.routed, h.resolved, h.recorded, fun c s hc hactive hd => ?_⟩
    rw [hmembers]
    exact h.members c s hc (by unfold Active at *; rwa [← hindex]) hd
  · rw [heq]
    refine ⟨h.routed, h.resolved, fun c s hc => ?_, fun c s hc hactive hd => ?_⟩
    · have hc : Function.update w.recordedIn args.uuid (some args.session) c = some s := hc
      by_cases huuid : c = args.uuid
      · rw [huuid, Function.update_self, Option.some_inj] at hc
        exact hc ▸ hsession
      · rw [Function.update_of_ne huuid] at hc
        exact h.recorded c s hc
    · have hc : Function.update w.recordedIn args.uuid (some args.session) c = some s := hc
      rw [hmembers]
      by_cases huuid : c = args.uuid
      · rw [huuid, Function.update_self, Option.some_inj] at hc
        rw [← hc, huuid, Function.update_self]
        exact Finset.mem_insert_self _ _
      · rw [Function.update_of_ne huuid] at hc
        have hactive : store.index.contains c = true := hactive
        rw [hindex] at hactive
        have hmem := h.members c s hc ((OrdMap.contains_insert.mp hactive).resolve_left huuid) hd
        by_cases hs : s = args.session
        · rw [← hs, Function.update_self]
          exact Finset.mem_insert_of_mem hmem
        · rwa [Function.update_of_ne hs]

lemma Consistent.delete (h : w.Consistent) (uuid : Uuid) (epoch : Epoch)
    (routes : Finset RoutingKey) : (w.delete uuid epoch routes).Consistent := by
  unfold SessionStore.delete
  split
  · rename_i session hrecorded
    unfold DELETE fenced
    split_ifs
    · refine ⟨h.routed, h.resolved, h.recorded, fun c s hc hactive hd => ?_⟩
      have hactive : (w.store.index.erase uuid).contains c = true := hactive
      have hne : c ≠ uuid := fun heq => by
        subst heq
        simp [OrdMap.contains, OrdMap.get_erase] at hactive
      rw [OrdMap.contains_erase_of_ne hne] at hactive
      have hmem := h.members c s hc hactive hd
      show c ∈ Function.update w.store.members session ((w.store.members session).erase uuid) s
      by_cases hs : s = session
      · rw [hs, Function.update_self]
        exact Finset.mem_erase_of_ne_of_mem hne (hs ▸ hmem)
      · rwa [Function.update_of_ne hs]
    · exact h
  · exact h

/-- The stores that the scripts lead to, in whatever order they are executed. -/
def Reaches (w : SessionStore) : Prop := system.Reachable (· = init) (fun _ _ => True) w

lemma Reaches.consistent (h : w.Reaches) : w.Consistent := by
  refine TransitionSystem.Reachable.invariant (fun _ hinit => ?_) (fun w a hw henabled _ => ?_) h
  · rw [hinit]
    exact consistent_init
  cases a with
  | resolve party uuid now deadline => exact hw.resolve henabled party now deadline
  | refresh session deadline => exact hw.refresh session deadline
  | sweep now hold batchSize =>
    obtain ⟨hsweeps, hheld⟩ := SESSION_SWEEP_sweeps now hold batchSize w
    exact hw.sweeps hsweeps hheld
  | deleteSession session => exact hw.deleteSession session
  | start args now => exact hw.start henabled now
  | deleteChallenge uuid epoch routes => exact hw.delete uuid epoch routes

/-- **A newer session is never unrouted**: a deletion and a sweep clear a party's routing key only
if it names the session that they close, and no challenge that is recorded in a session is active
when that is swept. -/
theorem session_closes (h : w.Reaches) :
    (∀ session party, (w.SESSION_DELETE session).directory party = w.directory party ∨
      w.directory party = some session ∧ (w.SESSION_DELETE session).directory party = none) ∧
    ∀ now hold batchSize,
      (∀ party, (w.SESSION_SWEEP now hold batchSize).2.directory party = w.directory party ∨
        ∃ session ∈ (w.SESSION_SWEEP now hold batchSize).1, w.directory party = some session ∧
          (w.SESSION_SWEEP now hold batchSize).2.directory party = none) ∧
      ∀ session ∈ (w.SESSION_SWEEP now hold batchSize).1, ∀ challenge, w.Active challenge →
        w.recordedIn challenge ≠ some session := by
  refine ⟨fun session party => directory_unroute w session party, fun now hold batchSize => ?_⟩
  obtain ⟨hsweeps, hheld⟩ := SESSION_SWEEP_sweeps now hold batchSize w
  refine ⟨hsweeps.directory, fun session hs challenge hactive hrecorded => ?_⟩
  have hmem := h.consistent.members challenge session hrecorded hactive (hheld session hs)
  rw [hsweeps.idle session hs] at hmem
  exact Finset.notMem_empty challenge hmem

/-- A party of one whose session is swept only once its challenge is deleted. -/
def soloSession : SessionStore :=
  system.run init [.resolve "solo" 1 0 10, .start soloStart 5, .sweep 20 30 5,
    .deleteChallenge 7 1 ∅]

theorem session_closes_solo :
    (soloSession.SESSION_SWEEP 20 30 5).1 = [1] ∧
      (soloSession.directory "solo" = some 1 ∧
        (soloSession.SESSION_SWEEP 20 30 5).2.directory "solo" = none) ∧
      ∀ challenge, soloSession.Active challenge → soloSession.recordedIn challenge ≠ some 1 := by
  have hreaches : soloSession.Reaches := TransitionSystem.Reachable.run (.init rfl)
    ⟨Finset.notMem_empty _, trivial, Finset.mem_insert_self _ _, trivial, trivial, trivial, trivial,
      trivial, trivial⟩
  have hclaimed : (soloSession.SESSION_SWEEP 20 30 5).1 = [1] := by decide
  obtain ⟨hroutes, hidle⟩ := (session_closes hreaches).2 20 30 5
  refine ⟨hclaimed, ?_, hidle 1 (by rw [hclaimed]; exact List.mem_singleton_self 1)⟩
  rcases hroutes "solo" with heq | ⟨session, hs, hnames, hnone⟩
  · exact absurd heq (by decide)
  · rw [hclaimed, List.mem_singleton] at hs
    exact ⟨hs ▸ hnames, hnone⟩

/-! ### What a session counts -/

/-- The uuid made up for a challenge is not that of another one. -/
def MakesUp (w : SessionStore) : Action → Prop
  | .start args _ => w.recordedIn args.uuid = none
  | _ => True

def Counts (w : SessionStore) : Prop :=
  ∀ challenge session, challenge ∈ w.store.members session →
    w.recordedIn challenge = some session ∧ w.Active challenge

lemma Counts.congr (h : w.Counts) (hstore : w'.store = w.store)
    (hrecorded : w'.recordedIn = w.recordedIn) : w'.Counts := by
  unfold Counts Active
  rw [hstore, hrecorded]
  exact h

lemma Counts.start (h : w.Counts) {args : StartArgs} (hnew : w.recordedIn args.uuid = none)
    (now : Timestamp) : (w.start args now).Counts := by
  obtain ⟨store, ⟨heq, hindex, hmembers⟩ | ⟨heq, hindex, hmembers⟩⟩ := start_cases args now w
  · rw [heq]
    unfold Counts Active
    rw [hindex, hmembers]
    exact h
  · rw [heq]
    intro c s hc
    simp only [Active, hindex, hmembers, Function.update_apply, OrdMap.contains_insert] at hc ⊢
    -- nothing was recorded under the new uuid before, so no other session counts it
    have hold := h c s
    simp only [Active] at hold
    grind

lemma Counts.delete (h : w.Counts) (uuid : Uuid) (epoch : Epoch) (routes : Finset RoutingKey) :
    (w.delete uuid epoch routes).Counts := by
  unfold SessionStore.delete
  split
  · rename_i session hrecorded
    unfold DELETE fenced
    split_ifs
    · intro c s hc
      have hc : c ∈ Function.update w.store.members session
        ((w.store.members session).erase uuid) s := hc
      have hmem : c ≠ uuid ∧ c ∈ w.store.members s := by
        rw [Function.update_apply] at hc
        grind [h c s]
      exact (h c s hmem.2).imp_right (OrdMap.contains_erase_of_ne hmem.1).trans
    · exact h
  · exact h

/-- **A session counts its active challenges**: in whatever order the scripts are executed, the
set kept for a session that has a deadline is that of the active challenges recorded in it, no
challenge is in the sets of two sessions, and no two parties' keys name one session. -/
theorem session_counts (h : system.Reachable (· = init) MakesUp w) :
    (∀ session, w.deadlines.contains session = true → ∀ challenge,
      challenge ∈ w.store.members session ↔
        w.recordedIn challenge = some session ∧ w.Active challenge) ∧
    (∀ session session', session ≠ session' →
      Disjoint (w.store.members session) (w.store.members session')) ∧
    ∀ party party' session, w.directory party = some session →
      w.directory party' = some session → party = party' := by
  have hconsistent : w.Consistent := Reaches.consistent <|
    h.invariant (fun _ hinit => .init hinit) fun _ _ hw henabled _ => hw.step henabled trivial
  have hcounts : w.Counts := by
    refine TransitionSystem.Reachable.invariant (fun _ hinit => ?_) (fun w a hw _ hnew => ?_) h
    · rw [hinit]
      exact nofun
    cases a with
    | resolve party uuid now deadline =>
      refine hw.congr ?_ ?_ <;> (simp only [system, SESSION_RESOLVE]; split <;> rfl)
    | refresh session deadline =>
      refine hw.congr ?_ ?_ <;>
        (simp only [system, SessionStore.refresh]; split <;> (try split_ifs) <;> rfl)
    | sweep now hold batchSize =>
      have hsweeps := (SESSION_SWEEP_sweeps now hold batchSize w).1
      exact hw.congr hsweeps.store hsweeps.recordedIn
    | deleteSession session =>
      show (w.SESSION_DELETE session).Counts
      unfold SESSION_DELETE
      rw [unroute_eq]
      intro c s hc
      have hc : c ∈ Function.update w.store.members session ∅ s := hc
      rw [Function.update_apply] at hc
      split_ifs at hc
      · exact absurd hc (Finset.notMem_empty c)
      · exact hw c s hc
    | start args now => exact hw.start hnew now
    | deleteChallenge uuid epoch routes => exact hw.delete uuid epoch routes
  refine ⟨fun s hd c => ⟨hcounts c s, fun ⟨hc, hactive⟩ => hconsistent.members c s hc hactive hd⟩,
    fun s s' hne => ?_, fun p p' s hp hp' => ?_⟩
  · refine Finset.disjoint_left.mpr fun c hc hc' => hne ?_
    exact Option.some.inj ((hcounts c s hc).1.symm.trans (hcounts c s' hc').1)
  · have hrecord := (hconsistent.routed p s hp).1
    exact Option.some.inj (hrecord.symm.trans (hconsistent.routed p' s hp').1)

/-- A challenge is started in a party's session. -/
theorem session_counts_solo :
    let w := system.run init [.resolve "solo" 1 0 10, .start soloStart 5]
    ∀ challenge, challenge ∈ w.store.members 1 ↔
      w.recordedIn challenge = some 1 ∧ w.Active challenge := by
  intro w
  exact (session_counts (w := w) (.run (.init rfl)
    ⟨Finset.notMem_empty _, trivial, Finset.mem_insert_self _ _, rfl, trivial⟩)).1 1 (by decide)

end SessionStore

end Blert.Redis

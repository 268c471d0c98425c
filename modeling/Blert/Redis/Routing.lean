import Blert.Redis.World

/-!
Routing keys over the life of a challenge.

A start or a rejoin routes a client to a challenge at once, and its actor learns of the client
only when it reads the join. A deletion removes the keys of the party, the players and the
clients the actor knows of. So no key of a party or a player ever outlives its challenge, and a
key of a client does exactly when the actor did not know of the client when it was deleted.
-/

namespace Blert.Redis

open Blert.Lifecycle

/-! ### The invariant -/

/-- A challenge that exists has an actor, and so does one that a key of a party or a player
routes to. -/
structure World.InvAt (text : KeyText) (config : LifecycleConfig) (w : World) (u : Uuid) :
    Prop where
  host : ∀ h, w.hosts u = some h →
    h.Inv config u (w.store.inbox u) ∧ w.store.fence u = some Epoch.initial
  expiring : u ∈ w.store.expiring → w.hosts u = none
  indexed : w.store.index.contains u = true → ∃ h, w.hosts u = some h
  routed : ∀ key, w.store.route key = some u →
    (∃ c, key = .client c) ∨ ∃ h, w.hosts u = some h ∧ key ∈ h.keys text

structure World.Unseen (w : World) (u : Uuid) : Prop where
  host : w.hosts u = none
  route : ∀ key, w.store.route key ≠ some u
  inbox : (w.store.inbox u).entries = []
  expiring : u ∉ w.store.expiring

structure World.Inv (text : KeyText) (config : LifecycleConfig) (started : List Uuid)
    (w : World) : Prop where
  challenge : ∀ u, w.InvAt text config u
  unseen : ∀ u ∉ started, w.Unseen u

/-- The invariant is kept, and a challenge that has no actor gains neither one nor a route. -/
structure World.Follows (text : KeyText) (config : LifecycleConfig) (started : List Uuid)
    (w w' : World) (fresh : Option Uuid) : Prop where
  inv : w'.Inv text config (started ++ fresh.toList)
  gone : ∀ u, w.hosts u = none → fresh ≠ some u → w'.hosts u = none ∧
    ∀ key, w'.store.route key = some u → w.store.route key = some u

/-- A step that does not concern a challenge, though it may take routes away from it. -/
structure World.Spares (w w' : World) (u : Uuid) : Prop where
  host : w'.hosts u = w.hosts u
  keys : w'.store.keysOf u = w.store.keysOf u
  expiring : u ∈ w'.store.expiring → u ∈ w.store.expiring
  route : ∀ key, w'.store.route key = some u → w.store.route key = some u

namespace World

variable {text : KeyText} {config : LifecycleConfig} {started : List Uuid} {w w' : World}

lemma inv_init : init.Inv text config [] where
  challenge u :=
    { host := fun h hu => by cases hu
      expiring := fun hu => by cases hu
      indexed := fun hu => by cases hu
      routed := fun key hu => by cases hu }
  unseen u _ :=
    { host := rfl
      route := fun key hu => by cases hu
      inbox := rfl
      expiring := fun hu => by cases hu }

lemma Spares.invAt {u : Uuid} (hs : w.Spares w' u) (h : w.InvAt text config u) :
    w'.InvAt text config u := by
  obtain ⟨hidx, hfence, hinbox⟩ := keysOf_eq hs.keys
  refine ⟨fun h' hh => ?_, fun hu => ?_, fun hu => ?_, fun key hk => ?_⟩
  · rw [hinbox, hfence]
    exact h.host h' (hs.host ▸ hh)
  · rw [hs.host]
    exact h.expiring (hs.expiring hu)
  · rw [hs.host]
    exact h.indexed (hidx ▸ hu)
  · rw [hs.host]
    exact h.routed key (hs.route key hk)

lemma Spares.unseen {u : Uuid} (hs : w.Spares w' u) (h : w.Unseen u) : w'.Unseen u := by
  obtain ⟨-, -, hinbox⟩ := keysOf_eq hs.keys
  exact ⟨hs.host.trans h.host, fun key hk => h.route key (hs.route key hk), hinbox ▸ h.inbox,
    fun hu => h.expiring (hs.expiring hu)⟩

lemma Inv.mem_started (hi : w.Inv text config started) {u : Uuid} {h : Host}
    (hh : w.hosts u = some h) : u ∈ started := by
  by_contra hn
  rw [(hi.unseen u hn).host] at hh
  cases hh

lemma follows_of_spares (hi : w.Inv text config started) {uuid : Uuid} {fresh : Option Uuid}
    (hspares : ∀ u, u ≠ uuid → w.Spares w' u) (hself : w'.InvAt text config uuid)
    (hknown : uuid ∈ started ++ fresh.toList)
    (hgone : w.hosts uuid = none → fresh ≠ some uuid → w'.hosts uuid = none ∧
      ∀ key, w'.store.route key = some uuid → w.store.route key = some uuid) :
    w.Follows text config started w' fresh := by
  refine ⟨⟨fun u => ?_, fun u hu => ?_⟩, fun u hu hx => ?_⟩
  · by_cases h : u = uuid
    · exact h ▸ hself
    · exact (hspares u h).invAt (hi.challenge u)
  · have h : u ≠ uuid := fun heq => hu (heq ▸ hknown)
    exact (hspares u h).unseen (hi.unseen u fun hmem => hu (List.mem_append_left _ hmem))
  · by_cases h : u = uuid
    · subst h
      exact hgone hu hx
    · exact ⟨(hspares u h).host.trans hu, (hspares u h).route⟩

/-! ### The actions -/

lemma follows_serves (hi : w.Inv text config started) {s' : Store} (hs : Serves w.store s')
    (hroute : ∀ key u, s'.route key = some u →
      w.store.route key = some u ∨ (∃ c, key = .client c) ∧ ∃ h, w.hosts u = some h) :
    w.Follows text config started { w with store := s' } none := by
  have hold : ∀ u, w.hosts u = none → ∀ key, s'.route key = some u →
      w.store.route key = some u := by
    intro u hu key hkey
    rcases hroute key u hkey with hkey | ⟨-, h, hh⟩
    · exact hkey
    · rw [hu] at hh
      cases hh
  refine ⟨⟨fun u => ⟨fun h hh => ?_, fun hu => ?_, fun hu => ?_, fun key hk => ?_⟩,
    fun u hu => ?_⟩, fun u hu _ => ⟨hu, hold u hu⟩⟩
  · obtain ⟨hhost, hfence⟩ := (hi.challenge u).host h hh
    refine ⟨hhost.grows (hs.inbox u), ?_⟩
    unfold Store.fence at hfence ⊢
    rw [hs.lease]
    exact hfence
  · exact (hi.challenge u).expiring (hs.expiring ▸ hu)
  · exact (hi.challenge u).indexed (hs.index ▸ hu)
  · rcases hroute key u hk with hk | ⟨hc, -⟩
    · exact (hi.challenge u).routed key hk
    · exact Or.inl hc
  · obtain ⟨hnone, hnr, hin, hex⟩ := hi.unseen u (by simpa using hu)
    refine ⟨hnone, fun key hkey => hnr key (hold u hnone key hkey), ?_, hs.expiring ▸ hex⟩
    rcases hs.known u with heq | hidx | ⟨key, hkey⟩
    · exact heq ▸ hin
    · obtain ⟨h, hh⟩ := (hi.challenge u).indexed hidx
      rw [hnone] at hh
      cases hh
    · exact absurd hkey (hnr key)

lemma follows_same (hi : w.Inv text config started) {s' : Store}
    (h : Serves w.store s' ∧ s'.route = w.store.route) :
    w.Follows text config started { w with store := s' } none :=
  follows_serves hi h.1 fun _ _ hu => Or.inl (h.2 ▸ hu)

lemma follows_updateHost (hi : w.Inv text config started) (uuid : Uuid) {f : Host → Host}
    (hreq : ∀ h, (f h).request = h.request)
    (hf : ∀ h : Host, h.Inv config uuid (w.store.inbox uuid) →
      (f h).Inv config uuid (w.store.inbox uuid)) :
    w.Follows text config started (w.updateHost uuid f) none := by
  cases hh : w.hosts uuid with
  | none =>
    have hsame : w.updateHost uuid f = w := by
      unfold updateHost
      rw [hh, Option.map_none, ← hh, Function.update_eq_self]
    rw [hsame]
    exact follows_same hi ⟨Serves.rfl, rfl⟩
  | some h =>
    have hself : (w.updateHost uuid f).hosts uuid = some (f h) := by simp [updateHost, hh]
    have hkeys : (f h).keys text = h.keys text := by
      unfold Host.keys
      rw [hreq]
    have hat := hi.challenge uuid
    refine follows_of_spares hi (fun u hu => ⟨Function.update_of_ne hu _ _, rfl, id, fun _ => id⟩)
      ⟨fun h' hh' => ?_, fun hex => ?_, fun _ => ⟨_, hself⟩, fun key hk => ?_⟩
      (List.mem_append_left _ (hi.mem_started hh)) fun hn _ => ?_
    · rw [hself] at hh'
      cases hh'
      exact ⟨hf h (hat.host h hh).1, (hat.host h hh).2⟩
    · rw [hat.expiring hex] at hh
      cases hh
    · rcases hat.routed key hk with hc | ⟨h', hh', hmem⟩
      · exact Or.inl hc
      · rw [hh] at hh'
        cases hh'
        exact Or.inr ⟨_, hself, hkeys ▸ hmem⟩
    · rw [hn] at hh
      cases hh

lemma mem_startArgs {identity : Identity} {deadline : Timestamp} {uuid : Uuid} {c : Create}
    {key : RoutingKey} :
    let args := Store.startArgs text identity deadline uuid c
    (key = args.directory ∨ key = args.client ∨ key ∈ args.players) ↔
      key ∈ partyKeys text c.challengeType c.party ∨ key = .client c.clientId := by
  simp only [Store.startArgs, partyKeys, Finset.mem_insert, List.mem_toFinset]
  tauto

lemma follows_created (hi : w.Inv text config started) {identity : Identity}
    {deadline : Timestamp} {uuid : Uuid} {c : Create} (hnew : uuid ∉ started) {s' : Store}
    (hs : Creates (Store.startArgs text identity deadline uuid c) w.store s') :
    w.Follows text config started
      { store := s', hosts := Function.update w.hosts uuid (some (.new config uuid c)) }
      (some uuid) := by
  obtain ⟨-, hnr, hempty, hex⟩ := hi.unseen uuid hnew
  obtain ⟨id, hin⟩ := hs.inbox
  have hin : (s'.inbox uuid).entries = [⟨id, .create c⟩] := by
    rw [show (s'.inbox uuid).entries = (w.store.inbox uuid).entries ++ [⟨id, .create c⟩] from hin,
      hempty, List.nil_append]
  have hself : Function.update w.hosts uuid (some (.new config uuid c)) uuid =
      some (.new config uuid c) := Function.update_self _ _ _
  have hroute : ∀ key u, s'.route key = some u → (u = uuid ∧
      (key ∈ partyKeys text c.challengeType c.party ∨ key = .client c.clientId)) ∨
      w.store.route key = some u := by
    intro key u hu
    rw [hs.route key, if_congr mem_startArgs rfl rfl] at hu
    split_ifs at hu with hk
    · exact Or.inl ⟨(Option.some.inj hu).symm, hk⟩
    · exact Or.inr hu
  refine follows_of_spares hi (fun u hu => ⟨Function.update_of_ne hu _ _, hs.others u hu,
      fun h => hs.expiring ▸ h, fun key hk => ?_⟩)
    ⟨fun h hh => ?_, fun h => absurd (hs.expiring ▸ h) hex, fun _ => ⟨_, hself⟩, fun key hk => ?_⟩
    (by simp) fun _ hx => absurd rfl hx
  · rcases hroute key u hk with ⟨heq, -⟩ | hk
    · exact absurd heq hu
    · exact hk
  · dsimp only at hh
    rw [hself] at hh
    cases hh
    exact ⟨⟨⟨id, [], hin, by simp⟩, Or.inl ⟨rfl, rfl⟩⟩, hs.fence⟩
  · rcases hroute key uuid hk with ⟨-, hk | hk⟩ | hk
    · exact Or.inr ⟨_, hself, hk⟩
    · exact Or.inl ⟨_, hk⟩
    · exact absurd hk (hnr key)

/-- A challenge that is over has read its create, so the keys of its party and players are those
it was started for. -/
lemma concluded_keys (hi : w.Inv text config started) {uuid : Uuid} {h : Host}
    (hc : w.concluded uuid = some h) :
    w.hosts uuid = some h ∧
      Store.routes text h.actor.state =
        h.keys text ∪ h.actor.state.recordedBy.image .client := by
  obtain ⟨hh, hover⟩ := Option.filter_eq_some_iff.mp hc
  refine ⟨hh, ?_⟩
  rcases ((hi.challenge uuid).host h hh).1.actor with ⟨-, hnew⟩ | ⟨-, hty, hparty⟩
  · rw [hnew] at hover
    cases hover
  · unfold Store.routes Host.keys partyKeys
    rw [hty, hparty, Finset.insert_union, Finset.union_comm]

lemma step_delete (hi : w.Inv text config started) {uuid : Uuid} {h : Host}
    (hc : w.concluded uuid = some h) :
    ∃ s', step text config w (.delete uuid) =
        { store := s', hosts := Function.update w.hosts uuid none } ∧
      Deletes uuid (h.keys text ∪ h.actor.state.recordedBy.image .client) w.store s' := by
  obtain ⟨hh, hroutes⟩ := concluded_keys hi hc
  obtain ⟨s', heq, hdel⟩ := delete_effect text ((hi.challenge uuid).host h hh).2 h.actor.state
  refine ⟨s', ?_, hroutes ▸ hdel⟩
  simp only [step, hc, heq]

/-- Once a challenge is deleted only a client can still be routed to it, one that its actor did
not know of. -/
lemma route_deleted (hi : w.Inv text config started) {uuid : Uuid} {h : Host}
    (hc : w.concluded uuid = some h) (key : RoutingKey) :
    (step text config w (.delete uuid)).store.route key = some uuid ↔
      ∃ c, key = .client c ∧ w.store.route key = some uuid ∧ c ∉ h.actor.state.recordedBy := by
  obtain ⟨s', heq, hdel⟩ := step_delete hi hc
  rw [heq]
  dsimp only
  rw [hdel.route]
  constructor
  · intro hk
    split_ifs at hk with hx
    have hnot : key ∉ h.keys text ∪ h.actor.state.recordedBy.image .client :=
      fun hmem => hx ⟨hmem, hk⟩
    rw [Finset.mem_union, not_or] at hnot
    rcases (hi.challenge uuid).routed key hk with ⟨c, rfl⟩ | ⟨h', hh', hkey⟩
    · exact ⟨c, rfl, hk, fun hrec => hnot.2 (Finset.mem_image_of_mem _ hrec)⟩
    · rw [(concluded_keys hi hc).1] at hh'
      cases hh'
      exact absurd hkey hnot.1
  · rintro ⟨c, rfl, hk, hrec⟩
    have hparty : RoutingKey.client c ∉ h.keys text := by
      simp [Host.keys, partyKeys, directoryKey, playerKey]
    rw [if_neg, hk]
    rintro ⟨hmem, -⟩
    rcases Finset.mem_union.mp hmem with hmem | hmem
    · exact hparty hmem
    · obtain ⟨c', hc', heq⟩ := Finset.mem_image.mp hmem
      cases heq
      exact hrec hc'

lemma follows_deleted (hi : w.Inv text config started) {uuid : Uuid} {h : Host}
    (hc : w.concluded uuid = some h) :
    w.Follows text config started (step text config w (.delete uuid)) none := by
  have hdead := route_deleted hi hc
  have hh := (concluded_keys hi hc).1
  obtain ⟨s', heq, hdel⟩ := step_delete hi hc
  rw [heq] at hdead ⊢
  have hself : Function.update w.hosts uuid none uuid = none := Function.update_self _ _ _
  have hroute : ∀ key u, s'.route key = some u → w.store.route key = some u := by
    intro key u hu
    rw [hdel.route] at hu
    split_ifs at hu
    exact hu
  refine follows_of_spares hi (fun u hu => ⟨Function.update_of_ne hu _ _, hdel.others u hu,
      fun hex => ?_, fun key => hroute key u⟩)
    ⟨fun h' hh' => ?_, fun _ => hself, fun hidx => ?_, fun key hk => ?_⟩
    (List.mem_append_left _ (hi.mem_started hh)) fun hn _ => ?_
  · dsimp only at hex
    rw [hdel.expiring, Finset.mem_insert] at hex
    exact hex.resolve_left hu
  · dsimp only at hh'
    rw [hself] at hh'
    cases hh'
  · dsimp only at hidx
    rw [hdel.index] at hidx
    cases hidx
  · obtain ⟨c, hkey, -⟩ := (hdead key).mp hk
    exact Or.inl ⟨c, hkey⟩
  · rw [hn] at hh
    cases hh

lemma follows_expireStreams (hi : w.Inv text config started) (uuid : Uuid) :
    w.Follows text config started { w with store := expireStreams uuid w.store } none := by
  unfold expireStreams
  split_ifs with hex
  · have hat := hi.challenge uuid
    have hdead := hat.expiring hex
    have hknown : uuid ∈ started := by
      by_contra hn
      exact (hi.unseen uuid hn).expiring hex
    refine follows_of_spares hi (fun u hu => ⟨rfl, by simp [Store.keysOf, hu], id, fun _ => id⟩)
      ⟨fun h hh => ?_, fun _ => hdead, hat.indexed, hat.routed⟩
      (List.mem_append_left _ hknown) fun hn _ => ⟨hn, fun _ => id⟩
    rw [hdead] at hh
    cases hh
  · exact follows_same hi ⟨Serves.rfl, rfl⟩

lemma follows_start (hi : w.Inv text config started) (identity : Identity)
    (now deadline : Timestamp) {uuid : Uuid} (hnew : uuid ∉ started) (c : Create) :
    w.Follows text config started
      (step text config w (.start identity now deadline uuid c)) (some uuid) := by
  set args := Store.startArgs text identity deadline uuid c
  rcases START_cases args now w.store with ⟨incumbent, hinc, heq⟩ | heq
  · obtain ⟨hserves, hroute⟩ := startJoin_effect args hinc rfl rfl now
    have hjoin := follows_serves hi hserves fun key u hu => by
      rw [hroute] at hu
      by_cases hkey : key = args.client
      · subst hkey
        rw [Function.update_self] at hu
        cases hu
        rcases (hi.challenge _).routed _ hinc with ⟨d, hd⟩ | ⟨h, hh, -⟩
        · cases hd
        · exact Or.inr ⟨⟨_, rfl⟩, h, hh⟩
      · rw [Function.update_of_ne hkey] at hu
        exact Or.inl hu
    have hstep : step text config w (.start identity now deadline uuid c) =
        { w with store := (startJoin args now incumbent w.store).2 } := by
      simp only [step, Store.start]
      rw [heq]
      rfl
    rw [hstep]
    refine ⟨⟨hjoin.inv.challenge, fun u hu => hjoin.inv.unseen u ?_⟩,
      fun u hu _ => hjoin.gone u hu nofun⟩
    simp only [Option.toList_none, List.append_nil]
    exact fun hmem => hu (List.mem_append_left _ hmem)
  · obtain ⟨hleave, hroute, -⟩ := serves_leavePrevious w.store args rfl now uuid
    have hleft := follows_same hi ⟨hleave, hroute⟩
    have hinv := hleft.inv
    rw [Option.toList_none, List.append_nil] at hinv
    have hcreate := follows_created hinv hnew (startCreate_effect args now w.store)
    have hstep : step text config w (.start identity now deadline uuid c) =
        { store := (startCreate args now w.store).2
          hosts := Function.update w.hosts uuid (some (.new config uuid c)) } := by
      simp only [step, Store.start]
      rw [heq]
      rfl
    rw [hstep]
    refine ⟨hcreate.inv, fun u hu hx => ?_⟩
    obtain ⟨hnone, hkeys⟩ := hcreate.gone u hu hx
    exact ⟨hnone, fun key hkey => hroute ▸ hkeys key hkey⟩

/-- Every action keeps the invariant and routes nothing to a challenge that is gone. -/
theorem follows_step (hi : w.Inv text config started) (action : Action)
    (hnew : ∀ u, action.fresh = some u → u ∉ started) :
    w.Follows text config started (step text config w action) action.fresh := by
  have hsame : w.Follows text config started w none := follows_same hi ⟨Serves.rfl, rfl⟩
  cases action with
  | start identity now deadline uuid c =>
    exact follows_start hi identity now deadline (hnew _ rfl) c
  | rejoin now uuid join =>
    obtain ⟨hserves, hroute⟩ := rejoin_effect now uuid join w.store
    refine follows_serves hi hserves fun key u hu => ?_
    rcases hroute with hroute | ⟨hidx, hroute⟩
    · exact Or.inl (hroute ▸ hu)
    · rw [hroute] at hu
      by_cases hkey : key = .client join.clientId
      · subst hkey
        rw [Function.update_self] at hu
        cases hu
        exact Or.inr ⟨⟨_, rfl⟩, (hi.challenge uuid).indexed hidx⟩
      · rw [Function.update_of_ne hkey] at hu
        exact Or.inl hu
  | send now uuid cmd h => exact follows_same hi (send_effect now uuid h w.store)
  | sendToCurrentChallenge now client cmd h =>
    exact follows_same hi (sendToCurrentChallenge_effect now client h w.store)
  | consume uuid time =>
    refine follows_updateHost hi uuid (fun h => ?_) fun h hh => hh.consume time
    unfold Host.consume
    split
    · rfl
    · split_ifs <;> rfl
  | deadline uuid time fired =>
    exact follows_updateHost hi uuid (fun h => rfl) fun h hh => hh.handle rfl
  | report uuid time processed =>
    exact follows_updateHost hi uuid (fun h => rfl) fun h hh => hh.handle rfl
  | project uuid cursor =>
    dsimp only [step]
    split
    · exact follows_same hi (project_effect _ _ _ _ _)
    · exact hsame
  | delete uuid =>
    cases hc : w.concluded uuid with
    | none =>
      have hstep : step text config w (.delete uuid) = w := by simp only [step, hc]
      rw [hstep]
      exact hsame
    | some h => exact follows_deleted hi hc
  | expireState uuid => exact follows_same hi (expireState_effect uuid w.store)
  | expireStreams uuid => exact follows_expireStreams hi uuid

@[simp] lemma run_nil (w : World) : run text config w [] = w := rfl
lemma follows_run (hi : w.Inv text config started) {actions : List Action}
    (hfresh : (started ++ actions.filterMap Action.fresh).Nodup) :
    (run text config w actions).Inv text config (started ++ actions.filterMap Action.fresh) ∧
      ∀ u, w.hosts u = none → u ∈ started → (run text config w actions).hosts u = none ∧
        ∀ key, (run text config w actions).store.route key = some u →
          w.store.route key = some u := by
  induction actions generalizing w started with
  | nil => exact ⟨by simpa using hi, fun u hu _ => ⟨hu, fun _ h => h⟩⟩
  | cons action actions ih =>
    have hsplit : started ++ (action :: actions).filterMap Action.fresh =
        (started ++ action.fresh.toList) ++ actions.filterMap Action.fresh := by
      cases h : action.fresh <;> simp [h]
    rw [hsplit] at hfresh ⊢
    have hstep := follows_step hi action fun u hu hmem => by
      have hnd := (List.nodup_append.mp hfresh).1
      rw [hu] at hnd
      exact (List.nodup_append.mp hnd).2.2 u hmem u (by simp) rfl
    obtain ⟨hinv, hgone⟩ := ih hstep.inv hfresh
    refine ⟨hinv, fun u hu hmem => ?_⟩
    have hx : action.fresh ≠ some u := by
      intro hx
      have hnd := (List.nodup_append.mp hfresh).1
      rw [hx] at hnd
      exact (List.nodup_append.mp hnd).2.2 u hmem u (by simp) rfl
    obtain ⟨hnone, hkeys⟩ := hstep.gone u hu hx
    obtain ⟨hnone', hkeys'⟩ := hgone u hnone (List.mem_append_left _ hmem)
    exact ⟨hnone', fun key hkey => hkeys key (hkeys' key hkey)⟩

lemma deleted_run {pre post : List Action} {uuid : Uuid} {h : Host}
    (hfresh : ((pre ++ .delete uuid :: post).filterMap Action.fresh).Nodup)
    (hdel : (run text config init pre).concluded uuid = some h) :
    let before := run text config init pre
    let after := step text config before (.delete uuid)
    before.Inv text config (pre.filterMap Action.fresh) ∧
      ∀ n key, (run text config after (post.take n)).store.route key = some uuid →
        after.store.route key = some uuid := by
  intro before after
  rw [List.filterMap_append, List.filterMap_cons_none (by rfl)] at hfresh
  have hpre : before.Inv text config ([] ++ pre.filterMap Action.fresh) :=
    (follows_run inv_init (by simpa using (List.nodup_append.mp hfresh).1)).1
  rw [List.nil_append] at hpre
  have hstep := follows_deleted hpre hdel
  have hinv := hstep.inv
  rw [Option.toList_none, List.append_nil] at hinv
  refine ⟨hpre, fun n => ?_⟩
  have hsub : (pre.filterMap Action.fresh ++ (post.take n).filterMap Action.fresh).Nodup :=
    hfresh.sublist (((List.take_sublist n post).filterMap _).append_left _)
  refine ((follows_run hinv hsub).2 uuid ?_ ?_).2
  · obtain ⟨s', heq, -⟩ := step_delete hpre hdel
    rw [heq]
    exact Function.update_self _ _ _
  · exact hpre.mem_started (concluded_keys hpre hdel).1

end World

open World

/-! ### A challenge and its deletion -/

/-- Names are in lower case already, and there is one type of challenge. -/
def plainText : KeyText := { toLowercase := id, typeNumber := fun _ => 1 }

def soloLeave : Command :=
  .finish { userId := 1, clientId := 1, sessionToken := "t", times := none, soft := false }

/-- The only client of a challenge finishes it. -/
def soloFinishes : List Action :=
  [.start "first" 1 100 7 soloRequest, .consume 7 1, .send 2 7 soloLeave rfl]

/-- The actor reads what is queued, which ends the challenge, and its data are processed. -/
def soloConcludes : List Action :=
  [.consume 7 2, .consume 7 2, .deadline 7 3 ⟨.processingDue, 1⟩, .report 7 4 ⟨0, 1, .ok .none⟩,
   .deadline 7 5 ⟨.processingDue, 4⟩, .report 7 6 ⟨1, 1, .ok .none⟩,
   .deadline 7 7 ⟨.processingDue, 6⟩, .report 7 8 ⟨7, 1, .ok .none⟩]

/-- Another client joins before the actor has read the finish. -/
def lateJoin : Action :=
  .rejoin 2 7 { userId := 2, clientId := 2, sessionToken := "u", recordingType := .spectator }

/-- **A deletion removes the keys that hold its challenge and touches nothing else.** Uuids being
made up only once, whatever happened before the deletion of a challenge and whatever happens
after it, no key of a party or a player holds the challenge any more. No key at all does if and
only if the actor knew of every client that was routed to the challenge when it was deleted. -/
theorem deletion_routes {text : KeyText} {config : LifecycleConfig} {pre post : List Action}
    {uuid : Uuid} {h : Host}
    (hfresh : ((pre ++ .delete uuid :: post).filterMap Action.fresh).Nodup)
    (hdel : (run text config init pre).concluded uuid = some h) :
    let before := run text config init pre
    let after := step text config before (.delete uuid)
    let later := fun n => run text config after (post.take n)
    (∀ key, before.store.route key ≠ some uuid →
      after.store.route key = before.store.route key) ∧
    (∀ u, u ≠ uuid → after.store.keysOf u = before.store.keysOf u) ∧
    (∀ n key, (later n).store.route key = some uuid → ∃ c, key = .client c) ∧
    ((∀ n key, (later n).store.route key ≠ some uuid) ↔
      ∀ c, before.store.route (.client c) = some uuid → c ∈ h.actor.state.recordedBy) := by
  intro before after later
  obtain ⟨hi, hlater⟩ := deleted_run hfresh hdel
  have hdead := route_deleted hi hdel
  obtain ⟨s', heq, hs⟩ := step_delete hi hdel
  have hafter : after.store = s' := congrArg World.store heq
  refine ⟨fun key hkey => ?_, fun u hu => ?_, fun n key hkey => ?_, fun hall c hc => ?_,
    fun hknown n key hkey => ?_⟩
  · rw [hafter, hs.route, if_neg fun hx => hkey hx.2]
  · rw [hafter, hs.others u hu]
  · obtain ⟨c, hc, -⟩ := (hdead key).mp (hlater n key hkey)
    exact ⟨c, hc⟩
  · by_contra hrec
    exact hall 0 (.client c) ((hdead _).mpr ⟨c, rfl, hc, hrec⟩)
  · obtain ⟨c, rfl, hc, hrec⟩ := (hdead key).mp (hlater n key hkey)
    exact hrec (hknown c hc)

/-- Without the late join nothing is left behind, whether or not the party starts anew. -/
theorem deletion_routes_solo :
    let before := run plainText soloConfig init (soloFinishes ++ soloConcludes)
    let after := step plainText soloConfig before (.delete 7)
    let again : List Action := [.start "first" 9 100 8 soloRequest]
    ∀ n key, (run plainText soloConfig after (again.take n)).store.route key ≠ some 7 := by
  have hover : ((run plainText soloConfig init
      (soloFinishes ++ soloConcludes)).concluded 7).isSome = true := by decide
  refine (deletion_routes (by decide) (Option.some_get hover).symm).2.2.2.mpr fun c hc => ?_
  -- Only the start has set a route.
  have hroute : (run plainText soloConfig init (soloFinishes ++ soloConcludes)).store.route =
      (startCreate (Store.startArgs plainText "first" 100 7 soloRequest) 1 .empty).2.route := rfl
  obtain rfl : c = 1 := by
    rw [hroute, (startCreate_effect _ _ _).route] at hc
    split_ifs at hc with hk
    · simpa [Store.startArgs, soloRequest, directoryKey, playerKey] using hk
    · cases hc
  revert hover
  decide

/-- The client that joined too late is left with a route to a challenge that is gone. -/
theorem late_join_left_behind :
    let actions := soloFinishes ++ [lateJoin] ++ soloConcludes
    let before := run plainText soloConfig init actions
    let after := step plainText soloConfig before (.delete 7)
    (actions.filterMap Action.fresh).Nodup ∧ (before.concluded 7).isSome = true ∧
      after.store.index.contains 7 = false ∧ after.store.route (.client 2) = some 7 := by
  decide

end Blert.Redis

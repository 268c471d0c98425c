import Blert.Redis.Requests

/-!
What the scripts do to routes and inboxes.

An inbox gets its create when the challenge is created, and only other commands after that.
Requests only write to the inboxes of challenges that the store knows, and only route clients
to such challenges.
-/

namespace Blert.Redis

open Blert.Lifecycle

/-! ### Requests that create nothing -/

/-- An inbox only grows, by commands that create nothing. -/
def Grows (before after : Inbox) : Prop :=
  ∃ es, after.entries = before.entries ++ es ∧ ∀ e ∈ es, e.cmd.isCreate = false

lemma Grows.rfl {inbox : Inbox} : Grows inbox inbox := ⟨[], by simp, by simp⟩

lemma Grows.trans {a b c : Inbox} (h : Grows a b) (h' : Grows b c) : Grows a c := by
  obtain ⟨es, h, hes⟩ := h
  obtain ⟨fs, h', hfs⟩ := h'
  refine ⟨es ++ fs, by rw [h', h, List.append_assoc], fun e he => ?_⟩
  rcases List.mem_append.mp he with he | he
  · exact hes e he
  · exact hfs e he

def Store.Known (s : Store) (uuid : Uuid) : Prop :=
  s.index.contains uuid = true ∨ ∃ key, s.route key = some uuid

/-- A step of the store that creates and deletes nothing, and only writes to the inboxes of
challenges it knows. -/
structure Serves (s s' : Store) : Prop where
  index : s'.index = s.index
  lease : s'.lease = s.lease
  expiring : s'.expiring = s.expiring
  inbox : ∀ uuid, Grows (s.inbox uuid) (s'.inbox uuid)
  known : ∀ uuid, s'.inbox uuid = s.inbox uuid ∨ s.Known uuid

lemma serves_xadd {s : Store} {uuid : Uuid} (h : s.Known uuid) (now : Timestamp) {cmd : Command}
    (hcmd : cmd.isCreate = false) : Serves s (s.xadd now uuid cmd).2 := by
  refine ⟨rfl, rfl, rfl, fun u => ?_, fun u => ?_⟩
  · by_cases hu : u = uuid
    · subst hu
      refine ⟨[⟨MsgId.next (s.inbox u).lastId now, cmd⟩], ?_, ?_⟩
      · simp only [Store.xadd, Function.update_self]
      · intro e he
        rw [List.mem_singleton.mp he]
        exact hcmd
    · simp only [Store.xadd, Function.update_of_ne hu]
      exact Grows.rfl
  · by_cases hu : u = uuid
    · subst hu
      exact Or.inr h
    · exact Or.inl (Function.update_of_ne hu _ _)

lemma Serves.rfl {s : Store} : Serves s s :=
  ⟨Eq.refl _, Eq.refl _, Eq.refl _, fun _ => Grows.rfl, fun _ => Or.inl (Eq.refl _)⟩

lemma Serves.trans {s s' s'' : Store} (h : Serves s s') (h' : Serves s' s'')
    (hknown : ∀ uuid, s'.Known uuid → s.Known uuid) : Serves s s'' := by
  refine ⟨h'.index.trans h.index, h'.lease.trans h.lease, h'.expiring.trans h.expiring,
    fun uuid => (h.inbox uuid).trans (h'.inbox uuid), fun uuid => ?_⟩
  rcases h'.known uuid with heq' | hk
  · rcases h.known uuid with heq | hk
    · exact Or.inl (heq'.trans heq)
    · exact Or.inr hk
  · exact Or.inr (hknown uuid hk)

lemma serves_leavePrevious (s : Store) (args : StartArgs)
    (hcmd : args.removal.isCreate = false) (now : Timestamp) (target : Uuid) :
    Serves s (leavePrevious args now s target) ∧
      (leavePrevious args now s target).route = s.route ∧
      (leavePrevious args now s target).inbox target = s.inbox target := by
  unfold leavePrevious
  split
  · rename_i previous hprev
    split_ifs with h
    · exact ⟨serves_xadd (Or.inl h.2) now hcmd, rfl, Function.update_of_ne h.1.symm _ _⟩
    · exact ⟨Serves.rfl, rfl, rfl⟩
  · exact ⟨Serves.rfl, rfl, rfl⟩

lemma route_setAll (uuid : Uuid) (keys : List RoutingKey) (s : Store) (key : RoutingKey) :
    (keys.foldl (fun s key => s.setRoute key uuid) s).route key =
      if key ∈ keys then some uuid else s.route key := by
  induction keys generalizing s with
  | nil => rfl
  | cons k keys ih =>
    rw [List.foldl_cons, ih]
    by_cases hk : key = k
    · subst hk
      simp [Store.setRoute]
    · simp [Store.setRoute, hk]

lemma startJoin_effect {s : Store} (args : StartArgs) {incumbent : Uuid}
    (hinc : s.route args.directory = some incumbent) (hjoin : args.join.isCreate = false)
    (hremoval : args.removal.isCreate = false) (now : Timestamp) :
    Serves s (startJoin args now incumbent s).2 ∧
      (startJoin args now incumbent s).2.route =
        Function.update s.route args.client (some incumbent) := by
  obtain ⟨hleave, hroute, -⟩ := serves_leavePrevious s args hremoval now incumbent
  have hset : Serves s ((leavePrevious args now s incumbent).setRoute args.client incumbent) :=
    ⟨hleave.index, hleave.lease, hleave.expiring, hleave.inbox, hleave.known⟩
  refine ⟨hset.trans (serves_xadd (Or.inr ⟨args.client, ?_⟩) now hjoin) ?_, ?_⟩
  · exact Function.update_self _ _ _
  · rintro u (hu | ⟨key, hu⟩)
    · exact Or.inl (hleave.index ▸ hu)
    · by_cases hkey : key = args.client
      · subst hkey
        obtain rfl : incumbent = u := by simpa [Store.setRoute] using hu
        exact Or.inr ⟨_, hinc⟩
      · exact Or.inr ⟨key, by simpa [Store.setRoute, hkey, hroute] using hu⟩
  · change Function.update _ _ _ = _
    rw [hroute]

/-- What the store holds for one challenge, its routes apart. -/
def Store.keysOf (s : Store) (uuid : Uuid) :=
  (s.index.get uuid, s.lease uuid, s.challenge uuid, s.clients uuid, s.journal uuid, s.inbox uuid,
    s.streams uuid, s.events uuid, s.processed uuid, fun session => uuid ∈ s.members session)

lemma keysOf_eq {s s' : Store} {u : Uuid} (h : s'.keysOf u = s.keysOf u) :
    s'.index.contains u = s.index.contains u ∧ s'.fence u = s.fence u ∧
      s'.inbox u = s.inbox u := by
  simp only [Store.keysOf, Prod.mk.injEq] at h
  obtain ⟨hidx, hlease, -, -, -, hinbox, -⟩ := h
  exact ⟨by rw [OrdMap.contains, hidx]; rfl, by rw [Store.fence, hlease]; rfl, hinbox⟩

/-- What creating a challenge does, once its creator has left the one it was in. -/
structure Creates (args : StartArgs) (s s' : Store) : Prop where
  fence : s'.fence args.uuid = some Epoch.initial
  expiring : s'.expiring = s.expiring
  inbox : ∃ id, (s'.inbox args.uuid).entries =
    (s.inbox args.uuid).entries ++ [⟨id, args.create⟩]
  route : ∀ key, s'.route key =
    if key = args.directory ∨ key = args.client ∨ key ∈ args.players then some args.uuid
    else s.route key
  others : ∀ u, u ≠ args.uuid → s'.keysOf u = s.keysOf u

lemma setAll_eq (uuid : Uuid) (keys : List RoutingKey) (s : Store) :
    keys.foldl (fun s key => s.setRoute key uuid) s =
      { s with route := (keys.foldl (fun s key => s.setRoute key uuid) s).route } := by
  induction keys generalizing s with
  | nil => rfl
  | cons k keys ih => exact ih (s.setRoute k uuid)

lemma startCreate_effect (args : StartArgs) (now : Timestamp) (s : Store) :
    Creates args (leavePrevious args now s args.uuid) (startCreate args now s).2 := by
  unfold startCreate
  generalize leavePrevious args now s args.uuid = s'
  dsimp only
  rw [setAll_eq]
  refine ⟨?_, rfl, ⟨MsgId.next (s'.inbox args.uuid).lastId now, ?_⟩, fun key => ?_,
    fun u hu => ?_⟩
  · simp [Store.fence, Store.xadd, Store.setRoute]
  · simp [Store.xadd, Store.setRoute]
  · change Store.route (List.foldl _ _ _) key = _
    rw [route_setAll]
    by_cases hp : key ∈ args.players
    · simp [hp]
    · by_cases hc : key = args.client <;> by_cases hd : key = args.directory <;>
        simp [hp, hc, hd, Store.setRoute, Function.update_apply]
  · have hmem : ∀ session, u ∈ Function.update s'.members args.session
        (insert args.uuid (s'.members args.session)) session ↔ u ∈ s'.members session := by
      intro session
      by_cases hs : session = args.session
      · subst hs
        simp [hu]
      · rw [Function.update_of_ne hs]
    simp [Store.keysOf, Store.xadd, Store.setRoute, OrdMap.get_insert, hu, hmem]

structure Deletes (uuid : Uuid) (routes : Finset RoutingKey) (s s' : Store) : Prop where
  index : s'.index.contains uuid = false
  expiring : s'.expiring = insert uuid s.expiring
  inbox : s'.inbox = s.inbox
  route : ∀ key, s'.route key =
    if key ∈ routes ∧ s.route key = some uuid then none else s.route key
  others : ∀ u, u ≠ uuid → s'.keysOf u = s.keysOf u

lemma delete_effect (text : KeyText) {s : Store} {uuid : Uuid} {epoch : Epoch}
    (hf : s.fence uuid = some epoch) (state : ChallengeState) :
    ∃ s', s.delete text uuid epoch state = (true, s') ∧
      Deletes uuid (Store.routes text state) s s' := by
  unfold Store.delete DELETE fenced
  rw [if_pos hf]
  refine ⟨_, rfl, ?_, rfl, rfl, fun key => rfl, fun u hu => ?_⟩
  · simp [OrdMap.contains, OrdMap.get_erase]
  · have hmem : ∀ session, u ∈ Function.update s.members state.sessionUuid
        ((s.members state.sessionUuid).erase uuid) session ↔ u ∈ s.members session := by
      intro session
      by_cases hs : session = state.sessionUuid
      · subst hs
        simp [hu]
      · rw [Function.update_of_ne hs]
    simp [Store.keysOf, Store.unroute, OrdMap.get_erase, hu, hmem]

lemma START_cases (args : StartArgs) (now : Timestamp) (s : Store) :
    (∃ incumbent, s.route args.directory = some incumbent ∧
      START args now s = startJoin args now incumbent s) ∨
    START args now s = startCreate args now s := by
  unfold START
  cases hd : s.route args.directory with
  | none => exact Or.inr rfl
  | some incumbent =>
    dsimp only
    split_ifs
    · exact Or.inl ⟨incumbent, rfl, rfl⟩
    · exact Or.inr rfl

lemma rejoin_effect (now : Timestamp) (uuid : Uuid) (join : Join) (s : Store) :
    Serves s (s.rejoin now uuid join).2 ∧
      ((s.rejoin now uuid join).2.route = s.route ∨ s.index.contains uuid = true ∧
        (s.rejoin now uuid join).2.route =
          Function.update s.route (.client join.clientId) (some uuid)) := by
  unfold Store.rejoin REJOIN
  split_ifs with h1 h2 h3
  · exact ⟨Serves.rfl, Or.inl rfl⟩
  · exact ⟨Serves.rfl, Or.inl rfl⟩
  · exact ⟨Serves.rfl, Or.inl rfl⟩
  · have hidx : s.index.contains uuid = true := by simpa using h1
    have hadd : Serves s (s.xadd now uuid (.join join)).2 := serves_xadd (Or.inl hidx) now rfl
    exact ⟨⟨hadd.index, hadd.lease, hadd.expiring, hadd.inbox, hadd.known⟩,
      Or.inr ⟨hidx, rfl⟩⟩

lemma send_effect (now : Timestamp) (uuid : Uuid) {cmd : Command} (hcmd : cmd.isCreate = false)
    (s : Store) : Serves s (s.send now uuid cmd).2 ∧ (s.send now uuid cmd).2.route = s.route := by
  unfold Store.send SEND
  split_ifs with h
  · exact ⟨Serves.rfl, rfl⟩
  · exact ⟨serves_xadd (Or.inl (by simpa using h)) now hcmd, rfl⟩

lemma sendToCurrentChallenge_effect (now : Timestamp) (client : ClientId) {cmd : Command}
    (hcmd : cmd.isCreate = false) (s : Store) :
    Serves s (s.sendToCurrentChallenge now client cmd).2 ∧
      (s.sendToCurrentChallenge now client cmd).2.route = s.route := by
  unfold Store.sendToCurrentChallenge CLIENT_SEND
  split
  · exact ⟨Serves.rfl, rfl⟩
  · rename_i uuid hroute
    split_ifs
    · exact ⟨Serves.rfl, rfl⟩
    · exact ⟨serves_xadd (Or.inr ⟨_, hroute⟩) now hcmd, rfl⟩

lemma project_effect (uuid : Uuid) (epoch : Epoch) (state : ChallengeState) (cursor : MsgId)
    (s : Store) : Serves s (s.project uuid epoch state cursor).2 ∧
      (s.project uuid epoch state cursor).2.route = s.route := by
  unfold Store.project PROJECT fenced
  split_ifs
  · exact ⟨⟨rfl, rfl, rfl, fun _ => Grows.rfl, fun _ => Or.inl rfl⟩, rfl⟩
  · exact ⟨Serves.rfl, rfl⟩

lemma expireState_effect (uuid : Uuid) (s : Store) :
    Serves s (expireState uuid s) ∧ (expireState uuid s).route = s.route := by
  unfold expireState
  split_ifs
  · exact ⟨⟨rfl, rfl, rfl, fun _ => Grows.rfl, fun _ => Or.inl rfl⟩, rfl⟩
  · exact ⟨Serves.rfl, rfl⟩

end Blert.Redis

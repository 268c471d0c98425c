import Blert.Names.Execution
import Blert.Names.Lossless

/-!
What a historic name change consolidates.

A participation belongs to the chain's player if it has the name that the player had when the
challenge started. All of these go to the target, what else the target had goes to a zombie, and
the other participations stay where they are.
-/

namespace Blert.Names

open Lifecycle Processing Fallible

variable {Custom Own : Type}

/-! ### The participations of the chain's player -/

def isChains (naming : Naming) (windows : List NameWindow) (db : Accounts Custom Own)
    (challengeId : ℕ) (row : ChallengePlayer) : Bool :=
  (db.startTimes challengeId).any
    (belongsToChainTarget windows (naming.normalizeRsn row.username))

def Accounts.Attributed (db : Accounts Custom Own) : Prop :=
  ∀ key row, db.challengePlayers.get key = some row → ∃ p, db.players.get row.playerId = some p

/-- No player takes part in a challenge under different names. -/
def OneName (naming : Naming) (db : Accounts Custom Own) : Prop :=
  ∀ key row key' row', db.challengePlayers.get key = some row →
    db.challengePlayers.get key' = some row' → key'.1 = key.1 → row'.playerId = row.playerId →
      naming.normalizeRsn row'.username = naming.normalizeRsn row.username

/-- The record that a participation ends up with. -/
def ownerAfter (naming : Naming) (windows : List NameWindow) (db : Accounts Custom Own)
    (targetId zombieId challengeId : ℕ) (row : ChallengePlayer) : ℕ :=
  if isChains naming windows db challengeId row then targetId
  else if row.playerId = targetId then zombieId
  else row.playerId

/-- The participations of the chain's player are the target's and what else the target had is its
zombie's, recordings are counted as participations change, and deciding again moves nothing. -/
structure Consolidated (naming : Naming) (chain : List ChainTransition)
    (windows : List NameWindow) (db db' : Accounts Custom Own) (targetId zombieId : ℕ) :
    Prop where
  keys : db'.challengePlayers.keys = db.challengePlayers.keys
  attributed : ∀ key row, db.challengePlayers.get key = some row →
    db'.challengePlayers.get key = some { row with
      playerId := ownerAfter naming windows db targetId zombieId key.1 row }
  zombie : ∀ key row, db.challengePlayers.get key = some row → row.playerId = targetId →
    isChains naming windows db key.1 row = false →
      db.players.get zombieId = none ∧ ∃ target zombie, db'.players.get targetId = some target ∧
        db'.players.get zombieId = some zombie ∧ zombie.username = zombieName target.username
  counted : ∀ id p', db'.players.get id = some p' →
    p'.totalRecordings - ((db.players.get id).map (·.totalRecordings)).getD 0 =
      (db'.participations id).length - (db.participations id).length
  settled : ∃ plan', decidePlan naming db' chain = some plan' ∧ plan'.target = .use targetId ∧
    plan'.sourcePlayers = [] ∧ plan'.emptiedSourceIds = [] ∧ plan'.evictedTargetChallengeIds = []

section Rows

variable {naming : Naming} {windows : List NameWindow} {db : Accounts Custom Own}

lemma map_filter_started {l : List ((ℕ × ℕ) × ChallengePlayer)}
    (hl : ∀ e ∈ l, ∃ t, db.startTimes e.1.1 = [t])
    (q : (ℕ × ℕ) × ChallengePlayer → ℤ → Bool) :
    ((l.flatMap fun e => (db.startTimes e.1.1).map (e, ·)).filter fun r => q r.1 r.2).map Prod.fst =
      l.filter fun e => (db.startTimes e.1.1).any (q e) := by
  induction l with
  | nil => rfl
  | cons e l ih =>
    obtain ⟨t, ht⟩ := hl e List.mem_cons_self
    rw [List.flatMap_cons, List.filter_append, List.map_append,
      ih fun e he => hl e (List.mem_cons_of_mem _ he), List.filter_cons, ht]
    by_cases hq : q e t
    · simp [hq]
    · simp [hq]

lemma perm_flatMap_filter {α β : Type} {ws : List β} {rows : List α} {p : β → α → Bool}
    {q : α → Bool} (h : ∀ r ∈ rows, ws.countP (p · r) = if q r then 1 else 0) :
    (ws.flatMap fun w => rows.filter (p w)).Perm (rows.filter q) := by
  induction rows with
  | nil => simp
  | cons r rows ih =>
    have hfirst : ws.flatMap (fun w => if p w r then [r] else []) =
        List.replicate (ws.countP (p · r)) r := by
      clear h ih
      induction ws with
      | nil => rfl
      | cons w ws ih =>
        rw [List.flatMap_cons, ih, List.countP_cons]
        split_ifs
        · rw [List.replicate_succ, List.singleton_append]
        · rfl
    have hsplit : (fun w => (r :: rows).filter (p w)) =
        fun w => (if p w r then [r] else []) ++ rows.filter (p w) := by
      funext w
      rw [List.filter_cons]
      split_ifs <;> rfl
    rw [hsplit, List.filter_cons]
    refine (List.flatMap_append_perm ws _ _).symm.trans ?_
    rw [hfirst, h r List.mem_cons_self]
    have hrest := ih fun r' hr' => h r' (List.mem_cons_of_mem r hr')
    split_ifs
    · exact hrest.cons r
    · exact hrest

lemma Tiles.countP (htiles : Tiles windows) (name : String) (t : ℤ) :
    windows.countP (fun w => name = w.normalizedRsn ∧ inWindow t w) =
      if belongsToChainTarget windows name t then 1 else 0 := by
  obtain ⟨w, hw⟩ := htiles t
  have hfind : windows.find? (inWindow t) = some w := by
    rw [← List.head?_filter, hw]
    rfl
  have hfilter : windows.countP (fun w => name = w.normalizedRsn ∧ inWindow t w) =
      (windows.filter (inWindow t)).countP (name = ·.normalizedRsn) := by
    rw [List.countP_filter]
    exact List.countP_congr fun w _ => by simp
  have hbelongs : belongsToChainTarget windows name t = decide (name = w.normalizedRsn) := by
    unfold belongsToChainTarget Names.nameInWindowsAt
    simp [hfind, eq_comm]
  rw [hfilter, hw, hbelongs, List.countP_cons, List.countP_nil, Nat.zero_add]

lemma Accounts.Referential.startTimes_entry (hdb : db.Referential) :
    ∀ e ∈ db.challengePlayers.entries, ∃ t, db.startTimes e.1.1 = [t] :=
  fun _ he => hdb.startTimes (InsertionMap.get_eq_some.mpr he)

lemma perm_sourcePairs (naming : Naming) (hdb : db.Referential) (htiles : Tiles windows)
    (target : TargetPlayer) :
    (sourcePairs (gatherSourcePlayers naming db windows target)).Perm
      ((db.challengePlayers.entries.filter fun e =>
        isChains naming windows db e.1.1 e.2 && !target.isPlayer e.2.playerId).map fun e =>
          (e.2.playerId, e.1.1)) := by
  have hgroups : sourcePairs (gatherSourcePlayers naming db windows target) =
      windows.flatMap fun w =>
        ((∅ : InsertionMap ℕ (List ℕ)).pushAll (matchedRows naming db target w)).entries.flatMap
          fun e => e.2.map (e.1, ·) := by
    conv_rhs => rw [← List.zipIdx_map_fst 0 windows]
    rw [sourcePairs, gatherSourcePlayers, List.flatMap_assoc, List.flatMap_map]
    simp only [List.flatMap_map]
  rw [hgroups]
  refine (List.Perm.flatMap_left _ fun w _ => (InsertionMap.perm_pushAll _).trans
    (List.perm_insertionSort _ _)).trans ?_
  rw [← List.map_flatMap]
  have hone : ∀ r ∈ startedRows db, windows.countP (fun w =>
      decide (naming.normalizeRsn r.1.2.username = w.normalizedRsn ∧ inWindow r.2 w ∧
        (!target.isPlayer r.1.2.playerId) = true)) =
      if belongsToChainTarget windows (naming.normalizeRsn r.1.2.username) r.2 &&
        !target.isPlayer r.1.2.playerId then 1 else 0 := by
    intro r _
    by_cases htarget : target.isPlayer r.1.2.playerId
    · simp [htarget]
    · simpa [htarget] using htiles.countP (naming.normalizeRsn r.1.2.username) r.2
  refine ((perm_flatMap_filter hone).map _).trans (List.Perm.of_eq ?_)
  have hrows := map_filter_started hdb.startTimes_entry fun e t =>
    belongsToChainTarget windows (naming.normalizeRsn e.2.username) t &&
      !target.isPlayer e.2.playerId
  have hchains : (fun e : (ℕ × ℕ) × ChallengePlayer => isChains naming windows db e.1.1 e.2 &&
      !target.isPlayer e.2.playerId) = fun e => (db.startTimes e.1.1).any fun t =>
        belongsToChainTarget windows (naming.normalizeRsn e.2.username) t &&
          !target.isPlayer e.2.playerId := by
    funext e
    rw [isChains]
    cases target.isPlayer e.2.playerId <;> simp
  rw [hchains, ← hrows, List.map_map]
  rfl

lemma findTargetUnownedChallenges_use (hdb : db.Referential) (targetId : ℕ) :
    findTargetUnownedChallenges naming db windows (.use targetId) =
      ((db.participations targetId).filter fun e =>
        !isChains naming windows db e.1.1 e.2).map (·.1.1) := by
  have hone : ∀ e ∈ db.participations targetId, ∃ t, db.startTimes e.1.1 = [t] :=
    fun e he => hdb.startTimes (mem_participations.1 he).1
  have hrows := map_filter_started hone fun e t =>
    !belongsToChainTarget windows (naming.normalizeRsn e.2.username) t
  have hchains : (db.participations targetId).filter (fun e =>
      !isChains naming windows db e.1.1 e.2) = (db.participations targetId).filter fun e =>
        (db.startTimes e.1.1).any fun t =>
          !belongsToChainTarget windows (naming.normalizeRsn e.2.username) t := by
    refine List.filter_congr fun e he => ?_
    obtain ⟨t, ht⟩ := hone e he
    simp [isChains, ht]
  rw [hchains, ← hrows, List.map_map]
  rfl

/-! ### Counting -/

lemma countP_owner {α : Type} (l : List α) (chains : α → Bool) (playerId : α → ℕ)
    (targetId zombieId id : ℕ) :
    (l.countP (fun e => (if chains e then targetId
        else if playerId e = targetId then zombieId else playerId e) = id) : ℤ) -
        l.countP (playerId · = id) =
      (if id = targetId then (l.countP (fun e => chains e && playerId e ≠ targetId) : ℤ) -
          l.countP (fun e => !chains e && playerId e = targetId) else 0) -
        l.countP (fun e => chains e && playerId e ≠ targetId && playerId e = id) +
        (if id = zombieId then (l.countP (fun e => !chains e && playerId e = targetId) : ℤ)
          else 0) := by
  induction l with
  | nil => simp
  | cons e l ih =>
    simp only [List.countP_cons, Nat.cast_add]
    cases hchains : chains e <;> grind

lemma get_freshId {ν : Type} (m : InsertionMap ℕ ν) : m.get (freshId m) = none := by
  have hle : ∀ ks : List ℕ, ∀ k ∈ ks, k ≤ ks.foldr max 0 := by
    intro ks
    induction ks with
    | nil => exact fun k hk => nomatch hk
    | cons k' ks ih =>
      intro k hk
      rw [List.foldr_cons]
      rcases List.mem_cons.mp hk with rfl | hk
      · exact le_max_left _ _
      · exact (ih k hk).trans (le_max_right _ _)
  by_contra hsome
  obtain ⟨v, hv⟩ := Option.ne_none_iff_exists'.mp hsome
  have hmem := hle m.keys _ (InsertionMap.mem_keys.mpr ⟨v, hv⟩)
  unfold freshId at hmem
  omega

lemma get_addAll (n : ℕ → ℤ) (players : InsertionMap ℕ Player) (id : ℕ) :
    (addAll n players).get id = (players.get id).map fun p =>
      { p with totalRecordings := p.totalRecordings + n id } :=
  InsertionMap.get_mapValues _ _ _

def recordings (players : InsertionMap ℕ Player) (id : ℕ) : ℤ :=
  ((players.get id).map (·.totalRecordings)).getD 0

lemma recordings_withTarget (players : InsertionMap ℕ Player) (target : TargetPlayer) (id : ℕ) :
    recordings (withTarget naming players target) id = recordings players id := by
  cases target with
  | use playerId => rfl
  | create currentName =>
    unfold recordings withTarget
    rw [InsertionMap.get_set]
    split_ifs with hid
    · rw [hid, get_freshId]
      rfl
    · rfl

lemma recordings_withZombie (naming : Naming) {players : InsertionMap ℕ Player}
    {evicted : List ℕ} {targetId : ℕ}
    (hfound : evicted ≠ [] → ∃ p, players.get targetId = some p) (id : ℕ) :
    recordings (withZombie naming evicted targetId players) id =
      recordings players id + if id = freshId players then (evicted.length : ℤ) else 0 := by
  cases evicted with
  | nil => simp [withZombie]
  | cons c evicted =>
    obtain ⟨target, htarget⟩ := hfound nofun
    unfold recordings withZombie
    rw [htarget, InsertionMap.get_set]
    split_ifs with hid
    · rw [hid, get_freshId]
      simp
    · rw [add_zero]

/-! ### Names -/

/-- The player with a name among some players. -/
def named (players : InsertionMap ℕ Player) (normalizedUsername : String) : Option ℕ :=
  (players.entries.find? (·.2.normalizedUsername = normalizedUsername)).map Prod.fst

lemma named_addAll (n : ℕ → ℤ) (players : InsertionMap ℕ Player) (name : String) :
    named (addAll n players) name = named players name := by
  unfold named addAll InsertionMap.mapValues
  rw [List.find?_map, Option.map_map]
  rfl

lemma named_set {players : InsertionMap ℕ Player} {id : ℕ} (h : players.get id = none)
    (player : Player) (name : String) :
    named (players.set id player) name =
      (named players name).or (if player.normalizedUsername = name then some id else none) := by
  unfold named
  rw [InsertionMap.entries_set_of_get h, List.find?_append, List.find?_singleton]
  cases players.entries.find? (·.2.normalizedUsername = name) with
  | none => split_ifs with h₁ h₂ h₂ <;> simp_all
  | some e => rfl

lemma named_withZombie {players : InsertionMap ℕ Player} {evicted : List ℕ} {targetId id : ℕ}
    {name : String} (h : named players name = some id) :
    named (withZombie naming evicted targetId players) name = some id := by
  unfold withZombie
  split
  · rw [named_set (get_freshId players), h]
    rfl
  · exact h

lemma named_withTarget (db : Accounts Custom Own) (name : String) :
    named (withTarget naming db.players (resolveTarget naming db name)) (naming.normalizeRsn name) =
      some ((resolveTarget naming db name).idIn db.players) := by
  unfold resolveTarget
  split
  · rename_i id hid
    exact hid
  · rename_i hnone
    refine (named_set (get_freshId _) _ _).trans ?_
    rw [show named db.players (naming.normalizeRsn name) = none from hnone, if_pos rfl]
    rfl

/-! ### What moves -/

lemma TargetPlayer.isPlayer_eq (hatt : db.Attributed) {key : ℕ × ℕ} {row : ChallengePlayer}
    (hget : db.challengePlayers.get key = some row) (target : TargetPlayer) :
    target.isPlayer row.playerId = decide (row.playerId = target.idIn db.players) := by
  cases target with
  | use playerId => rfl
  | create currentName =>
    obtain ⟨p, hp⟩ := hatt key row hget
    refine (decide_eq_false fun hfresh => ?_).symm
    rw [hfresh] at hp
    exact absurd ((get_freshId db.players).symm.trans hp) nofun

lemma movedBy_eq_true {sources : List SourcePlayer} {playerId challengeId : ℕ} :
    movedBy sources playerId challengeId ↔ (playerId, challengeId) ∈ sourcePairs sources := by
  simp [movedBy, sourcePairs, and_comm]

lemma mem_sourcePairs (hdb : db.Referential) (htiles : Tiles windows) {target : TargetPlayer}
    {pair : ℕ × ℕ} (h : pair ∈ sourcePairs (gatherSourcePlayers naming db windows target)) :
    ∃ key row, db.challengePlayers.get key = some row ∧ isChains naming windows db key.1 row ∧
      target.isPlayer row.playerId = false ∧ row.playerId = pair.1 ∧ key.1 = pair.2 := by
  obtain ⟨e, he, hpair⟩ := List.mem_map.mp ((perm_sourcePairs naming hdb htiles target).mem_iff.mp h)
  obtain ⟨hmem, hchains⟩ := List.mem_filter.mp he
  rw [Bool.and_eq_true, Bool.not_eq_true'] at hchains
  exact ⟨e.1, e.2, InsertionMap.get_eq_some.mpr hmem, hchains.1, hchains.2,
    congrArg Prod.fst hpair, congrArg Prod.snd hpair⟩

lemma playerId_ne_of_mem (hatt : db.Attributed) {target : TargetPlayer} {source : SourcePlayer}
    (h : source ∈ gatherSourcePlayers naming db windows target) :
    source.playerId ≠ target.idIn db.players := by
  obtain ⟨w, -, hsource⟩ := List.mem_flatMap.mp h
  obtain ⟨e, he, rfl⟩ := List.mem_map.mp hsource
  have hkey : e.1 ∈ ((∅ : InsertionMap ℕ (List ℕ)).pushAll
      (matchedRows naming db target w.1)).keys := List.mem_map.mpr ⟨e, he, rfl⟩
  rcases (InsertionMap.keys_pushAll ∅ _).mp hkey with hempty | ⟨c, hpair⟩
  · cases hempty
  · obtain ⟨r, hr, hpair⟩ := List.mem_map.mp ((List.perm_insertionSort _ _).mem_iff.mp hpair)
    obtain ⟨hrow, hmatch⟩ := List.mem_filter.mp hr
    obtain ⟨e', he', ht⟩ := List.mem_flatMap.mp hrow
    obtain ⟨t, -, rfl⟩ := List.mem_map.mp ht
    obtain ⟨-, -, hother⟩ := of_decide_eq_true hmatch
    rw [Bool.not_eq_true', TargetPlayer.isPlayer_eq hatt (InsertionMap.get_eq_some.mpr he')] at hother
    have hplayer : e'.2.playerId = e.1 := congrArg Prod.fst hpair
    rw [hplayer] at hother
    exact of_decide_eq_false hother

lemma movedBy_gatherSourcePlayers (hdb : db.Referential) (hone : OneName naming db)
    (htiles : Tiles windows) (target : TargetPlayer) {key : ℕ × ℕ} {row : ChallengePlayer}
    (hget : db.challengePlayers.get key = some row) :
    movedBy (gatherSourcePlayers naming db windows target) row.playerId key.1 =
      (isChains naming windows db key.1 row && !target.isPlayer row.playerId) := by
  rw [Bool.eq_iff_iff, movedBy_eq_true, Bool.and_eq_true, Bool.not_eq_true']
  constructor
  · intro hmem
    obtain ⟨key', row', hget', hchains, htarget, hplayer, hkey⟩ := mem_sourcePairs hdb htiles hmem
    have hsame : row'.playerId = row.playerId := hplayer
    rw [isChains, hkey, hone key row key' row' hget hget' hkey hsame] at hchains
    exact ⟨hchains, hsame ▸ htarget⟩
  · rintro ⟨hchains, htarget⟩
    refine (perm_sourcePairs naming hdb htiles target).mem_iff.mpr (List.mem_map.mpr ⟨(key, row),
      List.mem_filter.mpr ⟨InsertionMap.get_eq_some.mp hget, ?_⟩, rfl⟩)
    rw [Bool.and_eq_true, Bool.not_eq_true']
    exact ⟨hchains, htarget⟩

lemma findTargetUnownedChallenges_eq (hdb : db.Referential) (hatt : db.Attributed)
    (target : TargetPlayer) :
    findTargetUnownedChallenges naming db windows target =
      ((db.participations (target.idIn db.players)).filter fun e =>
        !isChains naming windows db e.1.1 e.2).map (·.1.1) := by
  cases target with
  | use playerId => exact findTargetUnownedChallenges_use hdb playerId
  | create currentName =>
    have hnone : db.participations (freshId db.players) = [] := by
      refine List.eq_nil_iff_forall_not_mem.mpr fun e he => ?_
      obtain ⟨hget, hplayer⟩ := mem_participations.1 he
      obtain ⟨p, hp⟩ := hatt e.1 e.2 hget
      rw [hplayer, get_freshId] at hp
      cases hp
    exact (congrArg (List.map (·.1.1) ∘ List.filter _) hnone).symm

/-- With one name for each player, the target's participations that are not the chain's are
evicted. -/
lemma mem_findTargetUnownedChallenges (windows : List NameWindow) (hdb : db.Referential)
    (hatt : db.Attributed)
    (hone : OneName naming db) {target : TargetPlayer} {key : ℕ × ℕ} {row : ChallengePlayer}
    (hget : db.challengePlayers.get key = some row)
    (htarget : row.playerId = target.idIn db.players) :
    key.1 ∈ findTargetUnownedChallenges naming db windows target ↔
      isChains naming windows db key.1 row = false := by
  rw [findTargetUnownedChallenges_eq hdb hatt, List.mem_map]
  constructor
  · rintro ⟨e, he, hkey⟩
    obtain ⟨hmem, hchains⟩ := List.mem_filter.mp he
    obtain ⟨hget', hplayer⟩ := mem_participations.1 hmem
    rw [Bool.not_eq_true', isChains, hkey,
      hone key row e.1 e.2 hget hget' hkey (hplayer.trans htarget.symm)] at hchains
    exact hchains
  · intro hchains
    exact ⟨(key, row), List.mem_filter.mpr ⟨mem_participations.2 ⟨hget, htarget⟩, by
      simp [hchains]⟩, rfl⟩

lemma giveTo_giveTo_eq (hdb : db.Referential) (hatt : db.Attributed) (hone : OneName naming db)
    (htiles : Tiles windows) {target : TargetPlayer} {zombieId : ℕ}
    (hfresh : db.players.get zombieId = none) :
    giveTo (target.idIn db.players) (movedBy (gatherSourcePlayers naming db windows target))
        (giveTo zombieId (fun p c => p = target.idIn db.players ∧
          c ∈ findTargetUnownedChallenges naming db windows target) db.challengePlayers) =
      db.challengePlayers.mapValues fun key row => { row with
        playerId := ownerAfter naming windows db (target.idIn db.players) zombieId key.1 row } := by
  unfold giveTo
  rw [InsertionMap.mapValues_mapValues]
  refine InsertionMap.mapValues_congr fun key row hget => ?_
  have hmoved := movedBy_gatherSourcePlayers hdb hone htiles target hget
  rw [TargetPlayer.isPlayer_eq hatt hget] at hmoved
  have hstays : movedBy (gatherSourcePlayers naming db windows target) zombieId key.1 = false := by
    refine Bool.eq_false_iff.mpr fun hmem => ?_
    obtain ⟨key', row', hget', -, -, hplayer, -⟩ :=
      mem_sourcePairs hdb htiles (movedBy_eq_true.1 hmem)
    obtain ⟨p, hp⟩ := hatt key' row' hget'
    rw [hplayer, hfresh] at hp
    cases hp
  unfold ownerAfter
  by_cases htarget : row.playerId = target.idIn db.players
  · have hevicted := mem_findTargetUnownedChallenges windows hdb hatt hone hget htarget
    cases hchains : isChains naming windows db key.1 row with
    | true =>
      rw [hchains] at hevicted
      simp only [hevicted, htarget]
      simp [← htarget]
    | false =>
      rw [hchains] at hevicted
      simp [hevicted, htarget, hstays]
  · rw [decide_eq_false htarget, Bool.not_false, Bool.and_true] at hmoved
    cases hchains : isChains naming windows db key.1 row with
    | true => simp [htarget, hmoved, hchains]
    | false => simp [htarget, hmoved, hchains]

end Rows

/-! ### The outcome -/

section Outcome

variable {naming : Naming} {chain : List ChainTransition} {plan : MigrationPlan}
  {db db' : Accounts Custom Own}

lemma decidePlan_eq_some (hplan : decidePlan naming db chain = some plan) :
    ∃ last, chain.getLast? = some last ∧ deriveNameWindows naming chain = some plan.windows ∧
      plan.target = resolveTarget naming db last.newName ∧
      plan.sourcePlayers = gatherSourcePlayers naming db plan.windows plan.target ∧
      plan.emptiedSourceIds = findEmptiedSources db plan.sourcePlayers ∧
      plan.evictedTargetChallengeIds =
        findTargetUnownedChallenges naming db plan.windows plan.target := by
  obtain ⟨windows, hwindows, hplan⟩ := Option.bind_eq_some_iff.mp hplan
  obtain ⟨last, hlast, hplan⟩ := Option.bind_eq_some_iff.mp hplan
  cases hplan
  exact ⟨last, hlast, hwindows, rfl, rfl, rfl, rfl⟩

lemma decidePlan_settled {windows : List NameWindow} {last : ChainTransition} {targetId : ℕ}
    (hlast : chain.getLast? = some last) (hwindows : deriveNameWindows naming chain = some windows)
    (htiles : Tiles windows) (hdb : db.Referential)
    (hnamed : playerNamed db (naming.normalizeRsn last.newName) = some targetId)
    (hown : ∀ key row, db.challengePlayers.get key = some row →
      (isChains naming windows db key.1 row ↔ row.playerId = targetId)) :
    ∃ plan, decidePlan naming db chain = some plan ∧ plan.target = .use targetId ∧
      plan.sourcePlayers = [] ∧ plan.emptiedSourceIds = [] ∧
        plan.evictedTargetChallengeIds = [] := by
  have htarget : resolveTarget naming db last.newName = .use targetId := by
    unfold resolveTarget
    rw [hnamed]
  have hmatched : ∀ window ∈ windows, matchedRows naming db (.use targetId) window = [] := by
    intro window hwindow
    refine List.length_eq_zero_iff.mp ?_
    rw [matchedRows, List.length_insertionSort, List.length_map, List.length_eq_zero_iff,
      List.filter_eq_nil_iff]
    rintro ⟨e, t⟩ hr hmatch
    obtain ⟨e', he, ht⟩ := List.mem_flatMap.mp hr
    obtain ⟨t', ht, heq⟩ := List.mem_map.mp ht
    cases heq
    obtain ⟨hname, hin, hother⟩ := of_decide_eq_true hmatch
    have hchains : isChains naming windows db e.1.1 e.2 := by
      refine List.any_eq_true.mpr ⟨t, ht, decide_eq_true ?_⟩
      exact (htiles.nameInWindowsAt t _).mpr ⟨window, hwindow, hin, hname.symm⟩
    have hplayer := (hown e.1 e.2 (InsertionMap.get_eq_some.mpr he)).mp hchains
    simp [TargetPlayer.isPlayer, hplayer] at hother
  have hsources : gatherSourcePlayers naming db windows (.use targetId) = [] := by
    refine List.flatMap_eq_nil_iff.mpr fun w hw => ?_
    dsimp only
    rw [hmatched w.1 (List.fst_mem_of_mem_zipIdx hw)]
    rfl
  have hevicted : findTargetUnownedChallenges naming db windows (.use targetId) = [] := by
    rw [findTargetUnownedChallenges_use hdb, List.map_eq_nil_iff, List.filter_eq_nil_iff]
    intro e he
    obtain ⟨hget, hplayer⟩ := mem_participations.1 he
    simp [(hown e.1 e.2 hget).mpr hplayer]
  refine ⟨_, Option.bind_eq_some_iff.mpr ⟨windows, hwindows,
    Option.bind_eq_some_iff.mpr ⟨last, hlast, rfl⟩⟩, htarget, ?_⟩
  rw [htarget, hsources]
  exact ⟨rfl, rfl, hevicted⟩

lemma length_participations_owner {f : (ℕ × ℕ) → ChallengePlayer → ℕ}
    (hrows : db'.challengePlayers =
      db.challengePlayers.mapValues fun key row => { row with playerId := f key row }) (id : ℕ) :
    (db'.participations id).length =
      db.challengePlayers.entries.countP fun e => f e.1 e.2 = id := by
  rw [Accounts.participations, hrows, ← List.countP_eq_length_filter]
  exact List.countP_map

/-- How much the recordings of a player change when a plan is applied. -/
def recordingsGained (plan : MigrationPlan) (targetId id : ℕ) : ℤ :=
  (if id = targetId then ((sourcePairs plan.sourcePlayers).length : ℤ) -
    plan.evictedTargetChallengeIds.length else 0) -
    (sourcePairs plan.sourcePlayers).countP (·.1 = id)

/-- The players once a plan has been applied. -/
def playersAfter (naming : Naming) (plan : MigrationPlan) (db : Accounts Custom Own) :
    InsertionMap ℕ Player :=
  addAll (recordingsGained plan (plan.target.idIn db.players))
    (withZombie naming plan.evictedTargetChallengeIds (plan.target.idIn db.players)
      (withTarget naming db.players plan.target))

def zombieIdIn (naming : Naming) (plan : MigrationPlan) (db : Accounts Custom Own) : ℕ :=
  freshId (withTarget naming db.players plan.target)

lemma get_zombieIdIn (naming : Naming) (plan : MigrationPlan) (db : Accounts Custom Own) :
    db.players.get (zombieIdIn naming plan db) = none := by
  have hfresh := get_freshId (withTarget naming db.players plan.target)
  unfold zombieIdIn
  generalize freshId (withTarget naming db.players plan.target) = zombieId at hfresh
  cases htarget : plan.target with
  | use playerId =>
    rw [htarget] at hfresh
    exact hfresh
  | create currentName =>
    rw [htarget, withTarget, InsertionMap.get_set] at hfresh
    split_ifs at hfresh
    exact hfresh

lemma recordingsGained_eq (hdb : db.Referential) (hatt : db.Attributed)
    (htiles : Tiles plan.windows)
    (hsources : plan.sourcePlayers = gatherSourcePlayers naming db plan.windows plan.target)
    (hevicted : plan.evictedTargetChallengeIds =
      findTargetUnownedChallenges naming db plan.windows plan.target) (zombieId id : ℕ) :
    (db.challengePlayers.entries.countP (fun e => ownerAfter naming plan.windows db
        (plan.target.idIn db.players) zombieId e.1.1 e.2 = id) : ℤ) -
        (db.participations id).length =
      recordingsGained plan (plan.target.idIn db.players) id +
        if id = zombieId then (plan.evictedTargetChallengeIds.length : ℤ) else 0 := by
  have hperm := perm_sourcePairs naming hdb htiles plan.target
  rw [← hsources] at hperm
  have hplayer : ∀ e ∈ db.challengePlayers.entries, (isChains naming plan.windows db e.1.1 e.2 &&
      !plan.target.isPlayer e.2.playerId) = (isChains naming plan.windows db e.1.1 e.2 &&
        decide (e.2.playerId ≠ plan.target.idIn db.players)) := by
    intro e he
    rw [TargetPlayer.isPlayer_eq hatt (InsertionMap.get_eq_some.mpr he), decide_not]
  rw [List.filter_congr hplayer] at hperm
  have hlost : (sourcePairs plan.sourcePlayers).countP (·.1 = id) =
      db.challengePlayers.entries.countP fun e => isChains naming plan.windows db e.1.1 e.2 &&
        decide (e.2.playerId ≠ plan.target.idIn db.players) && decide (e.2.playerId = id) := by
    rw [hperm.countP_eq, List.countP_map, List.countP_filter]
    refine List.countP_congr fun e _ => ?_
    simp only [Function.comp_apply, Bool.and_eq_true]
    tauto
  have hgained : (sourcePairs plan.sourcePlayers).length =
      db.challengePlayers.entries.countP fun e => isChains naming plan.windows db e.1.1 e.2 &&
        decide (e.2.playerId ≠ plan.target.idIn db.players) := by
    rw [hperm.length_eq, List.length_map, List.countP_eq_length_filter]
  have hgone : plan.evictedTargetChallengeIds.length =
      db.challengePlayers.entries.countP fun e => !isChains naming plan.windows db e.1.1 e.2 &&
        decide (e.2.playerId = plan.target.idIn db.players) := by
    rw [hevicted, findTargetUnownedChallenges_eq hdb hatt, List.length_map,
      ← List.countP_eq_length_filter, Accounts.participations, List.countP_filter]
  rw [recordingsGained, hlost, hgained, hgone, Accounts.participations,
    ← List.countP_eq_length_filter]
  exact countP_owner _ _ _ _ _ _

lemma mem_findEmptiedSources {sources : List SourcePlayer} {id : ℕ}
    (h : id ∈ findEmptiedSources db sources) : ∃ c, (id, c) ∈ sourcePairs sources := by
  obtain ⟨e, he, rfl⟩ := List.mem_map.mp h
  have hkey : e.1 ∈ (idsBySource sources).keys :=
    List.mem_map.mpr ⟨e, (List.mem_filter.mp he).1, rfl⟩
  rcases (InsertionMap.keys_pushAll ∅ _).mp hkey with hempty | hpair
  · cases hempty
  · exact hpair

lemma not_mem_emptiedSourceIds (hdb : db.Referential) (hatt : db.Attributed)
    (htiles : Tiles plan.windows)
    (hsources : plan.sourcePlayers = gatherSourcePlayers naming db plan.windows plan.target)
    (hemptied : plan.emptiedSourceIds = findEmptiedSources db plan.sourcePlayers) {id : ℕ}
    (hid : id = plan.target.idIn db.players ∨ db.players.get id = none) :
    id ∉ plan.emptiedSourceIds := by
  intro hmem
  rw [hemptied] at hmem
  obtain ⟨c, hpair⟩ := mem_findEmptiedSources hmem
  rw [hsources] at hpair
  obtain ⟨key, row, hget, -, htarget, hplayer, -⟩ := mem_sourcePairs hdb htiles hpair
  rcases hid with hid | hid
  · rw [TargetPlayer.isPlayer_eq hatt hget] at htarget
    exact of_decide_eq_false htarget (hplayer.trans hid)
  · obtain ⟨p, hp⟩ := hatt key row hget
    rw [hplayer, hid] at hp
    cases hp

lemma recordings_playersAfter (hfound : plan.evictedTargetChallengeIds ≠ [] → ∃ p,
      (withTarget naming db.players plan.target).get (plan.target.idIn db.players) = some p)
    {id : ℕ} {p : Player} (hp : (playersAfter naming plan db).get id = some p) :
    p.totalRecordings - recordings db.players id =
      recordingsGained plan (plan.target.idIn db.players) id +
        if id = zombieIdIn naming plan db then (plan.evictedTargetChallengeIds.length : ℤ)
        else 0 := by
  rw [playersAfter, get_addAll, Option.map_eq_some_iff] at hp
  obtain ⟨q, hq, rfl⟩ := hp
  have hrecordings := recordings_withZombie naming hfound id
  rw [recordings_withTarget, recordings, hq] at hrecordings
  simp only [Option.map_some, Option.getD_some] at hrecordings
  rw [hrecordings, zombieIdIn]
  ring

lemma get_playersAfter_zombie (hne : plan.evictedTargetChallengeIds ≠ []) {target : Player}
    (htarget : (withTarget naming db.players plan.target).get (plan.target.idIn db.players) =
      some target) :
    plan.target.idIn db.players ≠ zombieIdIn naming plan db ∧ ∃ target' zombie,
      (playersAfter naming plan db).get (plan.target.idIn db.players) = some target' ∧
        (playersAfter naming plan db).get (zombieIdIn naming plan db) = some zombie ∧
          zombie.username = zombieName target'.username := by
  have hfresh : plan.target.idIn db.players ≠
      freshId (withTarget naming db.players plan.target) := by
    intro hsame
    rw [hsame, get_freshId] at htarget
    cases htarget
  refine ⟨hfresh, ?_⟩
  unfold playersAfter withZombie zombieIdIn
  obtain ⟨c, evicted, hevicted⟩ := List.exists_cons_of_ne_nil hne
  simp only [hevicted, htarget]
  rw [get_addAll, get_addAll, InsertionMap.get_set, InsertionMap.get_set, if_neg hfresh, htarget,
    if_pos rfl]
  exact ⟨_, _, rfl, rfl, rfl⟩

lemma Consolidated.of_records (hplan : decidePlan naming db chain = some plan)
    (hvalid : validateChain naming chain = none) (hdb : db.Referential) (hatt : db.Attributed)
    (hone : OneName naming db)
    (hfound : plan.evictedTargetChallengeIds ≠ [] → ∃ p,
      (withTarget naming db.players plan.target).get (plan.target.idIn db.players) = some p)
    (hrows : db'.challengePlayers = db.challengePlayers.mapValues fun key row => { row with
      playerId := ownerAfter naming plan.windows db (plan.target.idIn db.players)
        (zombieIdIn naming plan db) key.1 row })
    (hchallenges : db'.challenges = db.challenges)
    (hplayers : ∀ id p, db'.players.get id = some p → (playersAfter naming plan db).get id = some p)
    (hkept : ∀ id, id ∉ plan.emptiedSourceIds →
      db'.players.get id = (playersAfter naming plan db).get id)
    (hnamed : ∀ name, named (playersAfter naming plan db) name =
      some (plan.target.idIn db.players) → named db'.players name =
        some (plan.target.idIn db.players)) :
    Consolidated naming chain plan.windows db db' (plan.target.idIn db.players)
      (zombieIdIn naming plan db) := by
  obtain ⟨last, hlast, hwindows, htarget, hsources, hemptied, hevicted⟩ := decidePlan_eq_some hplan
  have htiles := tiles_deriveNameWindows hvalid hwindows
  have hget : ∀ key row, db.challengePlayers.get key = some row →
      db'.challengePlayers.get key = some { row with
        playerId := ownerAfter naming plan.windows db (plan.target.idIn db.players)
          (zombieIdIn naming plan db) key.1 row } := by
    intro key row hrow
    rw [hrows, InsertionMap.get_mapValues, hrow, Option.map_some]
  have hzombie : ∀ key row, db.challengePlayers.get key = some row →
      row.playerId = plan.target.idIn db.players →
        isChains naming plan.windows db key.1 row = false →
          plan.target.idIn db.players ≠ zombieIdIn naming plan db ∧ ∃ target zombie,
            (playersAfter naming plan db).get (plan.target.idIn db.players) = some target ∧
              (playersAfter naming plan db).get (zombieIdIn naming plan db) = some zombie ∧
                zombie.username = zombieName target.username := by
    intro key row hrow hplayer hchains
    have hne : plan.evictedTargetChallengeIds ≠ [] := by
      rw [hevicted]
      exact List.ne_nil_of_mem
        ((mem_findTargetUnownedChallenges _ hdb hatt hone hrow hplayer).mpr hchains)
    obtain ⟨p, hp⟩ := hfound hne
    exact get_playersAfter_zombie hne hp
  have hstart : ∀ c row, isChains naming plan.windows db' c row =
      isChains naming plan.windows db c row := by
    intro c row
    unfold isChains Accounts.startTimes Database.challengesById
    rw [hchallenges]
  refine ⟨?_, hget, ?_, ?_, ?_⟩
  · rw [hrows]
    simp [InsertionMap.keys, InsertionMap.mapValues]
  · intro key row hrow hplayer hchains
    obtain ⟨-, hboth⟩ := hzombie key row hrow hplayer hchains
    rw [hkept _ (not_mem_emptiedSourceIds hdb hatt htiles hsources hemptied (.inl rfl)),
      hkept _ (not_mem_emptiedSourceIds hdb hatt htiles hsources hemptied
        (.inr (get_zombieIdIn naming plan db)))]
    exact ⟨get_zombieIdIn naming plan db, hboth⟩
  · intro id p hp
    rw [length_participations_owner hrows,
      recordingsGained_eq hdb hatt htiles hsources hevicted]
    exact recordings_playersAfter hfound (hplayers id p hp)
  · refine decidePlan_settled hlast hwindows htiles ?_ ?_ ?_
    · intro key row' hrow'
      rw [hrows, InsertionMap.get_mapValues, Option.map_eq_some_iff] at hrow'
      obtain ⟨row, hrow, -⟩ := hrow'
      unfold Database.challengesById
      rw [hchallenges]
      exact hdb key row hrow
    · refine hnamed _ ((named_addAll _ _ _).trans (named_withZombie ?_))
      rw [htarget]
      exact named_withTarget db last.newName
    · intro key row' hrow'
      rw [hrows, InsertionMap.get_mapValues, Option.map_eq_some_iff] at hrow'
      obtain ⟨row, hrow, rfl⟩ := hrow'
      rw [hstart]
      change isChains naming plan.windows db key.1 row = true ↔ _
      dsimp only [ownerAfter]
      by_cases hchains : isChains naming plan.windows db key.1 row
      · simp [hchains]
      · by_cases hplayer : row.playerId = plan.target.idIn db.players
        · obtain ⟨hne, -⟩ := hzombie key row hrow hplayer (Bool.eq_false_iff.mpr hchains)
          simp [hchains, hplayer, hne.symm]
        · simp [hchains, hplayer]

/-! ### Deleting what is empty -/

lemma named_erase {players : InsertionMap ℕ Player} {name : String} {targetId id : ℕ}
    (h : named players name = some targetId) (hne : targetId ≠ id) :
    named (players.erase id) name = some targetId := by
  obtain ⟨e, hfind, rfl⟩ := Option.map_eq_some_iff.mp h
  obtain ⟨hname, before, after, hsplit, hbefore⟩ := List.find?_eq_some_iff_append.mp hfind
  have herase : (players.erase id).entries =
      before.filter (·.1 ≠ id) ++ e :: after.filter (·.1 ≠ id) := by
    refine (congrArg (List.filter _) hsplit).trans ?_
    rw [List.filter_append, List.filter_cons_of_pos (by simpa using hne)]
  refine Option.map_eq_some_iff.mpr ⟨e, ?_, rfl⟩
  refine List.find?_eq_some_iff_append.mpr ⟨hname, _, _, herase, fun e' he' => ?_⟩
  exact hbefore e' (List.mem_filter.mp he').1

/-- Some players may have been deleted, without their leaving any participation. -/
structure Trimmed (ids : List ℕ) (db db' : Accounts Custom Own) : Prop where
  rows : db'.challengePlayers = db.challengePlayers
  challenges : db'.challenges = db.challenges
  players : ∀ id p, db'.players.get id = some p → db.players.get id = some p
  kept : ∀ id, id ∉ ids → db'.players.get id = db.players.get id
  named : ∀ name id, id ∉ ids → named db.players name = some id → named db'.players name = some id

lemma Trimmed.refl (ids : List ℕ) (db : Accounts Custom Own) : Trimmed ids db db :=
  ⟨rfl, rfl, fun _ _ h => h, fun _ _ => rfl, fun _ _ _ h => h⟩

lemma trimmed_deletePlayer {id : ℕ} (h : db.participations id = []) :
    Trimmed [id] db (db.deletePlayer id) := by
  have hget : ∀ id', (db.deletePlayer id).players.get id' =
      if id' = id then none else db.players.get id' := fun id' => InsertionMap.get_erase _ _ _
  have hrows : (db.deletePlayer id).challengePlayers = db.challengePlayers := by
    have hnone := List.filter_eq_nil_iff.mp h
    have hself : (db.deletePlayer id).challengePlayers.entries = db.challengePlayers.entries :=
      List.filter_eq_self.mpr fun e he => by simpa using hnone e he
    cases hdb : db.challengePlayers
    cases hdb' : (db.deletePlayer id).challengePlayers
    simpa [hdb, hdb'] using hself
  refine ⟨hrows, rfl, fun id' p hp => ?_, fun id' hid => ?_, fun name id' hid hname => ?_⟩
  · rw [hget] at hp
    split_ifs at hp
    exact hp
  · rw [hget, if_neg (List.ne_of_not_mem_cons hid)]
  · exact named_erase hname (List.ne_of_not_mem_cons hid)

lemma Trimmed.cons {id : ℕ} {ids : List ℕ} {db₁ : Accounts Custom Own}
    (h : Trimmed [id] db db₁) (h₁ : Trimmed ids db₁ db') : Trimmed (id :: ids) db db' := by
  refine ⟨h₁.rows.trans h.rows, h₁.challenges.trans h.challenges,
    fun id' p hp => h.players id' p (h₁.players id' p hp), fun id' hid => ?_,
    fun name id' hid hname => ?_⟩
  · have hids := List.not_mem_of_not_mem_cons hid
    have hfirst := List.mem_singleton.not.mpr (List.ne_of_not_mem_cons hid)
    exact (h₁.kept id' hids).trans (h.kept id' hfirst)
  · have hids := List.not_mem_of_not_mem_cons hid
    have hfirst := List.mem_singleton.not.mpr (List.ne_of_not_mem_cons hid)
    exact h₁.named name id' hids (h.named name id' hfirst hname)

lemma trimmed_deleteEmptiedSources (ids : List ℕ) (db : Accounts Custom Own) :
    Trimmed ids db (deleteEmptiedSources ids db) := by
  induction ids generalizing db with
  | nil => exact Trimmed.refl [] db
  | cons id ids ih =>
    have hfirst : Trimmed [id] db (if db.participations id = [] then db.deletePlayer id else db) := by
      split_ifs with hnone
      · exact trimmed_deletePlayer hnone
      · exact Trimmed.refl [id] db
    exact hfirst.cons (ih _)

/-- **A historic name change is exact and settles.** When the plan that is decided for a chain has
been applied, and also when the players that it empties have been deleted then, every participation
of the chain's player is the target's and what else the target had is its zombie's, the other
participations are untouched, recordings change as participations do, and deciding again moves
nothing. -/
theorem historic_name_change_consolidates {targetId n : ℕ}
    (hvalid : validateChain naming chain = none) (hdb : db.Referential) (hatt : db.Attributed)
    (hone : OneName naming db) (hplan : decidePlan naming db chain = some plan)
    (hrun : (applyPlan naming plan).run db = .ok ((targetId, n), db')) :
    ∃ zombieId, Consolidated naming chain plan.windows db db' targetId zombieId ∧
      Consolidated naming chain plan.windows db
        (deleteEmptiedSources plan.emptiedSourceIds db') targetId zombieId := by
  obtain ⟨last, hlast, hwindows, htarget, hsources, hemptied, hevicted⟩ := decidePlan_eq_some hplan
  have htiles := tiles_deriveNameWindows hvalid hwindows
  have hother : ∀ s ∈ plan.sourcePlayers, s.playerId ≠ plan.target.idIn db.players := by
    rw [hsources]
    exact fun s hs => playerId_ne_of_mem hatt hs
  obtain ⟨rfl, hfound, hrecords⟩ := records_applyPlan hrun hother
  simp only [records, Prod.mk.injEq] at hrecords
  obtain ⟨hplayers, hchallenges, hrows, -⟩ := hrecords
  have hafter : db'.players = playersAfter naming plan db := hplayers
  rw [hsources, hevicted] at hrows
  have howned := hrows.trans
    (giveTo_giveTo_eq hdb hatt hone htiles (get_zombieIdIn naming plan db))
  have htrimmed := trimmed_deleteEmptiedSources plan.emptiedSourceIds db'
  refine ⟨zombieIdIn naming plan db, ?_, ?_⟩
  · refine .of_records hplan hvalid hdb hatt hone hfound howned hchallenges ?_ ?_ ?_
    · exact fun id p hp => hafter ▸ hp
    · exact fun id _ => by rw [hafter]
    · exact fun name hname => hafter ▸ hname
  · have htarget := not_mem_emptiedSourceIds hdb hatt htiles hsources hemptied (.inl rfl)
    refine .of_records hplan hvalid hdb hatt hone hfound (htrimmed.rows.trans howned)
      (htrimmed.challenges.trans hchallenges) ?_ ?_ ?_
    · exact fun id p hp => hafter ▸ htrimmed.players id p hp
    · exact fun id hid => by rw [htrimmed.kept id hid, hafter]
    · exact fun name hname => htrimmed.named name _ htarget (hafter ▸ hname)

/-- Two records of a player that was named foo and is named baz. The second one also has a challenge
of before, of someone else with its name, or else the first one is in a challenge twice. -/
def scattered (oneName : Bool) : Accounts Unit Unit where
  challenges := ((∅ : InsertionMap Uuid Challenge).set 1 (startedChallenge 1 10 Nat.zero_lt_one)).set
    2 (startedChallenge 2 20 Nat.zero_lt_two)
  processingState := ∅
  challengePlayers :=
    (((∅ : InsertionMap (ℕ × ℕ) ChallengePlayer).set (1, 0) ⟨1, "foo", .unknown, []⟩).set (1, 1)
      (if oneName then ⟨2, "baz", .unknown, []⟩ else ⟨1, "bar", .unknown, []⟩)).set
        (2, 0) ⟨2, "baz", .unknown, []⟩
  recordedChallenges := ∅
  challengeSplits := ∅
  personalBestHistory := ∅
  queryableEvents := ∅
  sessions := ∅
  players := ((∅ : InsertionMap ℕ Player).set 1 ⟨"foo", "foo", if oneName then 1 else 2⟩).set 2
    ⟨"baz", "baz", if oneName then 2 else 1⟩
  playerStats := ∅
  processorRows := ∅
  experience := ∅
  apiKeys := ∅
  nameChanges := ∅

def fooToBaz : List ChainTransition := [⟨"foo", "baz", 15⟩]

lemma scattered_referential (oneName : Bool) : (scattered oneName).Referential := by
  intro key row hget
  have hall : ∀ e ∈ (scattered oneName).challengePlayers.entries,
      ((scattered oneName).challengesById e.1.1).length = 1 := by
    cases oneName <;> decide
  exact List.length_eq_one_iff.mp (hall (key, row) (InsertionMap.get_eq_some.mp hget))

lemma scattered_attributed (oneName : Bool) : (scattered oneName).Attributed := by
  intro key row hget
  have hall : ∀ e ∈ (scattered oneName).challengePlayers.entries,
      ((scattered oneName).players.get e.2.playerId).isSome := by
    cases oneName <;> decide
  exact Option.isSome_iff_exists.mp (hall (key, row) (InsertionMap.get_eq_some.mp hget))

lemma scattered_oneName : OneName plainNaming (scattered true) := by
  intro key row key' row' hget hget' hkey hplayer
  have hall : ∀ e ∈ (scattered true).challengePlayers.entries,
      ∀ e' ∈ (scattered true).challengePlayers.entries, e'.1.1 = e.1.1 →
        e'.2.playerId = e.2.playerId →
          plainNaming.normalizeRsn e'.2.username = plainNaming.normalizeRsn e.2.username := by
    decide +kernel
  exact hall (key, row) (InsertionMap.get_eq_some.mp hget) (key', row')
    (InsertionMap.get_eq_some.mp hget') hkey hplayer

lemma run_scattered (oneName : Bool) : ∃ plan n db',
    decidePlan plainNaming (scattered oneName) fooToBaz = some plan ∧
      (applyPlan plainNaming plan).run (scattered oneName) = .ok ((2, n), db') := by
  have hrun : ((decidePlan plainNaming (scattered oneName) fooToBaz).bind fun plan =>
      ((applyPlan plainNaming plan).run (scattered oneName)).toOption).map (·.1.1) = some 2 := by
    cases oneName <;> decide +kernel
  obtain ⟨⟨⟨id, n⟩, db'⟩, hrun, hid⟩ := Option.map_eq_some_iff.mp hrun
  obtain ⟨plan, hplan, hrun⟩ := Option.bind_eq_some_iff.mp hrun
  cases hid
  refine ⟨plan, n, db', hplan, ?_⟩
  cases hresult : (applyPlan plainNaming plan).run (scattered oneName) with
  | error e =>
    rw [hresult] at hrun
    cases hrun
  | ok result =>
    rw [hresult] at hrun
    exact congrArg Except.ok (Option.some.inj hrun)

/-- A record takes over the challenge of another one, and loses an earlier one to its zombie. -/
theorem scattered_records_consolidate : ∃ plan n db' zombieId,
    (applyPlan plainNaming plan).run (scattered true) = .ok ((2, n), db') ∧
      Consolidated plainNaming fooToBaz plan.windows (scattered true) db' 2 zombieId := by
  obtain ⟨plan, n, db', hplan, hrun⟩ := run_scattered true
  obtain ⟨zombieId, hconsolidated, -⟩ := historic_name_change_consolidates (by decide)
    (scattered_referential true) (scattered_attributed true) scattered_oneName hplan hrun
  exact ⟨plan, n, db', zombieId, hrun, hconsolidated⟩

/-- The other participation of a player in a challenge moves along. -/
theorem second_participation_moves : ∃ plan n db',
    validateChain plainNaming fooToBaz = none ∧ (scattered false).Referential ∧
      (scattered false).Attributed ∧
      decidePlan plainNaming (scattered false) fooToBaz = some plan ∧
      (applyPlan plainNaming plan).run (scattered false) = .ok ((2, n), db') ∧
      ∀ zombieId, ¬ Consolidated plainNaming fooToBaz plan.windows (scattered false) db' 2
        zombieId := by
  obtain ⟨plan, n, db', hplan, hrun⟩ := run_scattered false
  refine ⟨plan, n, db', by decide, scattered_referential false, scattered_attributed false,
    hplan, hrun, fun zombieId hconsolidated => ?_⟩
  have hmoved : ((decidePlan plainNaming (scattered false) fooToBaz).bind fun plan =>
      ((applyPlan plainNaming plan).run (scattered false)).toOption.map fun result =>
        (isChains plainNaming plan.windows (scattered false) 1 ⟨1, "bar", .unknown, []⟩,
          result.2.challengePlayers.get (1, 1))) =
        some (false, some ⟨2, "bar", .unknown, []⟩) := by
    decide +kernel
  rw [hplan, Option.bind_some, hrun] at hmoved
  obtain ⟨hother, hmoved⟩ := Prod.mk.inj (Option.some.inj hmoved)
  have hstays := hconsolidated.attributed (1, 1) ⟨1, "bar", .unknown, []⟩ rfl
  rw [ownerAfter, hother] at hstays
  cases hmoved.symm.trans hstays

end Outcome

end Blert.Names

import Blert.StageState.PlayerState

/-!
What a player's states are, in closed form.

Processed tick by tick, a player's states depend on their events alone; the heals and Dawnbringer
attacks of a tick are added to them. Extending states of this form to more ticks gives states of
this form again.
-/

namespace Blert.StageState

variable (getItemName : ℕ → String)

/-! ### Processing ticks -/

/-- A player's states after the first ticks have been processed, with nothing added to them. -/
def trackPlayer (p : String) (byTick : ℕ → List Obj) : ℕ → PlayerEntry
  | 0 => { length := 0 }
  | T + 1 =>
    (processPlayerTick getItemName p T (trackPlayer p byTick T) {} (byTick T)).1

def PlayerEntry.fill (length : ℕ) (custom : ℕ → List CustomPlayerState) (e : PlayerEntry) :
    PlayerEntry where
  length := length
  stateByTick t := (e.stateByTick t).map fun s => { s with customState := custom t }
  cursor := e.cursor

@[simp] lemma read_customState (s : PlayerState) (o : Obj) :
    (s.read getItemName o).customState = s.customState := by
  unfold PlayerState.read
  split <;> rfl

@[simp] lemma foldl_read_customState (os : List Obj) (s : PlayerState) :
    (os.foldl (PlayerState.read getItemName) s).customState = s.customState := by
  induction os generalizing s with
  | nil => rfl
  | cons o os ih => simp [ih]

lemma processPlayerTick_snd (p : String) (t : ℕ) (e : PlayerEntry) (w : Writes) (os : List Obj) :
    (processPlayerTick getItemName p t e w os).2 =
      (os.filter (·.event.belongsToPlayer p)).foldl (nameWeapon getItemName) w := by
  unfold processPlayerTick
  by_cases hos : os = []
  · simp [hos]
  · simp [hos]

lemma lastEquipment_fill (e : PlayerEntry) (n : ℕ) (custom : ℕ → List CustomPlayerState) :
    (e.fill n custom).lastEquipment = e.lastEquipment := by
  simp only [PlayerEntry.lastEquipment, PlayerEntry.fill]
  cases e.cursor.lastActiveTick with
  | none => rfl
  | some last => cases h : e.stateByTick last <;> simp [h]

lemma playerStateThisTick_fill (p : String) (t n : ℕ) (custom : ℕ → List CustomPlayerState)
    (e : PlayerEntry) (mine : List Obj) :
    playerStateThisTick getItemName p t (e.fill n custom) mine =
      playerStateThisTick getItemName p t e mine := by
  unfold playerStateThisTick
  rw [lastEquipment_fill]
  rfl

lemma playerStateThisTick_customState {p : String} {t : ℕ} {e : PlayerEntry} {mine : List Obj}
    {s : PlayerState} (h : playerStateThisTick getItemName p t e mine = some s) :
    s.customState = [] := by
  unfold playerStateThisTick at h
  split_ifs at h with hmine hdead
  · obtain rfl := by simpa using h
    simp [PlayerState.start]
  · obtain rfl := by simpa using h
    rfl

lemma processPlayerTick_fill (p : String) {t n : ℕ} {custom : ℕ → List CustomPlayerState}
    (hcustom : custom t = []) (e : PlayerEntry) (w w' : Writes) (os : List Obj) :
    (processPlayerTick getItemName p t (e.fill n custom) w os).1 =
      (processPlayerTick getItemName p t e w' os).1.fill n custom := by
  unfold processPlayerTick
  by_cases hos : os = []
  · simp [hos]
  · simp only [hos, if_false, playerStateThisTick_fill]
    simp only [PlayerEntry.fill, PlayerEntry.mk.injEq, true_and, and_true]
    funext t'
    by_cases ht : t' = t
    · subst ht
      cases hs : playerStateThisTick getItemName p t' e
        (os.filter (·.event.belongsToPlayer p)) with
      | none => simp
      | some s =>
        have hempty := playerStateThisTick_customState getItemName hs
        simp only [Function.update_self, Option.map_some, Option.some.injEq]
        rw [hcustom, ← hempty]
    · simp [ht]

/-- The weapon name that is written into an attack. -/
def weaponNameOf (o : Obj) : Option String :=
  match o.event.payload with
  | .playerAttack _ attack => attack.weapon.map fun weapon => getItemName weapon.id
  | _ => none

lemma nameWeapon_eq (w : Writes) (o : Obj) :
    nameWeapon getItemName w o =
      { w with
        weaponName := fun k =>
          if k = o then (weaponNameOf getItemName k).or (w.weaponName k) else w.weaponName k } := by
  unfold nameWeapon
  split
  · rename_i attack heq
    cases hw : attack.weapon with
    | none =>
      have hnone : weaponNameOf getItemName o = none := by simp [weaponNameOf, heq, hw]
      refine Writes.ext rfl rfl (funext fun k => ?_) rfl
      by_cases hk : k = o
      · subst hk
        simp [hnone]
      · simp [hk]
    | some weapon =>
      have hsome : weaponNameOf getItemName o = some (getItemName weapon.id) := by
        simp [weaponNameOf, heq, hw]
      refine Writes.ext rfl rfl (funext fun k => ?_) rfl
      by_cases hk : k = o
      · subst hk
        simp [hsome, Writes.setWeaponName]
      · simp [hk, Writes.setWeaponName]
  · rename_i hother
    have hnone : weaponNameOf getItemName o = none := by
      unfold weaponNameOf
      split
      · rename_i heq
        exact absurd heq (hother _ _)
      · rfl
    refine Writes.ext rfl rfl (funext fun k => ?_) rfl
    by_cases hk : k = o
    · subst hk
      simp [hnone]
    · simp [hk]

lemma foldl_nameWeapon (w : Writes) (os : List Obj) :
    os.foldl (nameWeapon getItemName) w =
      { w with
        weaponName := fun k =>
          if k ∈ os then (weaponNameOf getItemName k).or (w.weaponName k)
          else w.weaponName k } := by
  induction os generalizing w with
  | nil => simp
  | cons o os ih =>
    rw [List.foldl_cons, ih, nameWeapon_eq]
    refine Writes.ext rfl rfl (funext fun k => ?_) rfl
    by_cases hk : k = o
    · subst hk
      by_cases hkos : k ∈ os
      · simp [hkos, ← Option.or_assoc]
      · simp [hkos]
    · simp [hk]

/-- The names written while a range of ticks is processed for a player. -/
def nameWeapons (p : String) (byTick : ℕ → List Obj) (T k : ℕ) (w : Writes) : Writes where
  attack := w.attack
  target := w.target
  weaponName o :=
    if T ≤ o.event.tick ∧ o.event.tick < T + k ∧ o ∈ byTick o.event.tick ∧
        o.event.belongsToPlayer p = true then
      (weaponNameOf getItemName o).or (w.weaponName o)
    else w.weaponName o
  damage := w.damage

lemma foldl_processPlayerTick (p : String) {byTick : ℕ → List Obj}
    (hbyTick : ∀ t, ∀ o ∈ byTick t, o.event.tick = t) {T n : ℕ}
    {custom : ℕ → List CustomPlayerState} (hcustom : ∀ t, T ≤ t → custom t = []) (w : Writes)
    (k : ℕ) :
    (List.range' T k).foldl
        (fun (acc : PlayerEntry × Writes) tick =>
          processPlayerTick getItemName p tick acc.1 acc.2 (byTick tick))
        ((trackPlayer getItemName p byTick T).fill n custom, w) =
      ((trackPlayer getItemName p byTick (T + k)).fill n custom,
        nameWeapons getItemName p byTick T k w) := by
  induction k with
  | zero =>
    have hw : nameWeapons getItemName p byTick T 0 w = w := by
      refine Writes.ext rfl rfl (funext fun o => ?_) rfl
      simp only [nameWeapons]
      rw [if_neg (by omega)]
    simp [hw]
  | succ k ih =>
    rw [List.range'_concat, List.foldl_append, ih]
    simp only [List.foldl_cons, List.foldl_nil, one_mul]
    refine Prod.ext ?_ ?_
    · rw [processPlayerTick_fill getItemName p (hcustom _ (by omega)) _ _ {}]
      rfl
    · rw [processPlayerTick_snd, foldl_nameWeapon]
      refine Writes.ext rfl rfl (funext fun o => ?_) rfl
      simp only [nameWeapons, List.mem_filter]
      by_cases ho : o ∈ byTick (T + k)
      · have ht := hbyTick _ o ho
        by_cases hp : o.event.belongsToPlayer p = true
        · simp [ho, hp, ht]
        · simp [hp]
      · have hne : o ∈ byTick o.event.tick → o.event.tick ≠ T + k := by
          intro h heq
          exact ho (heq ▸ h)
        simp only [ho, false_and, if_false]
        by_cases hin : o ∈ byTick o.event.tick
        · have := hne hin
          have hiff : (T ≤ o.event.tick ∧ o.event.tick < T + k ∧ o ∈ byTick o.event.tick ∧
              o.event.belongsToPlayer p = true) ↔
              (T ≤ o.event.tick ∧ o.event.tick < T + (k + 1) ∧ o ∈ byTick o.event.tick ∧
              o.event.belongsToPlayer p = true) := by
            constructor
            · exact fun h => ⟨h.1, by omega, h.2.2⟩
            · exact fun h => ⟨h.1, by omega, h.2.2⟩
          simp only [hiff]
        · simp [hin]

section Track

variable {getItemName} {p : String} {byTick byTick' : ℕ → List Obj}

lemma processPlayerTick_stateByTick {t t' : ℕ} (h : t' ≠ t) (e : PlayerEntry) (w : Writes)
    (os : List Obj) :
    (processPlayerTick getItemName p t e w os).1.stateByTick t' = e.stateByTick t' := by
  unfold processPlayerTick
  by_cases hos : os = []
  · simp [hos]
  · simp [hos, h]

lemma trackPlayer_of_le {T t : ℕ} (h : T ≤ t) :
    (trackPlayer getItemName p byTick T).stateByTick t = none := by
  induction T with
  | zero => rfl
  | succ T ih =>
    simp only [trackPlayer]
    rw [processPlayerTick_stateByTick (by omega)]
    exact ih (by omega)

lemma trackPlayer_of_lt {T t : ℕ} (h : t < T) :
    (trackPlayer getItemName p byTick T).stateByTick t =
      (trackPlayer getItemName p byTick (t + 1)).stateByTick t := by
  induction T with
  | zero => omega
  | succ T ih =>
    by_cases ht : t = T
    · rw [ht]
    · rw [← ih (by omega)]
      exact processPlayerTick_stateByTick ht _ _ _

lemma trackPlayer_congr {T : ℕ} (h : ∀ t < T, byTick t = byTick' t) :
    trackPlayer getItemName p byTick T = trackPlayer getItemName p byTick' T := by
  induction T with
  | zero => rfl
  | succ T ih =>
    simp only [trackPlayer]
    rw [ih fun t ht => h t (by omega), h T (by omega)]

lemma foldl_read_attack {os : List Obj} {s : PlayerState} {o : Obj}
    (h : (os.foldl (PlayerState.read getItemName) s).attack = some o) :
    s.attack = some o ∨ o ∈ os := by
  induction os generalizing s with
  | nil => exact Or.inl h
  | cons x os ih =>
    rcases ih h with hx | hx
    · unfold PlayerState.read at hx
      split at hx
      · exact Or.inl hx
      · exact Or.inl hx
      · obtain rfl : x = o := by simpa using hx
        exact Or.inr (by simp)
      · exact Or.inl hx
      · exact Or.inl hx
    · exact Or.inr (by simp [hx])

lemma trackPlayer_attack {T t : ℕ} {s : PlayerState} {o : Obj}
    (hs : (trackPlayer getItemName p byTick T).stateByTick t = some s) (ho : s.attack = some o) :
    o ∈ byTick t ∧ o.event.belongsToPlayer p = true := by
  have ht : t < T := by
    by_contra h
    rw [trackPlayer_of_le (by omega)] at hs
    cases hs
  rw [trackPlayer_of_lt ht] at hs
  simp only [trackPlayer] at hs
  unfold processPlayerTick at hs
  by_cases hos : byTick t = []
  · simp only [hos, if_true] at hs
    rw [trackPlayer_of_le le_rfl] at hs
    cases hs
  · simp only [hos, if_false, Function.update_self] at hs
    unfold playerStateThisTick at hs
    split_ifs at hs with hmine hdead
    · obtain rfl := by simpa using hs
      rcases foldl_read_attack ho with h | h
      · simp [PlayerState.start] at h
      · simpa using h
    · obtain rfl := by simpa using hs
      simp [PlayerState.start] at ho

end Track

/-! ### Adding heals and Dawnbringer attacks -/

def PlayerEntry.addCustom (e : PlayerEntry) (c : ℕ → List CustomPlayerState) : PlayerEntry :=
  { e with
    stateByTick := fun t =>
      (e.stateByTick t).map fun s => { s with customState := s.customState ++ c t } }

lemma addCustom_addCustom (e : PlayerEntry) (c c' : ℕ → List CustomPlayerState) :
    (e.addCustom c).addCustom c' = e.addCustom fun t => c t ++ c' t := by
  simp [PlayerEntry.addCustom, Function.comp_def]

lemma addCustom_nil (e : PlayerEntry) : (e.addCustom fun _ => []) = e := by
  simp [PlayerEntry.addCustom]

lemma pushCustom_eq {e : PlayerEntry} {t : ℕ} {s : PlayerState} (h : e.stateByTick t = some s)
    (c : CustomPlayerState) :
    e.pushCustom t s c = e.addCustom fun t' => if t' = t then [c] else [] := by
  simp only [PlayerEntry.pushCustom, PlayerEntry.addCustom, PlayerEntry.mk.injEq, true_and,
    and_true]
  funext t'
  by_cases ht : t' = t
  · subst ht
    simp [h]
  · simp [ht]

lemma addCustom_of_none {e : PlayerEntry} {t : ℕ} (h : e.stateByTick t = none)
    (c : CustomPlayerState) :
    (e.addCustom fun t' => if t' = t then [c] else []) = e := by
  obtain ⟨length, stateByTick, cursor⟩ := e
  simp only [PlayerEntry.addCustom, PlayerEntry.mk.injEq, true_and, and_true]
  funext t'
  by_cases ht : t' = t
  · subst ht
    simp only at h
    simp [h]
  · simp [ht]

lemma addCustom_single (e : PlayerEntry) (fromTick tick : ℕ) (c : CustomPlayerState)
    {mine : Prop} [Decidable mine] :
    (e.addCustom fun t =>
        if fromTick ≤ t then if mine ∧ t = tick then [c] else [] else []) =
      if tick < fromTick ∨ ¬mine then e
      else
        match e.stateByTick tick with
        | some s => e.pushCustom tick s c
        | none => e := by
  by_cases h : tick < fromTick ∨ ¬mine
  · have hnil : (fun t => if fromTick ≤ t then if mine ∧ t = tick then [c] else [] else []) =
        fun _ => [] := by
      funext t
      split_ifs with h1 h2
      · rcases h with h | h
        · omega
        · exact absurd h2.1 h
      · rfl
      · rfl
    rw [if_pos h, hnil, addCustom_nil]
  · push Not at h
    have honly : (fun t => if fromTick ≤ t then if mine ∧ t = tick then [c] else [] else []) =
        fun t => if t = tick then [c] else [] := by
      funext t
      by_cases ht : t = tick
      · simp [ht, h.1, h.2]
      · simp [ht]
    rw [if_neg (by push Not; exact h), honly]
    cases hs : e.stateByTick tick with
    | none => exact addCustom_of_none hs c
    | some s => exact (pushCustom_eq hs c).symm

/-- What an event adds to a player's state on a tick as a heal. -/
def healOn (p : String) (o : Obj) (t : ℕ) : List CustomPlayerState :=
  match o.event.payload with
  | .tobVerzikHeal player healAmount =>
    if player = p ∧ t = o.event.tick then [healState healAmount] else []
  | _ => []

/-- What an event adds to a player's state on a tick as a Dawnbringer attack. -/
def dawnOn (p : String) (o : Obj) (t : ℕ) : List CustomPlayerState :=
  match o.event.payload with
  | .tobVerzikDawn attackTick damage player =>
    if player = p ∧ (t : ℤ) = attackTick then [dawnState damage] else []
  | _ => []

/-- The damage an event reports of a player's attack on a tick. -/
def dawnDamage (p : String) (t : ℕ) (o : Obj) : Option ℤ :=
  match o.event.payload with
  | .tobVerzikDawn attackTick damage player =>
    if player = p ∧ (t : ℤ) = attackTick then some damage else none
  | _ => none

def lastDamage (p : String) (t : ℕ) (os : List Obj) : Option ℤ :=
  (os.filterMap (dawnDamage p t)).getLast?

lemma addHeal_eq {p : String} {e : PlayerEntry} {o : Obj} (h : o.event.tick < e.length)
    (fromTick : ℕ) :
    addHeal p fromTick e o =
      some (e.addCustom fun t => if fromTick ≤ t then healOn p o t else []) := by
  unfold addHeal
  split
  · rename_i player healAmount heq
    have hheal : ∀ t, healOn p o t =
        if player = p ∧ t = o.event.tick then [healState healAmount] else [] := by
      intro t
      simp [healOn, heq]
    simp only [hheal, addCustom_single]
    by_cases hfrom : o.event.tick < fromTick
    · simp [hfrom]
    · by_cases hplayer : player = p
      · simp only [hfrom, hplayer, not_true_eq_false, or_self, if_false, ne_eq, h.not_ge]
        cases e.stateByTick o.event.tick <;> rfl
      · simp [hfrom, hplayer]
  · rename_i hother
    have hheal : ∀ t, healOn p o t = [] := by
      intro t
      unfold healOn
      split
      · rename_i heq
        exact absurd heq (hother _ _)
      · rfl
    simp only [hheal, ite_self]
    rw [addCustom_nil]

lemma foldlM_addHeal {p : String} {e : PlayerEntry} {os : List Obj}
    (h : ∀ o ∈ os, o.event.tick < e.length) (fromTick : ℕ) :
    os.foldlM (addHeal p fromTick) e =
      some (e.addCustom fun t =>
        if fromTick ≤ t then os.flatMap (healOn p · t) else []) := by
  induction os generalizing e with
  | nil => simp [addCustom_nil]
  | cons o os ih =>
    rw [List.foldlM_cons, addHeal_eq (h o (by simp))]
    simp only [Option.bind_eq_bind, Option.bind_some]
    have hos : ∀ o' ∈ os, o'.event.tick < (e.addCustom fun t =>
        if fromTick ≤ t then healOn p o t else []).length := fun o' ho => h o' (by simp [ho])
    rw [ih hos, addCustom_addCustom]
    congr 2
    funext t
    split_ifs <;> simp

/-- Each attack of an entry is on the tick it is the state of. -/
def PlayerEntry.AttacksOnTime (e : PlayerEntry) : Prop :=
  ∀ t s o, e.stateByTick t = some s → s.attack = some o → o.event.tick = t

lemma addCustom_attack (e : PlayerEntry) (c : ℕ → List CustomPlayerState) (t : ℕ) :
    ((e.addCustom c).stateByTick t).bind PlayerState.attack =
      (e.stateByTick t).bind PlayerState.attack := by
  simp only [PlayerEntry.addCustom]
  cases e.stateByTick t <;> rfl

lemma addCustom_attacksOnTime {e : PlayerEntry} (h : e.AttacksOnTime)
    (c : ℕ → List CustomPlayerState) : (e.addCustom c).AttacksOnTime := by
  intro t s o hs ho
  have hbind : (e.stateByTick t).bind PlayerState.attack = some o := by
    rw [← addCustom_attack e c, hs]
    exact ho
  obtain ⟨s', hs', ho'⟩ := Option.bind_eq_some_iff.mp hbind
  exact h t s' o hs' ho'

def PlayerEntry.writeDamage (e : PlayerEntry) (fromTick : ℕ) (reported : ℕ → Option ℤ)
    (w : Writes) : Writes where
  attack := w.attack
  target := w.target
  weaponName := w.weaponName
  damage k :=
    if fromTick ≤ k.event.tick ∧ (e.stateByTick k.event.tick).bind PlayerState.attack = some k then
      (reported k.event.tick).or (w.damage k)
    else w.damage k

lemma writeDamage_none (e : PlayerEntry) (fromTick : ℕ) (w : Writes) :
    e.writeDamage fromTick (fun _ => none) w = w := by
  refine Writes.ext rfl rfl rfl (funext fun k => ?_)
  simp [PlayerEntry.writeDamage]

lemma writeDamage_writeDamage (e : PlayerEntry) (c : ℕ → List CustomPlayerState) (fromTick : ℕ)
    (r r' : ℕ → Option ℤ) (w : Writes) :
    (e.addCustom c).writeDamage fromTick r' (e.writeDamage fromTick r w) =
      e.writeDamage fromTick (fun t => (r' t).or (r t)) w := by
  refine Writes.ext rfl rfl rfl (funext fun k => ?_)
  simp only [PlayerEntry.writeDamage, addCustom_attack]
  split_ifs
  · rw [Option.or_assoc]
  · rfl

lemma writeDamage_single {e : PlayerEntry} (he : e.AttacksOnTime) (fromTick tick : ℕ) (d : ℤ)
    (w : Writes) {mine : Prop} [Decidable mine] :
    e.writeDamage fromTick (fun t => if mine ∧ t = tick then some d else none) w =
      if tick < fromTick ∨ ¬mine then w
      else
        match (e.stateByTick tick).bind PlayerState.attack with
        | some attack => w.setDamage attack d
        | none => w := by
  by_cases h : tick < fromTick ∨ ¬mine
  · rw [if_pos h]
    refine Writes.ext rfl rfl rfl (funext fun k => ?_)
    simp only [PlayerEntry.writeDamage]
    split_ifs with h1 h2
    · rcases h with h | h
      · omega
      · exact absurd h2.1 h
    · simp
    · rfl
  · rw [if_neg h]
    push Not at h
    cases hattack : (e.stateByTick tick).bind PlayerState.attack with
    | none =>
      refine Writes.ext rfl rfl rfl (funext fun k => ?_)
      simp only [PlayerEntry.writeDamage]
      split_ifs with h1 h2
      · rw [h2.2, hattack] at h1
        cases h1.2
      · simp
      · rfl
    | some attack =>
      obtain ⟨s, hs, hsattack⟩ := Option.bind_eq_some_iff.mp hattack
      have htick : attack.event.tick = tick := he tick s attack hs hsattack
      refine Writes.ext rfl rfl rfl (funext fun k => ?_)
      simp only [PlayerEntry.writeDamage, Writes.setDamage]
      by_cases hk : k = attack
      · subst hk
        simp [htick, h.1, h.2, hattack]
      · by_cases hkt : k.event.tick = tick
        · have hne : (e.stateByTick k.event.tick).bind PlayerState.attack ≠ some k := by
            rw [hkt, hattack]
            exact fun heq => hk (Option.some.inj heq).symm
          simp [hk, hne]
        · simp [hk, hkt]

lemma addDawn_eq {p : String} {e : PlayerEntry} (he : e.AttacksOnTime) {o : Obj}
    (h : ∀ a d, o.event.payload = .tobVerzikDawn a d p → a < e.length) (fromTick : ℕ)
    (w : Writes) :
    addDawn p fromTick (e, w) o =
      some (e.addCustom fun t => if fromTick ≤ t then dawnOn p o t else [],
        e.writeDamage fromTick (dawnDamage p · o) w) := by
  unfold addDawn
  split
  · rename_i attackTick damage player heq
    by_cases hfrom : attackTick < fromTick
    · have hdawn : (fun t => if fromTick ≤ t then dawnOn p o t else []) = fun _ => [] := by
        funext t
        split_ifs with ht
        · simp only [dawnOn, heq]
          rw [if_neg (by omega)]
        · rfl
      have hdamage : e.writeDamage fromTick (dawnDamage p · o) w = w := by
        refine Writes.ext rfl rfl rfl (funext fun k => ?_)
        simp only [PlayerEntry.writeDamage, dawnDamage, heq]
        split_ifs with h1 h2
        · omega
        · simp
        · rfl
      rw [if_pos hfrom, hdawn, addCustom_nil, hdamage]
    · obtain ⟨tick, rfl⟩ : ∃ tick : ℕ, attackTick = tick :=
        ⟨attackTick.toNat, by omega⟩
      have hdawn : ∀ t, dawnOn p o t =
          if player = p ∧ t = tick then [dawnState damage] else [] := by
        intro t
        simp [dawnOn, heq]
      have hdamage : ∀ t, dawnDamage p t o =
          if player = p ∧ t = tick then some damage else none := by
        intro t
        simp [dawnDamage, heq]
      simp only [hdawn, hdamage, addCustom_single, writeDamage_single he]
      have hfrom' : ¬tick < fromTick := by omega
      by_cases hplayer : player = p
      · have hlength : ¬(e.length : ℤ) ≤ tick := by
          have := h tick damage (by rw [heq, hplayer])
          omega
        simp only [hfrom, hfrom', hplayer, not_true_eq_false, or_self, if_false, ne_eq, hlength,
          Int.toNat_natCast]
        cases hs : e.stateByTick tick with
        | none => rfl
        | some s => cases hattack : s.attack <;> simp [hattack]
      · simp [hfrom, hfrom', hplayer]
  · rename_i hother
    have hdawn : ∀ t, dawnOn p o t = [] := by
      intro t
      unfold dawnOn
      split
      · rename_i heq
        exact absurd heq (hother _ _ _)
      · rfl
    have hdamage : ∀ t, dawnDamage p t o = none := by
      intro t
      unfold dawnDamage
      split
      · rename_i heq
        exact absurd heq (hother _ _ _)
      · rfl
    simp only [hdawn, hdamage, ite_self, writeDamage_none]
    rw [addCustom_nil]

lemma lastDamage_cons (p : String) (t : ℕ) (o : Obj) (os : List Obj) :
    lastDamage p t (o :: os) = (lastDamage p t os).or (dawnDamage p t o) := by
  unfold lastDamage
  cases h : dawnDamage p t o with
  | none => simp [h]
  | some d =>
    simp only [List.filterMap_cons, h]
    rw [List.getLast?_cons]
    cases (os.filterMap (dawnDamage p t)).getLast? <;> rfl

lemma foldlM_addDawn {p : String} {e : PlayerEntry} (he : e.AttacksOnTime) {os : List Obj}
    (h : ∀ o ∈ os, ∀ a d, o.event.payload = .tobVerzikDawn a d p → a < e.length) (fromTick : ℕ)
    (w : Writes) :
    os.foldlM (addDawn p fromTick) (e, w) =
      some (e.addCustom fun t => if fromTick ≤ t then os.flatMap (dawnOn p · t) else [],
        e.writeDamage fromTick (lastDamage p · os) w) := by
  induction os generalizing e w with
  | nil =>
    have hnone : (lastDamage p · []) = fun _ => none := rfl
    simp [addCustom_nil, hnone, writeDamage_none]
  | cons o os ih =>
    rw [List.foldlM_cons, addDawn_eq he (h o (by simp))]
    simp only [Option.bind_eq_bind, Option.bind_some]
    have hos : ∀ o' ∈ os, ∀ a d, o'.event.payload = .tobVerzikDawn a d p →
        a < (e.addCustom fun t => if fromTick ≤ t then dawnOn p o t else []).length :=
      fun o' ho => h o' (by simp [ho])
    rw [ih (addCustom_attacksOnTime he _) hos, addCustom_addCustom, writeDamage_writeDamage]
    simp only [lastDamage_cons]
    congr 3
    funext t
    split_ifs <;> simp

/-! ### Extending a player's states -/

/-- All events of the maps stand under their own tick and type, below a number of ticks. -/
structure EventMaps.Within (m : EventMaps) (T : ℕ) : Prop where
  tick : ∀ t, ∀ o ∈ m.byTick t, o.event.tick = t ∧ t < T
  type : ∀ k, ∀ o ∈ m.byType k, o.event.type = k ∧ o.event.tick < T

structure EventMaps.Grows (m m' : EventMaps) (T T' : ℕ) : Prop where
  le : T ≤ T'
  within : m.Within T
  within' : m'.Within T'
  byTick : ∀ t < T, m'.byTick t = m.byTick t
  byType : ∀ k, ∃ new, m'.byType k = m.byType k ++ new ∧ ∀ o ∈ new, T ≤ o.event.tick

/-- What is added to a player's state on a tick: their heals, then their Dawnbringer attacks. -/
def customOn (m : EventMaps) (p : String) (t : ℕ) : List CustomPlayerState :=
  (m.byType .tobVerzikHeal).flatMap (healOn p · t) ++
    (m.byType .tobVerzikDawn).flatMap (dawnOn p · t)

def playerEntry (m : EventMaps) (p : String) (T : ℕ) : PlayerEntry :=
  (trackPlayer getItemName p m.byTick T).fill T (customOn m p)

/-- The attack of a player's state on a tick. -/
def attackOn (m : EventMaps) (p : String) (T t : ℕ) : Option Obj :=
  ((trackPlayer getItemName p m.byTick T).stateByTick t).bind PlayerState.attack

structure PlayerWrites (m : EventMaps) (p : String) (T : ℕ) (w : Writes) : Prop where
  weaponName : ∀ o : Obj, o.event.belongsToPlayer p = true → w.weaponName o =
    if o.event.tick < T ∧ o ∈ m.byTick o.event.tick then weaponNameOf getItemName o else none
  damage : ∀ o : Obj, o.event.belongsToPlayer p = true → w.damage o =
    if attackOn getItemName m p T o.event.tick = some o then
      lastDamage p o.event.tick (m.byType .tobVerzikDawn)
    else none

/-- Only events of this player have been written to, and not by other events. -/
structure PlayerFrame (p : String) (w w' : Writes) : Prop where
  attack : w'.attack = w.attack
  target : w'.target = w.target
  weaponName : ∀ o : Obj, ¬o.event.belongsToPlayer p = true → w'.weaponName o = w.weaponName o
  damage : ∀ o : Obj, ¬o.event.belongsToPlayer p = true → w'.damage o = w.damage o

lemma fill_congr {e : PlayerEntry} {n : ℕ} {c c' : ℕ → List CustomPlayerState}
    (h : ∀ t, e.stateByTick t ≠ none → c t = c' t) : e.fill n c = e.fill n c' := by
  simp only [PlayerEntry.fill, PlayerEntry.mk.injEq, true_and, and_true]
  funext t
  cases hs : e.stateByTick t with
  | none => rfl
  | some s => rw [h t (by simp [hs])]

lemma fill_addCustom (e : PlayerEntry) (n : ℕ) (c c' : ℕ → List CustomPlayerState) :
    (e.fill n c).addCustom c' = e.fill n fun t => c t ++ c' t := by
  simp [PlayerEntry.fill, PlayerEntry.addCustom, Function.comp_def]

lemma flatMap_append_of_nil {α β : Type*} {f : α → List β} {xs ys : List α}
    (h : ∀ y ∈ ys, f y = []) : (xs ++ ys).flatMap f = xs.flatMap f := by
  rw [List.flatMap_append, List.flatMap_eq_nil_iff.mpr h, List.append_nil]

lemma healOn_of_ne {p : String} {o : Obj} {t : ℕ} (h : t ≠ o.event.tick) : healOn p o t = [] := by
  unfold healOn
  split
  · rw [if_neg fun hc => h hc.2]
  · rfl

/-- No Dawnbringer attack that is new is on a tick that has been processed with a state. -/
def NoLateDawn (m m' : EventMaps) (p : String) (T : ℕ) : Prop :=
  ∀ new, m'.byType .tobVerzikDawn = m.byType .tobVerzikDawn ++ new →
    ∀ o ∈ new, ∀ a d, o.event.payload = .tobVerzikDawn a d p → ∀ t < T, (t : ℤ) = a →
      (trackPlayer getItemName p m.byTick T).stateByTick t = none

section Extend

variable {getItemName} {m m' : EventMaps} {p : String} {T T' : ℕ}

lemma EventMaps.Grows.track (h : m.Grows m' T T') :
    trackPlayer getItemName p m'.byTick T = trackPlayer getItemName p m.byTick T :=
  trackPlayer_congr h.byTick

lemma EventMaps.Grows.track_of_lt (h : m.Grows m' T T') {t : ℕ} (ht : t < T) :
    (trackPlayer getItemName p m'.byTick T').stateByTick t =
      (trackPlayer getItemName p m.byTick T).stateByTick t := by
  rw [trackPlayer_of_lt (ht.trans_le h.le), ← h.track, trackPlayer_of_lt ht]

lemma dawnOn_eq_nil {o : Obj} {t : ℕ}
    (h : ∀ a d, o.event.payload = .tobVerzikDawn a d p → (t : ℤ) ≠ a) :
    dawnOn p o t = [] ∧ dawnDamage p t o = none := by
  unfold dawnOn dawnDamage
  split
  · rename_i a d player heq
    have hne : ¬(player = p ∧ (t : ℤ) = a) := fun hc => h a d (by rw [heq, hc.1]) hc.2
    simp only [hne, if_false, and_self]
  · exact ⟨rfl, rfl⟩

lemma EventMaps.Grows.settled (h : m.Grows m' T T') (hlate : NoLateDawn getItemName m m' p T)
    {t : ℕ} (ht : t < T) (hs : (trackPlayer getItemName p m.byTick T).stateByTick t ≠ none) :
    customOn m' p t = customOn m p t ∧
      lastDamage p t (m'.byType .tobVerzikDawn) = lastDamage p t (m.byType .tobVerzikDawn) := by
  obtain ⟨heals, hheals, hheal⟩ := h.byType .tobVerzikHeal
  obtain ⟨dawns, hdawns, -⟩ := h.byType .tobVerzikDawn
  have hdawn : ∀ o ∈ dawns, dawnOn p o t = [] ∧ dawnDamage p t o = none := by
    intro o ho
    exact dawnOn_eq_nil fun a d hpay hta => hs (hlate dawns hdawns o ho a d hpay t ht hta)
  constructor
  · unfold customOn
    rw [hheals, hdawns, flatMap_append_of_nil fun o ho => (hdawn o ho).1, flatMap_append_of_nil]
    intro o ho
    have := hheal o ho
    exact healOn_of_ne (by omega)
  · unfold lastDamage
    rw [hdawns, List.filterMap_append, List.filterMap_eq_nil_iff.mpr fun o ho => (hdawn o ho).2,
      List.append_nil]

lemma track_attacksOnTime (h : m'.Within T') (n k : ℕ) (c : ℕ → List CustomPlayerState) :
    ((trackPlayer getItemName p m'.byTick k).fill n c).AttacksOnTime := by
  intro t s o hs ho
  simp only [PlayerEntry.fill, Option.map_eq_some_iff] at hs
  obtain ⟨s', hs', rfl⟩ := hs
  exact (h.tick t o (trackPlayer_attack hs' ho).1).1

lemma fill_attack (m : EventMaps) (p : String) (T n : ℕ) (c : ℕ → List CustomPlayerState)
    (t : ℕ) :
    (((trackPlayer getItemName p m.byTick T).fill n c).stateByTick t).bind PlayerState.attack =
      attackOn getItemName m p T t := by
  simp only [PlayerEntry.fill, attackOn]
  cases (trackPlayer getItemName p m.byTick T).stateByTick t <;> rfl

lemma attackOn_of_le {t : ℕ} (h : T ≤ t) : attackOn getItemName m p T t = none := by
  rw [attackOn, trackPlayer_of_le h]
  rfl

lemma EventMaps.Grows.attackOn_of_lt (h : m.Grows m' T T') {t : ℕ} (ht : t < T) :
    attackOn getItemName m' p T' t = attackOn getItemName m p T t := by
  rw [attackOn, h.track_of_lt ht]
  rfl

lemma attackOn_mem {t : ℕ} {o : Obj} (h : attackOn getItemName m p T t = some o) :
    o ∈ m.byTick t ∧ o.event.belongsToPlayer p = true := by
  obtain ⟨s, hs, hso⟩ := Option.bind_eq_some_iff.mp h
  exact trackPlayer_attack hs hso

lemma startEntry_eq {map : InsertionMap String PlayerEntry} (hle : T ≤ T')
    (h : (map.get p).getD { length := 0 } = playerEntry getItemName m p T) :
    enterPlayer T' (map.get p) =
      (trackPlayer getItemName p m.byTick T).fill T' (customOn m p) := by
  have hfill : (trackPlayer getItemName p m.byTick T).fill T' (customOn m p) =
      { playerEntry getItemName m p T with length := T' } := rfl
  rw [hfill, ← h]
  cases hget : map.get p with
  | none => rfl
  | some entry =>
    have hlen : entry.length = T := by
      have := congrArg PlayerEntry.length h
      simpa [hget, playerEntry, PlayerEntry.fill] using this
    simp [enterPlayer, hlen, hle]

/-- **Extending the states of a player keeps their form.** -/
theorem extendPlayer_eq (h : m.Grows m' T T') {s : InsertionMap String PlayerEntry × Writes}
    (hentry : (s.1.get p).getD { length := 0 } = playerEntry getItemName m p T)
    (hw : PlayerWrites getItemName m p T s.2)
    (hfits : ∀ o ∈ m'.byType .tobVerzikDawn, ∀ a d,
      o.event.payload = .tobVerzikDawn a d p → a < T')
    (hlate : NoLateDawn getItemName m m' p T) :
    ∃ w', extendPlayer getItemName m' T T' s p =
        some (s.1.set p (playerEntry getItemName m' p T'), w') ∧
      PlayerWrites getItemName m' p T' w' ∧ PlayerFrame p s.2 w' := by
  have hstart := startEntry_eq h.le hentry
  have hcut : (trackPlayer getItemName p m.byTick T).fill T' (customOn m p) =
      (trackPlayer getItemName p m'.byTick T).fill T'
        fun t => if t < T then customOn m p t else [] := by
    rw [h.track]
    refine fill_congr fun t ht => ?_
    rw [if_pos]
    by_contra hc
    exact ht (trackPlayer_of_le (by omega))
  have hTT : T + (T' - T) = T' := by have := h.le; omega
  have hnew : ∀ t, T ≤ t → (fun t => if t < T then customOn m p t else []) t = [] :=
    fun t ht => if_neg (by omega)
  unfold extendPlayer
  rw [hstart, hcut]
  dsimp only
  rw [foldl_processPlayerTick getItemName p (fun t o ho => (h.within'.tick t o ho).1) hnew, hTT]
  simp only [postprocessPlayerState]
  rw [foldlM_addHeal fun o ho => (h.within'.type _ o ho).2]
  simp only [Option.bind_eq_bind, Option.bind_some]
  rw [fill_addCustom, foldlM_addDawn (track_attacksOnTime h.within' _ _ _) hfits, fill_addCustom]
  simp only [Option.bind_some]
  refine ⟨_, congrArg some (congrArg₂ Prod.mk (congrArg (s.1.set p) ?_) rfl), ⟨?_, ?_⟩,
    ⟨rfl, rfl, ?_, ?_⟩⟩
  · -- Old ticks are settled, and new ticks get all that is added to them.
    refine fill_congr fun t ht => ?_
    by_cases hlt : t < T
    · rw [h.track_of_lt hlt] at ht
      simp [hlt, hlt.not_ge, (h.settled hlate hlt ht).1]
    · simp [hlt, Nat.not_lt.mp hlt, customOn]
  · intro o ho
    simp only [PlayerEntry.writeDamage, nameWeapons, hw.weaponName o ho, ho, and_true, hTT]
    by_cases hlt : o.event.tick < T
    · have hlt' := hlt.trans_le h.le
      simp [hlt, hlt', hlt.not_ge, h.byTick _ hlt]
    · simp only [hlt, Nat.not_lt.mp hlt, true_and, false_and, if_false, Option.or_none]
  · intro o ho
    simp only [PlayerEntry.writeDamage, nameWeapons, hw.damage o ho, fill_attack]
    by_cases hlt : o.event.tick < T
    · rw [if_neg fun hc => hlt.not_ge hc.1, h.attackOn_of_lt hlt]
      split_ifs with hattack
      · have hs : (trackPlayer getItemName p m.byTick T).stateByTick o.event.tick ≠ none := by
          intro hnone
          simp [attackOn, hnone] at hattack
        exact (h.settled hlate hlt hs).2.symm
      · rfl
    · rw [attackOn_of_le (Nat.not_lt.mp hlt)]
      simp [Nat.not_lt.mp hlt]
  · intro o ho
    simp [PlayerEntry.writeDamage, nameWeapons, ho]
  · intro o ho
    simp only [PlayerEntry.writeDamage, nameWeapons, fill_attack]
    exact if_neg fun hc => ho (attackOn_mem hc.2).2

end Extend

end Blert.StageState

import Mathlib.Data.List.Nodup
import Mathlib.Tactic

/-!
Finite maps whose entries stay in the order in which their keys were first put.

A value put at a key that is there replaces its value in place; a new key goes to the end. Lists
of values at a key collect the elements of a sequence into groups.
-/

namespace Blert

/-- A finite map, carrying the proof that every key has one entry. -/
structure InsertionMap (κ ν : Type*) where
  entries : List (κ × ν)
  nodup : (entries.map Prod.fst).Nodup

namespace InsertionMap

variable {κ ν : Type*} [DecidableEq κ]

instance [DecidableEq ν] : DecidableEq (InsertionMap κ ν) := fun m n =>
  decidable_of_iff (m.entries = n.entries) <| by
    cases m; cases n; simp

def find (k : κ) : List (κ × ν) → Option ν
  | [] => none
  | (k', v) :: r => if k = k' then some v else find k r

/-- Puts an entry in the place of the one with its key, or at the end. -/
def put (k : κ) (v : ν) : List (κ × ν) → List (κ × ν)
  | [] => [(k, v)]
  | (k', v') :: r => if k = k' then (k, v) :: r else (k', v') :: put k v r

lemma keys_put (k : κ) (v : ν) (l : List (κ × ν)) :
    (put k v l).map Prod.fst =
      if k ∈ l.map Prod.fst then l.map Prod.fst else l.map Prod.fst ++ [k] := by
  induction l with
  | nil => simp [put]
  | cons a r ih =>
    obtain ⟨k', v'⟩ := a
    simp only [put]
    by_cases h : k = k'
    · subst h
      simp
    · rw [if_neg h, List.map_cons, ih, List.map_cons]
      by_cases hr : k ∈ r.map Prod.fst
      · rw [if_pos hr, if_pos (List.mem_cons_of_mem _ hr)]
      · rw [if_neg hr, if_neg (by simpa [h] using hr), List.cons_append]

lemma nodup_put (k : κ) (v : ν) {l : List (κ × ν)} (h : (l.map Prod.fst).Nodup) :
    ((put k v l).map Prod.fst).Nodup := by
  rw [keys_put]
  split_ifs with hk
  · exact h
  · refine List.nodup_append.mpr ⟨h, List.nodup_singleton k, fun a ha b hb => ?_⟩
    rw [List.mem_singleton.mp hb]
    exact fun hak => hk (hak ▸ ha)

def empty : InsertionMap κ ν := ⟨[], List.nodup_nil⟩

instance : EmptyCollection (InsertionMap κ ν) := ⟨empty⟩
instance : Inhabited (InsertionMap κ ν) := ⟨empty⟩

def get (m : InsertionMap κ ν) (k : κ) : Option ν := find k m.entries

def has (m : InsertionMap κ ν) (k : κ) : Bool := (m.get k).isSome

def set (m : InsertionMap κ ν) (k : κ) (v : ν) : InsertionMap κ ν :=
  ⟨put k v m.entries, nodup_put k v m.nodup⟩

/-- Changes the value at a key, if it has one. -/
def modify (m : InsertionMap κ ν) (k : κ) (f : ν → ν) : InsertionMap κ ν :=
  match m.get k with
  | some v => m.set k (f v)
  | none => m

def erase (m : InsertionMap κ ν) (k : κ) : InsertionMap κ ν :=
  ⟨m.entries.filter (fun e => e.1 ≠ k), m.nodup.sublist (List.filter_sublist.map _)⟩

/-- Puts a value at a key, or takes out the key's entry. -/
def assign (m : InsertionMap κ ν) (k : κ) : Option ν → InsertionMap κ ν
  | some v => m.set k v
  | none => m.erase k

def mapValues (m : InsertionMap κ ν) (f : κ → ν → ν) : InsertionMap κ ν :=
  ⟨m.entries.map fun e => (e.1, f e.1 e.2), by simpa [Function.comp_def] using m.nodup⟩

def filter (m : InsertionMap κ ν) (p : κ → ν → Bool) : InsertionMap κ ν :=
  ⟨m.entries.filter fun e => p e.1 e.2, m.nodup.sublist (List.filter_sublist.map _)⟩

def keys (m : InsertionMap κ ν) : List κ := m.entries.map Prod.fst

def values (m : InsertionMap κ ν) : List ν := m.entries.map Prod.snd

/-! ### Lookup -/

lemma find_put (k k' : κ) (v : ν) (l : List (κ × ν)) :
    find k' (put k v l) = if k' = k then some v else find k' l := by
  induction l with
  | nil => simp [put, find]
  | cons a r ih =>
    obtain ⟨k₁, v₁⟩ := a
    simp only [put]
    split_ifs <;> simp only [find] <;> grind

lemma find_eq_some {k : κ} {v : ν} {l : List (κ × ν)} (h : (l.map Prod.fst).Nodup) :
    find k l = some v ↔ (k, v) ∈ l := by
  induction l with
  | nil => simp [find]
  | cons a r ih =>
    obtain ⟨k', v'⟩ := a
    rw [List.map_cons, List.nodup_cons] at h
    have hmem : k = k' → (k, v) ∉ r := by
      rintro rfl hr
      exact h.1 (List.mem_map.mpr ⟨(k, v), hr, rfl⟩)
    simp only [find, List.mem_cons, Prod.mk.injEq]
    split_ifs with hk
    · constructor
      · rintro hv
        exact Or.inl ⟨hk, (Option.some.inj hv).symm⟩
      · rintro (⟨-, rfl⟩ | hr)
        · rfl
        · exact absurd hr (hmem hk)
    · rw [ih h.2]
      simp [hk]

@[simp] lemma get_empty (k : κ) : (∅ : InsertionMap κ ν).get k = none := rfl

lemma get_set (m : InsertionMap κ ν) (k k' : κ) (v : ν) :
    (m.set k v).get k' = if k' = k then some v else m.get k' :=
  find_put k k' v m.entries

lemma get_modify (m : InsertionMap κ ν) (k k' : κ) (f : ν → ν) :
    (m.modify k f).get k' = if k' = k then (m.get k').map f else m.get k' := by
  unfold modify
  cases hget : m.get k with
  | none =>
    split_ifs with hk
    · rw [hk, hget, Option.map_none]
    · rfl
  | some v =>
    dsimp only
    rw [get_set]
    split_ifs with hk
    · rw [hk, hget, Option.map_some]
    · rfl

lemma find_filter (k k' : κ) (l : List (κ × ν)) :
    find k' (l.filter (fun e => e.1 ≠ k)) = if k' = k then none else find k' l := by
  induction l with
  | nil => simp [find]
  | cons a r ih =>
    obtain ⟨k₁, v₁⟩ := a
    by_cases h : k₁ = k
    · subst h
      rw [List.filter_cons_of_neg (by simp), ih]
      split_ifs with hk
      · rfl
      · simp only [find, if_neg hk]
    · rw [List.filter_cons_of_pos (by simpa using h)]
      simp only [find, ih]
      split_ifs with hk hk' <;> first | rfl | exact absurd (hk.symm.trans hk') h

lemma get_erase (m : InsertionMap κ ν) (k k' : κ) :
    (m.erase k).get k' = if k' = k then none else m.get k' :=
  find_filter k k' m.entries

lemma get_assign (m : InsertionMap κ ν) (k k' : κ) (v : Option ν) :
    (m.assign k v).get k' = if k' = k then v else m.get k' := by
  cases v with
  | none => exact get_erase m k k'
  | some v => exact get_set m k k' v

lemma put_of_find {k : κ} {v : ν} {l : List (κ × ν)} (h : find k l = some v) : put k v l = l := by
  induction l with
  | nil => cases h
  | cons a r ih =>
    obtain ⟨k', v'⟩ := a
    simp only [find] at h
    simp only [put]
    split_ifs at h ⊢ with hk
    · cases h
      rw [hk]
    · rw [ih h]

lemma set_of_get {m : InsertionMap κ ν} {k : κ} {v : ν} (h : m.get k = some v) : m.set k v = m := by
  cases m
  simp only [set, mk.injEq]
  exact put_of_find h

lemma get_eq_some {m : InsertionMap κ ν} {k : κ} {v : ν} :
    m.get k = some v ↔ (k, v) ∈ m.entries :=
  find_eq_some m.nodup

lemma mem_keys {m : InsertionMap κ ν} {k : κ} : k ∈ m.keys ↔ ∃ v, m.get k = some v := by
  simp only [keys, List.mem_map, get_eq_some, Prod.exists]
  constructor
  · rintro ⟨k', v, h, rfl⟩
    exact ⟨v, h⟩
  · rintro ⟨v, h⟩
    exact ⟨k, v, h, rfl⟩

lemma get_mapValues (m : InsertionMap κ ν) (f : κ → ν → ν) (k : κ) :
    (m.mapValues f).get k = (m.get k).map (f k) := by
  obtain ⟨entries, hnodup⟩ := m
  unfold get mapValues
  dsimp only
  clear hnodup
  induction entries with
  | nil => rfl
  | cons e entries ih =>
    obtain ⟨k', v⟩ := e
    simp only [List.map_cons, find]
    split_ifs with hk
    · rw [hk, Option.map_some]
    · exact ih

omit [DecidableEq κ] in
lemma mapValues_mapValues (m : InsertionMap κ ν) (f g : κ → ν → ν) :
    (m.mapValues f).mapValues g = m.mapValues fun k v => g k (f k v) := by
  simp [mapValues]

lemma mapValues_congr {m : InsertionMap κ ν} {f g : κ → ν → ν}
    (h : ∀ k v, m.get k = some v → f k v = g k v) : m.mapValues f = m.mapValues g := by
  simp only [mapValues, mk.injEq]
  refine List.map_congr_left fun e he => ?_
  rw [h e.1 e.2 (get_eq_some.2 he)]

lemma mapValues_self {m : InsertionMap κ ν} {f : κ → ν → ν}
    (h : ∀ k v, m.get k = some v → f k v = v) : m.mapValues f = m := by
  obtain ⟨entries, hnodup⟩ := m
  simp only [mapValues, mk.injEq]
  refine (List.map_congr_left fun e he => ?_).trans (List.map_id _)
  rw [h e.1 e.2 (get_eq_some.2 he)]
  rfl

lemma put_of_find_none {k : κ} {v : ν} {l : List (κ × ν)} (h : find k l = none) :
    put k v l = l ++ [(k, v)] := by
  induction l with
  | nil => rfl
  | cons a r ih =>
    obtain ⟨k', v'⟩ := a
    simp only [find] at h
    split_ifs at h with hk
    rw [put, if_neg hk, ih h, List.cons_append]

lemma entries_set_of_get {m : InsertionMap κ ν} {k : κ} {v : ν} (h : m.get k = none) :
    (m.set k v).entries = m.entries ++ [(k, v)] :=
  put_of_find_none h

/-- Sets several values, one after the other. -/
def setAll (m : InsertionMap κ ν) (l : List (κ × ν)) : InsertionMap κ ν :=
  l.foldl (fun m e => m.set e.1 e.2) m

lemma entries_setAll {m : InsertionMap κ ν} {l : List (κ × ν)} (hnd : (l.map Prod.fst).Nodup)
    (h : ∀ e ∈ l, m.get e.1 = none) : (m.setAll l).entries = m.entries ++ l := by
  induction l generalizing m with
  | nil => exact (List.append_nil _).symm
  | cons e l ih =>
    obtain ⟨hfirst, hrest⟩ := List.nodup_cons.mp hnd
    have hnew : ∀ e' ∈ l, (m.set e.1 e.2).get e'.1 = none := by
      intro e' he'
      rw [get_set, if_neg fun heq => hfirst (List.mem_map.mpr ⟨e', he', heq⟩)]
      exact h e' (List.mem_cons_of_mem e he')
    refine (ih hrest hnew).trans ?_
    rw [entries_set_of_get (h e List.mem_cons_self), List.append_assoc]
    rfl

lemma put_mapped (k : κ) (f : ν → ν) {v : ν} {l : List (κ × ν)} (hnd : (l.map Prod.fst).Nodup)
    (h : find k l = some v) :
    put k (f v) l = l.map fun e => (e.1, if e.1 = k then f e.2 else e.2) := by
  induction l with
  | nil => cases h
  | cons a r ih =>
    obtain ⟨k', v'⟩ := a
    obtain ⟨hk', hnd⟩ := List.nodup_cons.mp hnd
    simp only [find] at h
    rw [put, List.map_cons]
    split_ifs at h ⊢ with hk hk'' hk''
    · cases h
      subst hk
      refine congrArg _ ((List.map_congr_left fun e he => ?_).trans (List.map_id _)).symm
      have hne : e.1 ≠ k := fun hek => hk' (List.mem_map.mpr ⟨e, he, hek⟩)
      rw [if_neg hne]
      rfl
    · exact absurd hk.symm hk''
    · exact absurd hk''.symm hk
    · rw [ih hnd h]

lemma modify_eq_mapValues (m : InsertionMap κ ν) (k : κ) (f : ν → ν) :
    m.modify k f = m.mapValues fun k' v => if k' = k then f v else v := by
  unfold modify
  cases hget : m.get k with
  | none =>
    refine (mapValues_self fun k' v hv => if_neg ?_).symm
    rintro rfl
    rw [hget] at hv
    cases hv
  | some v =>
    simp only [set, mapValues, mk.injEq]
    exact put_mapped k f m.nodup hget

lemma setAll_of_get {m : InsertionMap κ ν} {l : List (κ × ν)} (hnd : (l.map Prod.fst).Nodup)
    (h : ∀ e ∈ l, ∃ v, m.get e.1 = some v) :
    m.setAll l = m.mapValues fun k v => (find k l).getD v := by
  induction l generalizing m with
  | nil => exact (mapValues_self fun _ _ _ => rfl).symm
  | cons e l ih =>
    obtain ⟨hfirst, hrest⟩ := List.nodup_cons.mp hnd
    obtain ⟨v, hv⟩ := h e List.mem_cons_self
    have hset : m.set e.1 e.2 = m.mapValues fun k v => if k = e.1 then e.2 else v := by
      rw [← modify_eq_mapValues m e.1 fun _ => e.2]
      unfold modify
      rw [hv]
    have hmem : ∀ e' ∈ l, ∃ v, (m.set e.1 e.2).get e'.1 = some v := by
      intro e' he'
      rw [get_set]
      split_ifs
      · exact ⟨_, rfl⟩
      · exact h e' (List.mem_cons_of_mem e he')
    refine (ih hrest hmem).trans ?_
    rw [hset, mapValues_mapValues]
    refine mapValues_congr fun k v _ => ?_
    rw [find]
    split_ifs with hk
    · subst hk
      have hnone : find e.1 l = none := by
        by_contra hsome
        obtain ⟨v, hv⟩ := Option.ne_none_iff_exists'.mp hsome
        exact hfirst (List.mem_map.mpr ⟨_, (find_eq_some hrest).mp hv, rfl⟩)
      rw [hnone]
      rfl
    · rfl

lemma setAll_filter (m : InsertionMap κ ν) (p : κ → ν → Bool) (f : κ → ν → ν) :
    m.setAll ((m.entries.filter fun e => p e.1 e.2).map fun e => (e.1, f e.1 e.2)) =
      m.mapValues fun k v => if p k v then f k v else v := by
  set l := (m.entries.filter fun e => p e.1 e.2).map fun e => (e.1, f e.1 e.2) with hl
  have hkeys : (l.map Prod.fst).Nodup := by
    rw [hl, List.map_map]
    exact m.nodup.sublist (List.filter_sublist.map _)
  rw [setAll_of_get hkeys ?_]
  · refine mapValues_congr fun k v hv => ?_
    split_ifs with hp
    · have hmem : (k, f k v) ∈ l :=
        List.mem_map.mpr ⟨(k, v), List.mem_filter.mpr ⟨get_eq_some.1 hv, hp⟩, rfl⟩
      rw [(find_eq_some hkeys).mpr hmem]
      rfl
    · have hnone : find k l = none := by
        by_contra hsome
        obtain ⟨v', hv'⟩ := Option.ne_none_iff_exists'.mp hsome
        obtain ⟨e, he, heq⟩ := List.mem_map.mp ((find_eq_some hkeys).mp hv')
        obtain ⟨he, hpe⟩ := List.mem_filter.mp he
        cases heq
        rw [get_eq_some.2 he] at hv
        cases hv
        exact hp hpe
      rw [hnone]
      rfl
  · intro _ hmem
    obtain ⟨e, he, rfl⟩ := List.mem_map.mp hmem
    exact ⟨e.2, get_eq_some.2 (List.mem_filter.mp he).1⟩

lemma get_filter (m : InsertionMap κ ν) (p : κ → ν → Bool) (k : κ) :
    (m.filter p).get k = (m.get k).filter (p k) := by
  ext v
  rw [Option.filter_eq_some_iff, get_eq_some, get_eq_some]
  simp [filter]

/-! ### Assigning several values -/

section Assign

variable {α : Type*}

def assignAll (m : InsertionMap κ ν) (key : α → Option κ) (value : α → κ → Option ν)
    (l : List α) : InsertionMap κ ν :=
  l.foldl
    (fun m a =>
      match key a with
      | some k => m.assign k (value a k)
      | none => m) m

end Assign

/-! ### Groups -/

section Groups

variable {α : Type*}

def push (m : InsertionMap κ (List α)) (k : κ) (a : α) : InsertionMap κ (List α) :=
  m.set k ((m.get k).getD [] ++ [a])

def group (m : InsertionMap κ (List α)) (k : κ) : List α := (m.get k).getD []

/-- Adds elements with their keys, one after the other. -/
def pushAll (m : InsertionMap κ (List α)) (xs : List (κ × α)) : InsertionMap κ (List α) :=
  xs.foldl (fun m x => m.push x.1 x.2) m

lemma group_push (m : InsertionMap κ (List α)) (k k' : κ) (a : α) :
    (m.push k a).group k' = m.group k' ++ if k' = k then [a] else [] := by
  unfold push group
  rw [get_set]
  split_ifs with h
  · subst h
    rfl
  · simp

/-- The elements of a key among elements with keys. -/
def withKey (k : κ) (xs : List (κ × α)) : List α := (xs.filter (·.1 = k)).map Prod.snd

lemma withKey_cons (k : κ) (x : κ × α) (xs : List (κ × α)) :
    withKey k (x :: xs) = (if k = x.1 then [x.2] else []) ++ withKey k xs := by
  unfold withKey
  by_cases h : x.1 = k
  · simp [h]
  · have h' : k ≠ x.1 := fun hk => h hk.symm
    simp [h, h']

lemma withKey_append (k : κ) (xs ys : List (κ × α)) :
    withKey k (xs ++ ys) = withKey k xs ++ withKey k ys := by
  simp [withKey]

lemma group_pushAll (m : InsertionMap κ (List α)) (xs : List (κ × α)) (k : κ) :
    (m.pushAll xs).group k = m.group k ++ withKey k xs := by
  induction xs generalizing m with
  | nil => simp [pushAll, withKey]
  | cons x xs ih =>
    have h := ih (m.push x.1 x.2)
    rw [group_push] at h
    rw [withKey_cons, ← List.append_assoc]
    exact h

lemma keys_push (m : InsertionMap κ (List α)) (k : κ) (a : α) {k' : κ} :
    k' ∈ (m.push k a).keys ↔ k' ∈ m.keys ∨ k' = k := by
  simp only [mem_keys, push, get_set]
  by_cases h : k' = k <;> simp [h]

lemma keys_pushAll (m : InsertionMap κ (List α)) (xs : List (κ × α)) {k : κ} :
    k ∈ (m.pushAll xs).keys ↔ k ∈ m.keys ∨ ∃ a, (k, a) ∈ xs := by
  induction xs generalizing m with
  | nil => simp [pushAll]
  | cons x xs ih =>
    have h := ih (m.push x.1 x.2)
    rw [keys_push] at h
    obtain ⟨k', a'⟩ := x
    rw [show (m.pushAll ((k', a') :: xs)).keys = ((m.push k' a').pushAll xs).keys from rfl, h]
    simp only [List.mem_cons, Prod.mk.injEq, exists_or, exists_and_left, exists_eq, and_true]
    tauto

lemma flatMap_single {ks : List κ} (hnd : ks.Nodup) {k : κ} (h : k ∈ ks) (a : α) :
    ks.flatMap (fun k' => if k' = k then [a] else []) = [a] := by
  induction ks with
  | nil => cases h
  | cons k' ks ih =>
    obtain ⟨hk, hnd⟩ := List.nodup_cons.mp hnd
    rw [List.flatMap_cons]
    by_cases hkk : k' = k
    · subst hkk
      have hnone : ks.flatMap (fun j => if j = k' then [a] else []) = [] := by
        refine List.flatMap_eq_nil_iff.mpr fun j hj => if_neg ?_
        rintro rfl
        exact hk hj
      rw [if_pos rfl, hnone]
      rfl
    · rw [if_neg hkk, ih hnd ((List.mem_cons.mp h).resolve_left (Ne.symm hkk))]
      rfl

lemma perm_flatMap_withKey {ks : List κ} (hnd : ks.Nodup) {xs : List (κ × α)}
    (h : ∀ x ∈ xs, x.1 ∈ ks) : (ks.flatMap (withKey · xs)).Perm (xs.map Prod.snd) := by
  induction xs with
  | nil => simp [withKey]
  | cons x xs ih =>
    simp only [withKey_cons]
    refine (List.flatMap_append_perm ks _ _).symm.trans ?_
    rw [flatMap_single hnd (h x List.mem_cons_self)]
    exact (ih fun y hy => h y (List.mem_cons_of_mem _ hy)).cons x.2

lemma filter_flatMap_key {key : α → κ} {xs : List (κ × List α)} (hnd : (xs.map Prod.fst).Nodup)
    (hkey : ∀ x ∈ xs, ∀ a ∈ x.2, key a = x.1) {k : κ} {l : List α} (h : (k, l) ∈ xs) :
    (xs.flatMap Prod.snd).filter (key · = k) = l := by
  induction xs with
  | nil => cases h
  | cons x xs ih =>
    rw [List.map_cons, List.nodup_cons] at hnd
    have hrest := fun y hy => hkey y (List.mem_cons_of_mem x hy)
    rw [List.flatMap_cons, List.filter_append]
    rcases List.mem_cons.mp h with rfl | h
    · have hnone : (xs.flatMap Prod.snd).filter (key · = k) = [] := by
        refine List.filter_eq_nil_iff.mpr fun a ha hk => hnd.1 ?_
        obtain ⟨y, hy, hay⟩ := List.mem_flatMap.mp ha
        rw [← of_decide_eq_true hk, hrest y hy a hay]
        exact List.mem_map.mpr ⟨y, hy, rfl⟩
      rw [hnone, List.append_nil]
      exact List.filter_eq_self.mpr fun a ha => by simpa using hkey _ List.mem_cons_self a ha
    · have hnone : x.2.filter (key · = k) = [] := by
        refine List.filter_eq_nil_iff.mpr fun a ha hk => hnd.1 ?_
        rw [← hkey x List.mem_cons_self a ha, of_decide_eq_true hk]
        exact List.mem_map.mpr ⟨_, h, rfl⟩
      rw [hnone, List.nil_append, ih hnd.2 hrest h]

lemma withKey_map_pair (k k' : κ) (xs : List α) :
    withKey k (xs.map ((k', ·) : α → κ × α)) = if k = k' then xs else [] := by
  induction xs with
  | nil => simp [withKey]
  | cons x xs ih =>
    rw [List.map_cons, withKey_cons, ih]
    split_ifs <;> rfl

lemma withKey_entries (m : InsertionMap κ (List α)) (k : κ) :
    withKey k (m.entries.flatMap fun e => e.2.map (e.1, ·)) = m.group k := by
  obtain ⟨entries, hnodup⟩ := m
  unfold group get
  dsimp only
  induction entries with
  | nil => rfl
  | cons e entries ih =>
    obtain ⟨k', xs⟩ := e
    obtain ⟨hk', hrest⟩ := List.nodup_cons.mp hnodup
    rw [List.flatMap_cons, withKey_append, find, withKey_map_pair, ih hrest]
    split_ifs with hk
    · subst hk
      have hnone : find k entries = none := by
        by_contra hsome
        obtain ⟨v, hv⟩ := Option.ne_none_iff_exists'.mp hsome
        exact hk' (List.mem_map.mpr ⟨_, (find_eq_some hrest).mp hv, rfl⟩)
      rw [hnone]
      exact List.append_nil xs
    · rfl

lemma perm_of_withKey {xs ys : List (κ × α)} (h : ∀ k, withKey k xs = withKey k ys) :
    xs.Perm ys := by
  classical
  have hcount : ∀ (k : κ) (a : α) (l : List (κ × α)), l.count (k, a) = (withKey k l).count a := by
    intro k a l
    induction l with
    | nil => rfl
    | cons e l ih =>
      rw [withKey_cons, List.count_append, List.count_cons, ih, Nat.add_comm]
      congr 1
      by_cases hk : k = e.1
      · subst hk
        by_cases ha : e.2 = a
        · subst ha
          simp
        · have hne : e ≠ (e.1, a) := fun he => ha (congrArg Prod.snd he)
          simp [ha, hne]
      · have hne : e ≠ (k, a) := fun he => hk (congrArg Prod.fst he).symm
        simp [hk, hne]
  refine List.perm_iff_count.mpr fun e => ?_
  rw [hcount e.1 e.2, hcount e.1 e.2, h e.1]

lemma perm_pushAll (xs : List (κ × α)) :
    (((∅ : InsertionMap κ (List α)).pushAll xs).entries.flatMap fun e => e.2.map (e.1, ·)).Perm
      xs := by
  refine perm_of_withKey fun k => ?_
  rw [withKey_entries, group_pushAll]
  rfl

end Groups

end InsertionMap

end Blert

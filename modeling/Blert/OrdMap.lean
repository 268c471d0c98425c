import Mathlib.Data.List.Pairwise
import Mathlib.Order.Basic
import Mathlib.Tactic

/-!
Finite maps as a list of entries in strictly increasing key order.

The order makes the representation canonical: a key has at most one entry, and a walk over
the map meets its keys in order.
-/

namespace Blert

/-- A finite map, carrying the proof that its entries are in key order. -/
structure OrdMap (κ ν : Type*) [LinearOrder κ] where
  entries : List (κ × ν)
  sorted : entries.Pairwise (·.1 < ·.1)

namespace OrdMap

variable {κ ν : Type*} [LinearOrder κ]

instance [DecidableEq ν] : DecidableEq (OrdMap κ ν) := fun m n =>
  decidable_of_iff (m.entries = n.entries) <| by
    cases m; cases n; simp

def find (k : κ) : List (κ × ν) → Option ν
  | [] => none
  | (k', v) :: r => if k = k' then some v else find k r

/-- Puts an entry at its place, replacing the one with its key. -/
def put (k : κ) (v : ν) : List (κ × ν) → List (κ × ν)
  | [] => [(k, v)]
  | (k', v') :: r =>
    if k < k' then (k, v) :: (k', v') :: r
    else if k = k' then (k, v) :: r
    else (k', v') :: put k v r

lemma mem_put {k : κ} {v : ν} {e : κ × ν} {l : List (κ × ν)} (h : e ∈ put k v l) :
    e = (k, v) ∨ e ∈ l := by
  induction l with
  | nil => simpa [put] using h
  | cons a r ih =>
    obtain ⟨k', v'⟩ := a
    simp only [put] at h
    split_ifs at h <;> grind

lemma sorted_put (k : κ) (v : ν) {l : List (κ × ν)} (h : l.Pairwise (·.1 < ·.1)) :
    (put k v l).Pairwise (·.1 < ·.1) := by
  induction l with
  | nil => simp [put]
  | cons a r ih =>
    obtain ⟨k', v'⟩ := a
    obtain ⟨hlt, hr⟩ := List.pairwise_cons.mp h
    simp only [put]
    split_ifs with h1 h2
    · refine List.pairwise_cons.mpr ⟨fun e he => ?_, h⟩
      rcases List.mem_cons.mp he with rfl | he
      · exact h1
      · exact lt_trans h1 (hlt e he)
    · subst h2
      exact List.pairwise_cons.mpr ⟨hlt, hr⟩
    · have hk : k' < k := lt_of_le_of_ne (not_lt.mp h1) (Ne.symm h2)
      refine List.pairwise_cons.mpr ⟨fun e he => ?_, ih hr⟩
      rcases mem_put he with rfl | he
      · exact hk
      · exact hlt e he

def empty : OrdMap κ ν := ⟨[], List.Pairwise.nil⟩

instance : EmptyCollection (OrdMap κ ν) := ⟨empty⟩
instance : Inhabited (OrdMap κ ν) := ⟨empty⟩

def get (m : OrdMap κ ν) (k : κ) : Option ν := find k m.entries

def contains (m : OrdMap κ ν) (k : κ) : Bool := (m.get k).isSome

def insert (m : OrdMap κ ν) (k : κ) (v : ν) : OrdMap κ ν :=
  ⟨put k v m.entries, sorted_put k v m.sorted⟩

def erase (m : OrdMap κ ν) (k : κ) : OrdMap κ ν :=
  ⟨m.entries.filter (fun e => e.1 ≠ k), m.sorted.filter _⟩

/-- Changes the value at a key, if it has one. -/
def modify (m : OrdMap κ ν) (k : κ) (f : ν → ν) : OrdMap κ ν :=
  ⟨m.entries.map (fun e => if e.1 = k then (e.1, f e.2) else e), by
    refine List.pairwise_map.mpr (m.sorted.imp fun {a b} h => ?_)
    split_ifs <;> exact h⟩

def mapValues (m : OrdMap κ ν) (f : κ → ν → ν) : OrdMap κ ν :=
  ⟨m.entries.map (fun e => (e.1, f e.1 e.2)), List.pairwise_map.mpr m.sorted⟩

def keys (m : OrdMap κ ν) : List κ := m.entries.map Prod.fst

def values (m : OrdMap κ ν) : List ν := m.entries.map Prod.snd

def size (m : OrdMap κ ν) : ℕ := m.entries.length

def isEmpty (m : OrdMap κ ν) : Bool := m.entries.isEmpty

/-! ### Lookup -/

lemma find_put (k k' : κ) (v : ν) (l : List (κ × ν)) :
    find k' (put k v l) = if k' = k then some v else find k' l := by
  induction l with
  | nil => simp [put, find]
  | cons a r ih =>
    obtain ⟨k₁, v₁⟩ := a
    simp only [put]
    split_ifs <;> simp only [find] <;> grind

lemma find_filter (k k' : κ) (l : List (κ × ν)) :
    find k' (l.filter (fun e => e.1 ≠ k)) = if k' = k then none else find k' l := by
  induction l with
  | nil => simp [find]
  | cons a r ih =>
    obtain ⟨k₁, v₁⟩ := a
    by_cases h : k₁ = k
    · subst h
      simp only [ne_eq, not_true_eq_false, decide_false, Bool.false_eq_true, not_false_eq_true,
        List.filter_cons_of_neg, ih, find]
      split_ifs <;> simp_all
    · rw [List.filter_cons_of_pos (by simpa using h)]
      simp only [find, ih]
      split_ifs <;> simp_all

lemma find_map (k k' : κ) (f : ν → ν) (l : List (κ × ν)) :
    find k' (l.map (fun e => if e.1 = k then (e.1, f e.2) else e)) =
      if k' = k then (find k' l).map f else find k' l := by
  induction l with
  | nil => simp [find]
  | cons a r ih =>
    obtain ⟨k₁, v₁⟩ := a
    simp only [List.map_cons]
    split_ifs with h1 h2 h2 <;> simp only [find, ih] <;> split_ifs <;> simp_all

lemma find_mapValues (f : κ → ν → ν) (k : κ) (l : List (κ × ν)) :
    find k (l.map fun e => (e.1, f e.1 e.2)) = (find k l).map (f k) := by
  induction l with
  | nil => rfl
  | cons a r ih =>
    obtain ⟨k', v⟩ := a
    rw [List.map_cons, find, find, ih]
    split_ifs with h
    · subst h
      rfl
    · rfl

@[simp] lemma get_empty (k : κ) : (∅ : OrdMap κ ν).get k = none := rfl

lemma get_insert (m : OrdMap κ ν) (k k' : κ) (v : ν) :
    (m.insert k v).get k' = if k' = k then some v else m.get k' :=
  find_put k k' v m.entries

lemma get_erase (m : OrdMap κ ν) (k k' : κ) :
    (m.erase k).get k' = if k' = k then none else m.get k' :=
  find_filter k k' m.entries

lemma get_modify (m : OrdMap κ ν) (k k' : κ) (f : ν → ν) :
    (m.modify k f).get k' = if k' = k then (m.get k').map f else m.get k' :=
  find_map k k' f m.entries

lemma get_mapValues (m : OrdMap κ ν) (f : κ → ν → ν) (k : κ) :
    (m.mapValues f).get k = (m.get k).map (f k) :=
  find_mapValues f k m.entries

lemma find_of_mem {l : List (κ × ν)} (hs : l.Pairwise (·.1 < ·.1)) {k : κ} {v : ν}
    (h : (k, v) ∈ l) : find k l = some v := by
  induction l with
  | nil => cases h
  | cons a r ih =>
    obtain ⟨k', v'⟩ := a
    obtain ⟨hlt, hr⟩ := List.pairwise_cons.mp hs
    rcases List.mem_cons.mp h with h | h
    · cases h; simp [find]
    · have hne : k ≠ k' := (hlt _ h).ne'
      simp [find, hne, ih hr h]

lemma mem_of_find {l : List (κ × ν)} {k : κ} {v : ν} (h : find k l = some v) : (k, v) ∈ l := by
  induction l with
  | nil => simp [find] at h
  | cons a r ih =>
    obtain ⟨k', v'⟩ := a
    simp only [find] at h
    split_ifs at h with hk
    · subst hk; cases h; exact List.mem_cons_self
    · exact List.mem_cons_of_mem _ (ih h)

lemma mem_entries {m : OrdMap κ ν} {k : κ} {v : ν} : (k, v) ∈ m.entries ↔ m.get k = some v :=
  ⟨find_of_mem m.sorted, mem_of_find⟩

lemma mem_keys {m : OrdMap κ ν} {k : κ} : k ∈ m.keys ↔ ∃ v, m.get k = some v := by
  simp only [keys, List.mem_map, Prod.exists, exists_and_right, exists_eq_right, mem_entries]

lemma mem_values {m : OrdMap κ ν} {v : ν} : v ∈ m.values ↔ ∃ k, m.get k = some v := by
  simp only [values, List.mem_map, Prod.exists, exists_eq_right, mem_entries]

lemma contains_iff {m : OrdMap κ ν} {k : κ} : m.contains k = true ↔ ∃ v, m.get k = some v := by
  simp [contains, Option.isSome_iff_exists]

lemma keys_nodup (m : OrdMap κ ν) : m.keys.Nodup := by
  refine List.Pairwise.map _ (fun a b h => ?_) m.sorted
  exact ne_of_lt h

lemma contains_insert {m : OrdMap κ ν} {k k' : κ} {v : ν} :
    (m.insert k v).contains k' = true ↔ k' = k ∨ m.contains k' = true := by
  simp only [contains, get_insert]
  split_ifs with h <;> simp [h]

lemma contains_erase_of_ne {m : OrdMap κ ν} {k k' : κ} (h : k' ≠ k) :
    (m.erase k).contains k' = m.contains k' := by
  simp [contains, get_erase, h]

/-! ### Extensionality -/

lemma ext_get {m n : OrdMap κ ν} (h : ∀ k, m.get k = n.get k) : m = n := by
  have hmem : ∀ e, e ∈ m.entries ↔ e ∈ n.entries := by
    rintro ⟨k, v⟩
    rw [mem_entries, mem_entries, h k]
  have hnodup : ∀ m : OrdMap κ ν, m.entries.Nodup := fun m =>
    m.sorted.imp fun {a b} hlt heq => hlt.ne (congrArg Prod.fst heq)
  have hperm : m.entries.Perm n.entries :=
    (List.perm_ext_iff_of_nodup (hnodup m) (hnodup n)).mpr hmem
  have heq : m.entries = n.entries := by
    refine hperm.eq_of_pairwise (fun a b _ _ hab hba => ?_) m.sorted n.sorted
    exact absurd hba hab.not_gt
  cases m
  cases n
  cases heq
  rfl

lemma insert_comm {m : OrdMap κ ν} {k k' : κ} {v v' : ν} (h : k ≠ k') :
    (m.insert k v).insert k' v' = (m.insert k' v').insert k v := by
  refine ext_get fun k'' => ?_
  simp only [get_insert]
  by_cases hk : k'' = k
  · subst hk
    rw [if_neg h, if_pos rfl, if_pos rfl]
  · rw [if_neg hk, if_neg hk]

lemma insert_insert {m : OrdMap κ ν} {k : κ} {v v' : ν} :
    (m.insert k v).insert k v' = m.insert k v' := by
  refine ext_get fun k' => ?_
  simp only [get_insert]
  split_ifs <;> rfl

lemma modify_of_get {m : OrdMap κ ν} {k : κ} {v : ν} (h : m.get k = some v) (f : ν → ν) :
    m.insert k (f v) = m.modify k f := by
  refine ext_get fun k' => ?_
  rw [get_insert, get_modify]
  by_cases hk : k' = k
  · subst hk
    simp [h]
  · simp [hk]

lemma modify_of_get_none {m : OrdMap κ ν} {k : κ} (h : m.get k = none) (f : ν → ν) :
    m.modify k f = m := by
  refine ext_get fun k' => ?_
  rw [get_modify]
  by_cases hk : k' = k
  · subst hk
    simp [h]
  · simp [hk]

lemma modify_comm {m : OrdMap κ ν} {k k' : κ} {f g : ν → ν}
    (h : k = k' → ∀ v, g (f v) = f (g v)) :
    (m.modify k f).modify k' g = (m.modify k' g).modify k f := by
  refine ext_get fun k'' => ?_
  simp only [get_modify]
  by_cases hk : k'' = k
  · by_cases hk' : k'' = k'
    · rw [if_pos hk', if_pos hk, if_pos hk, if_pos hk', Option.map_map, Option.map_map]
      exact congrArg (Option.map · _) (funext (h (hk.symm.trans hk')))
    · rw [if_neg hk', if_pos hk, if_pos hk, if_neg hk']
  · rw [if_neg hk, if_neg hk]

/-! ### Emptiness -/

lemma isEmpty_iff {m : OrdMap κ ν} : m.isEmpty = true ↔ ∀ k, m.get k = none := by
  constructor
  · intro h k
    have he : m.entries = [] := List.isEmpty_iff.mp h
    simp [get, he, find]
  · intro h
    refine List.isEmpty_iff.mpr (List.eq_nil_iff_forall_not_mem.mpr fun e he => ?_)
    have := mem_entries.1 (show (e.1, e.2) ∈ m.entries from he)
    rw [h] at this
    cases this

lemma isEmpty_erase {m : OrdMap κ ν} {k : κ} {v : ν} (hs : m.size ≤ 1) (hk : m.get k = some v) :
    (m.erase k).isEmpty = true := by
  refine isEmpty_iff.2 fun k' => ?_
  rw [get_erase]
  split_ifs with h
  · rfl
  by_contra hne
  obtain ⟨v', hv'⟩ := Option.ne_none_iff_exists'.mp hne
  have h1 := mem_entries.2 hk
  have h2 := mem_entries.2 hv'
  obtain ⟨e, he⟩ : ∃ e, m.entries = [e] := by
    refine List.length_eq_one_iff.mp (le_antisymm hs ?_)
    exact List.length_pos_of_mem h1
  rw [he, List.mem_singleton] at h1 h2
  rw [← h1] at h2
  exact h (congrArg Prod.fst h2)

lemma isEmpty_foldl_erase (m : OrdMap κ ν) : (m.keys.foldl erase m).isEmpty = true := by
  have hget : ∀ (ks : List κ) (n : OrdMap κ ν) (k : κ),
      (ks.foldl erase n).get k = if k ∈ ks then none else n.get k := by
    intro ks
    induction ks with
    | nil => simp
    | cons a ks ih =>
      intro n k
      rw [List.foldl_cons, ih, get_erase]
      by_cases h1 : k ∈ ks <;> by_cases h2 : k = a <;> simp [h1, h2]
  refine isEmpty_iff.2 fun k => ?_
  rw [hget]
  split_ifs with h
  · rfl
  · by_contra hne
    exact h (mem_keys.2 (Option.ne_none_iff_exists'.mp hne))

/-! ### Building -/

lemma put_last (k : κ) (v : ν) {l : List (κ × ν)} (h : ∀ e ∈ l, e.1 < k) :
    put k v l = l ++ [(k, v)] := by
  induction l with
  | nil => rfl
  | cons a l ih =>
    obtain ⟨k', v'⟩ := a
    have hlt : k' < k := h _ List.mem_cons_self
    rw [put, if_neg hlt.not_gt, if_neg hlt.ne', ih fun e he => h e (List.mem_cons_of_mem _ he)]
    rfl

lemma entries_foldl_insert {l : List (κ × ν)} (h : l.Pairwise (·.1 < ·.1)) :
    (l.foldl (fun m e => m.insert e.1 e.2) (∅ : OrdMap κ ν)).entries = l := by
  induction l using List.reverseRecOn with
  | nil => rfl
  | append_singleton l e ih =>
    obtain ⟨hl, -, hlast⟩ := List.pairwise_append.mp h
    rw [List.foldl_append]
    change put e.1 e.2 (OrdMap.entries (l.foldl _ _)) = _
    rw [ih hl, put_last _ _ fun e' he' => hlast e' he' e (List.mem_singleton.mpr rfl)]

end OrdMap

end Blert

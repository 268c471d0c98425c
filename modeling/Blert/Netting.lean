import Blert.InsertionMap

/-!
Amounts added up by key.

What the keys of a list of amounts net to adds up to the sum of all the amounts, so moving
amounts between the values of a map changes their total by that sum.
-/

namespace Blert.Netting

open InsertionMap

variable {κ : Type*} [DecidableEq κ] {M : Type*} [AddCommGroup M]

def net (k : κ) (xs : List (κ × M)) : M := (withKey k xs).sum

@[simp] lemma net_nil (k : κ) : net k ([] : List (κ × M)) = 0 := rfl

lemma net_append (k : κ) (xs ys : List (κ × M)) : net k (xs ++ ys) = net k xs + net k ys := by
  rw [net, withKey_append, List.sum_append]
  rfl

lemma net_of_not_mem {k : κ} {xs : List (κ × M)} (h : k ∉ xs.map Prod.fst) : net k xs = 0 := by
  have hnone : xs.filter (·.1 = k) = [] := by
    refine List.filter_eq_nil_iff.mpr fun x hx hk => h ?_
    rw [← of_decide_eq_true hk]
    exact List.mem_map.mpr ⟨x, hx, rfl⟩
  rw [net, withKey, hnone]
  rfl

lemma sum_net {ks : List κ} (hnd : ks.Nodup) {xs : List (κ × M)} (h : ∀ x ∈ xs, x.1 ∈ ks) :
    (ks.map (net · xs)).sum = (xs.map Prod.snd).sum := by
  rw [← (perm_flatMap_withKey hnd h).sum_eq, List.flatMap_def, List.sum_flatten, List.map_map]
  rfl

lemma net_map {ks : List κ} (hnd : ks.Nodup) (f : κ → M) (k : κ) :
    net k (ks.map fun k => (k, f k)) = if k ∈ ks then f k else 0 := by
  induction ks with
  | nil => rfl
  | cons j ks ih =>
    obtain ⟨hj, hnd⟩ := List.nodup_cons.mp hnd
    rw [List.map_cons, ← List.singleton_append, net_append, ih hnd]
    by_cases hk : k = j
    · subst hk
      rw [if_neg hj, if_pos List.mem_cons_self]
      simp [net, withKey]
    · have hnet : net k [(j, f j)] = 0 := net_of_not_mem (by simpa using hk)
      simp [hnet, hk]

lemma sum_put (k : κ) (v : M) (l : List (κ × M)) :
    ((put k v l).map Prod.snd).sum + (find k l).getD 0 = (l.map Prod.snd).sum + v := by
  induction l with
  | nil => simp [put, find]
  | cons a r ih =>
    obtain ⟨k', v'⟩ := a
    simp only [put, find]
    split_ifs with hk
    · simp only [List.map_cons, List.sum_cons, Option.getD_some]
      abel
    · simp only [List.map_cons, List.sum_cons, add_assoc, ih]

lemma sum_set (m : InsertionMap κ M) (k : κ) (v : M) :
    (m.set k v).values.sum + (m.get k).getD 0 = m.values.sum + v :=
  sum_put k v m.entries

end Blert.Netting

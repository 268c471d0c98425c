import Mathlib.Algebra.BigOperators.Group.List.Basic
import Mathlib.Tactic

/-!
Cumulative series.

A series has rows of totals, at most one at each date. The total at a date is that of the last row
up to it, and what a row adds to the one before is its increment.
-/

namespace Blert.Cumulative

variable {κ M : Type*} [LinearOrder κ]

/-- The rows are in the order of their dates, of which each has one. -/
def Chronological (rows : List (κ × M)) : Prop := rows.Pairwise (·.1 < ·.1)

def lastUpTo (rows : List (κ × M)) (t : κ) : Option (κ × M) :=
  (rows.filter (·.1 ≤ t)).getLast?

lemma lastUpTo_eq_none {rows : List (κ × M)} {t : κ} :
    lastUpTo rows t = none ↔ ∀ r ∈ rows, t < r.1 := by
  simp [lastUpTo]

lemma mem_of_lastUpTo {rows : List (κ × M)} {t : κ} {r : κ × M} (h : lastUpTo rows t = some r) :
    r ∈ rows ∧ r.1 ≤ t := by
  have hmem := List.mem_of_getLast? h
  rw [List.mem_filter] at hmem
  exact ⟨hmem.1, of_decide_eq_true hmem.2⟩

lemma le_getLast {l : List (κ × M)} (hl : Chronological l) {last : κ × M}
    (hlast : l.getLast? = some last) {r : κ × M} (hr : r ∈ l) : r = last ∨ r.1 < last.1 := by
  obtain ⟨front, rfl⟩ := List.getLast?_eq_some_iff.mp hlast
  rcases List.mem_append.mp hr with hr | hr
  · exact .inr ((List.pairwise_append.mp hl).2.2 r hr last (List.mem_singleton_self _))
  · exact .inl (List.mem_singleton.mp hr)

lemma lastUpTo_eq_some {rows : List (κ × M)} (h : Chronological rows) {t : κ} {r : κ × M}
    (hr : r ∈ rows) (ht : r.1 ≤ t) (hlast : ∀ r' ∈ rows, r'.1 ≤ t → r'.1 ≤ r.1) :
    lastUpTo rows t = some r := by
  cases hrow : lastUpTo rows t with
  | none => exact absurd ht (lastUpTo_eq_none.1 hrow r hr).not_ge
  | some last =>
    obtain ⟨hmem, hle⟩ := mem_of_lastUpTo hrow
    rcases le_getLast (h.filter _) hrow (List.mem_filter.mpr ⟨hr, decide_eq_true ht⟩) with
      rfl | hlt
    · rfl
    · exact absurd (hlast last hmem hle) hlt.not_ge

lemma lastUpTo_congr {rows rows' : List (κ × M)} (h : Chronological rows)
    (h' : Chronological rows') {t : κ} (heq : ∀ r : κ × M, r.1 ≤ t → (r ∈ rows ↔ r ∈ rows')) :
    lastUpTo rows t = lastUpTo rows' t := by
  have hperm : (rows.filter (·.1 ≤ t)).Perm (rows'.filter (·.1 ≤ t)) := by
    refine (List.perm_ext_iff_of_nodup ?_ ?_).mpr fun r => ?_
    · exact (h.filter _).imp fun hlt => ne_of_apply_ne Prod.fst hlt.ne
    · exact (h'.filter _).imp fun hlt => ne_of_apply_ne Prod.fst hlt.ne
    · simp only [List.mem_filter, decide_eq_true_eq]
      exact and_congr_left fun ht => heq r ht
  have hsorted := hperm.eq_of_pairwise (fun a b _ _ hab hba => absurd hab hba.not_gt)
    (h.filter _) (h'.filter _)
  exact congrArg List.getLast? hsorted

variable [AddCommGroup M]

def total (rows : List (κ × M)) (t : κ) : M := ((lastUpTo rows t).map Prod.snd).getD 0

lemma total_of_none {rows : List (κ × M)} {t : κ} (h : ∀ r ∈ rows, t < r.1) :
    total rows t = 0 := by
  rw [total, lastUpTo_eq_none.2 h]
  rfl

lemma total_of_last {rows : List (κ × M)} (h : Chronological rows) {t : κ} {r : κ × M}
    (hr : r ∈ rows) (ht : r.1 ≤ t) (hlast : ∀ r' ∈ rows, r'.1 ≤ t → r'.1 ≤ r.1) :
    total rows t = r.2 := by
  rw [total, lastUpTo_eq_some h hr ht hlast]
  rfl

lemma total_of_mem {rows : List (κ × M)} (h : Chronological rows) {r : κ × M} (hr : r ∈ rows) :
    total rows r.1 = r.2 :=
  total_of_last h hr le_rfl fun _ _ => id

lemma total_eq_of_between {rows : List (κ × M)} {s t : κ} (hst : s ≤ t)
    (h : ∀ r ∈ rows, s < r.1 → t < r.1) : total rows t = total rows s := by
  unfold total lastUpTo
  rw [List.filter_congr fun r hr => ?_]
  rw [decide_eq_decide]
  exact ⟨fun ht => not_lt.mp fun hs => ht.not_gt (h r hr hs), fun hs => hs.trans hst⟩

/-- A function of dates that has the value of each row, stays between rows and is nothing before
them is the total. -/
lemma total_eq_of {rows : List (κ × M)} (h : Chronological rows) {f : κ → M}
    (hnone : ∀ t, (∀ r ∈ rows, t < r.1) → f t = 0)
    (hbetween : ∀ s t, s ≤ t → (∀ r ∈ rows, s < r.1 → t < r.1) → f t = f s)
    (hrow : ∀ r ∈ rows, f r.1 = r.2) (t : κ) : total rows t = f t := by
  cases hlast : lastUpTo rows t with
  | none =>
    rw [total, hlast, hnone t (lastUpTo_eq_none.1 hlast)]
    rfl
  | some last =>
    obtain ⟨hmem, hle⟩ := mem_of_lastUpTo hlast
    rw [hbetween last.1 t hle fun r hr hlt => ?_, hrow last hmem, total, hlast]
    · rfl
    · by_contra ht
      have hr' : r ∈ rows.filter (·.1 ≤ t) :=
        List.mem_filter.mpr ⟨hr, decide_eq_true (not_lt.mp ht)⟩
      rcases le_getLast (h.filter _) hlast hr' with rfl | hlt'
      · exact lt_irrefl _ hlt
      · exact hlt.not_gt hlt'

/-! ### Increments -/

/-- What each row adds to the one before, the first to a given total. -/
def increments (prev : M) : List (κ × M) → List (κ × M)
  | [] => []
  | (k, v) :: rest => (k, v - prev) :: increments v rest

/-- The sum of the increments at some dates. -/
def gained (P : κ → Bool) (rows : List (κ × M)) : M :=
  (((increments 0 rows).filter (P ·.1)).map Prod.snd).sum

omit [LinearOrder κ] in
lemma map_fst_increments (prev : M) (rows : List (κ × M)) :
    (increments prev rows).map Prod.fst = rows.map Prod.fst := by
  induction rows generalizing prev with
  | nil => rfl
  | cons r rest ih => exact congrArg (r.1 :: ·) (ih r.2)

omit [LinearOrder κ] in
lemma gained_congr {P Q : κ → Bool} {rows : List (κ × M)} (h : ∀ r ∈ rows, P r.1 = Q r.1) :
    gained P rows = gained Q rows := by
  unfold gained
  rw [List.filter_congr fun r hr => ?_]
  have hmem := List.mem_map_of_mem (f := Prod.fst) hr
  rw [map_fst_increments] at hmem
  obtain ⟨r', hr', heq⟩ := List.mem_map.mp hmem
  rw [← heq]
  exact h r' hr'

omit [LinearOrder κ] in
lemma gained_of_none {P : κ → Bool} {rows : List (κ × M)} (h : ∀ r ∈ rows, P r.1 = false) :
    gained P rows = 0 := by
  rw [gained_congr (Q := fun _ => false) h]
  simp [gained]

omit [LinearOrder κ] in
lemma gained_add {P Q R : κ → Bool} {rows : List (κ × M)}
    (h : ∀ k, R k = (P k || Q k)) (hdisj : ∀ k, P k = true → Q k = false) :
    gained R rows = gained P rows + gained Q rows := by
  unfold gained
  induction increments 0 rows with
  | nil => simp
  | cons r rest ih =>
    have hr := h r.1
    cases hP : P r.1 <;> cases hQ : Q r.1 <;> rw [hP, hQ] at hr
    · simp only [List.filter_cons, hP, hQ, hr, Bool.or_false, Bool.false_eq_true, if_false, ih]
    · simp only [List.filter_cons, hP, hQ, hr, Bool.or_true, Bool.false_eq_true, if_false,
        if_true, List.map_cons, List.sum_cons, ih]
      exact add_left_comm _ _ _
    · simp only [List.filter_cons, hP, hQ, hr, Bool.or_false, Bool.false_eq_true, if_false,
        if_true, List.map_cons, List.sum_cons, ih]
      exact (add_assoc _ _ _).symm
    · rw [hdisj _ hP] at hQ
      cases hQ

lemma sum_increments {rows : List (κ × M)} (h : Chronological rows) (prev : M) (t : κ) :
    (((increments prev rows).filter (·.1 ≤ t)).map Prod.snd).sum =
      ((lastUpTo rows t).map Prod.snd).getD prev - prev := by
  induction rows generalizing prev with
  | nil => simp [increments, lastUpTo]
  | cons r rest ih =>
    obtain ⟨k, v⟩ := r
    obtain ⟨hfirst, hrest⟩ := List.pairwise_cons.mp h
    by_cases hk : k ≤ t
    · have hlast : ((lastUpTo ((k, v) :: rest) t).map Prod.snd).getD prev =
          ((lastUpTo rest t).map Prod.snd).getD v := by
        unfold lastUpTo
        rw [List.filter_cons_of_pos (by simpa using hk), List.getLast?_cons]
        cases (rest.filter fun r => decide (r.1 ≤ t)).getLast? <;> rfl
      rw [increments, List.filter_cons_of_pos (by simpa using hk), List.map_cons, List.sum_cons,
        ih hrest, hlast]
      exact sub_add_sub_cancel' _ _ _
    · have hnone : lastUpTo ((k, v) :: rest) t = none := by
        refine lastUpTo_eq_none.2 fun r hr => ?_
        rcases List.mem_cons.mp hr with rfl | hr
        · exact not_le.mp hk
        · exact (not_le.mp hk).trans (hfirst r hr)
      have hrest' : lastUpTo rest t = none :=
        lastUpTo_eq_none.2 fun r hr => lastUpTo_eq_none.1 hnone r (List.mem_cons_of_mem _ hr)
      rw [increments, List.filter_cons_of_neg (by simpa using hk), ih hrest, hnone, hrest']
      simp

lemma gained_upTo {rows : List (κ × M)} (h : Chronological rows) (t : κ) :
    gained (fun k => decide (k ≤ t)) rows = total rows t := by
  unfold gained total
  rw [sum_increments h, sub_zero]

/-! ### Windows -/

/-- Whether a date is after a first one and not after a last one, where these are given. -/
def between (fromDate toDate : Option κ) (k : κ) : Bool :=
  fromDate.all (· < k) && toDate.all (k ≤ ·)

/-- The total before a window, which is nothing where the window is open. -/
def base (rows : List (κ × M)) (fromDate : Option κ) : M := (fromDate.map (total rows)).getD 0

def gainedIn (rows : List (κ × M)) (fromDate toDate : Option κ) (t : κ) : M :=
  gained (fun k => between fromDate toDate k && decide (k ≤ t)) rows

variable {rows : List (κ × M)} {fromDate toDate : Option κ}

lemma gainedIn_of_between (h : Chronological rows) {t : κ} (ht : between fromDate toDate t) :
    gainedIn rows fromDate toDate t = total rows t - base rows fromDate := by
  obtain ⟨hfrom, hto⟩ := Bool.and_eq_true_iff.mp ht
  have hwindow : gainedIn rows fromDate toDate t =
      gained (fun k => fromDate.all (· < k) && decide (k ≤ t)) rows := by
    refine gained_congr fun r _ => ?_
    cases toDate with
    | none => simp [between]
    | some e =>
      have ht' : t ≤ e := by simpa using hto
      by_cases hr : r.1 ≤ t
      · simp [between, hr, hr.trans ht']
      · simp [hr]
  rw [hwindow]
  cases fromDate with
  | none =>
    have hall := gained_upTo h t
    simpa [base] using hall
  | some s =>
    have hs : s < t := by simpa using hfrom
    have hsum := @gained_add _ _ _ (fun k => decide (k ≤ s))
      (fun k => decide (s < k) && decide (k ≤ t)) (fun k => decide (k ≤ t)) rows
      (fun k => ?_) (fun k hk => ?_)
    · rw [gained_upTo h, gained_upTo h] at hsum
      rw [eq_sub_iff_add_eq, hsum, add_comm]
      rfl
    · rcases le_or_gt k s with hk | hk
      · simp [hk, hk.trans hs.le]
      · simp [hk, hk.not_ge]
    · simp [(of_decide_eq_true hk).not_gt]

lemma gainedIn_eq_of_between {s t : κ} (hst : s ≤ t)
    (h : ∀ r ∈ rows, between fromDate toDate r.1 → s < r.1 → t < r.1) :
    gainedIn rows fromDate toDate t = gainedIn rows fromDate toDate s := by
  refine gained_congr fun r hr => ?_
  cases hr' : between fromDate toDate r.1 with
  | false => rfl
  | true =>
    simp only [Bool.true_and, decide_eq_decide]
    exact ⟨fun ht => not_lt.mp fun hs => ht.not_gt (h r hr hr' hs), fun hs => hs.trans hst⟩

lemma gainedIn_of_none {t : κ} (h : ∀ r ∈ rows, between fromDate toDate r.1 → t < r.1) :
    gainedIn rows fromDate toDate t = 0 := by
  refine gained_of_none fun r hr => ?_
  cases hr' : between fromDate toDate r.1 with
  | false => rfl
  | true => simpa using h r hr hr'

lemma total_sub_gainedIn (h : Chronological rows) (fromDate toDate : Option κ) (t : κ) :
    total rows t - gainedIn rows fromDate toDate t =
      gained (fun k => !between fromDate toDate k && decide (k ≤ t)) rows := by
  have hsum := @gained_add _ _ _ (fun k => between fromDate toDate k && decide (k ≤ t))
    (fun k => !between fromDate toDate k && decide (k ≤ t)) (fun k => decide (k ≤ t)) rows
    (fun k => ?_) (fun k hk => ?_)
  · rw [gained_upTo h] at hsum
    rw [hsum, gainedIn, add_sub_cancel_left]
  · cases between fromDate toDate k <;> simp
  · simp [(Bool.and_eq_true_iff.mp hk).1]

end Blert.Cumulative

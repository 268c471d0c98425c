import Mathlib.Logic.Relation
import Blert.Bank.Ledger

/-!
What the ledger conserves.

Whatever is posted, in whatever order, coins are only moved: the balances add up to what they
did before, each to what its account's entries add up to, and a key names one transaction.
-/

namespace Blert.Bank

open Netting Fallible

/-! ### Sums over the tables -/

namespace Ledger

def total (l : Ledger) : ℤ := l.balances.values.sum

def entrySum (l : Ledger) (a : AccountId) : ℤ := net a (amounts (l.entries.map (·.entry)))

/-- What the recorded changes of an account's balance add up to. -/
def deltaSum (l : Ledger) (a : AccountId) : ℤ :=
  net a (l.transactionAccounts.map fun s => (s.accountId, s.delta))

/-- The change of an account's balance that was recorded last. -/
def latest (l : Ledger) (a : AccountId) : Option TransactionAccount :=
  (l.transactionAccounts.filter (·.accountId = a)).getLast?

def balance (l : Ledger) (a : AccountId) : ℤ := (l.balances.get a).getD 0

end Ledger

/-! ### What posting does -/

lemma bigint_ok {n m : ℤ} (h : bigint n = .ok m) : m = n := by
  unfold bigint at h
  split_ifs at h
  exact (Except.ok.inj h).symm

lemma validateEntries_ok {entries : List Entry} (h : validateEntries entries = .ok ()) :
    (entries.map Entry.amount).sum = 0 := by
  obtain ⟨sum, hsum, h⟩ := bind_eq_ok.1 h
  rw [← bigint_ok hsum]
  split_ifs at h with hne
  · exact not_not.mp hne

/-- Accounts have been given balances, and nothing else has changed. -/
structure Ensured (as : List AccountId) (l l' : Ledger) : Prop where
  accounts : l'.accounts = l.accounts
  transactions : l'.transactions = l.transactions
  entries : l'.entries = l.entries
  transactionAccounts : l'.transactionAccounts = l.transactionAccounts
  total : l'.total = l.total
  balance : ∀ a, l'.balance a = l.balance a
  given : ∀ a ∈ as, l'.balances.has a
  owned : ∀ a, l'.balances.has a → l.balances.has a ∨ l.accounts.has a

lemma ensureBalance_ok {as : List AccountId} {l₀ l l' : Ledger} {a : AccountId}
    (hl : Ensured as l₀ l) (h : l.ensureBalance a = .ok l') : Ensured (as ++ [a]) l₀ l' := by
  unfold Ledger.ensureBalance at h
  split_ifs at h with hhas hacc
  · cases h
    refine { hl with given := fun b hb => ?_ }
    rcases List.mem_append.mp hb with hb | hb
    · exact hl.given b hb
    · rwa [List.mem_singleton.mp hb]
  · cases h
    have hnone : l.balances.get a = none := by simpa [InsertionMap.has] using hhas
    have hget : ∀ b, (l.balances.set a 0).get b = if b = a then some 0 else l.balances.get b :=
      fun b => InsertionMap.get_set _ _ _ _
    refine { hl with total := ?_, balance := fun b => ?_, given := fun b hb => ?_,
                     owned := fun b hb => ?_ }
    · have hsum := sum_set l.balances a 0
      rw [hnone, Option.getD_none, add_zero, add_zero] at hsum
      exact hsum.trans hl.total
    · rw [← hl.balance b, Ledger.balance, Ledger.balance, hget]
      split_ifs with hb
      · rw [hb, hnone]
        rfl
      · rfl
    · rw [InsertionMap.has, hget]
      split_ifs with hba
      · rfl
      · rcases List.mem_append.mp hb with hb | hb
        · exact hl.given b hb
        · exact absurd (List.mem_singleton.mp hb) hba
    · rw [InsertionMap.has, hget] at hb
      split_ifs at hb with hba
      · rw [hba, ← hl.accounts]
        exact Or.inr hacc
      · exact hl.owned b hb

lemma ensureBalances_ok {as : List AccountId} {l l' : Ledger}
    (h : as.foldlM Ledger.ensureBalance l = .ok l') : Ensured as l l' := by
  have hnil : Ensured [] l l := ⟨rfl, rfl, rfl, rfl, rfl, fun _ => rfl, nofun, fun _ h => Or.inl h⟩
  exact foldlM_inv (P := fun done l' => Ensured done l l')
    (fun _ _ _ _ hb hf => ensureBalance_ok hb hf) hnil h

/-- The record of a transaction's change of a balance. -/
def record (l : Ledger) (id : ℕ) (es : List Entry) (a : AccountId) : TransactionAccount :=
  ⟨id, a, net a (amounts es), l.balance a + net a (amounts es)⟩

/-- The changes of accounts' balances have been applied, and nothing else has changed. -/
structure Applied (id : ℕ) (es : List Entry) (as : List AccountId) (l l' : Ledger) : Prop where
  accounts : l'.accounts = l.accounts
  transactions : l'.transactions = l.transactions
  entries : l'.entries = l.entries
  transactionAccounts : l'.transactionAccounts = l.transactionAccounts ++ as.map (record l id es)
  total : l'.total = l.total + (as.map fun a => net a (amounts es)).sum
  changed : ∀ a ∈ as, l'.balance a = l.balance a + net a (amounts es)
  unchanged : ∀ a, a ∉ as → l'.balance a = l.balance a
  has : ∀ a, l'.balances.has a = l.balances.has a

lemma applyDelta_ok {id : ℕ} {es : List Entry} {as : List AccountId} {l₀ l l' : Ledger}
    {a : AccountId} (hl : Applied id es as l₀ l) (ha : a ∉ as) (hgiven : l₀.balances.has a)
    (h : l.applyDelta id es a = .ok l') : Applied id es (as ++ [a]) l₀ l' := by
  unfold Ledger.applyDelta at h
  cases hbal : l.balances.get a with
  | none =>
    rw [← hl.has a, InsertionMap.has, hbal] at hgiven
    cases hgiven
  | some balance =>
    simp only [hbal] at h
    obtain ⟨after, hafter, h⟩ := bind_eq_ok.1 h
    obtain ⟨-, -, h⟩ := bind_eq_ok.1 h
    obtain ⟨delta, hdelta, h⟩ := bind_eq_ok.1 h
    cases h
    rw [bigint_ok hafter, bigint_ok hdelta]
    have hbefore : balance = l₀.balance a := by
      rw [← hl.unchanged a ha, Ledger.balance, hbal]
      rfl
    have hget : ∀ b, (l.balances.set a (balance + net a (amounts es))).get b =
        if b = a then some (balance + net a (amounts es)) else l.balances.get b :=
      fun b => InsertionMap.get_set _ _ _ _
    refine { hl with transactionAccounts := ?_, total := ?_, changed := fun b hb => ?_,
                     unchanged := fun b hb => ?_, has := fun b => ?_ }
    · rw [hl.transactionAccounts, List.map_append, List.append_assoc, hbefore]
      rfl
    · have hsum := sum_set l.balances a (balance + net a (amounts es))
      have htotal : l.balances.values.sum = _ := hl.total
      rw [hbal, Option.getD_some] at hsum
      rw [List.map_append, List.sum_append, List.map_singleton, List.sum_singleton]
      change (l.balances.set a (balance + net a (amounts es))).values.sum = _
      linarith
    · rw [Ledger.balance, hget]
      split_ifs with hba
      · rw [hba, hbefore]
        rfl
      · exact hl.changed b ((List.mem_append.mp hb).resolve_right
          fun h => hba (List.mem_singleton.mp h))
    · have hba : b ≠ a := fun h => hb (List.mem_append_right _ (List.mem_singleton.mpr h))
      rw [Ledger.balance, hget, if_neg hba]
      exact hl.unchanged b fun h => hb (List.mem_append_left _ h)
    · rw [← hl.has b, InsertionMap.has, InsertionMap.has, hget]
      split_ifs with hba
      · rw [hba, hbal]
        rfl
      · rfl

lemma applyDeltas_ok {id : ℕ} {es : List Entry} {as : List AccountId} {l l' : Ledger}
    (hnd : as.Nodup) (hgiven : ∀ a ∈ as, l.balances.has a)
    (h : as.foldlM (fun l a => l.applyDelta id es a) l = .ok l') : Applied id es as l l' := by
  have hnil : Applied id es [] l l :=
    ⟨rfl, rfl, rfl, by simp, by simp, nofun, fun _ _ => rfl, fun _ => rfl⟩
  refine foldlM_inv
    (P := fun done l' => done.Nodup → (∀ a ∈ done, l.balances.has a) → Applied id es done l l')
    (fun done a b b' hb hf hnd' hgiven' => ?_) (fun _ _ => hnil) h hnd hgiven
  have hdone := List.nodup_append.mp hnd'
  have hda : a ∉ done := fun ha => hdone.2.2 a ha a (List.mem_singleton_self a) rfl
  exact applyDelta_ok (hb hdone.1 fun c hc => hgiven' c (List.mem_append_left _ hc)) hda
    (hgiven' a (List.mem_append_right _ (List.mem_singleton_self a))) hf

structure Applies (id createdAt : ℕ) (p : Posting) (es : List Entry) (l l' : Ledger)
    (t : Transaction) : Prop where
  fresh : ∀ t' ∈ l.transactions, t'.id ≠ id
  id_eq : t.id = id
  key : t.idempotencyKey = p.idemKey
  accounts : l'.accounts = l.accounts
  transactions : l'.transactions = l.transactions ++ [t]
  entries : l'.entries = l.entries ++ es.map (⟨id, ·⟩)
  transactionAccounts :
    l'.transactionAccounts = l.transactionAccounts ++ (accountsOf es).map (record l id es)
  total : l'.total = l.total + (es.map Entry.amount).sum
  balance : ∀ a, l'.balance a = l.balance a + net a (amounts es)
  owned : ∀ a, l'.balances.has a → l.balances.has a ∨ l.accounts.has a
  funded : ∀ a ∈ accountsOf es, ∀ account, l.accounts.get a = some account →
    account.kind.needsFunds → 0 ≤ l.balance a + net a (amounts es)

lemma fst_amounts (es : List Entry) : (amounts es).map Prod.fst = es.map Entry.accountId := by
  simp [amounts]

lemma mem_accountsOf {es : List Entry} {a : AccountId} :
    a ∈ accountsOf es ↔ a ∈ (amounts es).map Prod.fst := by
  rw [fst_amounts, accountsOf, List.mem_dedup]

lemma nodup_accountsOf (es : List Entry) : (accountsOf es).Nodup := List.nodup_dedup _

lemma sum_net_accountsOf (es : List Entry) :
    ((accountsOf es).map fun a => net a (amounts es)).sum = (es.map Entry.amount).sum := by
  rw [sum_net (nodup_accountsOf es) fun x hx => mem_accountsOf.2 (List.mem_map_of_mem hx)]
  rw [amounts, List.map_map]
  rfl

lemma insertTransaction_ok {l l' : Ledger} {id createdAt : ℕ} {p : Posting} {t : Transaction}
    (h : l.insertTransaction id createdAt p = .ok (l', t)) :
    (∀ t' ∈ l.transactions, t'.id ≠ id) ∧ t.id = id ∧ t.idempotencyKey = p.idemKey ∧
      l' = { l with transactions := l.transactions ++ [t] } := by
  unfold Ledger.insertTransaction at h
  split_ifs at h with hany
  cases h
  exact ⟨by simpa using hany, rfl, rfl, rfl⟩

lemma apply_ok {l l' : Ledger} {id createdAt : ℕ} {p : Posting} {es : List Entry}
    {rows : List ResultRow} (h : l.apply id createdAt p es = .ok (l', rows)) :
    ∃ t, Applies id createdAt p es l l' t ∧ rows = l'.answer t false := by
  obtain ⟨⟨l₁, t⟩, hinsert, h⟩ := bind_eq_ok.1 h
  obtain ⟨hfresh, hid, hkey, rfl⟩ := insertTransaction_ok hinsert
  obtain ⟨l₂, hensure, h⟩ := bind_eq_ok.1 h
  have hensured := ensureBalances_ok hensure
  split_ifs at h with hover
  obtain ⟨l₃, hdeltas, h⟩ := bind_eq_ok.1 h
  cases h
  have hgiven : ∀ a ∈ accountsOf es, l₂.balances.has a := hensured.given
  have happlied := applyDeltas_ok (nodup_accountsOf es) (by exact hgiven) hdeltas
  have hbalance : ∀ a, l₂.balance a = l.balance a := hensured.balance
  refine ⟨t, ⟨hfresh, hid, hkey, ?_, ?_, ?_, ?_, ?_, fun a => ?_, fun a ha => ?_,
    fun a ha account hacc hneeds => ?_⟩, rfl⟩
  · exact happlied.accounts.trans hensured.accounts
  · exact happlied.transactions.trans hensured.transactions
  · rw [happlied.entries]
    exact congrArg (· ++ _) hensured.entries
  · have hrecord : record { l₂ with entries := l₂.entries ++ es.map (⟨id, ·⟩) } id es =
        record l id es := by
      funext a
      unfold record
      rw [← hbalance a]
      rfl
    rw [happlied.transactionAccounts, hrecord]
    exact congrArg (· ++ _) hensured.transactionAccounts
  · rw [happlied.total, sum_net_accountsOf]
    exact congrArg (· + _) hensured.total
  · rw [← hbalance a]
    by_cases ha : a ∈ accountsOf es
    · exact happlied.changed a ha
    · rw [net_of_not_mem (mt mem_accountsOf.2 ha), add_zero]
      exact happlied.unchanged a ha
  · rw [happlied.has] at ha
    exact hensured.owned a ha
  · have hnot : l₂.overdraws es a = false := by
      simpa using List.any_eq_false.mp (by simpa using hover) a ha
    have hacc₂ : l₂.accounts.get a = some account := by rw [hensured.accounts, hacc]
    obtain ⟨balance, hbal⟩ := Option.isSome_iff_exists.mp (hensured.given a ha)
    have hb : l.balance a = balance := by
      rw [← hbalance a, Ledger.balance, hbal]
      rfl
    simp only [Ledger.overdraws, hbal, hacc₂, hneeds, Bool.true_and, decide_eq_false_iff_not,
      not_lt] at hnot
    rwa [hb]

/-- A post that does not raise either answers with a transaction that has its key, or applies
its own. -/
lemma post_ok {l l' : Ledger} {id createdAt : ℕ} {p : Posting} {es : List Entry}
    {rows : List ResultRow}
    (h : l.postBlertcoinTransaction id createdAt p es = .ok (l', rows)) :
    (∃ t, l.withKey p.idemKey = some t ∧ l' = l ∧ rows = l.answer t true) ∨
      l.withKey p.idemKey = none ∧ (es.map Entry.amount).sum = 0 ∧
        ∃ t, Applies id createdAt p es l l' t ∧ rows = l'.answer t false := by
  obtain ⟨_, hvalid, h⟩ := bind_eq_ok.1 h
  cases hkey : l.withKey p.idemKey with
  | some t =>
    simp only [hkey] at h
    split_ifs at h
    cases h
    exact Or.inl ⟨t, rfl, rfl, rfl⟩
  | none =>
    simp only [hkey] at h
    exact Or.inr ⟨rfl, validateEntries_ok hvalid, apply_ok h⟩

/-! ### The invariant -/

/-- No transaction has been posted yet, and no account holds a coin. -/
structure Ledger.Opening (l : Ledger) : Prop where
  balances : ∀ a balance, l.balances.get a = some balance → balance = 0 ∧ l.accounts.has a
  transactions : l.transactions = []
  entries : l.entries = []
  transactionAccounts : l.transactionAccounts = []

/-- Every balance is what was moved to its account, and was recorded as such. -/
structure Ledger.Sound (l : Ledger) : Prop where
  total : l.total = 0
  entries : ∀ a, l.entrySum a = l.balance a
  deltas : ∀ a, l.deltaSum a = l.balance a
  latest : ∀ a s, l.latest a = some s → s.balanceAfter = l.balance a
  funded : ∀ a account, l.accounts.get a = some account → account.kind.needsFunds →
    0 ≤ l.balance a
  owned : ∀ a, l.balances.has a → l.accounts.has a
  ids : ∀ s ∈ l.transactionAccounts, ∃ t ∈ l.transactions, t.id = s.txnId
  keys : l.transactions.Pairwise fun t t' =>
    t.idempotencyKey = none ∨ t.idempotencyKey ≠ t'.idempotencyKey

lemma Ledger.Opening.balance {l : Ledger} (h : l.Opening) (a : AccountId) : l.balance a = 0 := by
  unfold Ledger.balance
  cases hget : l.balances.get a with
  | none => rfl
  | some balance => exact (h.balances a balance hget).1

lemma Ledger.Opening.sound {l : Ledger} (h : l.Opening) : l.Sound where
  total := by
    refine List.sum_eq_zero fun balance hmem => ?_
    obtain ⟨⟨a, balance'⟩, he, rfl⟩ := List.mem_map.mp hmem
    exact (h.balances a balance' (InsertionMap.get_eq_some.mpr he)).1
  entries a := by
    rw [h.balance a, Ledger.entrySum, h.entries]
    rfl
  deltas a := by
    rw [h.balance a, Ledger.deltaSum, h.transactionAccounts]
    rfl
  latest a s hs := by
    rw [Ledger.latest, h.transactionAccounts] at hs
    cases hs
  funded a _ _ _ := (h.balance a).ge
  owned a ha := by
    obtain ⟨balance, hget⟩ := Option.isSome_iff_exists.mp ha
    exact (h.balances a balance hget).2
  ids s hs := by
    rw [h.transactionAccounts] at hs
    cases hs
  keys := by
    rw [h.transactions]
    exact .nil

section Applies

variable {id createdAt : ℕ} {p : Posting} {es : List Entry} {l l' : Ledger} {t : Transaction}

lemma Applies.entrySum (h : Applies id createdAt p es l l' t) (a : AccountId) :
    l'.entrySum a = l.entrySum a + net a (amounts es) := by
  rw [Ledger.entrySum, h.entries, List.map_append, List.map_map, amounts, List.map_append,
    net_append, Ledger.entrySum]
  congr 1
  simp [amounts, Function.comp_def]

lemma Applies.deltaSum (h : Applies id createdAt p es l l' t) (a : AccountId) :
    l'.deltaSum a = l.deltaSum a + net a (amounts es) := by
  rw [Ledger.deltaSum, h.transactionAccounts, List.map_append, net_append, List.map_map]
  change _ + net a ((accountsOf es).map fun b => (b, net b (amounts es))) = _
  rw [net_map (nodup_accountsOf es)]
  split_ifs with ha
  · rfl
  · rw [net_of_not_mem (mt mem_accountsOf.2 ha)]
    rfl

lemma filter_map_record (l : Ledger) (id : ℕ) (es : List Entry) (a : AccountId) :
    ((accountsOf es).map (record l id es)).filter (·.accountId = a) =
      if a ∈ accountsOf es then [record l id es a] else [] := by
  rw [List.filter_map]
  have hcomp : ((fun s : TransactionAccount => decide (s.accountId = a)) ∘ record l id es) =
      fun b => decide (b = a) := rfl
  rw [hcomp, List.filter_eq, (nodup_accountsOf es).count]
  split_ifs <;> rfl

lemma Applies.latest (h : Applies id createdAt p es l l' t) (a : AccountId) :
    l'.latest a = if a ∈ accountsOf es then some (record l id es a) else l.latest a := by
  rw [Ledger.latest, h.transactionAccounts, List.filter_append, filter_map_record]
  split_ifs
  · exact List.getLast?_concat
  · rw [List.append_nil]
    rfl

lemma withKey_eq_none {l : Ledger} {key : Option String} (h : l.withKey key = none) :
    key = none ∨ ∀ t ∈ l.transactions, t.idempotencyKey ≠ key := by
  cases key with
  | none => exact Or.inl rfl
  | some key => exact Or.inr (by simpa [Ledger.withKey] using h)

lemma Applies.sound (h : Applies id createdAt p es l l' t) (hl : l.Sound)
    (hkey : l.withKey p.idemKey = none) (hsum : (es.map Entry.amount).sum = 0) : l'.Sound where
  total := by rw [h.total, hl.total, hsum, add_zero]
  entries a := by rw [h.entrySum, h.balance, hl.entries]
  deltas a := by rw [h.deltaSum, h.balance, hl.deltas]
  latest a s hs := by
    rw [h.latest] at hs
    rw [h.balance]
    split_ifs at hs with ha
    · cases hs
      rfl
    · rw [net_of_not_mem (mt mem_accountsOf.2 ha), add_zero]
      exact hl.latest a s hs
  funded a account hacc hneeds := by
    rw [h.accounts] at hacc
    rw [h.balance]
    by_cases ha : a ∈ accountsOf es
    · exact h.funded a ha account hacc hneeds
    · rw [net_of_not_mem (mt mem_accountsOf.2 ha), add_zero]
      exact hl.funded a account hacc hneeds
  owned a ha := by
    rw [h.accounts]
    exact (h.owned a ha).elim (hl.owned a) fun hacc => hacc
  ids s hs := by
    rw [h.transactionAccounts] at hs
    rw [h.transactions]
    rcases List.mem_append.mp hs with hs | hs
    · obtain ⟨t', ht', hid⟩ := hl.ids s hs
      exact ⟨t', List.mem_append_left _ ht', hid⟩
    · obtain ⟨a, -, rfl⟩ := List.mem_map.mp hs
      exact ⟨t, List.mem_append_right _ (List.mem_singleton_self t), h.id_eq⟩
  keys := by
    rw [h.transactions]
    refine List.pairwise_append.mpr ⟨hl.keys, List.pairwise_singleton _ t, fun t' ht' u hu => ?_⟩
    rw [List.mem_singleton.mp hu, h.key]
    rcases withKey_eq_none hkey with hnone | hne
    · cases hk : t'.idempotencyKey with
      | none => exact Or.inl rfl
      | some key => exact Or.inr (by rw [hnone]; exact nofun)
    · exact Or.inr (hne t' ht')

end Applies

/-! ### Runs -/

/-- A transaction is posted, or a user is given an account. -/
inductive Step (l : Ledger) : Ledger → Prop
  | post (id createdAt : ℕ) (p : Posting) (es : List Entry) :
    Step l (postTransaction l id createdAt p es).1
  | account (id : AccountId) (userId : ℤ) : Step l (createUserAccount l id userId)

/-- Transactions are posted one after the other. -/
abbrev Run : Ledger → Ledger → Prop := Relation.ReflTransGen Step

lemma call_error {l l' : Ledger} {id createdAt : ℕ} {p : Posting} {es : List Entry}
    {e : PostError} (h : l.call id createdAt p es = (l', .error e)) : l' = l := by
  unfold Ledger.call at h
  split at h <;> cases h
  rfl

lemma call_ok {l l' : Ledger} {id createdAt : ℕ} {p : Posting} {es : List Entry}
    {rows : List ResultRow} (h : l.call id createdAt p es = (l', .ok rows)) :
    (∃ t, l.withKey p.idemKey = some t ∧ l' = l ∧ rows = l.answer t true) ∨
      l.withKey p.idemKey = none ∧ (es.map Entry.amount).sum = 0 ∧
        ∃ t, Applies id createdAt p es l l' t ∧ rows = l'.answer t false := by
  unfold Ledger.call at h
  split at h
  · rename_i hpost
    cases h
    obtain ⟨_, -, hpost⟩ := bind_eq_ok.1 hpost
    exact post_ok hpost
  · cases h

lemma call_cases {l l' : Ledger} {id createdAt : ℕ} {p : Posting} {es : List Entry}
    {r : Except PostError (List ResultRow)} (h : l.call id createdAt p es = (l', r)) :
    l' = l ∨ l.withKey p.idemKey = none ∧ (es.map Entry.amount).sum = 0 ∧
      ∃ t, Applies id createdAt p es l l' t := by
  cases r with
  | error e => exact Or.inl (call_error h)
  | ok rows =>
    rcases call_ok h with ⟨t, -, hl, -⟩ | ⟨hkey, hsum, t, happ, -⟩
    · exact Or.inl hl
    · exact Or.inr ⟨hkey, hsum, t, happ⟩

lemma createUserAccount_cases (l : Ledger) (id : AccountId) (userId : ℤ) :
    createUserAccount l id userId = l ∨ l.accounts.has id = false ∧
      createUserAccount l id userId =
        { l with
          accounts := l.accounts.set id ⟨some userId, .user⟩
          balances := if l.balances.has id then l.balances else l.balances.set id 0 } := by
  unfold createUserAccount
  by_cases h : l.accounts.has id ∨ l.accounts.values.any (fun a =>
      a.kind = .user ∧ a.ownerUserId = some userId)
  · rw [if_pos h]
    exact Or.inl rfl
  · rw [if_neg h]
    exact Or.inr ⟨by simpa using (not_or.mp h).1, rfl⟩

lemma createUserAccount_sound {l : Ledger} (hl : l.Sound) (id : AccountId) (userId : ℤ) :
    (createUserAccount l id userId).Sound := by
  rcases createUserAccount_cases l id userId with h | ⟨hacc, h⟩
  · rw [h]
    exact hl
  -- an account that is not there has no balance either
  have hnone : l.balances.get id = none := by
    by_contra hsome
    have hhas := hl.owned id (Option.isSome_iff_ne_none.mpr hsome)
    rw [hacc] at hhas
    cases hhas
  rw [if_neg (by simp [InsertionMap.has, hnone])] at h
  rw [h]
  have hget : ∀ a, (l.balances.set id 0).get a = if a = id then some 0 else l.balances.get a :=
    fun a => InsertionMap.get_set _ _ _ _
  have hbalance : ∀ a, ((l.balances.set id 0).get a).getD 0 = l.balance a := by
    intro a
    rw [hget, Ledger.balance]
    split_ifs with ha
    · rw [ha, hnone]
      rfl
    · rfl
  refine { hl with total := ?_, entries := fun a => ?_, deltas := fun a => ?_,
                   latest := fun a s hs => ?_, funded := fun a account ha hneeds => ?_,
                   owned := fun a ha => ?_ }
  · have hsum := sum_set l.balances id 0
    rw [hnone, Option.getD_none, add_zero, add_zero] at hsum
    exact hsum.trans hl.total
  · exact (hl.entries a).trans (hbalance a).symm
  · exact (hl.deltas a).trans (hbalance a).symm
  · exact (hl.latest a s hs).trans (hbalance a).symm
  · rw [Ledger.balance, hbalance]
    rw [InsertionMap.get_set] at ha
    split_ifs at ha with hid
    · rw [hid, Ledger.balance, hnone]
      rfl
    · exact hl.funded a account ha hneeds
  · rw [InsertionMap.has, hget] at ha
    rw [InsertionMap.has, InsertionMap.get_set]
    split_ifs at ha ⊢ with hid
    · rfl
    · exact hl.owned a ha

lemma Step.sound {l l' : Ledger} (h : Step l l') (hl : l.Sound) : l'.Sound := by
  cases h with
  | post id createdAt p es =>
    rcases call_cases (Prod.mk.eta (p := l.call id createdAt p es)).symm with
      h | ⟨hkey, hsum, t, happ⟩
    · exact h.symm ▸ hl
    · exact happ.sound hl hkey hsum
  | account id userId => exact createUserAccount_sound hl id userId

lemma Run.sound {l l' : Ledger} (h : Run l l') (hl : l.Sound) : l'.Sound := by
  induction h with
  | refl => exact hl
  | tail _ hstep ih => exact hstep.sound ih

/-! ### Replays -/

def Ledger.Holds (l : Ledger) (key : String) (t : Transaction) (rows : List ResultRow) : Prop :=
  l.withKey (some key) = some t ∧ l.answer t true = rows

lemma Applies.holds {id createdAt : ℕ} {p : Posting} {es : List Entry} {l l' : Ledger}
    {t u : Transaction} (h : Applies id createdAt p es l l' t) {key : String}
    {rows : List ResultRow} (hl : l.Holds key u rows) : l'.Holds key u rows := by
  obtain ⟨hkey, hanswer⟩ := hl
  have hu : u ∈ l.transactions := List.mem_of_find?_eq_some hkey
  constructor
  · change l'.transactions.find? _ = _
    rw [h.transactions, List.find?_append]
    exact Option.or_eq_some_iff.mpr (Or.inl hkey)
  · -- what is recorded is another transaction's
    have hnone : ((accountsOf es).map (record l id es)).filter (·.txnId = u.id) = [] := by
      refine List.filter_eq_nil_iff.mpr fun s hs hid => h.fresh u hu ?_
      obtain ⟨a, -, rfl⟩ := List.mem_map.mp hs
      exact (of_decide_eq_true hid).symm
    rw [← hanswer, Ledger.answer, Ledger.answer, h.transactionAccounts, List.filter_append,
      hnone, List.append_nil]

lemma Step.holds {l l' : Ledger} (h : Step l l') {key : String} {t : Transaction}
    {rows : List ResultRow} (hl : l.Holds key t rows) : l'.Holds key t rows := by
  cases h with
  | post id createdAt p es =>
    rcases call_cases (Prod.mk.eta (p := l.call id createdAt p es)).symm with
      h | ⟨-, -, t', happ⟩
    · exact h.symm ▸ hl
    · exact happ.holds hl
  | account id userId =>
    rcases createUserAccount_cases l id userId with h | ⟨-, h⟩
    · rw [h]
      exact hl
    · rw [h]
      exact hl

lemma Run.holds {l l' : Ledger} (h : Run l l') {key : String} {t : Transaction}
    {rows : List ResultRow} (hl : l.Holds key t rows) : l'.Holds key t rows := by
  induction h with
  | refl => exact hl
  | tail _ hstep ih => exact hstep.holds ih

/-- Entries that are numbers, add up to zero and leave none out. -/
def Valid (es : List Entry) : Prop := entriesParam es = .ok () ∧ validateEntries es = .ok ()

def replayed (rows : List ResultRow) : List ResultRow :=
  rows.map fun r => { r with idempotent := true }

lemma answer_replayed (l : Ledger) (t : Transaction) :
    l.answer t true = replayed (l.answer t false) := by
  simp [Ledger.answer, replayed, Function.comp_def]

lemma Ledger.Holds.call {l : Ledger} {key : String} {t : Transaction} {rows : List ResultRow}
    (h : l.Holds key t rows) (hrows : rows ≠ []) (id createdAt : ℕ) {p : Posting}
    (hp : p.idemKey = some key) {es : List Entry} (hes : Valid es) :
    l.call id createdAt p es = (l, .ok rows) := by
  obtain ⟨hkey, rfl⟩ := h
  have hpost : l.postBlertcoinTransaction id createdAt p es = .ok (l, l.answer t true) := by
    unfold Ledger.postBlertcoinTransaction
    rw [hes.2, hp, hkey]
    exact if_neg (by simpa using hrows)
  have hcall : (entriesParam es >>= fun _ => l.postBlertcoinTransaction id createdAt p es) =
      .ok (l, l.answer t true) := by
    rw [hes.1]
    exact hpost
  simp only [Ledger.call, hcall]

lemma Applies.answer_ne_nil {id createdAt : ℕ} {p : Posting} {es : List Entry} {l l' : Ledger}
    {t : Transaction} (h : Applies id createdAt p es l l' t) (hes : es ≠ []) :
    l'.answer t false ≠ [] := by
  obtain ⟨e, es', rfl⟩ := List.exists_cons_of_ne_nil hes
  have ha : e.accountId ∈ accountsOf (e :: es') := by simp [accountsOf]
  have hs : record l id (e :: es') e.accountId ∈ l'.transactionAccounts := by
    rw [h.transactionAccounts]
    exact List.mem_append_right _ (List.mem_map_of_mem ha)
  refine List.ne_nil_of_mem (List.mem_map_of_mem (List.mem_filter.mpr ⟨hs, ?_⟩))
  exact decide_eq_true h.id_eq.symm

lemma replay_answers {l l₁ l₂ : Ledger} {key : String} {id createdAt : ℕ} {p : Posting}
    {es : List Entry} {rows : List ResultRow} (hp : p.idemKey = some key)
    (hnew : l.withKey (some key) = none) (hcall : l.call id createdAt p es = (l₁, .ok rows))
    (hes : es ≠ []) (hrun : Run l₁ l₂) (id' createdAt' : ℕ) {p' : Posting}
    (hp' : p'.idemKey = some key) {es' : List Entry} (hes' : Valid es') :
    l₂.call id' createdAt' p' es' = (l₂, .ok (replayed rows)) := by
  rcases call_ok hcall with ⟨t, hkey, -, -⟩ | ⟨-, -, t, happ, rfl⟩
  · rw [hp, hnew] at hkey
    cases hkey
  · have hfind : l₁.withKey (some key) = some t := by
      have hold : l.transactions.find? (·.idempotencyKey = some key) = none := hnew
      change l₁.transactions.find? _ = _
      rw [happ.transactions, List.find?_append, hold, Option.none_or]
      simp [happ.key, hp]
    have hholds : l₁.Holds key t (replayed (l₁.answer t false)) :=
      ⟨hfind, answer_replayed l₁ t⟩
    refine (hrun.holds hholds).call ?_ id' createdAt' hp' hes'
    simpa [replayed] using happ.answer_ne_nil hes

/-! ### The ledger -/

lemma length_filter_key {ts : List Transaction} (h : ts.Pairwise fun t t' =>
    t.idempotencyKey = none ∨ t.idempotencyKey ≠ t'.idempotencyKey) (key : String) :
    (ts.filter (·.idempotencyKey = some key)).length ≤ 1 := by
  induction ts with
  | nil => simp
  | cons t ts ih =>
    obtain ⟨ht, hts⟩ := List.pairwise_cons.mp h
    by_cases hk : t.idempotencyKey = some key
    · have hnone : ts.filter (·.idempotencyKey = some key) = [] := by
        refine List.filter_eq_nil_iff.mpr fun u hu huk => ?_
        rcases ht u hu with hno | hne
        · rw [hk] at hno
          cases hno
        · exact hne (hk.trans (of_decide_eq_true huk).symm)
      rw [List.filter_cons, if_pos (decide_eq_true hk), hnone]
      rfl
    · rw [List.filter_cons, if_neg (by simpa using hk)]
      exact ih hts

/-- **The ledger conserves coins.** -/
theorem ledger_conserves (l₀ l : Ledger) (hopening : l₀.Opening) (hrun : Run l₀ l) :
    l.total = l₀.total ∧
    (∀ a balance, l.balances.get a = some balance →
      l.entrySum a = balance ∧ l.deltaSum a = balance ∧
      (∀ s, l.latest a = some s → s.balanceAfter = balance) ∧
      ∀ account, l.accounts.get a = some account → account.kind.needsFunds → 0 ≤ balance) ∧
    (∀ key, (l.transactions.filter (·.idempotencyKey = some key)).length ≤ 1) ∧
    (∀ id createdAt p es l' e, l.call id createdAt p es = (l', .error e) → l' = l) ∧
    ∀ key id createdAt p es l₁ rows, p.idemKey = some key → l.withKey (some key) = none →
      l.call id createdAt p es = (l₁, .ok rows) → es ≠ [] → ∀ l₂, Run l₁ l₂ →
        ∀ id' createdAt' p' es', p'.idemKey = some key → Valid es' →
          l₂.call id' createdAt' p' es' = (l₂, .ok (replayed rows)) := by
  have hl := hrun.sound hopening.sound
  refine ⟨by rw [hl.total, hopening.sound.total], fun a balance hget => ?_, fun key => ?_,
    fun id createdAt p es l' e h => call_error h, ?_⟩
  · have hbalance : l.balance a = balance := by
      rw [Ledger.balance, hget]
      rfl
    subst hbalance
    exact ⟨hl.entries a, hl.deltas a, hl.latest a, hl.funded a⟩
  · exact length_filter_key hl.keys key
  · intro key id createdAt p es l₁ rows hp hnew hcall hes l₂ hrun id' createdAt' p' es' hp' hes'
    exact replay_answers hp hnew hcall hes hrun id' createdAt' hp' hes'

section Examples

def seeded : Ledger where
  accounts := ((∅ : InsertionMap AccountId Account).set 1 ⟨none, .treasury⟩).set 2 ⟨some 7, .user⟩
  balances := ((∅ : InsertionMap AccountId ℤ).set 1 0).set 2 0
  transactions := []
  entries := []
  transactionAccounts := []

lemma seeded_opening : seeded.Opening where
  balances a balance h := by
    rw [InsertionMap.get_eq_some] at h
    change (a, balance) ∈ [((1 : AccountId), (0 : ℤ)), (2, 0)] at h
    rcases List.mem_pair.mp h with h | h <;> cases h <;> exact ⟨rfl, rfl⟩
  transactions := rfl
  entries := rfl
  transactionAccounts := rfl

def reward : Posting := ⟨0, "challenges", "reward", some "challenge:1", none, none, none⟩

theorem ledger_conserves_reward :
    (postTransaction seeded 1 100 reward [⟨1, -5⟩, ⟨2, 2⟩, ⟨2, 3⟩]).1.total = 0 :=
  (ledger_conserves seeded _ seeded_opening
    (.single (.post 1 100 reward [⟨1, -5⟩, ⟨2, 2⟩, ⟨2, 3⟩]))).1

/-- A transaction without entries is applied under its key but has no rows to answer a replay
with, and a replay with other entries is refused if they do not add up to zero. -/
theorem replay_raises :
    (∃ l, seeded.call 1 100 reward [] = (l, .ok []) ∧
      l.call 2 200 reward [] = (l, .error .missingSnapshot)) ∧
    ∃ l rows, seeded.call 1 100 reward [⟨1, -5⟩, ⟨2, 5⟩] = (l, .ok rows) ∧
      l.call 2 200 reward [⟨2, 5⟩] = (l, .error .unbalancedTransaction) :=
  ⟨⟨_, rfl, rfl⟩, _, _, rfl, rfl⟩

end Examples

/-! ### Statements -/

namespace Ledger

def entriesOf (l : Ledger) (id : ℕ) : List Entry := (l.entries.filter (·.txnId = id)).map (·.entry)

/-- What was recorded of the changes of an account's balance, in order. -/
def statement (l : Ledger) (a : AccountId) : List TransactionAccount :=
  l.transactionAccounts.filter (·.accountId = a)

/-- What a transaction recorded is what its entries net to, and the balances an account's
statement lists are the totals up to there. -/
structure Reconciled (l : Ledger) : Prop where
  posted : ∀ e ∈ l.entries, ∃ t ∈ l.transactions, t.id = e.txnId
  balanced : ∀ t ∈ l.transactions, ((l.entriesOf t.id).map Entry.amount).sum = 0
  recorded : ∀ t ∈ l.transactions,
    (l.transactionAccounts.filter (·.txnId = t.id)).map (fun s => (s.accountId, s.delta)) =
      (accountsOf (l.entriesOf t.id)).map fun a => (a, net a (amounts (l.entriesOf t.id)))
  running : ∀ a earlier s, earlier ++ [s] <+: l.statement a →
    s.balanceAfter = (earlier.map TransactionAccount.delta).sum + s.delta

lemma deltaSum_eq (l : Ledger) (a : AccountId) :
    l.deltaSum a = ((l.statement a).map TransactionAccount.delta).sum := by
  rw [deltaSum, net, InsertionMap.withKey, List.filter_map, List.map_map]
  rfl

end Ledger

section Applies

variable {id createdAt : ℕ} {p : Posting} {es : List Entry} {l l' : Ledger} {t : Transaction}

lemma Applies.entriesOf (h : Applies id createdAt p es l l' t) (u : ℕ) :
    l'.entriesOf u = l.entriesOf u ++ if id = u then es else [] := by
  rw [Ledger.entriesOf, h.entries, List.filter_append, List.map_append, List.filter_map]
  by_cases hu : id = u <;> simp [Ledger.entriesOf, hu, Function.comp_def]

lemma Applies.filter_txnId (h : Applies id createdAt p es l l' t) (u : ℕ) :
    l'.transactionAccounts.filter (·.txnId = u) =
      l.transactionAccounts.filter (·.txnId = u) ++
        if id = u then (accountsOf es).map (record l id es) else [] := by
  rw [h.transactionAccounts, List.filter_append, List.filter_map]
  by_cases hu : id = u <;> simp [record, hu, Function.comp_def]

lemma Applies.reconciled (h : Applies id createdAt p es l l' t) (hl : l.Sound)
    (hr : l.Reconciled) (hsum : (es.map Entry.amount).sum = 0) : l'.Reconciled := by
  -- the transaction's id is new to every table
  have hentries : l.entriesOf id = [] := by
    simp only [Ledger.entriesOf, List.map_eq_nil_iff, List.filter_eq_nil_iff, decide_eq_true_eq]
    grind [hr.posted, h.fresh]
  have hrecords : l.transactionAccounts.filter (·.txnId = id) = [] := by
    simp only [List.filter_eq_nil_iff, decide_eq_true_eq]
    grind [hl.ids, h.fresh]
  have hcases : ∀ t' ∈ l'.transactions, t' ∈ l.transactions ∧ t'.id ≠ id ∨ t'.id = id := by
    grind [h.transactions, h.fresh, h.id_eq]
  refine ⟨fun e he => ?_, fun t' ht' => ?_, fun t' ht' => ?_, fun a earlier s hs => ?_⟩
  · rw [h.entries] at he
    grind [h.transactions, hr.posted, h.id_eq]
  · rw [h.entriesOf]
    rcases hcases t' ht' with ⟨hold, hne⟩ | hid
    · simpa [hne.symm] using hr.balanced t' hold
    · simpa [hid, hentries] using hsum
  · rw [h.entriesOf, h.filter_txnId]
    rcases hcases t' ht' with ⟨hold, hne⟩ | hid
    · simpa [hne.symm] using hr.recorded t' hold
    · simp [hid, hentries, hrecords, record, Function.comp_def]
  · rw [Ledger.statement, h.transactionAccounts, List.filter_append, filter_map_record] at hs
    split_ifs at hs
    · rcases List.prefix_concat_iff.mp hs with heq | hs
      · -- the last line is the transaction's own
        obtain ⟨rfl, hlast⟩ := List.append_inj' heq rfl
        rw [List.singleton_inj.mp hlast]
        exact congrArg (· + net a (amounts es)) ((hl.deltas a).symm.trans (l.deltaSum_eq a))
      · exact hr.running a earlier s hs
    · rw [List.append_nil] at hs
      exact hr.running a earlier s hs

end Applies

/-- **A ledger's statements reconcile with its entries**, whatever was posted. -/
theorem statements_reconcile {l₀ l : Ledger} (hopening : l₀.Opening) (hrun : Run l₀ l) :
    l.Reconciled := by
  induction hrun with
  | refl =>
    obtain ⟨-, htransactions, hentries, haccounts⟩ := hopening
    constructor <;> simp [htransactions, hentries, haccounts, Ledger.statement]
  | @tail l l' hrun hstep ih =>
    cases hstep with
    | post id createdAt p es =>
      rcases call_cases (Prod.mk.eta (p := l.call id createdAt p es)).symm with
        h | ⟨-, hsum, t, happ⟩
      · exact h.symm ▸ ih
      · exact happ.reconciled (Run.sound hrun hopening.sound) ih hsum
    | account id userId =>
      rcases createUserAccount_cases l id userId with h | ⟨-, h⟩
      · rw [h]
        exact ih
      · rw [h]
        exact ⟨ih.posted, ih.balanced, ih.recorded, ih.running⟩

theorem statements_reconcile_reward :
    (postTransaction seeded 1 100 reward [⟨1, -5⟩, ⟨2, 2⟩, ⟨2, 3⟩]).1.Reconciled :=
  statements_reconcile seeded_opening (.single (.post 1 100 reward [⟨1, -5⟩, ⟨2, 2⟩, ⟨2, 3⟩]))

end Blert.Bank

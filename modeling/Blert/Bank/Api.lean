import Blert.Bank.Conservation

/-!
The answers to posted transactions.

A request names accounts, or participants that are resolved to accounts. The answer lists the
accounts that the transaction changed. Where participants were named, it gives for each account
what the last participant that resolved to it had asked for.
-/

namespace Blert.Bank

open Netting Fallible

/-! ### Requests -/

inductive TransactionParticipant
  | user (userId amount : ℤ)
  | system (name : String) (amount : ℤ)
  | account (accountId : AccountId) (amount : ℤ)
  deriving DecidableEq

def TransactionParticipant.amount : TransactionParticipant → ℤ
  | user _ amount | system _ amount | account _ amount => amount

inductive TransactionParts
  | entries (entries : List Entry)
  | participants (participants : List TransactionParticipant)

inductive ApiErrorCode
  | accountNotFound | insufficientFunds | invalidAmount | unbalancedTransaction | badRequest
  | internalError
  deriving DecidableEq

structure ApiError where
  code : ApiErrorCode := .internalError
  message : String := "Internal server error"

/-! ### Accounts -/

def findAccountById (l : Ledger) (accountId : AccountId) : Option AccountId :=
  if l.accounts.has accountId ∧ l.balances.has accountId then some accountId else none

def findUserAccountByUserId (l : Ledger) (userId : ℤ) : Option AccountId :=
  (l.accounts.entries.find? fun (accountId, account) =>
    account.ownerUserId = some userId ∧ account.kind = .user ∧ l.balances.has accountId).map
      Prod.fst

def findSystemAccountByName (systemAccounts : String → Option AccountId) (l : Ledger)
    (name : String) : Option AccountId :=
  (systemAccounts name).bind (findAccountById l)

variable (systemAccounts : String → Option AccountId) (l : Ledger)

def findParticipant : TransactionParticipant → Option AccountId
  | .account accountId _ => findAccountById l accountId
  | .user userId _ => findUserAccountByUserId l userId
  | .system name _ => findSystemAccountByName systemAccounts l name

def notFoundMessage : TransactionParticipant → String
  | .account accountId _ => s!"Account {accountId} not found"
  | .user userId _ => s!"User {userId} does not have an account"
  | .system name _ => s!"System account '{name}' not found"

def resolveParticipant (participant : TransactionParticipant) : Except ApiError AccountId :=
  match findParticipant systemAccounts l participant with
  | some accountId => .ok accountId
  | none => .error ⟨.accountNotFound, notFoundMessage participant⟩

abbrev ParticipantMapping := InsertionMap AccountId TransactionParticipant

def resolveParticipants (participants : List TransactionParticipant) :
    Except ApiError (List Entry × ParticipantMapping) := do
  let resolved ← participants.mapM fun participant => do
    let accountId ← resolveParticipant systemAccounts l participant
    .ok (accountId, participant)
  .ok (resolved.map fun r => ⟨r.1, r.2.amount⟩, resolved.foldl (fun m r => m.set r.1 r.2) ∅)

/-! ### Responses -/

/-- A participant of an account, if one resolved to it, with the balance of the account. -/
structure ParticipantResponse where
  participant : Option TransactionParticipant
  balanceAfter : ℤ

inductive ResponseLines
  | entries (entries : List TransactionResultEntry)
  | participants (participants : List ParticipantResponse)

structure TransactionResponse where
  transactionId : ℕ
  createdAt : ℕ
  idempotent : Bool
  lines : ResponseLines

def toTransactionResponse (result : PostTransactionResult)
    (participantMapping : Option ParticipantMapping) : TransactionResponse where
  transactionId := result.transactionId
  createdAt := result.createdAt
  idempotent := result.idempotent
  lines :=
    match participantMapping with
    | some mapping => .participants (result.entries.map fun e =>
        ⟨mapping.get e.accountId, e.balanceAfter⟩)
    | none => .entries result.entries

def mapTransactionError : TransactionFailure → ApiError
  | .transactionError "INSUFFICIENT_FUNDS" message => ⟨.insufficientFunds, message⟩
  | .transactionError "INVALID_AMOUNT" message => ⟨.invalidAmount, message⟩
  | .transactionError _ message => ⟨.unbalancedTransaction, message⟩
  | _ => {}

/-- Answers a request whose participants are looked up on one ledger and whose entries are posted on
another, with the id and the time the database gives its transaction. -/
def create (current : Ledger) (id createdAt : ℕ) (p : Posting) (parts : TransactionParts) :
    Ledger × Except ApiError TransactionResponse :=
  let checked : Except ApiError (List Entry × Option ParticipantMapping) :=
    if p.reason.isEmpty then .error ⟨.badRequest, "reason is required"⟩
    else
      match parts with
      | .entries [] | .participants [] =>
        .error ⟨.badRequest, "Either entries or participants is required"⟩
      | .entries entries => .ok (entries, none)
      | .participants participants =>
        (resolveParticipants systemAccounts l participants).map fun r => (r.1, some r.2)
  match checked with
  | .error e => (current, .error e)
  | .ok (entries, mapping) =>
    let (l', result) := postTransaction current id createdAt p entries
    (l', (result.mapError mapTransactionError).map (toTransactionResponse · mapping))

/-! ### What an answer says -/

/-- The accounts, amounts and balances of an answer. -/
def ResponseLines.told : ResponseLines → List (Option AccountId × Option ℤ × ℤ)
  | .entries es => es.map fun e => (some e.accountId, some e.delta, e.balanceAfter)
  | .participants ps => ps.map fun r => (r.participant.bind (findParticipant systemAccounts l),
      r.participant.map TransactionParticipant.amount, r.balanceAfter)

/-- An answer lists what the ledger has recorded of the transaction. -/
def TransactionResponse.Truthful (l' : Ledger) (response : TransactionResponse) : Prop :=
  response.lines.told systemAccounts l =
    (l'.transactionAccounts.filter (·.txnId = response.transactionId)).map fun s =>
      (some s.accountId, some s.delta, s.balanceAfter)

def LastAsks (participants : List TransactionParticipant) (accountId : AccountId) (amount : ℤ) :
    Prop :=
  ∃ participant, participants.reverse.find?
      (findParticipant systemAccounts l · = some accountId) = some participant ∧
    participant.amount = amount

def entriesOf (participants : List TransactionParticipant) : List Entry :=
  participants.filterMap fun participant =>
    (findParticipant systemAccounts l participant).map (⟨·, participant.amount⟩)

/-- The last participant of each account asks for all that is moved to it: by the transaction that
has the key already, or else by all participants. -/
def LastAskForAll (current : Ledger) (key : Option String) : TransactionParts → Prop
  | .entries _ => True
  | .participants participants =>
    match current.withKey key with
    | some t => ∀ s ∈ current.transactionAccounts, s.txnId = t.id →
        LastAsks systemAccounts l participants s.accountId s.delta
    | none => ∀ a ∈ accountsOf (entriesOf systemAccounts l participants),
        LastAsks systemAccounts l participants a
          (net a (amounts (entriesOf systemAccounts l participants)))

section

variable {systemAccounts : String → Option AccountId} {l l' : Ledger} {id createdAt : ℕ}
  {p : Posting} {parts : TransactionParts} {participants : List TransactionParticipant}

lemma resolveParticipants_ok {es : List Entry} {mapping : ParticipantMapping}
    (h : resolveParticipants systemAccounts l participants = .ok (es, mapping)) :
    es = entriesOf systemAccounts l participants ∧ ∀ a, mapping.get a =
      participants.reverse.find? (findParticipant systemAccounts l · = some a) := by
  obtain ⟨resolved, hresolved, heq⟩ := bind_eq_ok.1 h
  cases heq
  clear h
  have hpair {participant : TransactionParticipant} {r : AccountId × TransactionParticipant}
      (h : (do
        let accountId ← resolveParticipant systemAccounts l participant
        .ok (accountId, participant)) = Except.ok (ε := ApiError) r) :
      findParticipant systemAccounts l participant = some r.1 ∧ r.2 = participant := by
    obtain ⟨accountId, haccount, h⟩ := bind_eq_ok.1 h
    cases h
    unfold resolveParticipant at haccount
    split at haccount
    · next heq =>
      cases haccount
      exact ⟨heq, rfl⟩
    · cases haccount
  have hall := mapM_ok hresolved
  clear hresolved
  have hget : ∀ (m : ParticipantMapping) (a : AccountId),
      (resolved.foldl (fun m r => m.set r.1 r.2) m).get a =
        (participants.reverse.find? (findParticipant systemAccounts l · = some a)).or
          (m.get a) := by
    induction hall with
    | nil => exact fun m a => rfl
    | @cons participant r participants resolved hr _ ih =>
      intro m a
      obtain ⟨haccount, hparticipant⟩ := hpair hr
      rw [List.foldl_cons, ih, List.reverse_cons, List.find?_append, Option.or_assoc,
        InsertionMap.get_set, hparticipant]
      congr 1
      by_cases heq : a = r.1
      · simp [haccount, heq]
      · simp [haccount, heq, Ne.symm heq]
  refine ⟨?_, fun a => by rw [hget, InsertionMap.get_empty, Option.or_none]⟩
  clear hget
  induction hall with
  | nil => rfl
  | cons hr _ ih =>
    obtain ⟨haccount, hparticipant⟩ := hpair hr
    simp only [entriesOf, List.map_cons, List.filterMap_cons, haccount, Option.map_some,
      hparticipant] at ih ⊢
    rw [ih]

/-- A result lists what has been recorded of a transaction: of the one that has the key, or of a
new one. -/
lemma postTransaction_ok {es : List Entry} {result : PostTransactionResult}
    (h : postTransaction l id createdAt p es = (l', .ok result)) :
    (result.entries = (l'.transactionAccounts.filter (·.txnId = result.transactionId)).map fun s =>
      ⟨s.accountId, s.delta, s.balanceAfter⟩) ∧
    ((∃ t, l.withKey p.idemKey = some t ∧ l' = l ∧ result.transactionId = t.id) ∨
      l.withKey p.idemKey = none ∧ ∃ t, Applies id createdAt p es l l' t ∧
        result.transactionId = t.id) := by
  have hrows {rows : List ResultRow} {t : Transaction} {idempotent : Bool}
      (hrows : rows = l'.answer t idempotent) (h : toResult (.ok rows) = .ok result) :
      result.transactionId = t.id ∧ result.entries =
        (l'.transactionAccounts.filter (·.txnId = t.id)).map fun s =>
          ⟨s.accountId, s.delta, s.balanceAfter⟩ := by
    cases rows with
    | nil => cases h
    | cons row rows =>
      cases h
      have hmem : row ∈ l'.answer t idempotent := hrows ▸ List.mem_cons_self
      obtain ⟨s, -, rfl⟩ := List.mem_map.mp hmem
      refine ⟨rfl, ?_⟩
      dsimp only
      rw [hrows, Ledger.answer, List.map_map]
      rfl
  unfold postTransaction at h
  cases hcall : l.call id createdAt p es with
  | mk l₁ rows =>
    rw [hcall] at h
    obtain ⟨rfl, hresult⟩ := Prod.mk.inj h
    cases rows with
    | error e => cases h
    | ok rows =>
      rcases call_ok hcall with ⟨t, hkey, rfl, hanswer⟩ | ⟨hkey, -, t, happ, hanswer⟩
      · obtain ⟨hid, hentries⟩ := hrows hanswer hresult
        exact ⟨hid ▸ hentries, .inl ⟨t, hkey, rfl, hid⟩⟩
      · obtain ⟨hid, hentries⟩ := hrows hanswer hresult
        exact ⟨hid ▸ hentries, .inr ⟨hkey, t, happ, hid⟩⟩

lemma Applies.filter_recorded {es : List Entry} {t : Transaction}
    (h : Applies id createdAt p es l l' t) (hl : l.Sound) :
    l'.transactionAccounts.filter (·.txnId = t.id) = (accountsOf es).map (record l id es) := by
  rw [h.transactionAccounts, List.filter_append, h.id_eq, List.filter_eq_nil_iff.mpr,
    List.filter_eq_self.mpr, List.nil_append]
  · intro s hs
    obtain ⟨a, -, rfl⟩ := List.mem_map.mp hs
    exact decide_eq_true rfl
  · intro s hs hid
    obtain ⟨t', ht', hid'⟩ := hl.ids s hs
    exact h.fresh t' ht' (hid'.trans (of_decide_eq_true hid))

lemma told_participants {mapping : ParticipantMapping} {rows : List TransactionAccount}
    (hmapping : ∀ a, mapping.get a =
      participants.reverse.find? (findParticipant systemAccounts l · = some a)) :
    (ResponseLines.participants (rows.map fun s =>
        ⟨mapping.get s.accountId, s.balanceAfter⟩)).told systemAccounts l =
      (rows.map fun s => (some s.accountId, some s.delta, s.balanceAfter)) ↔
    ∀ s ∈ rows, LastAsks systemAccounts l participants s.accountId s.delta := by
  rw [ResponseLines.told, List.map_map, List.map_inj_left]
  refine forall₂_congr fun s _ => ?_
  simp only [Function.comp_apply, hmapping, Prod.mk.injEq, and_true, LastAsks]
  constructor
  · rintro ⟨-, hamount⟩
    exact Option.map_eq_some_iff.mp hamount
  · rintro ⟨participant, hlast, hamount⟩
    have haccount := List.find?_some hlast
    rw [hlast]
    exact ⟨of_decide_eq_true haccount, congrArg some hamount⟩

end

section Examples

end Examples

end Blert.Bank

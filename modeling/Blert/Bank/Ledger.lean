import Blert.Fallible
import Blert.Netting

/-!
The coin ledger.

A transaction moves coins between accounts by entries that add up to zero. Each account has a
balance, and each transaction records what it changed the balances of its accounts by and to.
The function that posts a transaction runs as one transaction of the database: if it raises,
nothing of what it did stays.
-/

namespace Blert.Bank

open Netting

/-! ### Tables -/

/-- The value of a `BIGINT`, an account's id. -/
abbrev AccountId := ℤ

inductive AccountKind
  | user | treasury | sink | liability | escrow
  deriving DecidableEq

/-- The kinds whose balance has to cover what is taken from it. -/
def AccountKind.needsFunds : AccountKind → Bool
  | .user | .sink | .escrow => true
  | .treasury | .liability => false

structure Account where
  ownerUserId : Option ℤ
  kind : AccountKind

/-- An amount moved to an account, negative if it is taken from it. -/
structure Entry where
  accountId : AccountId
  amount : ℤ

structure Posting where
  createdBy : ℤ
  createdBySvc : String
  reason : String
  idemKey : Option String
  sourceTable : Option String
  sourceId : Option ℤ
  metadata : Option String

structure Transaction where
  id : ℕ
  createdAt : ℕ
  createdBy : ℤ
  createdBySvc : String
  reason : String
  sourceTable : Option String
  sourceId : Option ℤ
  idempotencyKey : Option String
  metadata : String

structure TransactionEntry where
  txnId : ℕ
  entry : Entry

/-- What a transaction changed an account's balance by, and to. -/
structure TransactionAccount where
  txnId : ℕ
  accountId : AccountId
  delta : ℤ
  balanceAfter : ℤ

/-- The tables. The rows of those with serial ids are in the order of their ids. -/
structure Ledger where
  accounts : InsertionMap AccountId Account
  balances : InsertionMap AccountId ℤ
  transactions : List Transaction
  entries : List TransactionEntry
  transactionAccounts : List TransactionAccount

/-! ### Posting -/

inductive PostError
  | unbalancedTransaction
  | invalidAmount
  | insufficientFunds
  | missingSnapshot
  | negativeBalanceNotAllowed
  | outOfRange
  | uniqueViolation
  | foreignKeyViolation

/-- A number that has to fit into a `BIGINT`. -/
def bigint (n : ℤ) : Except PostError ℤ :=
  if -2 ^ 63 ≤ n ∧ n < 2 ^ 63 then .ok n else .error .outOfRange

structure ResultRow where
  transactionId : ℕ
  createdAt : ℕ
  accountId : AccountId
  delta : ℤ
  balanceAfter : ℤ
  idempotent : Bool

def amounts (entries : List Entry) : List (AccountId × ℤ) :=
  entries.map fun e => (e.accountId, e.amount)

def accountsOf (entries : List Entry) : List AccountId := (entries.map Entry.accountId).dedup

def validateEntries (entries : List Entry) : Except PostError Unit := do
  let sum ← bigint (entries.map Entry.amount).sum
  if sum ≠ 0 then .error .unbalancedTransaction
  else if entries.any (·.amount = 0) then .error .invalidAmount
  else .ok ()

namespace Ledger

variable (l : Ledger)

def answer (t : Transaction) (idempotent : Bool) : List ResultRow :=
  (l.transactionAccounts.filter (·.txnId = t.id)).map fun s =>
    ⟨t.id, t.createdAt, s.accountId, s.delta, s.balanceAfter, idempotent⟩

def withKey (key : Option String) : Option Transaction :=
  key.bind fun key => l.transactions.find? (·.idempotencyKey = some key)

def checkBalance (accountId : AccountId) (balance : ℤ) : Except PostError Unit :=
  if balance < 0 then
    match (l.accounts.get accountId).map Account.kind with
    | some .liability | some .treasury => .ok ()
    | _ => .error .negativeBalanceNotAllowed
  else .ok ()

def insertTransaction (id createdAt : ℕ) (p : Posting) : Except PostError (Ledger × Transaction) :=
  if l.transactions.any (·.id = id) then .error .uniqueViolation
  else
    let t : Transaction :=
      { id, createdAt
        createdBy := p.createdBy
        createdBySvc := p.createdBySvc
        reason := p.reason
        sourceTable := p.sourceTable
        sourceId := p.sourceId
        idempotencyKey := p.idemKey
        metadata := p.metadata.getD "\x7b\x7d" }
    .ok ({ l with transactions := l.transactions ++ [t] }, t)

/-- Gives an account without a balance the balance zero. -/
def ensureBalance (accountId : AccountId) : Except PostError Ledger :=
  if l.balances.has accountId then .ok l
  else if l.accounts.has accountId then
    .ok { l with balances := l.balances.set accountId 0 }
  else .error .foreignKeyViolation

/-- Whether an account is left without the funds it needs. -/
def overdraws (entries : List Entry) (accountId : AccountId) : Bool :=
  match l.balances.get accountId, l.accounts.get accountId with
  | some balance, some account =>
    account.kind.needsFunds && decide (balance + net accountId (amounts entries) < 0)
  | _, _ => false

/-- Adds what an account nets to to its balance, and records that. -/
def applyDelta (txnId : ℕ) (entries : List Entry) (accountId : AccountId) :
    Except PostError Ledger :=
  match l.balances.get accountId with
  | none => .ok l
  | some balance => do
    let balanceAfter ← bigint (balance + net accountId (amounts entries))
    l.checkBalance accountId balanceAfter
    let delta ← bigint (net accountId (amounts entries))
    return { l with
      balances := l.balances.set accountId balanceAfter
      transactionAccounts := l.transactionAccounts ++ [⟨txnId, accountId, delta, balanceAfter⟩] }

/-- Applies a transaction that has not been posted before. -/
def apply (id createdAt : ℕ) (p : Posting) (entries : List Entry) :
    Except PostError (Ledger × List ResultRow) := do
  let (l, t) ← l.insertTransaction id createdAt p
  let l ← (accountsOf entries).foldlM ensureBalance l
  if (accountsOf entries).any (l.overdraws entries) then .error .insufficientFunds
  else do
    let l := { l with entries := l.entries ++ entries.map (⟨id, ·⟩) }
    let l ← (accountsOf entries).foldlM (fun l a => l.applyDelta id entries a) l
    return (l, l.answer t false)

/-- Posts a transaction, with the id and the time the database gives it. -/
def postBlertcoinTransaction (id createdAt : ℕ) (p : Posting) (entries : List Entry) :
    Except PostError (Ledger × List ResultRow) := do
  validateEntries entries
  match l.withKey p.idemKey with
  | some t =>
    let rows := l.answer t true
    if rows.isEmpty then .error .missingSnapshot else .ok (l, rows)
  | none => l.apply id createdAt p entries

end Ledger

/-! ### The service -/

structure TransactionResultEntry where
  accountId : AccountId
  delta : ℤ
  balanceAfter : ℤ

structure PostTransactionResult where
  transactionId : ℕ
  createdAt : ℕ
  entries : List TransactionResultEntry
  idempotent : Bool

inductive TransactionFailure
  | transactionError (code : String) (message : String)
  | error (message : String)
  | postgres (e : PostError)

def PostError.toFailure : PostError → TransactionFailure
  | .unbalancedTransaction =>
    .transactionError "UNBALANCED_TRANSACTION" "Transaction entries do not sum to zero"
  | .invalidAmount => .transactionError "INVALID_AMOUNT" "Zero-amount entries are not allowed"
  | .insufficientFunds =>
    .transactionError "INSUFFICIENT_FUNDS" "Account has insufficient funds"
  -- the trigger raises with the code of a missing snapshot
  | .missingSnapshot | .negativeBalanceNotAllowed =>
    .error "Internal error posting transaction"
  | e => .postgres e

def entriesParam (entries : List Entry) : Except PostError Unit :=
  entries.forM fun e => do
    let _ ← bigint e.accountId
    let _ ← bigint e.amount

/-- Calls the posting function, which leaves the ledger as it was if it raises. -/
def Ledger.call (l : Ledger) (id createdAt : ℕ) (p : Posting) (entries : List Entry) :
    Ledger × Except PostError (List ResultRow) :=
  match entriesParam entries >>= fun _ => l.postBlertcoinTransaction id createdAt p entries with
  | .ok (l', rows) => (l', .ok rows)
  | .error e => (l, .error e)

/-- What the service makes of the rows it is answered. -/
def toResult : Except PostError (List ResultRow) → Except TransactionFailure PostTransactionResult
  | .error e => .error e.toFailure
  | .ok [] => .error (.error "No rows returned from post_blertcoin_transaction")
  | .ok (row :: rows) =>
    .ok
      { transactionId := row.transactionId
        createdAt := row.createdAt
        entries := (row :: rows).map fun r => ⟨r.accountId, r.delta, r.balanceAfter⟩
        idempotent := row.idempotent }

def postTransaction (l : Ledger) (id createdAt : ℕ) (p : Posting) (entries : List Entry) :
    Ledger × Except TransactionFailure PostTransactionResult :=
  let (l', rows) := l.call id createdAt p entries
  (l', toResult rows)

/-- Gives a user an account with the balance zero, unless the user has one. -/
def createUserAccount (l : Ledger) (id : AccountId) (userId : ℤ) : Ledger :=
  if l.accounts.has id ∨ l.accounts.values.any (fun a =>
      a.kind = .user ∧ a.ownerUserId = some userId) then l
  else
    { l with
      accounts := l.accounts.set id ⟨some userId, .user⟩
      balances := if l.balances.has id then l.balances else l.balances.set id 0 }

end Blert.Bank

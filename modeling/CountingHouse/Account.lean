/-
CountingHouse.Account — a balance and the transactions that made it.

An account holds signed sixty-four bit credits, the most recent 1024
transactions in the order they were carried out, and the number of all
transactions it has ever recorded. An account without credits counts as
deleted; it keeps its place and a deposit revives it.

A balance is restored from the ledger as it is written there, so it
need not be the sum of the transactions kept beside it.
-/
import CountingHouse.Response
import CountingHouse.Transaction

namespace CountingHouse

/-- An account of the bank. -/
structure Account where
  bankId : BankId
  credits : Int64
  /-- The transactions kept, oldest first. -/
  history : List Transaction
  /-- The number of transactions recorded, those no longer kept included. -/
  count : Nat
  deriving DecidableEq, Repr

namespace Account

/-- The number of transactions an account keeps. -/
def historyLimit : Nat := 1024

/-- A new account: no credits and no transactions. -/
def opened (id : BankId) : Account :=
  ⟨id, 0, [], 0⟩

/-- Is the account without credits? -/
def isDeleted (a : Account) : Bool :=
  a.credits = 0

/-! ## Recording -/

/-- Adds a transaction to the history; a full history loses its oldest. -/
def record (a : Account) (t : Transaction) : Account :=
  let kept := if a.history.length = historyLimit then a.history.tail else a.history
  { a with history := kept ++ [t], count := a.count + 1 }

/-- An account as the ledger describes it. The credits are taken as they
are; they are not computed from the history. -/
def restored (id : BankId) (history : List Transaction) (credits : Int64) : Account :=
  { history.foldl record (opened id) with credits }

/-! ## Carrying out a transaction -/

/-- The balance after a deposit, unless it is too large. -/
def deposited? (credits : Int64) (amount : UInt32) : Option Int64 :=
  let sum := credits.toInt + amount.toNat
  if sum < 0x8000000000000000 then some (Int64.ofInt sum) else none

/-- The balance after a withdrawal, unless the amount exceeds it. -/
def withdrawn? (credits : Int64) (amount : UInt32) : Option Int64 :=
  if amount.toNat ≤ credits.toInt then some (Int64.ofInt (credits.toInt - amount.toNat)) else none

/-- The balance a transaction leads to, or the answer that refuses it. -/
def balanceAfter (credits : Int64) (t : Transaction) : Except Response Int64 :=
  match t.operation with
  | .deposit =>
    match deposited? credits t.amount with
    | some balance => .ok balance
    | none => .error .failure
  | .withdraw =>
    match withdrawn? credits t.amount with
    | some balance => .ok balance
    | none => .error .insufficientCredits

/-- Carries out a transaction. It is recorded under the account's own id,
whatever id it was submitted under; a refused transaction changes
nothing. -/
def apply (a : Account) (t : Transaction) : Response × Account :=
  match balanceAfter a.credits t with
  | .error refusal => (refusal, a)
  | .ok credits =>
    let after := { a with credits }.record { t with bankId := a.bankId }
    (if after.isDeleted then .accountDeleted else .success, after)

end Account

end CountingHouse

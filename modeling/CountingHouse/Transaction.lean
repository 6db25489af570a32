/-
CountingHouse.Transaction — one deposit or withdrawal.

A transaction names an account, an operation and an amount below 2^32.
The operation has three spellings: a letter in the ledger, a word on the
wire, and the words a client may write in any mixture of cases.
-/
import CountingHouse.BankId
import CountingHouse.Text.Lowercase

namespace CountingHouse

/-! ## Operations -/

/-- What a transaction does to a balance. -/
inductive Operation where
  | deposit
  | withdraw
  deriving DecidableEq, Repr

/-- A word that names no operation, in lower case. -/
structure UnknownOperation where
  word : String
  deriving DecidableEq, Repr

/-- The error as the client program reports it. -/
def UnknownOperation.message (e : UnknownOperation) : String :=
  "unknown operation '" ++ e.word ++ "'"

namespace Operation

/-- The word for the operation. -/
def word : Operation → String
  | .deposit => "deposit"
  | .withdraw => "withdraw"

/-- The operation with exactly this word. -/
def ofWord? (word : String) : Option Operation :=
  [deposit, withdraw].find? (·.word = word)

/-- The letter for the operation in the ledger. -/
def letter : Operation → Char
  | .deposit => 'D'
  | .withdraw => 'W'

/-- The operation a word of a ledger line stands for. -/
def ofLedgerWord? (word : List Char) : Option Operation :=
  [deposit, withdraw].find? ([·.letter] = word)

/-- Reads the operation a client wrote; case does not matter, and a
withdrawal may be called by its noun. -/
def ofClientWord (text : String) : Except UnknownOperation Operation :=
  let word := String.ofList (Text.lowercase text.toList)
  if word = "deposit" then .ok .deposit
  else if word = "withdraw" ∨ word = "withdrawal" then .ok .withdraw
  else .error ⟨word⟩

end Operation

/-! ## Transactions -/

/-- One request to change a balance. -/
structure Transaction where
  bankId : BankId
  operation : Operation
  amount : UInt32
  deriving DecidableEq, Repr

/-- The effect on the balance: the amount for a deposit, its negative
for a withdrawal. -/
def Transaction.signedAmount (t : Transaction) : Int :=
  match t.operation with
  | .deposit => t.amount.toNat
  | .withdraw => -t.amount.toNat

end CountingHouse

/-
CountingHouse.Ledger.Line — one account as one line of text.

A line is a sequence of words: the account's id, then its transactions,
each a letter and an amount, then its credits. The credits are what the
account holds; the transactions need not add up to them. An account
without credits is written with `# ` before it.

The words between the id and the credits are read generously. A `0`
where a letter is expected ends the transactions, any other word there
that is no letter is passed over, and a letter with nothing after it is
dropped. Only an amount that is not an amount spoils the line.
-/
import CountingHouse.Account
import CountingHouse.Text.Blank

namespace CountingHouse.Ledger

/-! ## What a line can be refused for -/

/-- Why a line holds no account. -/
inductive Malformed where
  | emptyLine
  | badId (text : String)
  | missingCredits (id : BankId)
  | badCredits (id : BankId) (word : String)
  | badAmount (id : BankId) (word : String)
  deriving DecidableEq, Repr

/-- The reason as the log gives it. -/
def Malformed.message : Malformed → String
  | .emptyLine => "empty line"
  | .badId text => (AccountError.invalidBankId text).message
  | .missingCredits id => id.text ++ ": missing credits"
  | .badCredits id word => id.text ++ ": credits '" ++ word ++ "' is not an integer"
  | .badAmount id word =>
    id.text ++ ": amount '" ++ word ++ "' is not a non-negative integer"

/-! ## Reading -/

/-- What a line says about an account. -/
structure Entry where
  id : BankId
  /-- All transactions on the line. -/
  history : List Transaction
  credits : Int64
  deriving DecidableEq, Repr

namespace Entry

/-- The account the line describes. -/
def account (e : Entry) : Account :=
  Account.restored e.id e.history e.credits

/-- The nearest sixty-four bit integer. -/
def saturate (n : Int) : Int :=
  max (-0x8000000000000000) (min n 0x7FFFFFFFFFFFFFFF)

/-- What the transactions on the line add up to; a sum that leaves the
range of credits stays at its edge. -/
def running (e : Entry) : Int :=
  e.history.foldl (fun sum t => saturate (sum + t.signedAmount)) 0

/-- Does the line list transactions that do not add up to its credits? -/
def isUnbalanced (e : Entry) : Bool :=
  !e.history.isEmpty && e.running ≠ e.credits.toInt

end Entry

/-- Reads the transactions from the words between the id and the
credits. -/
def transactions (id : BankId) : List (List Char) → Except Malformed (List Transaction)
  | [] => .ok []
  | word :: rest =>
    if word = ['0'] then .ok []
    else
      match Operation.ofLedgerWord? word with
      | none => transactions id rest
      | some operation =>
        match rest with
        | [] => .ok []
        | amount :: rest =>
          match Text.uint32? amount with
          | none => .error (.badAmount id (String.ofList amount))
          | some amount => (transactions id rest).map (⟨id, operation, amount⟩ :: ·)

/-- Reads what the words of a line say. -/
def entryOfWords : List (List Char) → Except Malformed Entry
  | [] => .error .emptyLine
  | first :: rest =>
    match BankId.ofString (String.ofList first) with
    | .error _ => .error (.badId (String.ofList first))
    | .ok id =>
      match rest.getLast? with
      | none => .error (.missingCredits id)
      | some last =>
        match Text.int64? last with
        | none => .error (.badCredits id (String.ofList last))
        | some credits => (transactions id rest.dropLast).map (⟨id, ·, credits⟩)

/-- Reads a line without the mark of an account without credits. -/
def parseAccount (line : List Char) : Except Malformed Entry :=
  entryOfWords (Text.words line)

/-! ## Writing -/

/-- A transaction with the blank before it. -/
def formatTransaction (t : Transaction) : List Char :=
  [' ', t.operation.letter, ' '] ++ Text.natural t.amount.toNat

/-- The line of an account. -/
def formatAccount (a : Account) : List Char :=
  (if a.isDeleted then ['#', ' '] else []) ++ a.bankId.text.toList ++
    a.history.flatMap formatTransaction ++ ' ' :: Text.integer a.credits.toInt

end CountingHouse.Ledger

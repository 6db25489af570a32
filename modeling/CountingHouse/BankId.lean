/-
CountingHouse.BankId — the names of accounts.

An id is one word of at most nineteen bytes that does not begin with
`#`. Each condition has a reader that depends on it: the ledger keeps an
account on one line of words, a ledger line that begins with `#` holds
an account without credits, and the mailbox has nineteen bytes for the
name of the account a request is about.
-/
import CountingHouse.Text.Blank
import CountingHouse.Text.Numeral
import CountingHouse.Text.Utf8

namespace CountingHouse

/-! ## Usable names -/

/-- The largest number of bytes in an id. -/
def maxIdBytes : Nat := 19

/-- Can the text name an account? -/
def isUsableId (text : String) : Bool :=
  !text.toList.isEmpty && Text.byteLength text ≤ maxIdBytes &&
    text.toList.head? ≠ some '#' && !text.toList.any Text.isBlank

/-- The name of an account. -/
structure BankId where
  text : String
  usable : isUsableId text = true
  deriving DecidableEq

instance : Repr BankId := ⟨fun id _ => repr id.text⟩

instance : ToString BankId := ⟨BankId.text⟩

/-! ## What can go wrong when an account is looked up or opened -/

/-- Why a token names no account. -/
inductive AccountError where
  /-- The text cannot be the name of an account. -/
  | invalidBankId (text : String)
  /-- A returning client presented an id the bank has never issued. -/
  | unknownAccount (id : BankId)
  /-- The table has no room for another account. -/
  | capacityExhausted
  deriving DecidableEq, Repr

/-- The error as the bank reports it. -/
def AccountError.message : AccountError → String
  | .invalidBankId text => "invalid bank id '" ++ text ++ "'"
  | .unknownAccount id => "unknown account '" ++ id.text ++ "'"
  | .capacityExhausted => "account table capacity exhausted"

namespace BankId

/-! ## Making ids -/

/-- Reads an id, or reports the text that cannot be one. -/
def ofString (text : String) : Except AccountError BankId :=
  if h : isUsableId text = true then .ok ⟨text, h⟩ else .error (.invalidBankId text)

/-- The name the bank gives its `n`-th account. Numbers of thirteen
digits and more make names that are too long. -/
def numbered (n : Nat) : Except AccountError BankId :=
  ofString ("BankID_" ++ String.ofList (Text.natural n))

/-- The token by which a client asks for a new account. A client whose
account has this very name cannot be told apart from a new one. -/
def newAccountToken : String := "N"

/-- Is this the name that asks for a new account? -/
def asksForNewAccount (id : BankId) : Bool :=
  id.text = newAccountToken

end BankId

example : (BankId.numbered 1).toOption.map BankId.text = some "BankID_1" := by decide
example : (BankId.ofString "#BankID_1").toOption = none := by decide
example : (BankId.ofString "Bank ID").toOption = none := by decide

end CountingHouse

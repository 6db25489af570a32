/-
CountingHouse.Response — what the bank answers to one request.

`pending` is the value of an answer that has not been given yet; the
four others are final. On the wire a response is its name, in the
mailbox it is one byte, and in the log it is described in plain words.
-/

namespace CountingHouse

/-- The bank's answer to one request. -/
inductive Response where
  /-- No answer yet. -/
  | pending
  /-- The transaction was carried out. -/
  | success
  /-- The transaction could not be carried out. -/
  | failure
  /-- The transaction was carried out and left the account empty. -/
  | accountDeleted
  /-- The account holds less than the amount to withdraw. -/
  | insufficientCredits
  deriving DecidableEq, Repr

namespace Response

/-- Has the bank made up its mind? -/
def isFinal : Response → Bool
  | .pending => false
  | _ => true

/-- Does the answer mean that the transaction was carried out? -/
def isAccepted : Response → Bool
  | .success | .accountDeleted => true
  | _ => false

/-! ## Names -/

/-- The name of the response on the wire. -/
def name : Response → String
  | .pending => "Initialize"
  | .success => "Success"
  | .failure => "Failure"
  | .accountDeleted => "AccountDeleted"
  | .insufficientCredits => "InsufficientCredits"

/-- All responses, in the order of their bytes. -/
def all : List Response :=
  [.pending, .success, .failure, .accountDeleted, .insufficientCredits]

/-- The response with a name, if there is one. -/
def ofName? (name : String) : Option Response :=
  all.find? (·.name = name)

/-- The response in plain words. -/
def description : Response → String
  | .pending => "pending"
  | .success => "success"
  | .failure => "failure"
  | .accountDeleted => "account deleted"
  | .insufficientCredits => "insufficient credits"

/-! ## Bytes -/

/-- The byte that stands for the response in shared memory. -/
def toByte : Response → UInt8
  | .pending => 0
  | .success => 1
  | .failure => 2
  | .accountDeleted => 3
  | .insufficientCredits => 4

/-- The response a byte stands for, if it stands for one. -/
def ofByte? (byte : UInt8) : Option Response :=
  all.find? (·.toByte = byte)

example : all.map (fun r => ofByte? r.toByte) = all.map some := by decide
example : all.map (fun r => ofName? r.name) = all.map some := by decide
example : ofByte? 5 = none := by decide

end Response

end CountingHouse

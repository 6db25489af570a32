/-
CountingHouse.ClientFile.Clients — the transactions a client file asks
for.

A record has three fields: the id of an account or the token for a new
one, the operation, and the amount, which may be written in hexadecimal.
Blanks around a field do not count and neither do further fields. A
record that cannot be used is skipped and the others are read as if it
were not there.
-/
import CountingHouse.ClientFile.Records
import CountingHouse.Stream
import CountingHouse.Transaction

namespace CountingHouse.ClientFile

/-! ## One record -/

/-- Why a record was skipped. -/
inductive SkipReason where
  /-- It is not three fields of text that end in an amount. -/
  | badRecord
  | unknownOperation (error : UnknownOperation)
  | badAccount (error : AccountError)
  deriving DecidableEq, Repr

/-- Reads an amount. -/
def amount? (text : List Char) : Option UInt32 :=
  match text with
  | '0' :: 'x' :: digits => (Text.hexadecimal? 0xFFFFFFFF digits).map UInt32.ofNat
  | _ => Text.uint32? text

/-- The text of a field without the blanks around it. -/
def fieldText? (field : Field) : Option (List Char) :=
  (Text.decode? field).map Text.trim

/-- Reads one record. All of its fields have to be text, those that do
not count included. -/
def transactionOf (record : RawRecord) : Except SkipReason Transaction :=
  match record.mapM fieldText? with
  | some (id :: operation :: amount :: _) =>
    match amount? amount with
    | none => .error .badRecord
    | some amount =>
      match Operation.ofClientWord (String.ofList operation) with
      | .error e => .error (.unknownOperation e)
      | .ok operation =>
        match BankId.ofString (String.ofList id) with
        | .error e => .error (.badAccount e)
        | .ok id => .ok ⟨id, operation, amount⟩
  | _ => .error .badRecord

/-! ## The whole file -/

/-- What a client file holds: the transactions it asks for, and the
records that were skipped with their numbers, counted from one. -/
structure Clients where
  transactions : List Transaction
  skipped : List (Nat × SkipReason)
  deriving DecidableEq, Repr

/-- Sorts records into transactions and skipped ones; the first of them
has number `number`. -/
def sortRecords (number : Nat) : List (Except SkipReason Transaction) → Clients
  | [] => ⟨[], []⟩
  | .ok transaction :: rest =>
    let clients := sortRecords (number + 1) rest
    { clients with transactions := transaction :: clients.transactions }
  | .error reason :: rest =>
    let clients := sortRecords (number + 1) rest
    { clients with skipped := (number, reason) :: clients.skipped }

/-- Reads the bytes of a client file. -/
def readBytes (bytes : List UInt8) : Clients :=
  sortRecords 1 ((records bytes).map transactionOf)

/-- Reads a client file. When the file fails part of the way, the record
it fails in is the last one and cannot be used. -/
def read (source : Source) : Clients :=
  match source.failure with
  | none => readBytes source.bytes
  | some _ =>
    let complete := (scan .start (dropMark source.bytes)).1
    sortRecords 1 (complete.map transactionOf ++ [.error .badRecord])

end CountingHouse.ClientFile

/-
CountingHouse.Mailbox.Payload — a transaction as bytes of a fixed number.

The id takes the first bytes of a field of nineteen and the others are
zero; its length is kept beside the field because a zero byte may be
part of an id. The operation is one byte.
-/
import CountingHouse.SharedMemory
import CountingHouse.Transaction

namespace CountingHouse

/-- The record of a transaction in shared memory. Any bytes may stand in
it. -/
structure Payload where
  idBytes : Vector UInt8 maxIdBytes
  idLength : UInt8
  operation : UInt8
  amount : UInt32
  deriving DecidableEq

/-- The byte of an operation. -/
def Operation.toByte : Operation → UInt8
  | .deposit => 1
  | .withdraw => 2

/-- The operation a byte stands for, if it stands for one. -/
def Operation.ofByte? (byte : UInt8) : Option Operation :=
  [deposit, withdraw].find? (·.toByte = byte)

namespace Payload

/-- The record of a slot that nothing has been written to. -/
def blank : Payload :=
  ⟨.replicate maxIdBytes 0, 0, 0, 0⟩

/-- Writes a transaction. -/
def encode (t : Transaction) : Payload :=
  let id := Text.encode t.bankId.text.toList
  { idBytes := .ofFn fun i => id.getD i.val 0
    idLength := UInt8.ofNat id.length
    operation := t.operation.toByte
    amount := t.amount }

/-- The bytes of the id. A length beyond the field means the whole field. -/
def id (p : Payload) : List UInt8 :=
  p.idBytes.toList.take (min p.idLength.toNat maxIdBytes)

/-- Reads a transaction, if the record holds one. -/
def decode (p : Payload) : Except IpcError Transaction :=
  match Text.decode? p.id with
  | none => .error (.corruptPayload "the id is not UTF-8")
  | some text =>
    match BankId.ofString (String.ofList text) with
    | .error e => .error (.corruptPayload e.message)
    | .ok id =>
      match Operation.ofByte? p.operation with
      | none => .error (.corruptPayload ("operation byte " ++ toString p.operation.toNat))
      | some operation => .ok ⟨id, operation, p.amount⟩

end Payload

end CountingHouse

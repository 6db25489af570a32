/-
CountingHouse.Wire — the messages of the bank as JSON.

A message that is a record is written as an object with all its fields
in a fixed order. It is read from an object with those fields in any
order, or from an array of the fields in the fixed order. Other members
of the object are ignored, but a field may be neither missing nor given
twice. A choice among names is written as a string; it may also be read
from an object whose only member is that name with nothing in it.
-/
import CountingHouse.Batch
import CountingHouse.Config
import CountingHouse.Json.Parser
import CountingHouse.Transaction
import CountingHouse.Response

namespace CountingHouse

/-- Values that can be sent and received as JSON. -/
class Message (α : Type) where
  toJson : α → Json
  ofJson? : Json → Option α

namespace Message

/-- The text that is sent. -/
def encode {α : Type} [Message α] (a : α) : List Char :=
  (toJson a).render

/-- Reads a text that was received. -/
def decode? {α : Type} [Message α] (text : List Char) : Option α :=
  (Json.parse? text).bind ofJson?

/-! ## Numbers and strings -/

/-- The integer a value is, if it lies between two bounds. -/
def integer? (min max : Int) : Json → Option Int
  | .integer n => if min ≤ n ∧ n ≤ max then some n else none
  | _ => none

instance : Message UInt32 where
  toJson n := .integer n.toNat
  ofJson? json := (integer? 0 0xFFFFFFFF json).map fun n => UInt32.ofNat n.toNat

instance : Message UInt64 where
  toJson n := .integer n.toNat
  ofJson? json := (integer? 0 0xFFFFFFFFFFFFFFFF json).map fun n => UInt64.ofNat n.toNat

instance : Message Int32 where
  toJson n := .integer n.toInt
  ofJson? json := (integer? (-0x80000000) 0x7FFFFFFF json).map Int32.ofInt

instance : Message String where
  toJson text := .ofText text
  ofJson?
    | .string (some text) => some text
    | _ => none

instance {α : Type} [Message α] : Message (List α) where
  toJson values := .array (values.map toJson)
  ofJson?
    | .array elements => elements.mapM ofJson?
    | _ => none

/-! ## Choices -/

/-- The name a choice is given by. -/
def choice? : Json → Option String
  | .string text => text
  | .object [(some name, .null)] => some name
  | _ => none

instance : Message BankId where
  toJson id := .ofText id.text
  ofJson? json := (ofJson? json).bind fun text => (BankId.ofString text).toOption

instance : Message Operation where
  toJson operation := .ofText operation.word
  ofJson? json := (choice? json).bind Operation.ofWord?

instance : Message Response where
  toJson response := .ofText response.name
  ofJson? json := (choice? json).bind Response.ofName?

/-! ## Records -/

/-- The value of the member with a name, when there is exactly one. -/
def member? (name : String) (members : List (Option String × Json)) : Option Json :=
  match members.filter (·.1 = some name) with
  | [(_, value)] => some value
  | _ => none

/-- The values of the named fields of a record, in the given order. -/
def fields? (names : List String) : Json → Option (List Json)
  | .array elements => if elements.length = names.length then some elements else none
  | .object members =>
    if members.all (·.1.isSome) then names.mapM (member? · members) else none
  | _ => none

/-- Like `fields?`, for a record that allows no other members. -/
def onlyFields? (names : List String) (json : Json) : Option (List Json) :=
  match json with
  | .object members =>
    if members.all fun m => m.1.any (names.contains ·) then fields? names json else none
  | _ => fields? names json

instance : Message Transaction where
  toJson t := .ofMembers
    [("bank_id", toJson t.bankId), ("op", toJson t.operation), ("amount", toJson t.amount)]
  ofJson? json :=
    match fields? ["bank_id", "op", "amount"] json with
    | some [id, operation, amount] => do
      some ⟨← ofJson? id, ← ofJson? operation, ← ofJson? amount⟩
    | _ => none

instance : Message Batch where
  toJson b := .ofMembers [("pid", toJson b.pid), ("clients", toJson b.clients)]
  ofJson? json :=
    match fields? ["pid", "clients"] json with
    | some [pid, clients] => do some ⟨← ofJson? pid, ← ofJson? clients⟩
    | _ => none

instance : Message Assignment where
  toJson a := .ofMembers
    [("teller_id", toJson a.teller), ("client", toJson a.client), ("pid", toJson a.pid)]
  ofJson? json :=
    match fields? ["teller_id", "client", "pid"] json with
    | some [teller, client, pid] => do
      some ⟨← ofJson? teller, ← ofJson? client, ← ofJson? pid⟩
    | _ => none

instance : Message Span where
  toJson s := .ofMembers [("secs", toJson s.seconds), ("nanos", .integer s.nanos.val)]
  ofJson? json :=
    match onlyFields? ["secs", "nanos"] json with
    | some [seconds, nanos] => do Span.ofParts? (← ofJson? seconds) (← ofJson? nanos)
    | _ => none

instance : Message TellerConfig where
  toJson c := .ofMembers
    [("poll_interval", toJson c.pollInterval), ("response_timeout", toJson c.responseTimeout)]
  ofJson? json :=
    match fields? ["poll_interval", "response_timeout"] json with
    | some [pollInterval, responseTimeout] => do
      some ⟨← ofJson? pollInterval, ← ofJson? responseTimeout⟩
    | _ => none

instance : Message ServerConfig where
  toJson c := .ofMembers
    [("bank_name", toJson c.bankName), ("ledger_dir", toJson c.ledgerDir),
     ("max_batch", toJson c.maxBatch), ("poll_interval", toJson c.pollInterval),
     ("teller", toJson c.teller)]
  ofJson? json :=
    match fields? ["bank_name", "ledger_dir", "max_batch", "poll_interval", "teller"] json with
    | some [bankName, ledgerDir, maxBatch, pollInterval, teller] => do
      some ⟨← ofJson? bankName, ← ofJson? ledgerDir, ← ofJson? maxBatch,
        ← ofJson? pollInterval, ← ofJson? teller⟩
    | _ => none

/-- A transaction on the wire. -/
example : (BankId.ofString "N").toOption.map (fun id =>
      encode (Transaction.mk id .deposit 100)) =
    some "\x7b\"bank_id\":\"N\",\"op\":\"deposit\",\"amount\":100\x7d".toList := by decide +kernel

example : (decode? "[\"N\",\x7b\"deposit\":null\x7d,5]".toList :
    Option Transaction).map (·.amount) = some 5 := by decide +kernel

end Message

end CountingHouse

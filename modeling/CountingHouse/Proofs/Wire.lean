/-
CountingHouse.Proofs.Wire — a message is received as it was sent.

A kind of message is lawful when its values are plain JSON and are read
back from that (`LawfulMessage`). Numbers, strings, names of accounts and
the two choices are lawful by themselves, lists and records because their
parts are. What follows for the text that is sent holds of every lawful
kind: it is one line, it loses nothing when it is trimmed, and it is read
back as what it was written for (`decode?_encode`).

A message from elsewhere may have its members in another order or its
letters as escapes. The account that a transaction names is looked at
after the escapes were undone (`transaction_of_decode?`).
-/
import CountingHouse.Proofs.BankId
import CountingHouse.Proofs.Json.RoundTrip
import CountingHouse.Wire

namespace CountingHouse

/-- A kind of message whose values can be read from what they are written
as. -/
class LawfulMessage (α : Type) [Message α] : Prop where
  isPlain : ∀ a : α, (Message.toJson a).IsPlain
  ofJson?_toJson : ∀ a : α, Message.ofJson? (Message.toJson a) = some a

namespace Message

open LawfulMessage

attribute [simp] ofJson?_toJson

/-! ## Numbers and strings -/

theorem integer?_of_le {n min max : Int} (hmin : min ≤ n) (hmax : n ≤ max) :
    integer? min max (.integer n) = some n := by
  simp [integer?, hmin, hmax]

instance : LawfulMessage UInt32 where
  isPlain n := .integer n.toNat
  ofJson?_toJson n := by
    have hn : n.toNat < 4294967296 := n.toNat_lt
    show (integer? 0 0xFFFFFFFF (.integer n.toNat)).map (fun n => UInt32.ofNat n.toNat) = some n
    rw [integer?_of_le (by omega) (by omega)]
    simp

instance : LawfulMessage UInt64 where
  isPlain n := .integer n.toNat
  ofJson?_toJson n := by
    have hn : n.toNat < 18446744073709551616 := n.toNat_lt
    show (integer? 0 0xFFFFFFFFFFFFFFFF (.integer n.toNat)).map (fun n => UInt64.ofNat n.toNat) =
      some n
    rw [integer?_of_le (by omega) (by omega)]
    simp

instance : LawfulMessage Int32 where
  isPlain n := .integer n.toInt
  ofJson?_toJson n := by
    have hmin := n.le_toInt
    have hmax := n.toInt_lt
    show (integer? (-0x80000000) 0x7FFFFFFF (.integer n.toInt)).map Int32.ofInt = some n
    rw [integer?_of_le (by omega) (by omega)]
    simp

instance : LawfulMessage String where
  isPlain text := .text text
  ofJson?_toJson _ := rfl

theorem mapM_ofJson?_map_toJson {α : Type} [Message α] [LawfulMessage α] (values : List α) :
    (values.map toJson).mapM ofJson? = some values := by
  induction values with
  | nil => rfl
  | cons a values ih => simp [ih]

instance {α : Type} [Message α] [LawfulMessage α] : LawfulMessage (List α) where
  isPlain values := .array (by simpa using fun a _ => isPlain a)
  ofJson?_toJson values := mapM_ofJson?_map_toJson values

/-! ## Choices -/

instance : LawfulMessage BankId where
  isPlain id := .text id.text
  ofJson?_toJson id := by
    show (BankId.ofString id.text).toOption = some id
    rw [BankId.ofString_text]
    rfl

instance : LawfulMessage Operation where
  isPlain operation := .text operation.word
  ofJson?_toJson operation := by
    cases operation <;> rfl

instance : LawfulMessage Response where
  isPlain response := .text response.name
  ofJson?_toJson response := by
    cases response <;> rfl

/-! ## Records -/

instance : LawfulMessage Transaction where
  isPlain t := .members (by simp [isPlain])
  ofJson?_toJson t := by
    show (do some (Transaction.mk (← ofJson? (toJson t.bankId)) (← ofJson? (toJson t.operation))
      (← ofJson? (toJson t.amount)))) = some t
    simp

instance : LawfulMessage Batch where
  isPlain b := .members (by simp [isPlain])
  ofJson?_toJson b := by
    show (do some (Batch.mk (← ofJson? (toJson b.pid)) (← ofJson? (toJson b.clients)))) = some b
    simp

instance : LawfulMessage Assignment where
  isPlain a := .members (by simp [isPlain])
  ofJson?_toJson a := by
    show (do some (Assignment.mk (← ofJson? (toJson a.teller)) (← ofJson? (toJson a.client))
      (← ofJson? (toJson a.pid)))) = some a
    simp

theorem ofParts?_parts (s : Span) : Span.ofParts? s.seconds (UInt32.ofNat s.nanos.val) = some s := by
  have hnanos : (UInt32.ofNat s.nanos.val).toNat = s.nanos.val :=
    UInt32.toNat_ofNat_of_lt' (Nat.lt_trans s.nanos.isLt (by decide))
  have hcarry : s.nanos.val / 1000000000 = 0 := Nat.div_eq_of_lt s.nanos.isLt
  have hseconds : s.seconds.toNat < UInt64.size := s.seconds.toNat_lt
  simp [Span.ofParts?, hnanos, hcarry, hseconds]

instance : LawfulMessage Span where
  isPlain s := .members (by simpa [isPlain] using .integer _)
  ofJson?_toJson s := by
    have hnanos : ofJson? (.integer s.nanos.val) = some (UInt32.ofNat s.nanos.val) := by
      have hlt := s.nanos.isLt
      show (integer? 0 0xFFFFFFFF (.integer s.nanos.val)).map (fun n => UInt32.ofNat n.toNat) =
        some (UInt32.ofNat s.nanos.val)
      rw [integer?_of_le (by omega) (by omega)]
      rfl
    show (do Span.ofParts? (← ofJson? (toJson s.seconds)) (← ofJson? (.integer s.nanos.val))) =
      some s
    simp [hnanos, ofParts?_parts]

instance : LawfulMessage TellerConfig where
  isPlain c := .members (by simp [isPlain])
  ofJson?_toJson c := by
    show (do some (TellerConfig.mk (← ofJson? (toJson c.pollInterval))
      (← ofJson? (toJson c.responseTimeout)))) = some c
    simp

instance : LawfulMessage ServerConfig where
  isPlain c := .members (by simp [isPlain])
  ofJson?_toJson c := by
    show (do some (ServerConfig.mk (← ofJson? (toJson c.bankName)) (← ofJson? (toJson c.ledgerDir))
      (← ofJson? (toJson c.maxBatch)) (← ofJson? (toJson c.pollInterval))
      (← ofJson? (toJson c.teller)))) = some c
    simp

/-! ## Texts -/

section

variable {α : Type} [Message α] [LawfulMessage α]

/-- **A message is read back** from the text that is sent. -/
theorem decode?_encode (a : α) : decode? (encode a) = some a := by
  rw [decode?, encode, (isPlain a).parse?_render, Option.bind_some, ofJson?_toJson]

/-- The text that is sent is one line. -/
theorem not_mem_line_end_encode (a : α) : '\n' ∉ encode a ∧ '\r' ∉ encode a :=
  (isPlain a).isPrinted_render.not_mem_line_end

theorem trim_encode (a : α) (before after : List Char)
    (hbefore : ∀ b ∈ before, Text.isBlank b = true) (hafter : ∀ b ∈ after, Text.isBlank b = true) :
    Text.trim (before ++ (encode a ++ after)) = encode a :=
  (isPlain a).trim_render hbefore hafter

theorem encode_ne_nil (a : α) : encode a ≠ [] := by
  obtain ⟨c, s, hcons, -⟩ := (isPlain a).exists_render_eq_cons
  simp [encode, hcons]

end

/-! ## Texts from elsewhere -/

/-- Only a string is read as the name of an account, and as its own text. -/
theorem eq_string_of_ofJson? {json : Json} {id : BankId} (h : ofJson? json = some id) :
    json = .string (some id.text) := by
  obtain ⟨text, htext, hid⟩ := Option.bind_eq_some_iff.mp h
  have hjson : json = .string (some text) := by
    cases json with
    | string text' =>
      cases text' with
      | none => cases htext
      | some text' => cases htext; rfl
    | null | bool _ | integer _ | real _ | array _ | object _ => cases htext
  have hname : BankId.ofString text = .ok id := by
    cases hresult : BankId.ofString text with
    | ok id' =>
      rw [hresult] at hid
      cases hid
      rfl
    | error e =>
      rw [hresult] at hid
      cases hid
  rw [hjson, BankId.text_of_ofString hname]

/-- A transaction that is received names a usable account. Its name is the
text of the member with the escapes undone, and it is this text that has
been looked at. -/
theorem transaction_of_decode? {text : List Char} {t : Transaction} (h : decode? text = some t) :
    isUsableId t.bankId.text = true ∧
    ∃ json operation amount, Json.parse? text = some json ∧
      fields? ["bank_id", "op", "amount"] json =
        some [.string (some t.bankId.text), operation, amount] := by
  refine ⟨t.bankId.usable, ?_⟩
  obtain ⟨json, hparse, hjson⟩ := Option.bind_eq_some_iff.mp h
  unfold instTransaction at hjson
  dsimp only at hjson
  split at hjson
  · next id operation amount hfields =>
    simp only [Option.bind_eq_bind, Option.bind_eq_some_iff] at hjson
    obtain ⟨bankId, hid, _, _, _, _, ht⟩ := hjson
    cases ht
    rw [eq_string_of_ofJson? hid] at hfields
    exact ⟨json, operation, amount, hparse, hfields⟩
  · cases hjson

end Message

end CountingHouse

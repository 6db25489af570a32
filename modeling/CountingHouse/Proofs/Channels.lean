/-
CountingHouse.Proofs.Channels — what is sent on a pipe arrives.

A message goes on a pipe as one line. The receiver takes the bytes up to
the first line feed, decodes them, trims the text and reads what is left.
None of this loses anything, because no message has a line end in it
(`lineFeed_not_mem_message`) and the blanks that are trimmed away are not its
own (`trim_encode`). The four receivers of the bank are gone through one
by one: the server that gets a batch, the teller that gets a transaction,
and the client program that gets its teller map and its answers.
-/
import CountingHouse.Program.Client
import CountingHouse.Proofs.Enrollment
import CountingHouse.Proofs.Stream
import CountingHouse.Proofs.Text.Utf8
import CountingHouse.Proofs.Wire
import CountingHouse.Teller

namespace CountingHouse

open Message

/-! ## One line -/

namespace Channels

variable {α : Type} [Message α]

theorem line_append (a : α) (rest : List UInt8) :
    line a ++ rest = Text.encode (encode a) ++ Text.lineFeed :: rest := by
  simp [line]

theorem line_eq_encode (a : α) : line a = Text.encode (encode a ++ ['\n']) := by
  rw [line, Text.encode, Text.encode, List.flatMap_append]
  rfl

variable [LawfulMessage α]

theorem lineFeed_not_mem_message (a : α) : Text.lineFeed ∉ Text.encode (encode a) :=
  Text.lineFeed_not_mem_encode (not_mem_line_end_encode a).1

/-- The first line that is received is the message, whatever follows it and
whether or not the pipe fails later. -/
theorem readLine_line (a : α) (rest : List UInt8) (failure : Option Fault) :
    Source.readLine ⟨line a ++ rest, failure⟩ = .ok (some (encode a ++ ['\n'])) := by
  have hfirst : Source.FirstLine ⟨line a ++ rest, failure⟩ (line a) := by
    rw [line_append]
    exact .ended (lineFeed_not_mem_message a)
  rw [line_eq_encode] at hfirst ⊢
  exact Source.readLine_eq_ok_iff.mpr ⟨hfirst, by simp⟩

theorem trim_line (a : α) : Text.trim (encode a ++ ['\n']) = encode a := by
  have hblank : Text.isBlank '\n' = true := by decide
  exact trim_encode a [] ['\n'] (by simp) (by simp [hblank])

/-- The text of a line, trimmed, is read as the message. -/
theorem received_line (a : α) :
    ((Text.decode? (line a)).bind fun text => decode? (Text.trim text)) = some a := by
  rw [line_eq_encode, Text.decode?_encode, Option.bind_some, trim_line, decode?_encode]

end Channels

open Channels

/-! ## The receivers -/

/-- The server reads the batch from its line. -/
theorem EnrollmentLine.decode_message (b : Batch) :
    EnrollmentLine.decode (Text.encode (encode b)) = .batch b := by
  have htrim : Text.trim (encode b) = encode b := by
    simpa using trim_encode b [] [] (by simp) (by simp)
  have hne : (encode b).isEmpty = false := List.isEmpty_eq_false_iff.mpr (encode_ne_nil b)
  simp [decode, Text.decode?_encode, htrim, hne, decode?_encode]

/-- The server finds the batch and keeps what was sent after it. -/
theorem Enrollment.next_line (path : String) (ignored : Nat) (b : Batch) (rest : List UInt8) :
    (Enrollment.mk path (line b ++ rest) ignored).next = (some b, ⟨path, rest, ignored⟩) := by
  obtain ⟨n, hn⟩ : ∃ n, (line b ++ rest).length = n + 1 :=
    ⟨(Text.encode (encode b)).length + rest.length, by simp [line]; omega⟩
  rw [Enrollment.next, hn, Enrollment.search]
  simp only [line_append, Text.takeLine?_line (lineFeed_not_mem_message b),
    EnrollmentLine.decode_message]

/-- A batch that arrives when no other is waiting is the next one. -/
theorem Enrollment.next_receive_line {e : Enrollment} (hwaiting : e.waiting = [])
    (hkept : Text.unfinished e.pending = []) (b : Batch) :
    (e.receive (line b)).next.1 = some b ∧ (e.receive (line b)).next.2.waiting = [] := by
  have hall : (e.receive (line b)).waiting = [b] := by
    have hline : line b = Text.encode (encode b) ++ Text.lineFeed :: [] := rfl
    rw [e.waiting_receive, hwaiting, hkept, List.nil_append, List.nil_append, hline,
      Text.completeLines_line (lineFeed_not_mem_message b), Text.completeLines_of_not_mem (by simp)]
    simp [batchesOf, EnrollmentLine.batch?, EnrollmentLine.decode_message]
  obtain ⟨hnext, hrest⟩ := (e.receive (line b)).next_eq
  rw [hall] at hnext hrest
  exact ⟨hnext, hrest⟩

/-- The teller reads the transaction. -/
theorem Teller.readRequest_line (t : Transaction) (rest : List UInt8) (failure : Option Fault) :
    Teller.readRequest ⟨line t ++ rest, failure⟩ = .ok t := by
  simp only [Teller.readRequest, readLine_line, trim_line, decode?_encode]

/-- The line of a transaction is all that the teller needs. -/
theorem Teller.readRequest_ofBytes (t : Transaction) :
    Teller.readRequest (.ofBytes (line t)) = .ok t := by
  simpa [Source.ofBytes] using readRequest_line t [] none

namespace Program.Client

/-- The client program reads its teller map. -/
theorem mapOf?_line (map : TellerMap) : mapOf? (line map) = some map :=
  received_line (map : List Assignment)

theorem finish_line (c : Enrolled) (map : TellerMap) (answers : List (List UInt8)) :
    c.finish (line map) answers =
      .success (c.output ++ reports map 0 c.transactions answers ++ "exiting..\n") := by
  simp only [Enrolled.finish, mapOf?_line]

/-- The client program reads an answer. -/
theorem report_line (place : Nat) (t : Transaction) (r : Response) :
    report place t (line r) = label place ++ " connected.." ++ t.operation.word ++ " " ++
      toString t.amount.toNat ++ " credits.. " ++ r.description ++ "\n" := by
  simp only [report, received_line]

end Program.Client

/-! ## All messages -/

/-- What becomes of the messages of one kind on their way. -/
structure Survives (α : Type) [Message α] : Prop where
  /-- A message is one line. -/
  oneLine : ∀ a : α, '\n' ∉ encode a ∧ '\r' ∉ encode a
  /-- It is read back from its text. -/
  parsed : ∀ a : α, decode? (encode a) = some a
  /-- Blanks that get around it do not matter. -/
  trimmed : ∀ (a : α) (before after : List Char), (∀ b ∈ before, Text.isBlank b = true) →
    (∀ b ∈ after, Text.isBlank b = true) →
    decode? (Text.trim (before ++ (encode a ++ after))) = some a
  /-- A reader of one line gets the whole message and nothing else. -/
  firstLine : ∀ (a : α) (rest : List UInt8) (failure : Option Fault),
    Source.readLine ⟨line a ++ rest, failure⟩ = .ok (some (encode a ++ ['\n'])) ∧
      decode? (Text.trim (encode a ++ ['\n'])) = some a
  /-- A message that was written in any other way means the same when it
  is written again. -/
  rewritten : ∀ (text : List Char) (a : α), decode? text = some a → decode? (encode a) = some a

theorem survives (α : Type) [Message α] [LawfulMessage α] : Survives α where
  oneLine := not_mem_line_end_encode
  parsed := decode?_encode
  trimmed a before after hbefore hafter := by
    rw [trim_encode a before after hbefore hafter, decode?_encode]
  firstLine a rest failure := ⟨readLine_line a rest failure, by rw [trim_line, decode?_encode]⟩
  rewritten _ a _ := decode?_encode a

/-- **Messages survive the trip.** Every message of the bank is one line
and is read back as it was, also behind the trimming and the reading of
single lines that its receiver does, and a transaction from anywhere names
an account that can exist. -/
theorem messages_survive :
    (Survives Batch ∧ Survives TellerMap ∧ Survives Transaction ∧ Survives Response ∧
      Survives Operation ∧ Survives UInt32 ∧ Survives ServerConfig) ∧
    (∀ (path : String) (ignored : Nat) (b : Batch) (rest : List UInt8),
      (Enrollment.mk path (line b ++ rest) ignored).next = (some b, ⟨path, rest, ignored⟩)) ∧
    (∀ (t : Transaction) (rest : List UInt8) (failure : Option Fault),
      Teller.readRequest ⟨line t ++ rest, failure⟩ = .ok t) ∧
    (∀ (c : Program.Client.Enrolled) (map : TellerMap) (answers : List (List UInt8)),
      c.finish (line map) answers = .success
        (c.output ++ Program.Client.reports map 0 c.transactions answers ++ "exiting..\n")) ∧
    (∀ (place : Nat) (t : Transaction) (r : Response),
      Program.Client.report place t (line r) =
        Program.Client.label place ++ " connected.." ++ t.operation.word ++ " " ++
          toString t.amount.toNat ++ " credits.. " ++ r.description ++ "\n") ∧
    (∀ (text : List Char) (t : Transaction), decode? text = some t →
      isUsableId t.bankId.text = true ∧
      ∃ json operation amount, Json.parse? text = some json ∧
        fields? ["bank_id", "op", "amount"] json =
          some [.string (some t.bankId.text), operation, amount]) := by
  refine ⟨⟨survives _, survives _, survives _, survives _, survives _, survives _, survives _⟩,
    ?_, ?_, ?_, ?_, ?_⟩
  · exact Enrollment.next_line
  · exact Teller.readRequest_line
  · exact Program.Client.finish_line
  · exact Program.Client.report_line
  · exact fun _ _ => transaction_of_decode?

/-- An id that was written with escapes is read without them. -/
example : (decode? "\x7b\"bank_id\":\"\\u00e9\\ud83d\\ude00\",\"op\":\"deposit\",\"amount\":5\x7d".toList :
    Option Transaction).map (·.bankId.text) = some "é😀" := by decide +kernel

end CountingHouse

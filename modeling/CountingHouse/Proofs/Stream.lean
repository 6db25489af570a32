/-
CountingHouse.Proofs.Stream — what a reader gets and what a writer gets
rid of.

A reader of one line gets the bytes up to the first line feed, or all of
them when the source ends without one (`Source.FirstLine`). A source that
fails matters only to a reader whose line has not ended by then.

A sink takes bytes from the front as long as there is room. So it takes
pieces as it would take all of them at once (`Sink.writeEach_eq_write`),
and what it has taken is settled by the bytes and the room
(`Sink.write_eq`).
-/
import CountingHouse.Proofs.Text.Lines
import CountingHouse.Stream
import Mathlib.Data.List.TakeDrop

namespace CountingHouse

/-! ## Reading -/

namespace Source

/-- The first line of a source, with its line feed if it has one. A source
that fails within its first line has none. -/
inductive FirstLine : Source → List UInt8 → Prop where
  | ended {line rest : List UInt8} {failure : Option Fault} (h : Text.lineFeed ∉ line) :
    FirstLine ⟨line ++ Text.lineFeed :: rest, failure⟩ (line ++ [Text.lineFeed])
  | unended {line : List UInt8} (h : Text.lineFeed ∉ line) : FirstLine ⟨line, none⟩ line

theorem firstLine_eq_ok_iff {source : Source} {line : List UInt8} :
    source.firstLine = .ok line ↔ source.FirstLine line := by
  obtain ⟨bytes, failure⟩ := source
  constructor
  · intro h
    rw [firstLine] at h
    rcases Text.takeLine?_cases bytes with ⟨hnone, hmem⟩ | ⟨first, rest, hsome, hmem, rfl⟩
    · simp only [hnone, readAll] at h
      cases failure with
      | none => cases h; exact .unended hmem
      | some fault => cases h
    · simp only [hsome] at h
      cases h
      exact .ended hmem
  · rintro (hmem | hmem)
    · simp [firstLine, Text.takeLine?_line hmem]
    · rcases Text.takeLine?_cases line with ⟨hnone, _⟩ | ⟨first, rest, _, _, rfl⟩
      · simp [firstLine, hnone, readAll]
      · exact absurd (by simp) hmem

/-- A text is read when it is the first line, and is not empty. -/
theorem readLine_eq_ok_iff {source : Source} {text : List Char} :
    source.readLine = .ok (some text) ↔ source.FirstLine (Text.encode text) ∧ text ≠ [] := by
  constructor
  · intro h
    rw [readLine] at h
    split at h
    · cases h
    · cases h
    · next line hne hfirst =>
      split at h
      · next read hdecode =>
        cases h
        obtain rfl := Text.decode?_eq_some_iff.mp hdecode
        exact ⟨firstLine_eq_ok_iff.mp hfirst, fun hempty => hne (by rw [hempty]; rfl)⟩
      · cases h
  · rintro ⟨hfirst, hne⟩
    have hdecode := Text.decode?_encode text
    obtain ⟨b, rest, hbytes⟩ := List.exists_cons_of_ne_nil (mt Text.encode_eq_nil_iff.mp hne)
    rw [readLine, firstLine_eq_ok_iff.mpr hfirst]
    rw [hbytes] at hdecode ⊢
    simp only [hdecode]

end Source

/-! ## Writing -/

namespace Sink

/-- The first of some bytes, as many as there is room for. -/
def accepted (sink : Sink) (bytes : List UInt8) : List UInt8 :=
  match sink.room with
  | none => bytes
  | some room => bytes.take room

/-- The sink when bytes have been sent. -/
def sent (sink : Sink) (bytes : List UInt8) : Sink :=
  { sink with
    taken := sink.taken ++ sink.accepted bytes
    room := sink.room.map (· - bytes.length) }

theorem accepted_of_room {sink : Sink} {bytes : List UInt8}
    (h : ∀ room ∈ sink.room, bytes.length ≤ room) : sink.accepted bytes = bytes := by
  rw [accepted]
  split
  · rfl
  · next room hroom => exact List.take_of_length_le (h room hroom)

theorem write_eq (sink : Sink) (bytes : List UInt8) :
    sink.write bytes =
      (if sink.accepted bytes = bytes then .ok () else .error sink.refusal, sink.sent bytes) := by
  rw [write, sent, accepted]
  cases hroom : sink.room with
  | none => simp
  | some room => simp [List.take_eq_self_iff]

@[simp] theorem taken_sent (sink : Sink) (bytes : List UInt8) :
    (sink.sent bytes).taken = sink.taken ++ sink.accepted bytes := rfl

@[simp] theorem flush_sent (sink : Sink) (bytes : List UInt8) :
    (sink.sent bytes).flush = sink.flush := rfl

theorem flush_eq_ok_iff {sink : Sink} : sink.flush = .ok () ↔ sink.flushFault = none := by
  rw [flush]
  cases sink.flushFault <;> simp

/-- Bytes are taken as their two parts are, one after the other. -/
theorem write_append (sink : Sink) (bytes more : List UInt8) :
    sink.write (bytes ++ more) =
      match sink.write bytes with
      | (.ok (), after) => after.write more
      | (.error fault, after) => (.error fault, after) := by
  rw [write, write]
  cases sink.room with
  | none => simp [write]
  | some room =>
    by_cases hfits : bytes.length ≤ room
    · have hall : bytes.length + more.length ≤ room ↔ more.length ≤ room - bytes.length := by omega
      simp [hfits, write, hall, List.take_append, Nat.sub_sub]
    · have hall : ¬ bytes.length + more.length ≤ room := by omega
      have hfirst : (bytes ++ more).take room = bytes.take room :=
        List.take_append_of_le_length (by omega)
      have hroom : room - (bytes.length + more.length) = room - bytes.length := by omega
      simp [hfits, hall, hfirst, hroom]

/-- **Pieces are taken as they would be at once.** -/
theorem writeEach_eq_write (sink : Sink) (pieces : List (List UInt8)) :
    sink.writeEach pieces = sink.write pieces.flatten := by
  induction pieces generalizing sink with
  | nil =>
    obtain ⟨taken, room, refusal, flushFault⟩ := sink
    cases room <;> simp [writeEach, write]
  | cons piece pieces ih =>
    rw [writeEach, List.flatten_cons, write_append]
    cases sink.write piece with
    | mk result after => cases result <;> simp [ih]

end Sink

end CountingHouse

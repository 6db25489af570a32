/-
CountingHouse.Proofs.Enrollment — how the bytes of the pipe are divided
when they arrive does not matter.

What has been written on the pipe is a stream of complete lines and the
bytes of one that is not finished. A wait for a batch passes over lines
(`Passes`): they leave the bytes that are kept, in order and whole, and
the batch it gives is the only one among them (`passes_search`). So after
any arrivals and any waits, whichever of them were cut short, the batches
that were given are those of the lines passed over, and the lines that are
left are the other lines of the stream (`attend_hasFramed`).

A wait that is cut short takes no batch and no byte of an unfinished line.
It need not leave everything as it was: what it has passed over, blank and
malformed lines, does not come back (`meet_cutShort_malformed`).
-/
import CountingHouse.Enrollment
import CountingHouse.Proofs.Text.Lines

namespace CountingHouse

open Text

/-! ## What a stream holds -/

/-- The batch a line holds, if it holds one. -/
def EnrollmentLine.batch? (line : List UInt8) : Option Batch :=
  match decode line with
  | .batch b => some b
  | .blank | .malformed => none

/-- Is the line neither blank nor a batch? -/
def EnrollmentLine.isMalformed (line : List UInt8) : Bool :=
  decode line = .malformed

namespace Enrollment

/-- The batches of lines, in order; other lines hold none. -/
def batchesOf (lines : List (List UInt8)) : List Batch :=
  lines.filterMap EnrollmentLine.batch?

/-- What happens at the server's end of the pipe. A wait that goes on after
bytes have arrived is one more call. -/
inductive Occasion where
  | arrival (bytes : List UInt8)
  /-- The next batch is asked for; `stopping` tells whether the server has
  been asked to stop by then. -/
  | call (stopping : Bool)
  /-- The next batch is asked for, and the request to stop is seen before any
  line but the first `lines` ones is looked at. -/
  | cutShort (lines : Nat)

/-- What comes of one occasion. -/
def meet (e : Enrollment) : Occasion → Option Batch × Enrollment
  | .arrival bytes => (none, e.receive bytes)
  | .call stopping => e.nextUnless stopping
  | .cutShort lines => e.search lines

/-- What comes of occasions in order: the batches that were given, and
what is kept in the end. -/
def attend (e : Enrollment) : List Occasion → List Batch × Enrollment
  | [] => ([], e)
  | occasion :: rest =>
    let (batch, e) := e.meet occasion
    let (batches, e) := e.attend rest
    (batch.toList ++ batches, e)

/-- The bytes that arrive on an occasion. -/
def Occasion.bytes : Occasion → List UInt8
  | .arrival bytes => bytes
  | .call _ | .cutShort _ => []

/-! ## Passing over lines -/

/-- What is kept after a line that holds no batch. -/
def skip (e : Enrollment) (line rest : List UInt8) : Enrollment :=
  { e with
    pending := rest
    ignored := e.ignored + if EnrollmentLine.isMalformed line then 1 else 0 }

/-- A search that may look at one more line: there is none, it is a batch,
or the search goes on behind it. -/
theorem search_succ_cases (e : Enrollment) (n : Nat) :
    (lineFeed ∉ e.pending ∧ e.search (n + 1) = (none, e)) ∨
    ∃ line rest, lineFeed ∉ line ∧ e.pending = line ++ lineFeed :: rest ∧
      ((∃ b, EnrollmentLine.batch? line = some b ∧
          e.search (n + 1) = (some b, e.skip line rest)) ∨
        (EnrollmentLine.batch? line = none ∧
          e.search (n + 1) = (e.skip line rest).search n)) := by
  rw [search]
  unfold skip EnrollmentLine.batch? EnrollmentLine.isMalformed
  rcases takeLine?_cases e.pending with ⟨hnone, hmem⟩ | ⟨line, rest, hsome, hline, hpending⟩
  · simp only [hnone]
    exact .inl ⟨hmem, trivial⟩
  · refine .inr ⟨line, rest, hline, hpending, ?_⟩
    simp only [hsome]
    cases hdecode : EnrollmentLine.decode line with
    | batch b => exact .inl ⟨b, rfl, by simp⟩
    | blank => exact .inr ⟨rfl, by simp⟩
    | malformed => exact .inr ⟨rfl, by simp⟩

/-- The lines passed over between two moments, when nothing arrives. -/
structure Passes (e : Enrollment) (lines : List (List UInt8)) (e' : Enrollment) : Prop where
  pending : e.pending = written lines ++ e'.pending
  whole : ∀ line ∈ lines, lineFeed ∉ line
  ignored : e'.ignored = e.ignored + lines.countP EnrollmentLine.isMalformed

theorem Passes.refl (e : Enrollment) : Passes e [] e :=
  ⟨rfl, by simp, rfl⟩

/-- One line is passed over and then others. -/
theorem Passes.cons {e e' : Enrollment} {line rest : List UInt8} {lines : List (List UInt8)}
    (hline : lineFeed ∉ line) (hpending : e.pending = line ++ lineFeed :: rest)
    (h : Passes (e.skip line rest) lines e') : Passes e (line :: lines) e' where
  pending := by
    rw [hpending, written_cons_append, ← h.pending]
    rfl
  whole := by
    simp only [List.mem_cons, forall_eq_or_imp]
    exact ⟨hline, h.whole⟩
  ignored := by
    have hignored := h.ignored
    simp only [skip] at hignored
    rw [hignored, List.countP_cons]
    omega

/-- A search passes over lines, and the batch it gives is the only one
among them. -/
theorem passes_search (e : Enrollment) (n : Nat) :
    ∃ lines, Passes e lines (e.search n).2 ∧ batchesOf lines = (e.search n).1.toList := by
  induction n generalizing e with
  | zero => exact ⟨[], .refl e, rfl⟩
  | succ n ih =>
    rcases e.search_succ_cases n with
      ⟨_, heq⟩ | ⟨line, rest, hline, hpending, ⟨b, hbatch, heq⟩ | ⟨hbatch, heq⟩⟩
    · rw [heq]
      exact ⟨[], .refl e, rfl⟩
    · rw [heq]
      exact ⟨[line], .cons hline hpending (.refl _), by simp [batchesOf, hbatch]⟩
    · obtain ⟨lines, hpasses, hbatches⟩ := ih (e.skip line rest)
      rw [heq]
      refine ⟨line :: lines, .cons hline hpending hpasses, ?_⟩
      simpa [batchesOf, hbatch] using hbatches

/-- A search that may look at enough lines ends with a batch or when no
complete line is left. -/
theorem lineFeed_not_mem_search {e : Enrollment} {n : Nat} (hn : e.pending.length ≤ n)
    (h : (e.search n).1 = none) : lineFeed ∉ (e.search n).2.pending := by
  induction n generalizing e with
  | zero => simp [search, List.length_eq_zero_iff.mp (Nat.le_zero.mp hn)]
  | succ n ih =>
    rcases e.search_succ_cases n with
      ⟨hmem, heq⟩ | ⟨line, rest, _, hpending, ⟨b, _, heq⟩ | ⟨_, heq⟩⟩
    · rw [heq]
      exact hmem
    · simp [heq] at h
    · have hrest : (e.skip line rest).pending.length ≤ n := by
        simp [hpending] at hn
        simp [skip]
        omega
      rw [heq] at h ⊢
      exact ih hrest h

/-- A search that gives no batch has passed over the lines it was allowed
to look at, or over all complete ones. -/
theorem passes_search_of_none {e : Enrollment} {n : Nat} (h : (e.search n).1 = none) :
    Passes e ((completeLines e.pending).take n) (e.search n).2 := by
  induction n generalizing e with
  | zero => exact .refl e
  | succ n ih =>
    rcases e.search_succ_cases n with
      ⟨hmem, heq⟩ | ⟨line, rest, hline, hpending, ⟨b, _, heq⟩ | ⟨_, heq⟩⟩
    · rw [heq, completeLines_of_not_mem hmem]
      exact .refl e
    · simp [heq] at h
    · rw [heq] at h ⊢
      rw [hpending, completeLines_line hline, List.take_succ_cons]
      exact .cons hline hpending (ih h)

/-! ## One call -/

/-- The batches among the complete lines that are kept. -/
def waiting (e : Enrollment) : List Batch :=
  batchesOf (completeLines e.pending)

theorem Passes.completeLines {e e' : Enrollment} {lines : List (List UInt8)}
    (h : Passes e lines e') :
    completeLines e.pending = lines ++ completeLines e'.pending ∧
      unfinished e.pending = unfinished e'.pending := by
  rw [h.pending]
  exact completeLines_written h.whole e'.pending

theorem Passes.waiting {e e' : Enrollment} {lines : List (List UInt8)} (h : Passes e lines e') :
    e.waiting = batchesOf lines ++ e'.waiting := by
  rw [Enrollment.waiting, h.completeLines.1, batchesOf, List.filterMap_append]
  rfl

theorem waiting_search (e : Enrollment) (n : Nat) :
    e.waiting = (e.search n).1.toList ++ (e.search n).2.waiting := by
  obtain ⟨lines, hpasses, hbatches⟩ := e.passes_search n
  rw [hpasses.waiting, hbatches]

/-- A call that is not cut short gives the first batch that waits. -/
theorem next_eq (e : Enrollment) :
    e.next.1 = e.waiting.head? ∧ e.next.2.waiting = e.waiting.tail := by
  have hwaiting := e.waiting_search e.pending.length
  rw [← next] at hwaiting
  cases hnext : e.next.1 with
  | some b => simp [hwaiting, hnext]
  | none =>
    have hmem : lineFeed ∉ e.next.2.pending := lineFeed_not_mem_search (Nat.le_refl _) hnext
    have hempty : e.next.2.waiting = [] := by
      rw [waiting, completeLines_of_not_mem hmem]
      rfl
    simp [hwaiting, hnext, hempty]

/-- Calls that are made one after another give the batches that wait. -/
theorem drain_eq (e : Enrollment) (count : Nat) : (e.drain count).1 = e.waiting.take count := by
  induction count generalizing e with
  | zero => rfl
  | succ count ih =>
    obtain ⟨hbatch, hwaiting⟩ := e.next_eq
    unfold drain
    cases hnext : e.next with
    | mk batch after =>
      rw [hnext] at hbatch hwaiting
      cases hall : e.waiting with
      | nil =>
        rw [hall] at hbatch
        simp only at hbatch
        simp [hbatch]
      | cons b rest =>
        rw [hall] at hbatch hwaiting
        simp only [List.head?_cons, List.tail_cons] at hbatch hwaiting
        simp [hbatch, ih, hwaiting]

/-- Bytes that arrive add the batches that they complete. -/
theorem waiting_receive (e : Enrollment) (bytes : List UInt8) :
    (e.receive bytes).waiting =
      e.waiting ++ batchesOf (completeLines (unfinished e.pending ++ bytes)) := by
  rw [waiting, receive, completeLines_append, batchesOf, List.filterMap_append]
  rfl

/-! ## Any number of occasions -/

/-- The bytes that arrive on occasions, put together. -/
def arrived (occasions : List Occasion) : List UInt8 :=
  occasions.flatMap Occasion.bytes

/-- What arrives is kept behind what is there. -/
theorem Passes.receive {e e' : Enrollment} {lines : List (List UInt8)} (h : Passes e lines e')
    (bytes : List UInt8) : Passes (e.receive bytes) lines (e'.receive bytes) where
  pending := by simp [Enrollment.receive, h.pending]
  whole := h.whole
  ignored := h.ignored

theorem Passes.trans {e e' e'' : Enrollment} {lines more : List (List UInt8)}
    (h : Passes e lines e') (h' : Passes e' more e'') : Passes e (lines ++ more) e'' where
  pending := by rw [h.pending, h'.pending, written_append, List.append_assoc]
  whole := by
    simp only [List.mem_append]
    rintro line (hline | hline)
    · exact h.whole line hline
    · exact h'.whole line hline
  ignored := by
    rw [h'.ignored, h.ignored, List.countP_append]
    omega

theorem receive_receive (e : Enrollment) (bytes more : List UInt8) :
    (e.receive bytes).receive more = e.receive (bytes ++ more) := by
  simp [receive]

/-- Without an arrival, lines are passed over and the batch that is given
is the only one among them. -/
theorem passes_meet (e : Enrollment) (occasion : Occasion) :
    ∃ lines, Passes (e.receive occasion.bytes) lines (e.meet occasion).2 ∧
      batchesOf lines = (e.meet occasion).1.toList := by
  have hsame : e.receive [] = e := by simp [receive]
  cases occasion with
  | arrival bytes => exact ⟨[], .refl _, rfl⟩
  | cutShort n =>
    rw [Occasion.bytes, hsame]
    exact e.passes_search n
  | call stopping =>
    rw [Occasion.bytes, hsame]
    cases stopping with
    | true => exact ⟨[], .refl e, rfl⟩
    | false => exact e.passes_search e.pending.length

/-- On all occasions together the lines that are passed over are the first
ones of everything that arrives, and the batches that are given are theirs. -/
theorem passes_attend (e : Enrollment) (occasions : List Occasion) :
    ∃ lines, Passes (e.receive (arrived occasions)) lines (e.attend occasions).2 ∧
      batchesOf lines = (e.attend occasions).1 := by
  induction occasions generalizing e with
  | nil => exact ⟨[], by simpa [arrived, receive, attend] using Passes.refl e, rfl⟩
  | cons occasion rest ih =>
    obtain ⟨lines, hpasses, hbatch⟩ := e.passes_meet occasion
    obtain ⟨more, hmore, hbatches⟩ := ih (e.meet occasion).2
    refine ⟨lines ++ more, ?_, ?_⟩
    · have hall := (hpasses.receive (arrived rest)).trans hmore
      rw [receive_receive] at hall
      exact hall
    · rw [batchesOf, List.filterMap_append, ← batchesOf, ← batchesOf, hbatch, hbatches]
      rfl

/-- What the server has of a stream: the batches it was given, and what it
keeps. -/
structure HasFramed (stream : List UInt8) (ignored : Nat) (batches : List Batch)
    (e : Enrollment) : Prop where
  /-- The lines used up are the first of the stream, in order and each once.
  The batches are theirs, and the others among them had no effect. -/
  used : ∃ lines, stream = written lines ++ e.pending ∧
    completeLines stream = lines ++ completeLines e.pending ∧ batches = batchesOf lines ∧
    e.ignored = ignored + lines.countP EnrollmentLine.isMalformed
  /-- No batch is lost and none is given twice. -/
  all : batches ++ e.waiting = batchesOf (completeLines stream)
  /-- The bytes of a line that is not finished are kept. -/
  kept : unfinished e.pending = unfinished stream
  /-- The next call gives the next batch of the stream. -/
  next : (e.nextUnless false).1 = e.waiting.head?
  /-- If there is none, all complete lines are used up. -/
  exhausted : (e.nextUnless false).1 = none →
    completeLines (e.nextUnless false).2.pending = []
  /-- A call that finds the request to stop at once takes nothing. -/
  stopped : e.nextUnless true = (none, e)
  /-- One that finds it when it has looked at `n` lines has used up these,
  none of which holds a batch, and nothing else: the batches that wait and
  the bytes of the unfinished line are still there. -/
  cutShort : ∀ n, (e.search n).1 = none →
    Passes e ((completeLines e.pending).take n) (e.search n).2 ∧
      batchesOf ((completeLines e.pending).take n) = [] ∧
      (e.search n).2.waiting = e.waiting ∧
      unfinished (e.search n).2.pending = unfinished e.pending
  /-- Calls that follow one another give the batches that are left. -/
  drained : ∀ count, (e.drain count).1 = e.waiting.take count

/-- **Framing does not depend on how the bytes arrive.** A server that
begins with some bytes is given the rest of a stream in any pieces, and
asks for batches at any moments, before the pieces, between them and
after them. Some of the calls come after the request to stop, others are
cut short by it. Then the batches that were given are those of the first
complete lines of the stream, in order, and those of the other lines are
still to come. A call that is cut short may have passed over lines that
hold no batch; it has taken nothing else. -/
theorem attend_hasFramed (e : Enrollment) (occasions : List Occasion) :
    HasFramed (e.pending ++ arrived occasions) e.ignored (e.attend occasions).1
      (e.attend occasions).2 := by
  obtain ⟨lines, hpasses, hbatches⟩ := e.passes_attend occasions
  generalize (e.attend occasions).2 = last at hpasses
  obtain ⟨hlines, hrest⟩ := hpasses.completeLines
  refine ⟨⟨lines, hpasses.pending, hlines, hbatches.symm, hpasses.ignored⟩, ?_, hrest.symm,
    last.next_eq.1, ?_, rfl, ?_, last.drain_eq⟩
  · rw [← hbatches]
    exact hpasses.waiting.symm
  · intro hnone
    exact completeLines_of_not_mem (lineFeed_not_mem_search (Nat.le_refl _) hnone)
  · intro n hnone
    have hpassed := passes_search_of_none hnone
    have hwaiting := last.waiting_search n
    rw [hnone, Option.toList_none, List.nil_append] at hwaiting
    refine ⟨hpassed, ?_, hwaiting.symm, hpassed.completeLines.2.symm⟩
    exact List.append_left_eq_self.mp (hpassed.waiting.symm.trans hwaiting)

/-- A wait that the request to stop cuts short is not without effect. It has
thrown a malformed line away, which a later call does not meet again. -/
theorem meet_cutShort_malformed :
    let e : Enrollment := ⟨"server.fifo", encode "bad\n".toList, 0⟩
    let (batch, later) := e.meet (.cutShort 1)
    batch = none ∧ completeLines e.pending = [encode "bad".toList] ∧
      later = ⟨"server.fifo", [], 1⟩ ∧ later.nextUnless false = (none, later) := by
  decide +kernel

/-- A batch in three pieces, with a call after each; one of the calls comes
after the request to stop. -/
example :
    let text := "\x7b\"pid\":5,\"clients\":[\"N\"]\x7d\n7".toList
    let piece (n m : Nat) : Occasion := .arrival (encode ((text.drop n).take m))
    let run := (Enrollment.mk "server.fifo" [] 0).attend
      [piece 0 9, .call false, piece 9 14, .call true, piece 23 9, .call true, .call false]
    run.1 = [⟨5, ["N"]⟩] ∧ run.2.pending = encode ['7'] := by
  decide +kernel

end Enrollment

end CountingHouse

/-
CountingHouse.Proofs.Text.Lines — what is written line by line is read
line by line.

A line of text may hold anything but a line feed. In UTF-8 the byte of a
line feed stands for nothing else (`not_mem_encode`), so it is enough to
look at the characters.

A stream that goes on is cut at its line feeds into complete lines and
the bytes of a line that is not finished (`completeLines`, `unfinished`).
-/
import CountingHouse.Proofs.Text.Utf8
import CountingHouse.Text.Lines

namespace CountingHouse.Text

theorem lineFeed_not_mem_encode {s : List Char} (h : '\n' ∉ s) : lineFeed ∉ encode s :=
  not_mem_encode (by decide) h

theorem lines_cons {line : List UInt8} (h : lineFeed ∉ line) (rest : List UInt8) :
    lines (line ++ lineFeed :: rest) = line :: lines rest := by
  induction line with
  | nil => simp [lines]
  | cons b line ih =>
    simp only [List.mem_cons, not_or] at h
    rw [List.cons_append, lines, if_neg (Ne.symm h.1), ih h.2]

/-- Lines that were written one after another are read as they are. -/
theorem lines_flatMap {texts : List (List Char)} (h : ∀ s ∈ texts, '\n' ∉ s) :
    lines (texts.flatMap fun s => encode s ++ [lineFeed]) = texts.map encode := by
  induction texts with
  | nil => rfl
  | cons s texts ih =>
    have hs := lineFeed_not_mem_encode (h s List.mem_cons_self)
    rw [List.flatMap_cons, List.append_assoc, List.singleton_append, lines_cons hs,
      ih fun t ht => h t (List.mem_cons_of_mem s ht), List.map_cons]

/-- Bytes without a line feed are one line, if there are any. -/
theorem lines_of_not_mem {line : List UInt8} (h : lineFeed ∉ line) :
    lines line = if line = [] then [] else [line] := by
  induction line with
  | nil => rfl
  | cons b line ih =>
    simp only [List.mem_cons, not_or] at h
    rw [lines, if_neg (Ne.symm h.1), ih h.2, if_neg (List.cons_ne_nil _ _)]
    cases line <;> rfl

/-- A stream that is cut off has its first line whole, or it is cut off
within that line. -/
theorem lines_take {line : List UInt8} (h : lineFeed ∉ line) (rest : List UInt8) (n : Nat) :
    lines ((line ++ lineFeed :: rest).take n) =
      if line.length < n then line :: lines (rest.take (n - (line.length + 1)))
      else lines (line.take n) := by
  by_cases hwhole : line.length < n
  · obtain ⟨m, rfl⟩ := Nat.exists_eq_add_of_lt hwhole
    have hmore : line.length + m + 1 - line.length = m + 1 := by omega
    have hrest : line.length + m + 1 - (line.length + 1) = m := by omega
    rw [if_pos hwhole, List.take_append, List.take_of_length_le (Nat.le_of_lt hwhole), hmore,
      List.take_succ_cons, lines_cons h, hrest]
  · rw [if_neg hwhole, List.take_append_of_le_length (Nat.le_of_not_lt hwhole)]

/-! ## Streams that are put together -/

/-- Does a stream end where a line ends? -/
def EndsLine (s : List UInt8) : Prop :=
  s = [] ∨ s.getLast? = some lineFeed

instance (s : List UInt8) : Decidable (EndsLine s) :=
  inferInstanceAs (Decidable (s = [] ∨ s.getLast? = some lineFeed))

theorem lines_cons_ne_nil (b : UInt8) (s : List UInt8) : lines (b :: s) ≠ [] := by
  rw [lines]
  split
  · exact List.cons_ne_nil _ _
  · split <;> exact List.cons_ne_nil _ _

/-- What follows the end of a line begins a line of its own. -/
theorem lines_append {s : List UInt8} (h : EndsLine s) (rest : List UInt8) :
    lines (s ++ rest) = lines s ++ lines rest := by
  induction s with
  | nil => rfl
  | cons b s ih =>
    cases s with
    | nil =>
      have hb : b = lineFeed := by simpa [EndsLine] using h
      simp [lines, hb]
    | cons c s =>
      have htail : EndsLine (c :: s) := by
        simpa [EndsLine] using h
      have hrest := ih htail
      obtain ⟨line, more, hlines⟩ := List.exists_cons_of_ne_nil (lines_cons_ne_nil c s)
      rw [List.cons_append, lines, lines, hrest, hlines]
      split <;> rfl

/-! ## The first line -/

theorem takeLine?_line {line : List UInt8} (h : lineFeed ∉ line) (rest : List UInt8) :
    takeLine? (line ++ lineFeed :: rest) = some (line, rest) := by
  induction line with
  | nil => simp [takeLine?]
  | cons b line ih =>
    simp only [List.mem_cons, not_or] at h
    simp [takeLine?, Ne.symm h.1, ih h.2]

/-- What it means that a stream has a first line, or has none. -/
theorem takeLine?_cases (s : List UInt8) :
    (takeLine? s = none ∧ lineFeed ∉ s) ∨
    ∃ line rest, takeLine? s = some (line, rest) ∧ lineFeed ∉ line ∧
      s = line ++ lineFeed :: rest := by
  induction s with
  | nil => exact .inl ⟨rfl, List.not_mem_nil⟩
  | cons b s ih =>
    by_cases hb : b = lineFeed
    · exact .inr ⟨[], s, by simp [takeLine?, hb], List.not_mem_nil, by simp [hb]⟩
    · rcases ih with ⟨hnone, hmem⟩ | ⟨line, rest, hsome, hmem, rfl⟩
      · exact .inl ⟨by simp [takeLine?, hb, hnone], by simp [Ne.symm hb, hmem]⟩
      · exact .inr ⟨b :: line, rest, by simp [takeLine?, hb, hsome],
          by simp [Ne.symm hb, hmem], rfl⟩

/-! ## A stream without one of its lines -/

/-- The stream without the line at a position and without the line feed
behind that line. -/
def withoutLine : (position : Nat) → List UInt8 → List UInt8
  | 0, s =>
    match takeLine? s with
    | some (_, rest) => rest
    | none => []
  | position + 1, s =>
    match takeLine? s with
    | some (line, rest) => line ++ lineFeed :: withoutLine position rest
    | none => s

/-- The other lines of the stream are those it had. -/
theorem lines_withoutLine (position : Nat) (s : List UInt8) :
    lines (withoutLine position s) = (lines s).eraseIdx position := by
  induction position generalizing s with
  | zero =>
    rw [withoutLine]
    rcases takeLine?_cases s with ⟨hnone, hmem⟩ | ⟨line, rest, hsome, hline, rfl⟩
    · simp only [hnone, lines_of_not_mem hmem]
      split <;> rfl
    · simp only [hsome, lines_cons hline, List.eraseIdx_cons_zero]
  | succ position ih =>
    rw [withoutLine]
    rcases takeLine?_cases s with ⟨hnone, hmem⟩ | ⟨line, rest, hsome, hline, rfl⟩
    · simp only [hnone, lines_of_not_mem hmem]
      split <;> rfl
    · simp only [hsome, lines_cons hline, ih, List.eraseIdx_cons_succ]

example : withoutLine 1 [97, 10, 98, 10, 99] = [97, 10, 99] := by decide

/-! ## Streams that go on -/

/-- The complete lines of a stream, without their line feeds. -/
def completeLines (s : List UInt8) : List (List UInt8) :=
  (s.splitOn lineFeed).dropLast

/-- The bytes behind the last line feed of a stream. -/
def unfinished (s : List UInt8) : List UInt8 :=
  (s.splitOn lineFeed).getLast (List.splitOn_ne_nil _ _)

/-- Lines as they stand in a stream, each with its line feed. -/
def written (lines : List (List UInt8)) : List UInt8 :=
  lines.flatMap (· ++ [lineFeed])

theorem completeLines_of_not_mem {s : List UInt8} (h : lineFeed ∉ s) : completeLines s = [] := by
  simp [completeLines, List.splitOn_eq_singleton h]

theorem completeLines_line {line : List UInt8} (h : lineFeed ∉ line) (rest : List UInt8) :
    completeLines (line ++ lineFeed :: rest) = line :: completeLines rest := by
  rw [completeLines, List.splitOn_append_cons_self_of_not_mem h,
    List.dropLast_cons_of_ne_nil (List.splitOn_ne_nil _ _)]
  rfl

theorem unfinished_line {line : List UInt8} (h : lineFeed ∉ line) (rest : List UInt8) :
    unfinished (line ++ lineFeed :: rest) = unfinished rest := by
  simp only [unfinished, List.splitOn_append_cons_self_of_not_mem h]
  exact List.getLast_cons (List.splitOn_ne_nil _ _)

theorem unfinished_of_not_mem {s : List UInt8} (h : lineFeed ∉ s) : unfinished s = s := by
  simp [unfinished, List.splitOn_eq_singleton h]

/-- What arrives later completes the line that is not finished. -/
theorem completeLines_append (s rest : List UInt8) :
    completeLines (s ++ rest) = completeLines s ++ completeLines (unfinished s ++ rest) := by
  induction hn : s.length using Nat.strongRecOn generalizing s with
  | ind n ih =>
    rcases takeLine?_cases s with ⟨_, hmem⟩ | ⟨line, more, _, hline, rfl⟩
    · rw [completeLines_of_not_mem hmem, unfinished_of_not_mem hmem, List.nil_append]
    · have hshorter : more.length < n := by
        rw [← hn, List.length_append, List.length_cons]
        omega
      rw [List.append_assoc, List.cons_append, completeLines_line hline, completeLines_line hline,
        unfinished_line hline, ih more.length hshorter more rfl, List.cons_append]

theorem written_cons_append (line : List UInt8) (lines : List (List UInt8)) (rest : List UInt8) :
    written (line :: lines) ++ rest = line ++ lineFeed :: (written lines ++ rest) := by
  simp [written]

theorem written_append (lines more : List (List UInt8)) :
    written (lines ++ more) = written lines ++ written more :=
  List.flatMap_append

/-- Lines that were written are the first complete lines, and what comes
behind them is read as if they were not there. -/
theorem completeLines_written {lines : List (List UInt8)} (h : ∀ line ∈ lines, lineFeed ∉ line)
    (rest : List UInt8) :
    completeLines (written lines ++ rest) = lines ++ completeLines rest ∧
      unfinished (written lines ++ rest) = unfinished rest := by
  induction lines with
  | nil => exact ⟨rfl, rfl⟩
  | cons line lines ih =>
    obtain ⟨hlines, hrest⟩ := ih fun l hl => h l (List.mem_cons_of_mem line hl)
    have hline := h line List.mem_cons_self
    rw [written_cons_append, completeLines_line hline, unfinished_line hline, hlines, hrest]
    exact ⟨rfl, rfl⟩

example : completeLines [97, 10, 10, 98] = [[97], []] ∧ unfinished [97, 10, 10, 98] = [98] := by
  decide

end CountingHouse.Text

/-
CountingHouse.Proofs.ClientFile.Records — without quotes a record is a
line.

A quote is the only byte that can carry a field over a blank or a line
end. As long as none comes up, the scanner does nothing but cut: at line
ends into records and at blanks into fields. Whatever has been read of a
record is in the scanner's two lists, so the cut of a line can be followed
from any point inside it (`scan_line`), and at its end the scanner is back
where it began.
-/
import CountingHouse.ClientFile.Records

namespace CountingHouse.ClientFile

/-- The lines of a text that are not empty. A carriage return and a line
feed have an empty line between them, so it does not matter whether they
are taken for one line end or for two. -/
def linesOf (bytes : List UInt8) : List (List UInt8) :=
  (bytes.splitOnP endsLine).filter (· ≠ [])

/-- The records of bytes that are read from some point on. -/
def recordsFrom (s : Scan) (bytes : List UInt8) : List RawRecord :=
  (scan s bytes).1 ++ (scan s bytes).2.finish

theorem recordsFrom_cons (s : Scan) (b : UInt8) (bytes : List UInt8) :
    recordsFrom s (b :: bytes) = (s.feed b).1 ++ recordsFrom (s.feed b).2 bytes := by
  simp only [recordsFrom, scan, List.append_assoc]

/-! ## Inside a line -/

/-- The scanner has begun a record and stands outside quotes. -/
def Scan.IsOpen (s : Scan) : Prop :=
  s.position = .fieldStart ∨ s.position = .plain

/-- An ordinary byte of a line is kept or ends the field. -/
theorem feed_of_ordinary {s : Scan} (hs : s.position = .betweenRecords ∨ s.IsOpen) {b : UInt8}
    (hquote : b ≠ quoteMark) (hend : endsLine b = false) :
    s.feed b = ([], if b = delimiter then ⟨.fieldStart, s.closed, []⟩ else s.keep .plain b) := by
  have houtside : s.outside b =
      ([], if b = delimiter then ⟨.fieldStart, s.closed, []⟩ else s.keep .plain b) := by
    rw [Scan.outside, hend]
    split <;> rfl
  rcases hs with hs | hs | hs <;>
    simp [Scan.feed, hs, Scan.atFieldStart, hquote, hend, houtside]

/-- The fields of a line that is read from some point on. -/
def Scan.cut (s : Scan) (line : List UInt8) : RawRecord :=
  s.fields ++ (line.splitOn delimiter).modifyHead (s.field ++ ·)

theorem Scan.cut_nil (s : Scan) : s.cut [] = s.closed := by
  simp [cut, closed]

theorem Scan.cut_delimiter (s : Scan) (line : List UInt8) :
    s.cut (delimiter :: line) = Scan.cut ⟨.fieldStart, s.closed, []⟩ line := by
  obtain ⟨piece, pieces, h⟩ := List.exists_cons_of_ne_nil (List.splitOn_ne_nil delimiter line)
  simp [cut, closed, List.splitOn_cons_eq_if_modifyHead, h]

theorem Scan.cut_keep (s : Scan) {b : UInt8} (hb : b ≠ delimiter) (line : List UInt8) :
    s.cut (b :: line) = (s.keep .plain b).cut line := by
  obtain ⟨piece, pieces, h⟩ := List.exists_cons_of_ne_nil (List.splitOn_ne_nil delimiter line)
  simp [cut, keep, List.splitOn_cons_eq_if_modifyHead, hb, h]

/-- **A line is cut at its blanks.** Behind its bytes the scanner has all
its fields, the last one not closed yet. -/
theorem scan_line {s : Scan} (hs : s.position = .betweenRecords ∨ s.IsOpen) {line : List UInt8}
    (hne : s.IsOpen ∨ line ≠ []) (hquote : quoteMark ∉ line)
    (hend : ∀ b ∈ line, endsLine b = false) :
    ∃ s' : Scan, s'.IsOpen ∧ s'.closed = s.cut line ∧
      ∀ rest, recordsFrom s (line ++ rest) = recordsFrom s' rest := by
  induction line generalizing s with
  | nil => exact ⟨s, hne.resolve_right (by simp), s.cut_nil.symm, fun _ => rfl⟩
  | cons b line ih =>
    simp only [List.mem_cons, not_or] at hquote
    simp only [List.forall_mem_cons] at hend
    have hfeed := feed_of_ordinary hs (Ne.symm hquote.1) hend.1
    have hopen : ∀ s : Scan, s.IsOpen → ∃ s' : Scan, s'.IsOpen ∧ s'.closed = s.cut line ∧
        ∀ rest, recordsFrom s (line ++ rest) = recordsFrom s' rest :=
      fun s hs => ih (.inr hs) (.inl hs) hquote.2 hend.2
    by_cases hb : b = delimiter
    · rw [if_pos hb] at hfeed
      obtain ⟨s', hs', hclosed, hrecords⟩ := hopen ⟨.fieldStart, s.closed, []⟩ (.inl rfl)
      refine ⟨s', hs', by rw [hclosed, hb, s.cut_delimiter], fun rest => ?_⟩
      rw [List.cons_append, recordsFrom_cons, hfeed, List.nil_append, hrecords]
    · rw [if_neg hb] at hfeed
      obtain ⟨s', hs', hclosed, hrecords⟩ := hopen (s.keep .plain b) (.inr rfl)
      refine ⟨s', hs', by rw [hclosed, s.cut_keep hb], fun rest => ?_⟩
      rw [List.cons_append, recordsFrom_cons, hfeed, List.nil_append, hrecords]

/-! ## From line to line -/

theorem cut_start (line : List UInt8) : Scan.start.cut line = line.splitOn delimiter := by
  obtain ⟨piece, pieces, h⟩ := List.exists_cons_of_ne_nil (List.splitOn_ne_nil delimiter line)
  simp [Scan.cut, Scan.start, h]

/-- Behind a line end the scanner is back where it began. -/
theorem recordsFrom_lineEnd {s : Scan} (hs : s.IsOpen) {b : UInt8} (hb : endsLine b = true)
    (rest : List UInt8) : recordsFrom s (b :: rest) = s.closed :: recordsFrom .start rest := by
  have hquote : b ≠ quoteMark := by
    rintro rfl
    exact absurd hb (by decide)
  have hdelimiter : b ≠ delimiter := by
    rintro rfl
    exact absurd hb (by decide)
  rw [recordsFrom_cons]
  rcases hs with hs | hs <;>
    simp [Scan.feed, hs, Scan.atFieldStart, Scan.outside, hquote, hdelimiter, hb]

theorem recordsFrom_line {line : List UInt8} (hne : line ≠ []) (hquote : quoteMark ∉ line)
    (hend : ∀ b ∈ line, endsLine b = false) :
    recordsFrom .start line = [line.splitOn delimiter] ∧
    ∀ b rest, endsLine b = true →
      recordsFrom .start (line ++ b :: rest) =
        line.splitOn delimiter :: recordsFrom .start rest := by
  obtain ⟨s, hs, hclosed, hrecords⟩ := scan_line (s := .start) (.inl rfl) (.inr hne) hquote hend
  rw [cut_start] at hclosed
  constructor
  · have hfinish := hrecords []
    rw [List.append_nil] at hfinish
    have hposition : s.position ≠ .betweenRecords := by
      rcases hs with hs | hs <;> rw [hs] <;> decide
    rw [hfinish, recordsFrom, scan, List.nil_append, Scan.finish, if_neg hposition, hclosed]
  · intro b rest hb
    rw [hrecords, recordsFrom_lineEnd hs hb, hclosed]

theorem linesOf_append (line : List UInt8) {b : UInt8} (hb : endsLine b = true)
    (rest : List UInt8) : linesOf (line ++ b :: rest) = linesOf line ++ linesOf rest := by
  rw [linesOf, List.splitOnP_append_cons _ _ hb, List.filter_append]
  rfl

theorem linesOf_of_unended {line : List UInt8} (hend : ∀ b ∈ line, endsLine b = false) :
    linesOf line = if line = [] then [] else [line] := by
  rw [linesOf, List.splitOnP_eq_singleton hend]
  by_cases h : line = [] <;> simp [h]

/-- Bytes have a first line that is ended, or they are one line. -/
theorem exists_line (bytes : List UInt8) :
    (∀ b ∈ bytes, endsLine b = false) ∨
    ∃ line b rest, bytes = line ++ b :: rest ∧ (∀ b ∈ line, endsLine b = false) ∧
      endsLine b = true := by
  induction bytes with
  | nil => exact .inl nofun
  | cons b bytes ih =>
    cases hb : endsLine b with
    | true => exact .inr ⟨[], b, bytes, rfl, nofun, hb⟩
    | false =>
      rcases ih with hall | ⟨line, e, rest, rfl, hline, he⟩
      · exact .inl (List.forall_mem_cons.mpr ⟨hb, hall⟩)
      · exact .inr ⟨b :: line, e, rest, rfl, List.forall_mem_cons.mpr ⟨hb, hline⟩, he⟩

/-- **Bytes without a quote are read line by line**: every line that is not
empty is a record, and its fields stand between its blanks. -/
theorem recordsFrom_start {bytes : List UInt8} (hquote : quoteMark ∉ bytes) :
    recordsFrom .start bytes = (linesOf bytes).map (·.splitOn delimiter) := by
  induction hn : bytes.length using Nat.strongRecOn generalizing bytes with
  | ind n ih =>
    rcases exists_line bytes with hall | ⟨line, b, rest, rfl, hline, hb⟩
    · rw [linesOf_of_unended hall]
      by_cases hne : bytes = []
      · subst hne
        rfl
      · rw [if_neg hne, (recordsFrom_line hne hquote hall).1]
        rfl
    · simp only [List.mem_append, List.mem_cons, not_or] at hquote
      have hshorter : rest.length < n := by
        rw [← hn, List.length_append, List.length_cons]
        omega
      have hrest := ih rest.length hshorter hquote.2.2 rfl
      rw [linesOf_append line hb, linesOf_of_unended hline]
      by_cases hne : line = []
      · subst hne
        rw [List.nil_append, recordsFrom_cons, if_pos rfl, List.nil_append, ← hrest]
        simp [Scan.feed, Scan.start, hb]
      · rw [if_neg hne, (recordsFrom_line hne hquote.1 hline).2 b rest hb, hrest]
        rfl

/-- A text that begins with no byte order mark is read as it is. -/
theorem records_eq {bytes : List UInt8} (hquote : quoteMark ∉ bytes)
    (hmark : dropMark bytes = bytes) :
    records bytes = (linesOf bytes).map (·.splitOn delimiter) := by
  rw [records, hmark]
  exact recordsFrom_start hquote

end CountingHouse.ClientFile

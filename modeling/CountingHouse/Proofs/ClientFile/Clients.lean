/-
CountingHouse.Proofs.ClientFile.Clients — a client file without quotes is
read line by line.

The line ends, the blank between fields and the quote are characters of
one byte, so the bytes of a text can be cut where the text is cut
(`records_encode`). What becomes of a line is then a matter of that line
alone (`requestOf`), and sorting the records loses none of them
(`sortRecords_eq`).

A line that was written for a transaction asks for that transaction
(`requestOf_lineFor`), so a file of such lines is read back
(`read_fileFor`). Not every list of transactions comes back, though: a
file loses the byte order mark it begins with, and an id may begin with
just this character (`read_marked_id`).
-/
import CountingHouse.ClientFile.Clients
import CountingHouse.Proofs.BankId
import CountingHouse.Proofs.ClientFile.Records
import CountingHouse.Proofs.Text.Lines
import CountingHouse.Proofs.Text.Numeral

namespace CountingHouse.ClientFile

/-! ## Text instead of bytes -/

/-- Does the character end a line? -/
def isLineEnd (c : Char) : Bool :=
  c = '\n' || c = '\r'

/-- The character that marks the byte order when it begins a text. -/
def orderMark : Char := '\uFEFF'

/-- The lines of a text that are not empty. Between a carriage return and a
line feed there is an empty one. -/
def clientLines (text : List Char) : List (List Char) :=
  (text.splitOnP isLineEnd).filter (· ≠ [])

/-- The pieces of a line between its blanks. -/
def fieldsOf (line : List Char) : RawRecord :=
  (line.splitOn ' ').map Text.encode

theorem linesOf_encode (text : List Char) :
    linesOf (Text.encode text) = (clientLines text).map Text.encode := by
  have hcut : ∀ c, isLineEnd c = true →
      ∃ b, String.utf8EncodeChar c = [b] ∧ endsLine b = true := by
    intro c hc
    simp only [isLineEnd, Bool.or_eq_true, decide_eq_true_eq] at hc
    rcases hc with rfl | rfl <;> exact ⟨_, rfl, rfl⟩
  have hkeep : ∀ c, isLineEnd c = false →
      ∀ b ∈ String.utf8EncodeChar c, endsLine b = false := by
    intro c hc b hb
    refine Bool.eq_false_iff.mpr fun hends => ?_
    simp only [endsLine, Bool.or_eq_true, decide_eq_true_eq] at hends
    rcases hends with rfl | rfl <;>
      exact absurd (Text.eq_of_ascii_mem (by decide) hb) (by rintro rfl; cases hc)
  rw [linesOf, clientLines, Text.splitOnP_encode hcut hkeep, List.filter_map]
  congr 2
  funext line
  simp [Text.encode_eq_nil_iff]

theorem splitOn_encode (line : List Char) :
    (Text.encode line).splitOn delimiter = fieldsOf line := by
  rw [List.splitOn_eq_splitOnP, fieldsOf, List.splitOn_eq_splitOnP]
  refine Text.splitOnP_encode ?_ ?_ line
  · intro c hc
    rw [eq_of_beq hc]
    exact ⟨delimiter, rfl, rfl⟩
  · intro c hc b hb
    refine beq_eq_false_iff_ne.mpr ?_
    rintro rfl
    exact beq_eq_false_iff_ne.mp hc (Text.eq_of_ascii_mem (by decide) hb)

/-- The bytes of a byte order mark begin no text but one that begins with
this character. -/
theorem dropMark_encode {text : List Char} (h : text.head? ≠ some orderMark) :
    dropMark (Text.encode text) = Text.encode text := by
  rw [dropMark.eq_def]
  split
  · next rest heq =>
    have hmark : (0xEF :: 0xBB :: 0xBF :: rest : List UInt8) =
        String.utf8EncodeChar orderMark ++ rest := rfl
    have hpieces := Text.pieces_encode text
    rw [heq, hmark, Text.pieces, Text.piecesFrom_char] at hpieces
    obtain ⟨c, s, rfl, hc, -⟩ := List.map_eq_cons_iff.mp hpieces.symm
    cases hc
    exact absurd rfl h
  · rfl

/-- **The records of a text without quotes are its lines.** -/
theorem records_encode {text : List Char} (hquote : '"' ∉ text)
    (hmark : text.head? ≠ some orderMark) :
    records (Text.encode text) = (clientLines text).map fieldsOf := by
  rw [records_eq (Text.not_mem_encode (by decide) hquote) (dropMark_encode hmark), linesOf_encode,
    List.map_map]
  exact congrArg (fun f => (clientLines text).map f) (funext splitOn_encode)

/-! ## What becomes of the records -/

/-- What a line asks for, whatever the other lines are. -/
def requestOf (line : List Char) : Except SkipReason Transaction :=
  transactionOf (fieldsOf line)

/-- The entry that a record makes among those that are skipped. -/
def skipped? : Except SkipReason Transaction × Nat → Option (Nat × SkipReason)
  | (.error reason, number) => some (number, reason)
  | (.ok _, _) => none

/-- **Every record makes one entry**, in its place. -/
theorem sortRecords_eq (number : Nat) (outcomes : List (Except SkipReason Transaction)) :
    sortRecords number outcomes =
      ⟨outcomes.filterMap Except.toOption, (outcomes.zipIdx number).filterMap skipped?⟩ := by
  induction outcomes generalizing number with
  | nil => rfl
  | cons outcome outcomes ih =>
    cases outcome <;> simp [sortRecords, ih, skipped?, Except.toOption, List.filterMap_cons]

theorem sortRecords_ok (number : Nat) (ts : List Transaction) :
    sortRecords number (ts.map .ok) = ⟨ts, []⟩ := by
  induction ts generalizing number with
  | nil => rfl
  | cons t ts ih => rw [List.map_cons, sortRecords, ih]

theorem length_sortRecords (number : Nat) (outcomes : List (Except SkipReason Transaction)) :
    (sortRecords number outcomes).transactions.length +
      (sortRecords number outcomes).skipped.length = outcomes.length := by
  induction outcomes generalizing number with
  | nil => rfl
  | cons outcome outcomes ih =>
    have hrest := ih (number + 1)
    cases outcome <;> simp only [sortRecords, List.length_cons] <;> omega

theorem read_encode {text : List Char} (hquote : '"' ∉ text)
    (hmark : text.head? ≠ some orderMark) :
    read (.ofBytes (Text.encode text)) = sortRecords 1 ((clientLines text).map requestOf) := by
  show sortRecords 1 ((records (Text.encode text)).map transactionOf) = _
  rw [records_encode hquote hmark, List.map_map]
  rfl

/-! ## Lines that are written -/

/-- The line that asks for a transaction. -/
def lineFor (t : Transaction) : List Char :=
  t.bankId.text.toList ++ ' ' :: (t.operation.word.toList ++ ' ' :: Text.natural t.amount.toNat)

theorem ofClientWord_word (operation : Operation) :
    Operation.ofClientWord operation.word = .ok operation := by
  have hlower : Text.lowercase operation.word.toList = operation.word.toList := by
    cases operation <;> decide +kernel
  rw [Operation.ofClientWord, hlower, String.ofList_toList]
  cases operation <;> rfl

theorem isWord_word (operation : Operation) : Text.IsWord operation.word.toList := by
  cases operation <;> exact Text.isWord_of_all (by decide)

theorem amount?_natural (n : UInt32) : amount? (Text.natural n.toNat) = some n := by
  rw [amount?.eq_def]
  split
  · next digits heq =>
    have hx : 'x' ∈ Text.natural n.toNat := by rw [heq]; simp
    exact absurd (Text.isDigit_of_mem_natural hx) (by decide)
  · exact Text.uint32?_natural n

theorem space_not_mem {w : List Char} (hw : Text.IsWord w) : ' ' ∉ w := by
  intro hmem
  have := hw.notBlank ' ' hmem
  rw [Text.isBlank_space] at this
  cases this

theorem trim_word {w : List Char} (hw : Text.IsWord w) : Text.trim w = w := by
  obtain ⟨c, s, rfl⟩ := List.exists_cons_of_ne_nil hw.ne_nil
  rw [Text.trim, Text.trimStart_cons (hw.notBlank c List.mem_cons_self)]
  exact Text.trimEnd_append_word hw []

/-- The fields of a line are text as the line is. -/
theorem fieldTexts_fieldsOf (line : List Char) :
    (fieldsOf line).mapM fieldText? = some ((line.splitOn ' ').map Text.trim) := by
  rw [fieldsOf]
  induction line.splitOn ' ' with
  | nil => rfl
  | cons piece pieces ih =>
    simp [fieldText?, Text.decode?_encode, ih]

/-- **The line for a transaction asks for that transaction.** -/
theorem requestOf_lineFor (t : Transaction) : requestOf (lineFor t) = .ok t := by
  have hid := t.bankId.isWord
  have hword := isWord_word t.operation
  have hamount := Text.isWord_natural t.amount.toNat
  have hpieces : (lineFor t).splitOn ' ' =
      [t.bankId.text.toList, t.operation.word.toList, Text.natural t.amount.toNat] := by
    rw [lineFor, List.splitOn_append_cons_self_of_not_mem (space_not_mem hid),
      List.splitOn_append_cons_self_of_not_mem (space_not_mem hword),
      List.splitOn_eq_singleton (space_not_mem hamount)]
  simp [requestOf, transactionOf, fieldTexts_fieldsOf, hpieces, trim_word, hid, hword, hamount,
    amount?_natural, ofClientWord_word, BankId.ofString_text]

theorem mem_lineFor {t : Transaction} {c : Char} (h : c ∈ lineFor t) :
    c ∈ t.bankId.text.toList ∨ c = ' ' ∨ c ∈ t.operation.word.toList ∨
      c ∈ Text.natural t.amount.toNat := by
  simp only [lineFor, List.mem_append, List.mem_cons] at h
  grind

theorem isBlank_of_isLineEnd {c : Char} (h : isLineEnd c = true) : Text.isBlank c = true := by
  simp only [isLineEnd, Bool.or_eq_true, decide_eq_true_eq] at h
  rcases h with rfl | rfl <;> decide

theorem not_isLineEnd_of_mem_lineFor {t : Transaction} {c : Char} (hc : c ∈ lineFor t) :
    isLineEnd c = false := by
  refine Bool.eq_false_iff.mpr fun hend => ?_
  have hblank := isBlank_of_isLineEnd hend
  rcases mem_lineFor hc with hid | rfl | hword | hamount
  · exact absurd (t.bankId.isWord.notBlank c hid) (by simp [hblank])
  · exact absurd hend (by decide)
  · exact absurd ((isWord_word t.operation).notBlank c hword) (by simp [hblank])
  · exact absurd ((Text.isWord_natural _).notBlank c hamount) (by simp [hblank])

/-- The only quotes of a line are those of the id. -/
theorem quote_not_mem_lineFor {t : Transaction} (h : '"' ∉ t.bankId.text.toList) :
    '"' ∉ lineFor t := by
  intro hc
  rcases mem_lineFor hc with hid | hblank | hword | hamount
  · exact h hid
  · exact absurd hblank (by decide)
  · cases ho : t.operation <;> rw [ho] at hword <;> exact absurd hword (by decide)
  · exact absurd (Text.isDigit_of_mem_natural hamount) (by decide)

/-! ## Files that are written -/

/-- What may end a line. -/
def lineEnds : List (List Char) :=
  [['\n'], ['\r', '\n'], ['\r']]

/-- The text of a client file with a line for each transaction. -/
def fileFor (ending : List Char) (ts : List Transaction) : List Char :=
  ts.flatMap fun t => lineFor t ++ ending

theorem clientLines_append (line : List Char) {c : Char} (hc : isLineEnd c = true)
    (rest : List Char) :
    clientLines (line ++ c :: rest) = clientLines line ++ clientLines rest := by
  rw [clientLines, List.splitOnP_append_cons _ _ hc, List.filter_append]
  rfl

theorem clientLines_lineFor (t : Transaction) : clientLines (lineFor t) = [lineFor t] := by
  have hne : lineFor t ≠ [] := by simp [lineFor]
  simp [clientLines, List.splitOnP_eq_singleton fun c hc => not_isLineEnd_of_mem_lineFor hc, hne]

theorem clientLines_ended {ending : List Char} (h : ending ∈ lineEnds) (line rest : List Char) :
    clientLines (line ++ (ending ++ rest)) = clientLines line ++ clientLines rest := by
  simp only [lineEnds, List.mem_cons, List.not_mem_nil, or_false] at h
  rcases h with rfl | rfl | rfl
  · exact clientLines_append line rfl rest
  · have hbetween : clientLines ('\n' :: rest) = clientLines rest := clientLines_append [] rfl rest
    rw [← hbetween]
    exact clientLines_append line rfl _
  · exact clientLines_append line rfl rest

theorem clientLines_fileFor {ending : List Char} (h : ending ∈ lineEnds) (ts : List Transaction) :
    clientLines (fileFor ending ts) = ts.map lineFor := by
  induction ts with
  | nil => rfl
  | cons t ts ih =>
    rw [fileFor, List.flatMap_cons, List.append_assoc, clientLines_ended h, clientLines_lineFor,
      ← fileFor, ih]
    rfl

theorem quote_not_mem_fileFor {ending : List Char} (h : ending ∈ lineEnds) {ts : List Transaction}
    (hquote : ∀ t ∈ ts, '"' ∉ t.bankId.text.toList) : '"' ∉ fileFor ending ts := by
  intro hmem
  obtain ⟨t, ht, hmem⟩ := List.mem_flatMap.mp hmem
  rcases List.mem_append.mp hmem with hline | hending
  · exact quote_not_mem_lineFor (hquote t ht) hline
  · have hnone : ∀ ending ∈ lineEnds, '"' ∉ ending := by decide
    exact hnone ending h hending

theorem head?_fileFor (ending : List Char) (ts : List Transaction) :
    (fileFor ending ts).head? = ts.head?.bind fun t => t.bankId.text.toList.head? := by
  cases ts with
  | nil => rfl
  | cons t ts =>
    obtain ⟨c, s, h, -⟩ := t.bankId.exists_eq_cons
    simp [fileFor, lineFor, h]

/-- **A written file is read back**, whether its last line is ended or
not. -/
theorem read_fileFor {ts : List Transaction} (hquote : ∀ t ∈ ts, '"' ∉ t.bankId.text.toList)
    (hmark : ∀ t ∈ ts.head?, t.bankId.text.toList.head? ≠ some orderMark) {ending : List Char}
    (hending : ending ∈ lineEnds) {text : List Char}
    (htext : text = fileFor ending ts ∨ text ++ ending = fileFor ending ts) :
    read (.ofBytes (Text.encode text)) = ⟨ts, []⟩ := by
  have hlines : clientLines text = ts.map lineFor := by
    rw [← clientLines_fileFor hending]
    rcases htext with rfl | htext
    · rfl
    · have hended := clientLines_ended hending text []
      rw [List.append_nil, htext] at hended
      exact (hended.trans (List.append_nil _)).symm
  have hbegins : text <+: fileFor ending ts := by
    rcases htext with rfl | htext
    · exact List.prefix_refl _
    · exact ⟨ending, htext⟩
  have hfirst : text.head? ≠ some orderMark := by
    intro hhead
    obtain ⟨tail, hfile⟩ := hbegins
    have hfirst : (fileFor ending ts).head? = some orderMark := by
      rw [← hfile, List.head?_append, hhead]
      rfl
    rw [head?_fileFor] at hfirst
    obtain ⟨t, ht, hid⟩ := Option.bind_eq_some_iff.mp hfirst
    exact hmark t ht hid
  have hclean : '"' ∉ text := fun hmem =>
    quote_not_mem_fileFor hending hquote (hbegins.subset hmem)
  have hrequests : (ts.map lineFor).map requestOf = ts.map .ok := by
    rw [List.map_map]
    exact congrArg (fun f => ts.map f) (funext requestOf_lineFor)
  rw [read_encode hclean hfirst, hlines, hrequests, sortRecords_ok]

/-- **A client file without quotes is read line by line.** Every line that
is not empty is one record, and it makes one transaction or one entry among
those that are skipped, whatever the other lines are. The lines that were
written for transactions are read as these transactions. -/
theorem clients_line_by_line :
    (∀ text : List Char, '"' ∉ text → text.head? ≠ some orderMark →
      records (Text.encode text) = (clientLines text).map fieldsOf ∧
      (read (.ofBytes (Text.encode text))).transactions =
        ((clientLines text).map requestOf).filterMap Except.toOption ∧
      (read (.ofBytes (Text.encode text))).skipped =
        (((clientLines text).map requestOf).zipIdx 1).filterMap skipped? ∧
      (read (.ofBytes (Text.encode text))).transactions.length +
        (read (.ofBytes (Text.encode text))).skipped.length = (clientLines text).length) ∧
    ∀ ts : List Transaction, (∀ t ∈ ts, '"' ∉ t.bankId.text.toList) →
      (∀ t ∈ ts.head?, t.bankId.text.toList.head? ≠ some orderMark) →
      ∀ ending ∈ lineEnds, ∀ text : List Char,
        text = fileFor ending ts ∨ text ++ ending = fileFor ending ts →
        read (.ofBytes (Text.encode text)) = ⟨ts, []⟩ := by
  refine ⟨fun text hquote hmark => ?_, fun ts hquote hmark ending hending text htext =>
    read_fileFor hquote hmark hending htext⟩
  have hlength := length_sortRecords 1 ((clientLines text).map requestOf)
  rw [List.length_map] at hlength
  rw [read_encode hquote hmark]
  refine ⟨records_encode hquote hmark, ?_, ?_, hlength⟩ <;> rw [sortRecords_eq]

/-- Three lines, each with another end, and a record that cannot be used;
and a file of two lines, the last one without an end. -/
theorem clients_line_by_line_three_ends :
    let text := "x\r\n\nN deposit 1\rM withdraw 0x2".toList
    let ts : List Transaction :=
      [⟨⟨"N", by decide⟩, .deposit, 1⟩, ⟨⟨"ü\uFEFF", by decide⟩, .withdraw, 20⟩]
    clientLines text = ["x".toList, "N deposit 1".toList, "M withdraw 0x2".toList] ∧
      (read (.ofBytes (Text.encode text))).skipped = [(1, .badRecord)] ∧
      read (.ofBytes (Text.encode "N deposit 1\r\nü\uFEFF withdraw 20".toList)) = ⟨ts, []⟩ := by
  obtain ⟨hlines, hfiles⟩ := clients_line_by_line
  refine ⟨by decide +kernel, ?_, hfiles _ (by decide) (by decide) ['\r', '\n'] (by decide) _
    (.inr (by decide +kernel))⟩
  exact (hlines _ (by decide) (by decide)).2.2.1.trans (by decide +kernel)

/-- A deposit whose id begins with a byte order mark. -/
def markedDeposit : Transaction :=
  ⟨⟨"\uFEFFN", by decide⟩, .deposit, 1⟩

/-- **A byte order mark is not kept**: at the beginning of a file an id
loses it. -/
theorem read_marked_id :
    '"' ∉ markedDeposit.bankId.text.toList ∧
      read (.ofBytes (Text.encode (fileFor ['\n'] [markedDeposit]))) =
        ⟨[⟨⟨"N", by decide⟩, .deposit, 1⟩], []⟩ ∧
      read (.ofBytes (Text.encode (fileFor ['\n'] [markedDeposit]))) ≠ ⟨[markedDeposit], []⟩ := by
  decide +kernel

end CountingHouse.ClientFile

/-
CountingHouse.Proofs.Ledger.Document — what a reader makes of each line
that a writer produces.

There are three sorts of lines. The header is passed over because there
is a name before its mark (`judge_header`), the footer because of its two
`#` (`judge_footer`), and the line of an account is an entry with just
that account (`judge_formatAccount`). The last holds for every id: the
mark of a header begins with a blank, which no id has, and goes on with a
letter, which nothing behind the id has.
-/
import CountingHouse.Ledger.Document
import CountingHouse.Proofs.Ledger.Line
import CountingHouse.Proofs.Text.Lines

namespace CountingHouse.Ledger

/-! ## Looking for a mark -/

theorem before?_cons {mark : List Char} {c : Char} {s : List Char}
    (h : mark.isPrefixOf (c :: s) = false) :
    before? mark (c :: s) = (before? mark s).map (c :: ·) := by
  rw [before?, h]
  rfl

theorem before?_cons_of_ne {m c : Char} (h : m ≠ c) (mark s : List Char) :
    before? (m :: mark) (c :: s) = (before? (m :: mark) s).map (c :: ·) :=
  before?_cons (by simp [List.isPrefixOf, h])

theorem isSome_before? {mark : List Char} (hmark : mark ≠ []) (s t : List Char) :
    (before? mark (s ++ (mark ++ t))).isSome := by
  induction s with
  | nil =>
    obtain ⟨m, mark', rfl⟩ := List.exists_cons_of_ne_nil hmark
    have hself : (m :: mark').isPrefixOf (m :: (mark' ++ t)) = true := by simp
    rw [List.nil_append, List.cons_append, before?, hself]
    rfl
  | cons c s ih =>
    rw [List.cons_append, before?]
    split
    · rfl
    · rw [Option.isSome_map]; exact ih

/-- A mark that is found stands behind what is given as the part before it. -/
theorem eq_append_of_before? {mark s name : List Char} (h : before? mark s = some name) :
    ∃ rest, s = name ++ (mark ++ rest) := by
  induction s generalizing name with
  | nil =>
    rw [before?] at h
    split at h
    · next hmark =>
      cases h
      exact ⟨[], by rw [hmark]; rfl⟩
    · cases h
  | cons c s ih =>
    rw [before?] at h
    split at h
    · next hstart =>
      cases h
      obtain ⟨rest, hrest⟩ := List.isPrefixOf_iff_prefix.mp hstart
      exact ⟨rest, hrest.symm⟩
    · obtain ⟨name', hname, rfl⟩ := Option.map_eq_some_iff.mp h
      obtain ⟨rest, rfl⟩ := ih hname
      exact ⟨rest, rfl⟩

/-- A mark is not found where one of its characters is missing. -/
theorem before?_eq_none {mark s : List Char} {d : Char} (hd : d ∈ mark) (hs : d ∉ s) :
    before? mark s = none := by
  induction s with
  | nil => rw [before?, if_neg (List.ne_nil_of_mem hd)]
  | cons c s ih =>
    have hno : mark.isPrefixOf (c :: s) = false := by
      rw [Bool.eq_false_iff]
      intro h
      exact hs ((List.isPrefixOf_iff_prefix.mp h).subset hd)
    rw [before?_cons hno, ih fun h => hs (List.mem_cons_of_mem c h)]
    rfl

/-- A mark does not begin within characters that are not its first. -/
theorem before?_append {m : Char} {s : List Char} (hs : m ∉ s) (mark t : List Char) :
    before? (m :: mark) (s ++ t) = (before? (m :: mark) t).map (s ++ ·) := by
  induction s with
  | nil => simp
  | cons c s ih =>
    simp only [List.mem_cons, not_or] at hs
    rw [List.cons_append, before?_cons_of_ne hs.1, ih hs.2, Option.map_map]
    rfl

/-! ## The header -/

/-- The mark of a header begins with a blank and ends with none. -/
theorem headerMark_eq : headerMark = ' ' :: ("log file updated ".toList ++ ['@']) := by
  decide

/-- Trimming a header reaches only into the time. -/
theorem trim_header (bank stamp : String) :
    Text.trim (header bank stamp) =
      '#' :: ' ' :: (bank.toList ++ (headerMark ++ Text.trimEnd stamp.toList)) := by
  have hsplit : header bank stamp =
      ('#' :: ' ' :: (bank.toList ++ ' ' :: "log file updated ".toList)) ++
        '@' :: stamp.toList := by
    rw [header, headerMark_eq]
    simp only [List.cons_append, List.nil_append, List.append_assoc]
  -- the name is between two characters that no trimming removes
  rw [Text.trim, hsplit, List.cons_append, Text.trimStart_cons (by decide), ← List.cons_append,
    Text.trimEnd_append (by decide), headerMark_eq]
  simp only [List.cons_append, List.nil_append, List.append_assoc]

/-- A mark is found behind more than blanks. A name of blanks only would be
trimmed away, and the beginning of the mark with it. -/
theorem isHeader_append {name : List Char} (hname : ∃ c ∈ name, Text.isBlank c = false)
    (stamp : List Char) : isHeader ('#' :: (name ++ (headerMark ++ stamp))) = true := by
  obtain ⟨c, rest, hc, hstart⟩ := Text.trimStart_append hname (headerMark ++ stamp)
  have hne : ' ' ≠ c := by
    rintro rfl
    exact absurd hc (by decide)
  have hmark : headerMark ≠ [] := by rw [headerMark_eq]; exact List.cons_ne_nil _ _
  obtain ⟨before, hsome⟩ := Option.isSome_iff_exists.mp (isSome_before? hmark rest stamp)
  have hfound : before? headerMark (c :: (rest ++ (headerMark ++ stamp))) = some (c :: before) := by
    rw [headerMark_eq] at hsome ⊢
    rw [before?_cons_of_ne hne, hsome]
    rfl
  rw [isHeader, hstart, List.cons_append]
  simp only [hfound]
  rfl

/-- A header is recognized once there is more than blanks in the name. -/
theorem isHeader_trim_header {bank : String} (hname : ∃ c ∈ bank.toList, Text.isBlank c = false)
    (stamp : String) : isHeader (Text.trim (header bank stamp)) = true := by
  obtain ⟨c, hmem, hc⟩ := hname
  have hname : ∃ c ∈ ' ' :: bank.toList, Text.isBlank c = false :=
    ⟨c, List.mem_cons_of_mem ' ' hmem, hc⟩
  rw [trim_header]
  exact isHeader_append hname (Text.trimEnd stamp.toList)

/-- **A header is passed over**, whatever blanks there are in the name
and in the time. -/
theorem judge_header {bank : String} (hname : ∃ c ∈ bank.toList, Text.isBlank c = false)
    (stamp : String) : judge (Text.encode (header bank stamp)) = .skipped := by
  rw [judge, Text.decodeLossy_encode, judgeTrimmed, isHeader_trim_header hname, Bool.or_true]
  rfl

theorem judge_footer : judge (Text.encode footer) = .skipped := by
  rw [judge, Text.decodeLossy_encode]
  decide

/-! ## The line of an account -/

/-- Behind an id there are operations, numbers and spaces, and none of them
has this letter of the mark of a header. -/
theorem not_mem_spaced_tailOf (a : Account) : 'l' ∉ Text.spaced (tailOf a) := by
  intro h
  obtain ⟨w, hw, hmem⟩ := List.mem_flatMap.mp h
  rcases List.mem_cons.mp hmem with h | hmem
  · exact absurd h (by decide)
  rcases List.mem_append.mp hw with hw | hw
  · obtain ⟨t, _, hw⟩ := List.mem_flatMap.mp hw
    simp only [wordsOf, List.mem_cons, List.not_mem_nil, or_false] at hw
    rcases hw with rfl | rfl
    · rw [List.mem_singleton] at hmem
      revert hmem
      cases t.operation <;> decide
    · exact absurd (Text.isDigit_of_mem_natural hmem) (by decide)
  · rw [List.mem_singleton.mp hw] at hmem
    rcases Text.mem_integer hmem with h | h <;> exact absurd h (by decide)

theorem before?_bodyOf (a : Account) : before? headerMark (bodyOf a) = none := by
  have hspace : ' ' ∉ a.bankId.text.toList := by
    intro h
    have := a.bankId.isWord.notBlank _ h
    exact absurd this (by decide)
  rw [headerMark_eq, bodyOf, before?_append hspace, ← headerMark_eq,
    before?_eq_none (d := 'l') (by decide) (not_mem_spaced_tailOf a)]
  rfl

theorem exists_bodyOf_eq (a : Account) :
    ∃ c s, bodyOf a = c :: s ∧ Text.isBlank c = false ∧ c ≠ '#' := by
  obtain ⟨c, s, h, hc, hhash⟩ := a.bankId.exists_eq_cons
  exact ⟨c, s ++ Text.spaced (tailOf a), by rw [bodyOf, h, List.cons_append], hc, hhash⟩

/-- Trimming changes nothing of a line that ends with the body of an
account. -/
theorem trim_bodyOf (a : Account) (mark line : List Char) {c : Char} (hc : Text.isBlank c = false)
    (hline : mark ++ bodyOf a = c :: line) : Text.trim (c :: line) = c :: line := by
  have hword := Text.isWord_integer a.credits.toInt
  have hdigit := List.getLast?_eq_some_getLast hword.ne_nil
  have hlast : (c :: line).getLast? =
      some ((Text.integer a.credits.toInt).getLast hword.ne_nil) := by
    rw [← hline, bodyOf, tailOf, Text.spaced_append, Text.spaced_singleton]
    simp [List.getLast?_append, List.getLast?_cons, hdigit]
  exact Text.trim_eq_self hc (hword.notBlank _ (List.getLast_mem _)) hlast

/-- A line that does not begin with a `#` is no header, and all of it is
about an account. -/
theorem isHeader_of_ne {c : Char} (h : c ≠ '#') (s : List Char) : isHeader (c :: s) = false := by
  rw [isHeader.eq_def]
  split
  · next heq => exact absurd (List.cons.inj heq).1 h
  · rfl

theorem accountPart_of_ne {c : Char} (h : c ≠ '#') (s : List Char) :
    accountPart (c :: s) = c :: s := by
  rw [accountPart.eq_def]
  split
  · next heq => exact absurd (List.cons.inj heq).1 h
  · rfl

/-- A line that is not passed over is what its account part is read as. -/
theorem judgeTrimmed_cons {c : Char} {s : List Char}
    (hfooter : ['#', '#'].isPrefixOf (c :: s) = false) (hheader : isHeader (c :: s) = false)
    (hpart : accountPart (c :: s) ≠ []) :
    judgeTrimmed (c :: s) =
      match parseAccount (accountPart (c :: s)) with
      | .ok entry => .entry entry
      | .error reason => .malformed reason := by
  have hempty : (accountPart (c :: s)).isEmpty = false := by
    rw [Bool.eq_false_iff, ne_eq, List.isEmpty_iff]
    exact hpart
  unfold judgeTrimmed
  cases hparse : parseAccount (accountPart (c :: s)) <;> simp [hfooter, hheader, hempty, hparse]

theorem judgeTrimmed_eq_entry {c : Char} {s : List Char} {e : Entry}
    (hfooter : ['#', '#'].isPrefixOf (c :: s) = false) (hheader : isHeader (c :: s) = false)
    (hparse : parseAccount (accountPart (c :: s)) = .ok e) :
    judgeTrimmed (c :: s) = .entry e := by
  have hpart : accountPart (c :: s) ≠ [] := by
    intro h
    rw [h] at hparse
    cases hparse
  rw [judgeTrimmed_cons hfooter hheader hpart, hparse]

/-- What an entry is read from. -/
theorem of_judgeTrimmed {s : List Char} {e : Entry} (h : judgeTrimmed s = .entry e) :
    ['#', '#'].isPrefixOf s = false ∧ isHeader s = false ∧
      parseAccount (accountPart s) = .ok e := by
  rw [judgeTrimmed] at h
  split at h
  · cases h
  · next hskip =>
    simp only [Bool.or_eq_true, not_or, Bool.not_eq_true] at hskip
    refine ⟨hskip.1.2, hskip.2, ?_⟩
    simp only at h
    split at h
    · cases h
    · split at h
      · next heq => cases h; exact heq
      · cases h

/-- **The line of an account is an entry** with its id, its history and
its credits. -/
theorem judge_formatAccount {a : Account} (h : a.Filed) :
    judge (Text.encode (formatAccount a)) = .entry ⟨a.bankId, a.history, a.credits⟩ := by
  obtain ⟨c, s, hbody, hc, hhash⟩ := exists_bodyOf_eq a
  have hstart : Text.trimStart (bodyOf a) = bodyOf a := by
    rw [hbody, Text.trimStart_cons hc]
  rw [judge, Text.decodeLossy_encode, formatAccount_eq]
  split
  · -- an account without credits stands behind a `#` and a blank
    have hhidden : Text.trimStart (' ' :: bodyOf a) = bodyOf a := by
      rw [Text.trimStart_cons_blank Text.isBlank_space, hstart]
    have hheader : isHeader ('#' :: ' ' :: bodyOf a) = false := by
      rw [isHeader, hhidden, before?_bodyOf]
    have hpart : accountPart ('#' :: ' ' :: bodyOf a) = bodyOf a := by
      rw [accountPart, hhidden]
    rw [List.cons_append, List.cons_append, List.nil_append,
      trim_bodyOf a ['#', ' '] (' ' :: bodyOf a) (by decide) rfl]
    exact judgeTrimmed_eq_entry rfl hheader (by rw [hpart, parseAccount_bodyOf h])
  · -- any other begins with its id, and no id begins with a `#`
    have hheader : isHeader (c :: s) = false := isHeader_of_ne hhash s
    have hpart : accountPart (c :: s) = bodyOf a := by
      rw [accountPart_of_ne hhash, hbody]
    have hfooter : ['#', '#'].isPrefixOf (c :: s) = false := by
      simp [List.isPrefixOf, Ne.symm hhash]
    rw [List.nil_append, hbody, trim_bodyOf a [] s hc hbody]
    exact judgeTrimmed_eq_entry hfooter hheader (by rw [hpart, parseAccount_bodyOf h])

end CountingHouse.Ledger

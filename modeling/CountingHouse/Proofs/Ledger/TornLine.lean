/-
CountingHouse.Proofs.Ledger.TornLine — what a reader makes of a line that
is cut off.

A line may be cut off anywhere, within a character too, so what is read
of it is some of its characters and at most one broken one behind them
(`Text.IsTorn`). Whatever is left of a header or a footer, there is no account
in it: before its mark is whole a header holds no number, so it does not
end with credits. And an account that is found in what is left of an
account's line has the id of that account, because an id is whole once
there is a blank behind it.
-/
import CountingHouse.Proofs.Ledger.Document

namespace CountingHouse.Ledger

/-! ## Lines with an account -/

/-- The words of a line with an account: its id, and credits at the end. -/
def Describes (ws : List (List Char)) (e : Entry) : Prop :=
  ∃ rest last, ws = e.id.text.toList :: rest ∧ rest.getLast? = some last ∧
    Text.int64? last = some e.credits

/-- Behind a `#` the words of the line count. -/
theorem describes_of_hidden {s : List Char} {e : Entry}
    (h : judgeTrimmed (Text.trim ('#' :: s)) = .entry e) : Describes (Text.words s) e := by
  have hwords := words_of_parseAccount (of_judgeTrimmed h).2.2
  rw [Text.trim_cons (by decide), accountPart, Text.words_trimStart, Text.words_trimEnd] at hwords
  exact hwords

theorem describes_of_plain {c : Char} (hc : Text.isBlank c = false) (hhash : c ≠ '#')
    {s : List Char} {e : Entry} (h : judgeTrimmed (Text.trim (c :: s)) = .entry e) :
    Describes (Text.words (c :: s)) e := by
  have hpart : accountPart (Text.trim (c :: s)) = Text.trim (c :: s) := by
    rw [Text.trim_cons hc, accountPart_of_ne hhash]
  have hwords := words_of_parseAccount (of_judgeTrimmed h).2.2
  rw [hpart, Text.trim, Text.words_trimEnd, Text.words_trimStart] at hwords
  exact hwords

/-- A single word describes no account. -/
theorem not_describes_of_notBlank {s : List Char} (h : ∀ c ∈ s, Text.isBlank c = false)
    (e : Entry) : ¬ Describes (Text.words s) e := by
  rintro ⟨rest, last, hwords, hlast, _⟩
  rw [Text.words_of_notBlank h] at hwords
  split at hwords
  · cases hwords
  · rw [← (List.cons.inj hwords).2] at hlast
    cases hlast

section
variable {broken : List Char} (hbroken : broken = [] ∨ broken = [Text.replacement])
include hbroken

theorem isBlank_of_broken : ∀ c ∈ broken, Text.isBlank c = false := by
  rcases hbroken with rfl | rfl
  · exact nofun
  · exact (Text.isWord_of_all (by decide)).notBlank

theorem isBlank_of_append_broken {s : List Char} (h : ∀ c ∈ s, Text.isBlank c = false) :
    ∀ c ∈ s ++ broken, Text.isBlank c = false := by
  intro c hc
  rcases List.mem_append.mp hc with hc | hc
  · exact h c hc
  · exact isBlank_of_broken hbroken c hc

/-- There is no account in a broken character. -/
theorem judgeTrimmed_broken (e : Entry) : judgeTrimmed (Text.trim broken) ≠ .entry e := by
  rcases hbroken with rfl | rfl
  · exact nofun
  · intro h
    have hword : Text.IsWord [Text.replacement] := Text.isWord_of_all (by decide)
    exact not_describes_of_notBlank hword.notBlank e
      (describes_of_plain (by decide) (by decide) h)

/-- What is left of an account's line describes no other account. -/
theorem id_of_describes {a : Account} {whole : List Char} (hwhole : whole <+: bodyOf a) {e : Entry}
    (h : Describes (Text.words (whole ++ broken)) e) : e.id = a.bankId := by
  have hid := a.bankId.isWord
  rcases List.prefix_or_prefix_of_prefix hwhole (List.prefix_append _ _) with hcut | ⟨tail, rfl⟩
  · -- the id is cut off, or there is nothing behind it
    have hword : ∀ c ∈ whole, Text.isBlank c = false := fun c hc =>
      hid.notBlank c (hcut.subset hc)
    exact absurd h (not_describes_of_notBlank (isBlank_of_append_broken hbroken hword) e)
  · have htail : tail <+: Text.spaced (tailOf a) := (List.prefix_append_right_inj _).mp hwhole
    cases tail with
    | nil =>
      rw [List.append_nil] at h
      exact absurd h
        (not_describes_of_notBlank (isBlank_of_append_broken hbroken hid.notBlank) e)
    | cons c tail =>
      have hc : Text.isBlank c = true := by
        obtain ⟨more, hmore⟩ := htail
        exact Text.head?_spaced c (by rw [← hmore]; rfl)
      obtain ⟨rest, last, hwords, _, _⟩ := h
      rw [List.append_assoc, List.cons_append,
        Text.words_append hid (by simpa using hc)] at hwords
      exact BankId.eq_of_text_eq (String.toList_inj.mp (List.cons.inj hwords).1.symm)

/-- Before its mark is whole, a header has no number in it. -/
theorem not_describes_header {bank : List Char} (hbank : Text.IsWord bank) {part : List Char}
    (hpart : part <+: headerMark) (e : Entry) :
    ¬ Describes (Text.words (bank ++ part ++ broken)) e := by
  cases part with
  | nil =>
    rw [List.append_nil]
    exact not_describes_of_notBlank (isBlank_of_append_broken hbroken hbank.notBlank) e
  | cons c part =>
    have hc : Text.isBlank c = true := by
      rw [headerMark_eq, List.cons_prefix_cons] at hpart
      rw [hpart.1]
      exact Text.isBlank_space
    rintro ⟨rest, last, hwords, hlast, hcredits⟩
    rw [List.append_assoc, List.cons_append,
      Text.words_append hbank (by simpa using hc), Text.words_cons_blank hc] at hwords
    have hmem : last ∈ Text.words (part ++ broken) := by
      rw [(List.cons.inj hwords).2]
      exact List.mem_of_getLast? hlast
    -- the first character of the last word is a letter or the `@`, or broken
    obtain ⟨hword, hsubset⟩ := Text.mem_words hmem
    obtain ⟨d, word, rfl⟩ := List.exists_cons_of_ne_nil hword.ne_nil
    have hnumeral := Text.isNumeral_of_int64? hcredits d List.mem_cons_self
    have hmark : headerMark.any Text.isNumeral = false := by decide
    rcases List.mem_append.mp (hsubset List.mem_cons_self) with hd | hd
    · exact List.any_eq_false.mp hmark d (hpart.subset (List.mem_cons_of_mem c hd)) hnumeral
    · rcases hbroken with rfl | rfl
      · exact absurd hd List.not_mem_nil
      · rw [List.mem_singleton.mp hd] at hnumeral
        exact absurd hnumeral (by decide)

end

/-- **An account that is found in what is left of a line has the id of the
account whose line it was.** -/
theorem id_of_torn_account {a : Account} {torn : List Char}
    (htorn : Text.IsTorn (formatAccount a) torn) {e : Entry}
    (h : judgeTrimmed (Text.trim torn) = .entry e) : e.id = a.bankId := by
  obtain ⟨whole, broken, hwhole, hbroken, rfl⟩ := htorn
  rw [formatAccount_eq] at hwhole
  cases whole with
  | nil => exact absurd h (judgeTrimmed_broken hbroken e)
  | cons c whole =>
    split at hwhole
    · -- an account without credits stands behind a `#` and a blank
      rw [List.cons_append, List.cons_append, List.nil_append] at hwhole
      obtain ⟨rfl, hmore⟩ := List.cons_prefix_cons.mp hwhole
      have hdescribes : Describes (Text.words (whole ++ broken)) e := describes_of_hidden h
      cases whole with
      | nil =>
        exact absurd hdescribes (not_describes_of_notBlank (isBlank_of_broken hbroken) e)
      | cons d whole =>
        obtain ⟨rfl, hbody⟩ := List.cons_prefix_cons.mp hmore
        rw [List.cons_append, Text.words_cons_blank Text.isBlank_space] at hdescribes
        exact id_of_describes hbroken hbody hdescribes
    · obtain ⟨c', s, hbody, hc, hhash⟩ := exists_bodyOf_eq a
      have hfirst : c = c' := by
        rw [List.nil_append, hbody] at hwhole
        exact (List.cons_prefix_cons.mp hwhole).1
      subst hfirst
      exact id_of_describes hbroken hwhole (describes_of_plain hc hhash h)

/-- **What is left of a header is not an account.** -/
theorem judgeTrimmed_torn_header {bank stamp : String} (hbank : Text.IsWord bank.toList)
    {torn : List Char} (htorn : Text.IsTorn (header bank stamp) torn) (e : Entry) :
    judgeTrimmed (Text.trim torn) ≠ .entry e := by
  intro h
  obtain ⟨whole, broken, hwhole, hbroken, rfl⟩ := htorn
  cases whole with
  | nil => exact judgeTrimmed_broken hbroken e h
  | cons c whole =>
    rw [header, List.append_assoc, List.append_assoc, List.cons_append, List.cons_append,
      List.nil_append] at hwhole
    obtain ⟨rfl, hmore⟩ := List.cons_prefix_cons.mp hwhole
    have hdescribes : Describes (Text.words (whole ++ broken)) e := describes_of_hidden h
    cases whole with
    | nil => exact not_describes_of_notBlank (isBlank_of_broken hbroken) e hdescribes
    | cons d whole =>
      obtain ⟨rfl, hnamed⟩ := List.cons_prefix_cons.mp hmore
      rw [List.cons_append, Text.words_cons_blank Text.isBlank_space] at hdescribes
      rcases List.prefix_or_prefix_of_prefix hnamed (List.prefix_append _ _) with
        hcut | ⟨part, rfl⟩
      · -- the name is cut off
        have hword : ∀ c ∈ whole, Text.isBlank c = false := fun c hc =>
          hbank.notBlank c (hcut.subset hc)
        exact not_describes_of_notBlank (isBlank_of_append_broken hbroken hword) e hdescribes
      · have hpart := (List.prefix_append_right_inj _).mp hnamed
        rcases List.prefix_or_prefix_of_prefix hpart (List.prefix_append _ _) with
          hcut | ⟨time, rfl⟩
        · exact not_describes_header hbroken hbank hcut e hdescribes
        · -- the mark is whole, and what is behind it may be any time
          have hheader : '#' :: ' ' :: (bank.toList ++ (headerMark ++ time)) ++ broken =
              header bank (String.ofList (time ++ broken)) := by
            simp [header]
          obtain ⟨first, hfirst⟩ := List.exists_mem_of_ne_nil _ hbank.ne_nil
          have hknown := isHeader_trim_header ⟨first, hfirst, hbank.notBlank first hfirst⟩
            (String.ofList (time ++ broken))
          rw [← hheader, (of_judgeTrimmed h).2.1] at hknown
          contradiction

/-- **What is left of a footer is not an account.** -/
theorem judgeTrimmed_torn_footer {torn : List Char} (htorn : Text.IsTorn footer torn) (e : Entry) :
    judgeTrimmed (Text.trim torn) ≠ .entry e := by
  intro h
  obtain ⟨whole, broken, hwhole, hbroken, rfl⟩ := htorn
  cases whole with
  | nil => exact judgeTrimmed_broken hbroken e h
  | cons c whole =>
    have hfooter : footer = '#' :: '#' :: " end of log.".toList := by decide
    rw [hfooter] at hwhole
    obtain ⟨rfl, hmore⟩ := List.cons_prefix_cons.mp hwhole
    cases whole with
    | nil =>
      exact not_describes_of_notBlank (isBlank_of_broken hbroken) e (describes_of_hidden h)
    | cons d whole =>
      obtain ⟨rfl, _⟩ := List.cons_prefix_cons.mp hmore
      have htrim : Text.trim ('#' :: '#' :: whole ++ broken) =
          '#' :: '#' :: Text.trimEnd (whole ++ broken) := by
        rw [Text.trim, List.cons_append, Text.trimStart_cons (by decide)]
        exact Text.trimEnd_append (by decide) ['#'] (whole ++ broken)
      have hmarked := (of_judgeTrimmed h).1
      rw [htrim] at hmarked
      cases hmarked

end CountingHouse.Ledger

/-
CountingHouse.Proofs.Ledger.Fates — what becomes of each line of a file.

A line is passed over, or it adds an account, or it is reported with its
number (`LineFate`). Which of these it is depends on the text of the line
and on the ids that earlier lines have taken, and on nothing else
(`LineFate.Befits`), so for any bytes there is exactly one list of fates
(`befall_iff`). The table and the reports are what the fates make up
(`takeLines_fates`).

Two things follow from that. A line that adds no account takes no id, so
without it the fates of the other lines are what they were
(`fatesOf_eraseIdx`). And lines that are read behind others add what they
add to an empty table, less the accounts whose ids are taken: one line
keeps it so (`Extends.takeLine`), hence all of them.
-/
import CountingHouse.Proofs.Ledger.RoundTrip
import Mathlib.Data.List.TakeWhile

namespace CountingHouse

/-! ## Tables that go on -/

namespace Table

/-- The table with those accounts behind its own whose ids it does not
have. -/
def extendedBy (t : Table) (accounts : List Account) : Table :=
  (accounts.filter (·.bankId ∉ t.ids)).foldl add t

theorem toList_foldl_add (t : Table) (accounts : List Account) :
    (accounts.foldl add t).toList = t.toList ++ accounts := by
  induction accounts generalizing t with
  | nil => simp
  | cons a accounts ih => simp [ih]

theorem WellFormed.foldl_add {t : Table} (h : t.WellFormed) {accounts : List Account}
    (hdistinct : (t.ids ++ accounts.map Account.bankId).Nodup) :
    (accounts.foldl Table.add t).WellFormed := by
  induction accounts generalizing t with
  | nil => exact h
  | cons a accounts ih =>
    have hsplit : t.ids ++ (a :: accounts).map Account.bankId =
        (t.add a).ids ++ accounts.map Account.bankId := by simp [ids_add]
    rw [hsplit] at hdistinct
    have hnew : a.bankId ∉ t.ids := by
      have hids := (List.nodup_append.mp hdistinct).1
      rw [ids_add, List.nodup_append] at hids
      intro hmem
      exact hids.2.2 _ hmem _ List.mem_cons_self rfl
    exact ih (h.add (h.find?_eq_none_iff.mpr hnew)) hdistinct

/-- A table that has further accounts is the table with these accounts. -/
theorem WellFormed.eq_foldl_add {t u : Table} (ht : t.WellFormed) (hu : u.WellFormed)
    {accounts : List Account} (h : u.toList = t.toList ++ accounts) :
    u = accounts.foldl Table.add t := by
  have hids : u.ids = t.ids ++ accounts.map Account.bankId := by simp [ids, h]
  have hfold := ht.foldl_add (hids ▸ hu.distinct)
  exact hu.ext hfold (by rw [h, toList_foldl_add])

end Table

namespace Ledger

/-! ## Lines that are passed over -/

/-- The text of a line, without the blanks at its ends. -/
def textOf (line : List UInt8) : List Char :=
  Text.trim (Text.decodeLossy line)

theorem judge_eq (line : List UInt8) : judge line = judgeTrimmed (textOf line) := rfl

/-- The form of a header: a `#`, a name that is more than blanks, the mark
and anything behind it. -/
def HasHeaderForm (text : List Char) : Prop :=
  ∃ name stamp, text = '#' :: (name ++ (headerMark ++ stamp)) ∧
    ∃ c ∈ name, Text.isBlank c = false

/-- The texts that are not about an account. -/
def IsIdle (text : List Char) : Prop :=
  text = [] ∨ ['#', '#'] <+: text ∨ HasHeaderForm text ∨ text = ['#']

theorem isHeader_iff {text : List Char} : isHeader text = true ↔ HasHeaderForm text := by
  constructor
  · intro h
    rw [isHeader.eq_def] at h
    split at h
    · next rest =>
      cases hfound : before? headerMark (Text.trimStart rest) with
      | none => simp [hfound] at h
      | some name =>
        simp only [hfound, Bool.not_eq_true', List.isEmpty_eq_false_iff] at h
        obtain ⟨c, name, rfl⟩ := List.exists_cons_of_ne_nil h
        obtain ⟨stamp, hstamp⟩ := eq_append_of_before? hfound
        have hc : Text.isBlank c = false := by
          apply Text.isBlank_of_head?_trimStart (s := rest)
          rw [hstamp]
          rfl
        -- the blanks before the name count as a part of it
        refine ⟨rest.takeWhile Text.isBlank ++ c :: name, stamp, ?_, c, by simp, hc⟩
        have hrest : rest.takeWhile Text.isBlank ++ Text.trimStart rest = rest :=
          List.takeWhile_append_dropWhile
        rw [List.append_assoc, ← hstamp, hrest]
    · cases h
  · rintro ⟨name, stamp, rfl, hname⟩
    exact isHeader_append hname stamp

/-- Trimming has left no blank at the end, so there is nothing behind a `#`
only where the `#` is all there is. -/
theorem accountPart_eq_nil_iff {line : List UInt8} (hne : textOf line ≠ []) :
    accountPart (textOf line) = [] ↔ textOf line = ['#'] := by
  constructor
  · intro h
    rw [accountPart.eq_def] at h
    split at h
    · next rest htext =>
      have hblank : ∀ c ∈ rest, Text.isBlank c = true := List.dropWhile_eq_nil_iff.mp h
      rw [htext]
      cases hlast : rest.getLast? with
      | none => rw [List.getLast?_eq_none_iff.mp hlast]
      | some c =>
        have hend : (textOf line).getLast? = some c := by
          rw [htext, List.getLast?_cons, hlast]
          rfl
        have hc := hblank c (List.mem_of_getLast? hlast)
        rw [Text.isBlank_of_getLast?_trim hend] at hc
        cases hc
    · exact absurd h hne
  · intro h
    rw [h]
    rfl

theorem skips_iff (text : List Char) :
    (text.isEmpty || ['#', '#'].isPrefixOf text || isHeader text) = true ↔
      text = [] ∨ ['#', '#'] <+: text ∨ HasHeaderForm text := by
  simp only [Bool.or_eq_true, List.isEmpty_iff, List.isPrefixOf_iff_prefix, isHeader_iff, or_assoc]

/-- These lines are passed over. -/
theorem judge_of_isIdle {line : List UInt8} (h : IsIdle (textOf line)) :
    judge line = .skipped := by
  rw [judge_eq, judgeTrimmed]
  split
  · rfl
  · next hskip =>
    have hlone : textOf line = ['#'] := by
      simp only [skips_iff, not_or] at hskip
      simpa [IsIdle, hskip] using h
    simp [hlone, accountPart, Text.trimStart]

/-- Any other line is what its account part is read as. -/
theorem judge_of_not_isIdle {line : List UInt8} (h : ¬ IsIdle (textOf line)) :
    judge line =
      match parseAccount (accountPart (textOf line)) with
      | .ok entry => .entry entry
      | .error reason => .malformed reason := by
  simp only [IsIdle, not_or] at h
  obtain ⟨hne, hfooter, hheader, hlone⟩ := h
  obtain ⟨c, s, htext⟩ := List.exists_cons_of_ne_nil hne
  have hpart : accountPart (textOf line) ≠ [] := mt (accountPart_eq_nil_iff hne).mp hlone
  rw [htext] at hfooter hheader hpart
  rw [judge_eq, htext]
  refine judgeTrimmed_cons ?_ ?_ hpart
  · rwa [Bool.eq_false_iff, ne_eq, List.isPrefixOf_iff_prefix]
  · rwa [Bool.eq_false_iff, ne_eq, isHeader_iff]

/-! ## Fates -/

/-- What becomes of a line. -/
inductive LineFate where
  /-- The line is not about an account. -/
  | passedOver
  /-- The line adds the account it describes. -/
  | added (entry : Entry)
  /-- The line should describe an account and does not. -/
  | malformed (reason : Malformed)
  /-- The line describes an account whose id is taken. -/
  | duplicate (entry : Entry)
  deriving DecidableEq, Repr

namespace LineFate

/-- When a line with this text has the fate, where these ids are taken. -/
def Befits (taken : List BankId) (text : List Char) : LineFate → Prop
  | .passedOver => IsIdle text
  | .added entry =>
    ¬ IsIdle text ∧ parseAccount (accountPart text) = .ok entry ∧ entry.id ∉ taken
  | .malformed reason => ¬ IsIdle text ∧ parseAccount (accountPart text) = .error reason
  | .duplicate entry =>
    ¬ IsIdle text ∧ parseAccount (accountPart text) = .ok entry ∧ entry.id ∈ taken

/-- The account that the line adds, if it adds one. -/
@[simp] def account? : LineFate → Option Account
  | .added entry => some entry.account
  | .passedOver | .malformed _ | .duplicate _ => none

/-- The ids that are taken behind the line. -/
def takenBehind (taken : List BankId) (fate : LineFate) : List BankId :=
  taken ++ fate.account?.toList.map Account.bankId

/-- What is said of the entry on the line by itself. -/
@[simp] def remarks : LineFate → List Notice
  | .added entry | .duplicate entry => entry.notices
  | .passedOver | .malformed _ => []

/-- The warnings about the line with a number. -/
@[simp] def warnings (number : Nat) : LineFate → List Notice
  | .passedOver | .added _ => []
  | .malformed reason => [.malformed number reason]
  | .duplicate entry => [.duplicate number entry.id]

/-- Everything that is reported of the line with a number. -/
def notices (number : Nat) (fate : LineFate) : List Notice :=
  fate.remarks ++ fate.warnings number

end LineFate

/-- The fates of lines, one for each, where these ids are taken before. -/
inductive Befall : List BankId → List (List UInt8) → List LineFate → Prop where
  | nil (taken : List BankId) : Befall taken [] []
  | cons {taken : List BankId} {line : List UInt8} {lines : List (List UInt8)} {fate : LineFate}
      {fates : List LineFate} (hline : fate.Befits taken (textOf line))
      (hlines : Befall (fate.takenBehind taken) lines fates) :
      Befall taken (line :: lines) (fate :: fates)

/-! ## There is one fate for each line -/

/-- The fate of a line. -/
def fateOf (taken : List BankId) (line : List UInt8) : LineFate :=
  match judge line with
  | .skipped => .passedOver
  | .malformed reason => .malformed reason
  | .entry entry => if entry.id ∈ taken then .duplicate entry else .added entry

/-- The fates of lines. -/
def fatesOf (taken : List BankId) : List (List UInt8) → List LineFate
  | [] => []
  | line :: lines =>
    fateOf taken line :: fatesOf ((fateOf taken line).takenBehind taken) lines

theorem befits_fateOf (taken : List BankId) (line : List UInt8) :
    (fateOf taken line).Befits taken (textOf line) := by
  by_cases hidle : IsIdle (textOf line)
  · simp [fateOf, judge_of_isIdle hidle, LineFate.Befits, hidle]
  · cases hparse : parseAccount (accountPart (textOf line)) with
    | error reason =>
      simp [fateOf, judge_of_not_isIdle hidle, hparse, LineFate.Befits, hidle]
    | ok entry =>
      by_cases htaken : entry.id ∈ taken <;>
        simp [fateOf, judge_of_not_isIdle hidle, hparse, htaken, LineFate.Befits, hidle]

/-- No other fate befits a line. -/
theorem LineFate.Befits.eq {taken : List BankId} {line : List UInt8} {fate : LineFate}
    (h : fate.Befits taken (textOf line)) : fate = fateOf taken line := by
  cases fate with
  | passedOver => simp [fateOf, judge_of_isIdle h]
  | added entry =>
    obtain ⟨hidle, hparse, hfree⟩ := h
    simp [fateOf, judge_of_not_isIdle hidle, hparse, hfree]
  | malformed reason =>
    obtain ⟨hidle, hparse⟩ := h
    simp [fateOf, judge_of_not_isIdle hidle, hparse]
  | duplicate entry =>
    obtain ⟨hidle, hparse, htaken⟩ := h
    simp [fateOf, judge_of_not_isIdle hidle, hparse, htaken]

/-- **Every line has exactly one fate.** -/
theorem befall_iff {taken : List BankId} {lines : List (List UInt8)} {fates : List LineFate} :
    Befall taken lines fates ↔ fates = fatesOf taken lines := by
  constructor
  · intro h
    induction h with
    | nil => rfl
    | cons hline _ ih => rw [fatesOf, ← hline.eq, ← ih]
  · rintro rfl
    induction lines generalizing taken with
    | nil => exact .nil taken
    | cons line lines ih => exact .cons (befits_fateOf taken line) ih

example :
    fatesOf [] (Text.lines (Text.encode "BankID_1 5\n#\r\nBankID_1 6\nBankID_2".toList)) =
      [.added ⟨⟨"BankID_1", by decide⟩, [], 5⟩, .passedOver,
        .duplicate ⟨⟨"BankID_1", by decide⟩, [], 6⟩,
        .malformed (.missingCredits ⟨"BankID_2", by decide⟩)] := by
  decide

/-- Without a line that adds no account, the other lines have the fates
that they have with it. -/
theorem fatesOf_eraseIdx {taken : List BankId} {lines : List (List UInt8)} {i : Nat}
    {fate : LineFate} (h : (fatesOf taken lines)[i]? = some fate) (hnone : fate.account? = none) :
    fatesOf taken (lines.eraseIdx i) = (fatesOf taken lines).eraseIdx i := by
  induction lines generalizing taken i with
  | nil => rfl
  | cons line lines ih =>
    cases i with
    | zero =>
      rw [fatesOf, List.getElem?_cons_zero, Option.some.injEq] at h
      have htaken : fate.takenBehind taken = taken := by
        rw [LineFate.takenBehind, hnone]
        exact List.append_nil taken
      rw [fatesOf, h, htaken]
      rfl
    | succ i =>
      rw [fatesOf, List.getElem?_cons_succ] at h
      simp [fatesOf, ih h]

/-! ## What the fates make up -/

/-- Is the notice a warning? What is said of an entry by itself is not. -/
def Notice.isWarning (n : Notice) : Bool :=
  n.record.level = .warn

theorem filter_notices (number : Nat) (fate : LineFate) :
    (fate.notices number).filter Notice.isWarning = fate.warnings number := by
  have hentry : ∀ entry : Entry, entry.notices.filter Notice.isWarning = [] := by
    intro entry
    rw [Entry.notices]
    split <;> rfl
  cases fate with
  | passedOver => rfl
  | added entry => simp [LineFate.notices, hentry]
  | malformed reason => rfl
  | duplicate entry =>
    simp [LineFate.notices, hentry, Notice.isWarning, Notice.record]

/-- What a line does to a table, and what is reported of it. -/
theorem takeLine_fate {t : Table} (ht : t.Sound) (number : Nat) (line : List UInt8) :
    (takeLine t number line).1.toList = t.toList ++ (fateOf t.ids line).account?.toList ∧
      (takeLine t number line).2 = (fateOf t.ids line).notices number := by
  rw [takeLine, fateOf]
  cases judge line with
  | skipped => simp [LineFate.notices]
  | malformed reason => simp [LineFate.notices]
  | entry e =>
    have hinsert := t.insertLoaded_cases e.account
    rw [e.bankId_account] at hinsert
    rcases hinsert with ⟨hfree, heq⟩ | ⟨⟨i, hi⟩, heq⟩
    · have hnew : e.id ∉ t.ids := ht.find?_eq_none_iff.mp hfree
      simp [heq, hnew, LineFate.notices]
    · have htaken : e.id ∈ t.ids := ht.mem_ids_of_find? hi
      simp [heq, htaken, LineFate.notices]

theorem ids_takeLine {t : Table} (ht : t.Sound) (number : Nat) (line : List UInt8) :
    (takeLine t number line).1.ids = (fateOf t.ids line).takenBehind t.ids := by
  simp [Table.ids, LineFate.takenBehind, (takeLine_fate ht number line).1]

/-- What lines do to a table, and what is reported of them. -/
theorem takeLines_fates {t : Table} (ht : t.Sound) (number : Nat) (lines : List (List UInt8)) :
    (takeLines t number lines).1.toList =
        t.toList ++ (fatesOf t.ids lines).filterMap LineFate.account? ∧
      (takeLines t number lines).2 =
        ((fatesOf t.ids lines).zipIdx number).flatMap fun p => p.1.notices p.2 := by
  induction lines generalizing t number with
  | nil => simp [takeLines, fatesOf]
  | cons line lines ih =>
    obtain ⟨hlist, hnotices⟩ := takeLine_fate ht number line
    obtain ⟨hlists, hmore⟩ := ih (sound_takeLine ht number line) (number + 1)
    rw [ids_takeLine ht] at hlists hmore
    constructor
    · rw [takeLines_cons, hlists, hlist, fatesOf, List.filterMap_cons, List.append_assoc]
      cases (fateOf t.ids line).account? <;> rfl
    · have hcons : (takeLines t number (line :: lines)).2 = (takeLine t number line).2 ++
          (takeLines (takeLine t number line).1 (number + 1) lines).2 := rfl
      rw [hcons, hnotices, hmore, fatesOf, List.zipIdx_cons, List.flatMap_cons]

/-- A line that adds no account can be left out. -/
theorem fst_takeLines_eraseIdx {t : Table} (ht : t.Sound) (number : Nat)
    {lines : List (List UInt8)} {i : Nat} {fate : LineFate}
    (h : (fatesOf t.ids lines)[i]? = some fate) (hnone : fate.account? = none) :
    (takeLines t number (lines.eraseIdx i)).1 = (takeLines t number lines).1 := by
  have hsound := fun lines => (sound_takeLines ht number lines).toWellFormed
  refine (hsound _).ext (hsound _) ?_
  have hsplit : (fatesOf t.ids lines).filterMap LineFate.account? =
      ((fatesOf t.ids lines).eraseIdx i).filterMap LineFate.account? := by
    obtain ⟨hi, hget⟩ := List.getElem?_eq_some_iff.mp h
    conv => lhs; rw [← List.take_append_drop i (fatesOf t.ids lines), List.drop_eq_getElem_cons hi]
    rw [List.eraseIdx_eq_take_drop_succ, List.filterMap_append, List.filterMap_append,
      List.filterMap_cons_none (by rw [hget]; exact hnone)]
  rw [(takeLines_fates ht number _).1, (takeLines_fates ht number _).1, fatesOf_eraseIdx h hnone,
    hsplit]

/-! ## Lines behind other lines -/

/-- The accounts of `t` are those of `s` and, behind them, those of `u`
whose ids `s` does not have. -/
def Extends (s u t : Table) : Prop :=
  t.toList = s.toList ++ u.toList.filter (·.bankId ∉ s.ids)

theorem Extends.refl (t : Table) : Extends t .empty t :=
  (List.append_nil _).symm

theorem Extends.mem_ids_iff {s u t : Table} (h : Extends s u t) {id : BankId} :
    id ∈ t.ids ↔ id ∈ s.ids ∨ id ∈ u.ids := by
  have hsplit : t.ids = s.ids ++ (u.toList.filter (·.bankId ∉ s.ids)).map Account.bankId := by
    rw [Table.ids, h, List.map_append]
    rfl
  rw [hsplit, List.mem_append]
  constructor
  · rintro (hid | hid)
    · exact .inl hid
    · obtain ⟨a, ha, rfl⟩ := List.mem_map.mp hid
      exact .inr (List.mem_map_of_mem (List.mem_filter.mp ha).1)
  · intro hid
    by_cases hs : id ∈ s.ids
    · exact .inl hs
    · right
      obtain ⟨a, ha, rfl⟩ := List.mem_map.mp (hid.resolve_left hs)
      exact List.mem_map_of_mem (List.mem_filter.mpr ⟨ha, by simpa using hs⟩)

/-- A line is read behind other lines as it is read without them. -/
theorem Extends.takeLine {s u t : Table} (h : Extends s u t) (hu : u.Sound) (ht : t.Sound)
    (m n : Nat) (line : List UInt8) :
    Extends s (takeLine u m line).1 (takeLine t n line).1 := by
  rw [Extends, (takeLine_fate hu m line).1, (takeLine_fate ht n line).1, h, List.filter_append,
    List.append_assoc, List.append_cancel_left_eq, List.append_cancel_left_eq, fateOf, fateOf]
  cases judge line with
  | skipped => rfl
  | malformed reason => rfl
  | entry e =>
    have hid : e.id ∈ t.ids ↔ e.id ∈ s.ids ∨ e.id ∈ u.ids := h.mem_ids_iff
    have haccount := e.bankId_account
    by_cases hs : e.id ∈ s.ids <;> by_cases hu : e.id ∈ u.ids <;>
      simp [hid, hs, hu, haccount]

theorem Extends.takeLines {s u t : Table} (h : Extends s u t) (hu : u.Sound) (ht : t.Sound)
    (m n : Nat) (lines : List (List UInt8)) :
    Extends s (takeLines u m lines).1 (takeLines t n lines).1 := by
  induction lines generalizing u t m n with
  | nil => exact h
  | cons line lines ih =>
    rw [takeLines_cons, takeLines_cons]
    exact ih (h.takeLine hu ht m n line) (sound_takeLine hu m line) (sound_takeLine ht n line) _ _

theorem takeLines_append (t : Table) (number : Nat) (lines more : List (List UInt8)) :
    (takeLines t number (lines ++ more)).1 =
      (takeLines (takeLines t number lines).1 (number + lines.length) more).1 := by
  induction lines generalizing t number with
  | nil => rfl
  | cons line lines ih =>
    rw [List.cons_append, takeLines_cons, takeLines_cons, ih, List.length_cons, Nat.add_assoc,
      Nat.add_comm 1]

/-- **What follows the end of a line is read as if it stood alone**, but
for the accounts whose ids are taken. -/
theorem readBytes_append {first : List UInt8} (h : Text.EndsLine first) (rest : List UInt8) :
    (readBytes (first ++ rest)).1 = (readBytes first).1.extendedBy (readBytes rest).1.toList := by
  have hfirst := sound_readBytes first
  have hextends : Extends (readBytes first).1 (readBytes rest).1 (readBytes (first ++ rest)).1 := by
    rw [readBytes, readBytes, readBytes, Text.lines_append h, takeLines_append]
    exact (Extends.refl _).takeLines .empty hfirst _ _ _
  exact hfirst.toWellFormed.eq_foldl_add (sound_readBytes _).toWellFormed hextends

/-- **The lines of a ledger are judged one by one, and none gets lost.**
What follows the end of a line adds to a table what it adds to an empty
one, less the accounts whose ids are taken. Every line has exactly one
fate: it is passed over without a word, or it adds one account at the end
of the table, or there is one warning about it, under its own number. And
without a line that adds no account the table is the same. -/
theorem read_line_by_line :
    (∀ first rest, Text.EndsLine first → ∃ t u notices more all,
      read (.ofBytes first) = .ok (t, notices) ∧
      read (.ofBytes rest) = .ok (u, more) ∧
      read (.ofBytes (first ++ rest)) = .ok (t.extendedBy u.toList, all)) ∧
    ∀ bytes, ∃ t notices fates,
      read (.ofBytes bytes) = .ok (t, notices) ∧
      (∀ fates', Befall [] (Text.lines bytes) fates' ↔ fates' = fates) ∧
      t.toList = fates.filterMap LineFate.account? ∧
      notices = (fates.zipIdx 1).flatMap (fun p => p.1.notices p.2) ∧
      notices.filter Notice.isWarning = (fates.zipIdx 1).flatMap (fun p => p.1.warnings p.2) ∧
      ∀ i fate, fates[i]? = some fate → fate.account? = none →
        ∃ fewer, read (.ofBytes (Text.withoutLine i bytes)) = .ok (t, fewer) := by
  constructor
  · intro first rest hfirst
    refine ⟨(readBytes first).1, (readBytes rest).1, (readBytes first).2, (readBytes rest).2,
      (readBytes (first ++ rest)).2, rfl, rfl, ?_⟩
    rw [← readBytes_append hfirst rest]
    rfl
  · intro bytes
    obtain ⟨hlist, hnotices⟩ := takeLines_fates .empty 1 (Text.lines bytes)
    refine ⟨(readBytes bytes).1, (readBytes bytes).2, fatesOf [] (Text.lines bytes), rfl,
      fun _ => befall_iff, hlist, hnotices, ?_, ?_⟩
    · simp only [readBytes, hnotices, List.filter_flatMap, filter_notices]
      rfl
    · intro i fate hfate hnone
      have htable : (readBytes (Text.withoutLine i bytes)).1 = (readBytes bytes).1 := by
        rw [readBytes, readBytes, Text.lines_withoutLine]
        exact fst_takeLines_eraseIdx .empty 1 hfate hnone
      refine ⟨(readBytes (Text.withoutLine i bytes)).2, ?_⟩
      rw [← htable]
      rfl

/-- An account stands on two lines. The second of them can be left out. -/
theorem read_line_by_line_two_lines :
    let first := Text.encode "BankID_1 5\n".toList
    let rest := Text.encode "#\r\nBankID_1 6\nBankID_2".toList
    Text.EndsLine first ∧
      (∃ t u notices more all,
        read (.ofBytes first) = .ok (t, notices) ∧
        read (.ofBytes rest) = .ok (u, more) ∧
        read (.ofBytes (first ++ rest)) = .ok (t.extendedBy u.toList, all)) ∧
      ∃ t notices fewer,
        read (.ofBytes (first ++ rest)) = .ok (t, notices) ∧
        read (.ofBytes (first ++ Text.encode "#\r\nBankID_2".toList)) = .ok (t, fewer) := by
  intro first rest
  have hfirst : Text.EndsLine first := by decide
  refine ⟨hfirst, read_line_by_line.1 first rest hfirst, ?_⟩
  obtain ⟨t, notices, fates, hread, hbefall, _, _, _, hwithout⟩ :=
    read_line_by_line.2 (first ++ rest)
  have hfates : fatesOf [] (Text.lines (first ++ rest)) = fates :=
    (hbefall _).mp (befall_iff.mpr rfl)
  have hduplicate : fates[2]? = some (.duplicate ⟨⟨"BankID_1", by decide⟩, [], 6⟩) := by
    rw [← hfates]
    decide
  obtain ⟨fewer, hfewer⟩ := hwithout 2 _ hduplicate rfl
  have hbytes : Text.withoutLine 2 (first ++ rest) =
      first ++ Text.encode "#\r\nBankID_2".toList := by decide
  exact ⟨t, notices, fewer, hread, hbytes ▸ hfewer⟩

end Ledger

end CountingHouse

/-
CountingHouse.Proofs.Ledger.Header — when the header of a ledger is taken
for an account.

The mark of a header begins with a blank, and a reader drops the blanks
behind the `#` before it looks for the mark. So the mark is found only
behind a name. The header of a bank whose name is empty or made of blanks,

    #  log file updated @14:05 March 02 2025

has the form of an account's line: an id, words that are passed over, and
the year in the place of the credits. `judge_header_of_blank` says that it
is read as such, and `readBytes_render_stamped` what a ledger is read as in
either case.
-/
import CountingHouse.Proofs.Clock
import CountingHouse.Proofs.Ledger.RoundTrip
import Mathlib.Data.List.Basic

namespace CountingHouse.Ledger

/-! ## A header without a name -/

/-- The first word of a header without a name. -/
def logId : BankId :=
  ⟨"log", by decide⟩

/-- The other words. -/
def titleWords (m : Moment) : List (List Char) :=
  ["file".toList, "updated".toList,
    '@' :: (Moment.padded 2 m.hour ++ ':' :: Moment.padded 2 m.minute),
    (Moment.monthName m.month).toList, Moment.padded 2 m.day, Moment.padded 4 m.year]

/-- The account part of a header without a name. -/
def title (m : Moment) : List Char :=
  logId.text.toList ++ Text.spaced (titleWords m)

theorem headerMark_append_stamp (m : Moment) : headerMark ++ m.stamp.toList = ' ' :: title m := by
  have hmark : headerMark =
      ' ' :: "log".toList ++ Text.spaced ["file".toList, "updated".toList] ++ [' ', '@'] := by
    decide
  rw [hmark]
  simp [title, logId, titleWords, Text.spaced, Moment.stamp]

theorem isWord_of_mem_titleWords {m : Moment} {w : List Char} (h : w ∈ titleWords m) :
    Text.IsWord w := by
  have hmonth : ∀ k, (!(Moment.monthName k).toList.isEmpty &&
      (Moment.monthName k).toList.all (!Text.isBlank ·)) = true := by decide
  simp only [titleWords, List.mem_cons, List.not_mem_nil, or_false] at h
  rcases h with rfl | rfl | rfl | rfl | rfl | rfl
  · exact Text.isWord_of_all (by decide)
  · exact Text.isWord_of_all (by decide)
  · refine ⟨List.cons_ne_nil _ _, fun c hc => ?_⟩
    simp only [List.mem_cons, List.mem_append] at hc
    rcases hc with rfl | hc | rfl | hc
    · decide
    · exact (Moment.isWord_padded _ _).notBlank c hc
    · decide
    · exact (Moment.isWord_padded _ _).notBlank c hc
  · exact Text.isWord_of_all (hmonth m.month)
  · exact Moment.isWord_padded _ _
  · exact Moment.isWord_padded _ _

theorem words_title (m : Moment) : Text.words (title m) = logId.text.toList :: titleWords m :=
  Text.words_joined logId.isWord fun _ hw => isWord_of_mem_titleWords hw

/-- No transaction is read from words of two or more characters. -/
theorem transactions_of_long {ws : List (List Char)} (h : ∀ w ∈ ws, 2 ≤ w.length) (id : BankId) :
    transactions id ws = .ok [] := by
  induction ws with
  | nil => rw [transactions]
  | cons w ws ih =>
    have hlong : 2 ≤ w.length := h w List.mem_cons_self
    have hzero : w ≠ ['0'] := by
      rintro rfl
      exact absurd hlong (by decide)
    have hletter : Operation.ofLedgerWord? w = none := by
      rw [Operation.ofLedgerWord?, List.find?_eq_none]
      intro o _ heq
      rw [← of_decide_eq_true heq, List.length_singleton] at hlong
      exact absurd hlong (by decide)
    rw [transactions, if_neg hzero]
    simp only [hletter]
    exact ih fun v hv => h v (List.mem_cons_of_mem w hv)

/-- What is left of a header without a name describes an account that has
as many credits as years have gone by, unless these are too many. -/
theorem parseAccount_title (m : Moment) :
    parseAccount (title m) =
      if m.year < 0x8000000000000000 then .ok ⟨logId, [], Int64.ofInt m.year⟩
      else .error (.badCredits logId (String.ofList (Moment.padded 4 m.year))) := by
  have hlast : (titleWords m).getLast? = some (Moment.padded 4 m.year) := rfl
  have hmonth : ∀ k, 2 ≤ (Moment.monthName k).toList.length := by decide
  have hlong : ∀ w ∈ (titleWords m).dropLast, 2 ≤ w.length := by
    have hinit : (titleWords m).dropLast = ["file".toList, "updated".toList,
        '@' :: (Moment.padded 2 m.hour ++ ':' :: Moment.padded 2 m.minute),
        (Moment.monthName m.month).toList, Moment.padded 2 m.day] := rfl
    intro w hw
    rw [hinit] at hw
    simp only [List.mem_cons, List.not_mem_nil, or_false] at hw
    rcases hw with rfl | rfl | rfl | rfl | rfl
    · decide
    · decide
    · simp only [List.length_cons, List.length_append]
      omega
    · exact hmonth m.month
    · exact Moment.le_length_padded 2 m.day
  rw [parseAccount, words_title, entryOfWords, String.ofList_toList]
  simp only [BankId.ofString_text, hlast, Moment.int64?_padded, transactions_of_long hlong]
  by_cases hyear : m.year < 0x8000000000000000
  · rw [if_pos hyear, if_pos hyear]
    rfl
  · rw [if_neg hyear, if_neg hyear]

/-- The mark is not found in what is left of a header. Both end with the
same character, which comes only once, and the mark is longer by its first
blank. -/
theorem before?_title (m : Moment) : before? headerMark (title m) = none := by
  have htitle : title m = "log file updated ".toList ++ '@' :: m.stamp.toList := by
    have h := congrArg List.tail (headerMark_append_stamp m)
    rw [headerMark_eq, List.tail_cons] at h
    simpa using h.symm
  cases hfind : before? headerMark (title m) with
  | none => rfl
  | some name =>
    obtain ⟨rest, hrest⟩ := eq_append_of_before? hfind
    have hsplit : "log file updated ".toList ++ '@' :: m.stamp.toList =
        (name ++ ' ' :: "log file updated ".toList) ++ '@' :: rest := by
      rw [← htitle, hrest, headerMark_eq]
      simp
    obtain ⟨hlog, _, _⟩ :=
      (List.append_cons_inj_of_notMem (by decide) m.at_not_mem_stamp).mp hsplit
    have hlength := congrArg List.length hlog
    simp only [List.length_append, List.length_cons] at hlength
    omega

/-! ## How it is judged -/

/-- **A header without a name is read as an account.** -/
theorem judge_header_of_blank {bank : String} (h : ∀ c ∈ bank.toList, Text.isBlank c = true)
    (m : Moment) :
    judge (Text.encode (header bank m.stamp)) =
      if m.year < 0x8000000000000000 then .entry ⟨logId, [], Int64.ofInt m.year⟩
      else .malformed (.badCredits logId (String.ofList (Moment.padded 4 m.year))) := by
  -- the first blank of the mark is trimmed away with the name
  have hstart : Text.trimStart (' ' :: (bank.toList ++ (headerMark ++ m.stamp.toList))) =
      title m := by
    rw [Text.trimStart_cons_blank Text.isBlank_space, Text.trimStart_blanks h,
      headerMark_append_stamp, Text.trimStart_cons_blank Text.isBlank_space]
    rfl
  have hheader :
      isHeader ('#' :: ' ' :: (bank.toList ++ (headerMark ++ m.stamp.toList))) = false := by
    rw [isHeader, hstart, before?_title]
  have hpart :
      accountPart ('#' :: ' ' :: (bank.toList ++ (headerMark ++ m.stamp.toList))) = title m := by
    rw [accountPart, hstart]
  have hne : title m ≠ [] := List.cons_ne_nil _ _
  rw [judge, Text.decodeLossy_encode, trim_header, m.trimEnd_stamp,
    judgeTrimmed_cons rfl hheader (by rw [hpart]; exact hne), hpart, parseAccount_title]
  by_cases hyear : m.year < 0x8000000000000000
  · simp only [if_pos hyear]
  · simp only [if_neg hyear]

/-- A ledger without a name is read back with one account more. -/
theorem toList_readBytes_render_of_blank {t : Table} (ht : t.Sound) {bank : String}
    (hbank : '\n' ∉ bank.toList) (hblank : ∀ c ∈ bank.toList, Text.isBlank c = true) {m : Moment}
    (hyear : m.year < 0x8000000000000000) :
    (readBytes (render t bank m.stamp)).1.toList =
      ⟨logId, Int64.ofInt m.year, [], 0⟩ :: t.reloaded.toList.filter (·.bankId ≠ logId) := by
  have hjudge := judge_header_of_blank hblank m
  rw [if_pos hyear] at hjudge
  have hfree : Table.empty.find? logId = none := rfl
  have hlist := toList_readBytes_render ht hbank m.newline_not_mem_stamp
    (Table.WellFormed.empty.add hfree) (takeLine_entry hjudge hfree 1)
  have hids : (Table.empty.add (Entry.mk logId [] (Int64.ofInt m.year)).account).ids =
      [logId] := rfl
  rw [hlist, hids, Table.toList_reloaded, List.filter_map]
  simp only [List.mem_singleton]
  rfl

/-- **A written header is passed over just when there is a name in it.** A
ledger that is read back has the accounts it was written from. Without a
name it has one account more, which is called `log` and has the year for
its credits; an account of that id that was written is lost. -/
theorem readBytes_render_stamped {t : Table} (ht : Reachable t) {bank : String}
    (hbank : '\n' ∉ bank.toList) (m : Moment) (hyear : m.year < 0x8000000000000000) :
    (judge (Text.encode (header bank m.stamp)) = .skipped ↔
        ∃ c ∈ bank.toList, Text.isBlank c = false) ∧
      (readBytes (render t bank m.stamp)).1.toList =
        if bank.toList.all Text.isBlank then
          ⟨logId, Int64.ofInt m.year, [], 0⟩ :: t.reloaded.toList.filter (·.bankId ≠ logId)
        else t.reloaded.toList := by
  cases hall : bank.toList.all Text.isBlank with
  | true =>
    have hblank : ∀ c ∈ bank.toList, Text.isBlank c = true := List.all_eq_true.mp hall
    refine ⟨?_, toList_readBytes_render_of_blank ht.sound hbank hblank hyear⟩
    rw [judge_header_of_blank hblank m, if_pos hyear]
    constructor
    · exact nofun
    · rintro ⟨c, hc, hname⟩
      rw [hblank c hc] at hname
      contradiction
  | false =>
    have hname : ∃ c ∈ bank.toList, Text.isBlank c = false := by
      simpa using List.all_eq_false.mp hall
    refine ⟨iff_of_true (judge_header hname m.stamp) hname, ?_⟩
    rw [readBytes_render ht.sound hname hbank m.newline_not_mem_stamp]
    rfl

/-- The name is two blanks, and one account with five credits is written. -/
theorem readBytes_render_stamped_two_blanks :
    let t := ((Table.empty.getOrCreate "N").2.apply 0 ⟨⟨"N", by decide⟩, .deposit, 5⟩).2
    let m : Moment := ⟨2025, 2, 2, 9, 30⟩
    ('\n' ∉ "  ".toList ∧ m.year < 0x8000000000000000) ∧
      (judge (Text.encode (header "  " m.stamp)) = .skipped ↔
        ∃ c ∈ "  ".toList, Text.isBlank c = false) ∧
      (readBytes (render t "  " m.stamp)).1.toList =
        if "  ".toList.all Text.isBlank then
          ⟨logId, Int64.ofInt m.year, [], 0⟩ :: t.reloaded.toList.filter (·.bankId ≠ logId)
        else t.reloaded.toList :=
  ⟨by decide, readBytes_render_stamped
    (.apply (.getOrCreate .empty "N") 0 ⟨⟨"N", by decide⟩, .deposit, 5⟩)
    (by decide) ⟨2025, 2, 2, 9, 30⟩ (by decide)⟩

/-- The ledger of a bank without a name and without accounts is read back
with an account that nobody has opened. -/
theorem readBytes_render_no_name :
    Reachable .empty ∧ (readBytes (render .empty "" "09:30 March 02 2025")).1.toList =
      [⟨⟨"log", by decide⟩, 2025, [], 0⟩] := by
  have hstamp : (⟨2025, 2, 2, 9, 30⟩ : Moment).stamp = "09:30 March 02 2025" := by decide
  have hline : '\n' ∉ "".toList := by decide
  have hblank : "".toList.all Text.isBlank = true := by decide
  have hyear : (⟨2025, 2, 2, 9, 30⟩ : Moment).year < 0x8000000000000000 := by decide
  refine ⟨.empty, ?_⟩
  rw [← hstamp,
    toList_readBytes_render_of_blank .empty hline (List.all_eq_true.mp hblank) hyear,
    Table.toList_reloaded]
  rfl

end CountingHouse.Ledger

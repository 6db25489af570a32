/-
CountingHouse.Proofs.Ledger.Line — the line of an account is read back
as that account.

A line is the id and then words with a space before each
(`formatAccount_eq`), so splitting finds exactly the words that were written.
The reader's exceptions do not come up: a letter is never the `0` that
ends the transactions, and an amount of 0 stands where no letter is
expected. What does not come back is the number of transactions that the
account no longer keeps: `Account.reloaded` counts only what is on the
line.
-/
import CountingHouse.Ledger.Line
import CountingHouse.Proofs.Account
import CountingHouse.Proofs.BankId
import CountingHouse.Proofs.Text.Numeral

namespace CountingHouse

/-- The account as the ledger remembers it: transactions that are no
longer kept are no longer counted. -/
def Account.reloaded (a : Account) : Account :=
  { a with count := a.history.length }

theorem Account.Filed.restored_eq {a : Account} (h : a.Filed) :
    Account.restored a.bankId a.history a.credits = a.reloaded := by
  have hbound := h.bounded
  rw [Account.restored_eq, Nat.sub_eq_zero_of_le hbound, List.drop_zero]
  rfl

namespace Ledger

/-! ## A line as words -/

/-- The words of a transaction. -/
def wordsOf (t : Transaction) : List (List Char) :=
  [[t.operation.letter], Text.natural t.amount.toNat]

/-- The words of an account's line that follow the id. -/
def tailOf (a : Account) : List (List Char) :=
  a.history.flatMap wordsOf ++ [Text.integer a.credits.toInt]

/-- The line of an account without the mark of an empty one. -/
def bodyOf (a : Account) : List Char :=
  a.bankId.text.toList ++ Text.spaced (tailOf a)

theorem formatTransaction_eq (t : Transaction) :
    formatTransaction t = Text.spaced (wordsOf t) := by
  simp [formatTransaction, wordsOf, Text.spaced]

theorem formatAccount_eq (a : Account) :
    formatAccount a = (if a.isDeleted then ['#', ' '] else []) ++ bodyOf a := by
  have hhistory : a.history.flatMap formatTransaction =
      Text.spaced (a.history.flatMap wordsOf) := by
    rw [Text.spaced, List.flatMap_assoc]
    exact congrArg (a.history.flatMap ·) (funext formatTransaction_eq)
  simp only [formatAccount, bodyOf, tailOf, hhistory, Text.spaced_append, Text.spaced_singleton,
    List.append_assoc]

theorem isWord_of_mem_wordsOf {t : Transaction} {w : List Char} (h : w ∈ wordsOf t) :
    Text.IsWord w := by
  simp only [wordsOf, List.mem_cons, List.not_mem_nil, or_false] at h
  rcases h with rfl | rfl
  · refine ⟨by simp, fun c hc => ?_⟩
    rw [List.mem_singleton.mp hc]
    cases t.operation <;> decide
  · exact Text.isWord_natural _

theorem isWord_of_mem_tailOf {a : Account} {w : List Char} (h : w ∈ tailOf a) :
    Text.IsWord w := by
  rcases List.mem_append.mp h with h | h
  · obtain ⟨t, _, hw⟩ := List.mem_flatMap.mp h
    exact isWord_of_mem_wordsOf hw
  · exact List.mem_singleton.mp h ▸ Text.isWord_integer _

theorem words_bodyOf (a : Account) :
    Text.words (bodyOf a) = a.bankId.text.toList :: tailOf a :=
  Text.words_joined a.bankId.isWord fun _ hw => isWord_of_mem_tailOf hw

/-! ## Reading it back -/

theorem ofLedgerWord?_letter (o : Operation) : Operation.ofLedgerWord? [o.letter] = some o := by
  cases o <;> decide

theorem letter_ne_zero (o : Operation) : [o.letter] ≠ ['0'] := by
  cases o <;> decide

/-- The transactions are read back one after another. -/
theorem transactions_flatMap {id : BankId} {ts : List Transaction}
    (h : ∀ t ∈ ts, t.bankId = id) : transactions id (ts.flatMap wordsOf) = .ok ts := by
  induction ts with
  | nil => rw [List.flatMap_nil, transactions]
  | cons t ts ih =>
    have ht : t.bankId = id := h t List.mem_cons_self
    have ih := ih fun u hu => h u (List.mem_cons_of_mem t hu)
    rw [List.flatMap_cons, wordsOf, List.cons_append, List.cons_append, List.nil_append,
      transactions, if_neg (letter_ne_zero _)]
    subst ht
    simp only [ofLedgerWord?_letter, Text.uint32?_natural, ih]
    rfl

/-- **The line of an account is read as that account.** -/
theorem parseAccount_bodyOf {a : Account} (h : a.Filed) :
    parseAccount (bodyOf a) = .ok ⟨a.bankId, a.history, a.credits⟩ := by
  have hlast : (tailOf a).getLast? = some (Text.integer a.credits.toInt) := by
    rw [tailOf, List.getLast?_append]
    rfl
  have hinit : (tailOf a).dropLast = a.history.flatMap wordsOf := by
    rw [tailOf, List.dropLast_concat]
  rw [parseAccount, words_bodyOf, entryOfWords, String.ofList_toList]
  simp only [BankId.ofString_text, hlast, Text.int64?_integer, hinit,
    transactions_flatMap h.own]
  rfl

/-! ## Whatever the line -/

theorem exists_of_map_eq_ok {ε α β : Type} {f : α → β} {x : Except ε α} {y : β}
    (h : x.map f = .ok y) : ∃ a, x = .ok a ∧ f a = y := by
  cases x with
  | error e => cases h
  | ok a => exact ⟨a, rfl, Except.ok.inj h⟩

/-- Transactions are read under the id they are read for. -/
theorem bankId_of_mem_transactions {id : BankId} {ws : List (List Char)}
    {ts : List Transaction} (h : transactions id ws = .ok ts) : ∀ t ∈ ts, t.bankId = id := by
  fun_induction transactions id ws generalizing ts with
  | case1 | case2 | case4 => cases h; simp
  | case3 _ _ _ _ ih => exact ih h
  | case5 => cases h
  | case6 _ _ _ _ _ _ _ _ ih =>
    obtain ⟨us, hus, rfl⟩ := exists_of_map_eq_ok h
    intro t ht
    rcases List.mem_cons.mp ht with rfl | ht
    · rfl
    · exact ih hus t ht

/-- The first word of a line with an account is the id, and the last of the
others is the credits. -/
theorem words_of_parseAccount {line : List Char} {e : Entry} (h : parseAccount line = .ok e) :
    ∃ ws last, Text.words line = e.id.text.toList :: ws ∧ ws.getLast? = some last ∧
      Text.int64? last = some e.credits := by
  rw [parseAccount] at h
  cases hwords : Text.words line with
  | nil =>
    rw [hwords] at h
    cases h
  | cons first rest =>
    rw [hwords, entryOfWords] at h
    split at h
    · cases h
    · next id hid =>
      have hfirst : id.text.toList = first := by
        rw [BankId.text_of_ofString hid, String.toList_ofList]
      split at h
      · cases h
      · next last hlast =>
        split at h
        · cases h
        · next credits hcredits =>
          obtain ⟨ts, _, rfl⟩ := exists_of_map_eq_ok h
          exact ⟨rest, last, by rw [hfirst], hlast, hcredits⟩

/-- Every account that a line describes files its history under its own
id. -/
theorem filed_of_parseAccount {line : List Char} {e : Entry} (h : parseAccount line = .ok e) :
    e.account.Filed := by
  have hown : ∀ t ∈ e.history, t.bankId = e.id := by
    rw [parseAccount, entryOfWords.eq_def] at h
    split at h
    · cases h
    · split at h
      · cases h
      · split at h
        · cases h
        · split at h
          · cases h
          · obtain ⟨ts, hts, rfl⟩ := exists_of_map_eq_ok h
            exact bankId_of_mem_transactions hts
  exact .restored hown e.credits

end Ledger

end CountingHouse

/-
CountingHouse.Proofs.BankId — what the rule for ids gives the readers
that depend on it.

For the ledger an id is a word that does not begin with `#`; for the
mailbox it is a text of at most nineteen bytes.
-/
import CountingHouse.BankId
import CountingHouse.Proofs.Text.Words

namespace CountingHouse.BankId

theorem usable_iff {text : String} :
    isUsableId text = true ↔
      text.toList ≠ [] ∧ Text.byteLength text ≤ maxIdBytes ∧ text.toList.head? ≠ some '#' ∧
        ∀ c ∈ text.toList, Text.isBlank c = false := by
  simp [isUsableId, and_assoc]

theorem isWord (id : BankId) : Text.IsWord id.text.toList :=
  have h := usable_iff.mp id.usable
  ⟨h.1, h.2.2.2⟩

theorem byteLength_le (id : BankId) : Text.byteLength id.text ≤ maxIdBytes :=
  (usable_iff.mp id.usable).2.1

/-- An id begins with a character that is neither a blank nor `#`. -/
theorem exists_eq_cons (id : BankId) :
    ∃ c s, id.text.toList = c :: s ∧ Text.isBlank c = false ∧ c ≠ '#' := by
  obtain ⟨c, s, h⟩ := List.exists_cons_of_ne_nil id.isWord.ne_nil
  have hhash := (usable_iff.mp id.usable).2.2.1
  refine ⟨c, s, h, id.isWord.notBlank c (h ▸ List.mem_cons_self), ?_⟩
  rintro rfl
  exact hhash (by rw [h, List.head?_cons])

/-- The text of an id names that id. -/
theorem ofString_text (id : BankId) : ofString id.text = .ok id := by
  rw [ofString, dif_pos id.usable]

theorem eq_of_text_eq {id id' : BankId} (h : id.text = id'.text) : id = id' := by
  cases id
  cases h
  rfl

theorem text_of_ofString {text : String} {id : BankId} (h : ofString text = .ok id) :
    id.text = text := by
  rw [ofString] at h
  split at h
  · rw [← Except.ok.inj h]
  · cases h

end CountingHouse.BankId

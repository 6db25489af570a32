/-
CountingHouse.Proofs.Clock — what a time looks like when it is written.

A time is made of digits, letters, colons and single spaces (`mem_stamp`), so it
breaks no line and has nothing of the mark of a header. Its numbers are
padded with zeros, which a reader of numbers does not mind.
-/
import CountingHouse.Clock
import CountingHouse.Proofs.Text.Numeral

namespace CountingHouse.Moment

/-! ## Numbers with leading zeros -/

theorem isDigit_of_mem_padded {width n : Nat} {c : Char} (h : c ∈ padded width n) :
    c.isDigit = true := by
  rw [padded] at h
  rcases List.mem_append.mp h with h | h
  · rw [(List.mem_replicate.mp h).2]
    decide
  · exact Text.isDigit_of_mem_natural h

theorem padded_ne_nil (width n : Nat) : padded width n ≠ [] := by
  rw [padded]
  exact List.append_ne_nil_of_right_ne_nil _ (Text.natural_ne_nil n)

theorem isWord_padded (width n : Nat) : Text.IsWord (padded width n) :=
  ⟨padded_ne_nil width n, fun _ hc => Text.isBlank_of_isDigit (isDigit_of_mem_padded hc)⟩

theorem le_length_padded (width n : Nat) : width ≤ (padded width n).length := by
  simp only [padded, List.length_append, List.length_replicate]
  omega

/-- Leading zeros do not change a number. -/
theorem digits?_padded (width n : Nat) : Text.digits? (padded width n) = some n := by
  have hall : (padded width n).all Char.isDigit = true :=
    List.all_eq_true.mpr fun _ hc => isDigit_of_mem_padded hc
  rw [Text.digits?, if_pos ⟨padded_ne_nil width n, hall⟩, padded, Nat.ofDigitChars_append,
    Nat.ofDigitChars_replicate_zero, Nat.mul_zero]
  exact congrArg some Nat.ofDigitChars_ten_toDigits

/-- As credits such a number is refused only for its size. -/
theorem int64?_padded (width n : Nat) :
    Text.int64? (padded width n) =
      if n < 0x8000000000000000 then some (Int64.ofInt n) else none := by
  obtain ⟨c, s, hcons⟩ := List.exists_cons_of_ne_nil (padded_ne_nil width n)
  have hdigit : c.isDigit = true := isDigit_of_mem_padded (hcons ▸ List.mem_cons_self)
  have hread := digits?_padded width n
  rw [hcons] at hread ⊢
  rw [Text.int64?, Text.integer?.eq_def]
  split
  · next heq =>
    obtain ⟨rfl, _⟩ := List.cons.inj heq
    exact absurd hdigit (by decide)
  · next heq =>
    obtain ⟨rfl, _⟩ := List.cons.inj heq
    exact absurd hdigit (by decide)
  · rw [hread]
    show (Option.filter (· ≤ 0x7FFFFFFFFFFFFFFF) (some (n : Int))).map Int64.ofInt = _
    have hmax : (n : Int) ≤ 0x7FFFFFFFFFFFFFFF ↔ n < 0x8000000000000000 := by omega
    simp only [Option.filter_some, decide_eq_true_eq, hmax]
    split <;> rfl

/-! ## The time as a text -/

theorem mem_stamp {m : Moment} {c : Char} (h : c ∈ m.stamp.toList) :
    c.isAlphanum = true ∨ c = ':' ∨ c = ' ' := by
  have hdigit : ∀ {width n}, c ∈ padded width n → c.isAlphanum = true := by
    intro width n hmem
    rw [Char.isAlphanum, isDigit_of_mem_padded hmem, Bool.or_true]
  have hmonth : ∀ k, (monthName k).toList.all Char.isAlphanum = true := by decide
  simp only [stamp, String.toList_ofList, List.mem_append, List.mem_cons] at h
  rcases h with (((h | rfl | h) | rfl | h) | rfl | h) | rfl | h
  · exact .inl (hdigit h)
  · exact .inr (.inl rfl)
  · exact .inl (hdigit h)
  · exact .inr (.inr rfl)
  · exact .inl (List.all_eq_true.mp (hmonth _) c h)
  · exact .inr (.inr rfl)
  · exact .inl (hdigit h)
  · exact .inr (.inr rfl)
  · exact .inl (hdigit h)

/-- A time ends with the year. -/
theorem trimEnd_stamp (m : Moment) : Text.trimEnd m.stamp.toList = m.stamp.toList := by
  rw [stamp, String.toList_ofList, List.append_cons]
  exact Text.trimEnd_append_word (isWord_padded 4 m.year) _

theorem newline_not_mem_stamp (m : Moment) : '\n' ∉ m.stamp.toList := by
  intro h
  rcases mem_stamp h with h | h | h <;> exact absurd h (by decide)

theorem at_not_mem_stamp (m : Moment) : '@' ∉ m.stamp.toList := by
  intro h
  rcases mem_stamp h with h | h | h <;> exact absurd h (by decide)

end CountingHouse.Moment

/-
CountingHouse.Proofs.Text.Numeral — numbers that are written are read
back.

`uint32?_natural` and `int64?_integer` are the two round trips the
ledger needs: amounts of transactions and credits, negative ones
included. A numeral is written with digits and at most one minus sign,
so it is a word of a line.

Readers accept more than is written, leading zeros and plus signs for
example. `Numeral` and `SignedNumeral` are the texts they accept, each
with its value (`uint32?_eq_some_iff`, `int64?_eq_some_iff`).
-/
import CountingHouse.Proofs.Text.Words
import CountingHouse.Text.Numeral

namespace CountingHouse.Text

/-! ## The characters of a numeral -/

theorem isDigit_of_mem_natural {n : Nat} {c : Char} (h : c ∈ natural n) : c.isDigit = true :=
  Nat.isDigit_of_mem_toDigits (by decide) (by decide) h

theorem natural_ne_nil (n : Nat) : natural n ≠ [] :=
  Nat.toDigits_ne_nil

theorem isBlank_of_isDigit {c : Char} (h : c.isDigit = true) : isBlank c = false := by
  simp only [Char.isDigit, Bool.and_eq_true, decide_eq_true_eq, ge_iff_le,
    UInt32.le_iff_toNat_le] at h
  have hlow : 48 ≤ c.toNat := h.1
  have hhigh : c.toNat ≤ 57 := h.2
  simp only [isBlank, blankRanges, List.any_cons, List.any_nil, Bool.or_false]
  grind

/-- The characters of a numeral with a sign. -/
theorem mem_integer {n : Int} {c : Char} (h : c ∈ integer n) : c = '-' ∨ c.isDigit = true := by
  cases n with
  | ofNat n => exact .inr (isDigit_of_mem_natural h)
  | negSucc n =>
    rcases List.mem_cons.mp h with rfl | h
    · exact .inl rfl
    · exact .inr (isDigit_of_mem_natural h)

theorem isWord_natural (n : Nat) : IsWord (natural n) :=
  ⟨natural_ne_nil n, fun _ hc => isBlank_of_isDigit (isDigit_of_mem_natural hc)⟩

theorem isWord_integer (n : Int) : IsWord (integer n) := by
  refine ⟨?_, ?_⟩
  · cases n with
    | ofNat n => exact natural_ne_nil n
    | negSucc n => exact List.cons_ne_nil _ _
  · intro c hc
    rcases mem_integer hc with rfl | hc
    · decide
    · exact isBlank_of_isDigit hc

/-! ## Reading back -/

theorem digits?_natural (n : Nat) : digits? (natural n) = some n := by
  have hall : (natural n).all Char.isDigit = true :=
    List.all_eq_true.mpr fun _ hc => isDigit_of_mem_natural hc
  rw [digits?, if_pos ⟨natural_ne_nil n, hall⟩]
  exact congrArg some Nat.ofDigitChars_ten_toDigits

/-- A numeral without a sign begins with a digit. -/
theorem exists_natural_eq_cons (n : Nat) :
    ∃ c s, natural n = c :: s ∧ c ≠ '+' ∧ c ≠ '-' := by
  obtain ⟨c, s, h⟩ := List.exists_cons_of_ne_nil (natural_ne_nil n)
  have hc : c.isDigit = true := isDigit_of_mem_natural (h ▸ List.mem_cons_self)
  refine ⟨c, s, h, ?_, ?_⟩ <;> rintro rfl <;> exact absurd hc (by decide)

theorem natural?_natural {n max : Nat} (h : n ≤ max) : natural? max (natural n) = some n := by
  obtain ⟨c, s, hcons, hplus, _⟩ := exists_natural_eq_cons n
  have hhead : (natural n).head? ≠ some '+' := by
    rw [hcons, List.head?_cons]
    exact fun heq => hplus (Option.some.inj heq)
  rw [natural?, if_neg hhead, digits?_natural]
  simp [h]

theorem integer?_integer {n min max : Int} (hmin : min ≤ n) (hmax : n ≤ max) :
    integer? min max (integer n) = some n := by
  cases n with
  | ofNat n =>
    obtain ⟨c, s, hcons, hplus, hminus⟩ := exists_natural_eq_cons n
    have hread := digits?_natural n
    rw [integer, hcons] at *
    rw [integer?.eq_def]
    split
    · next heq => exact absurd (List.cons.inj heq).1 hminus
    · next heq => exact absurd (List.cons.inj heq).1 hplus
    · rw [hread]
      simpa using hmax
  | negSucc n =>
    rw [integer, integer?.eq_def]
    simp only [digits?_natural]
    show Option.filter (min ≤ ·) (some (Int.negSucc n)) = some (Int.negSucc n)
    simp [hmin]

/-- Amounts are read back. -/
theorem uint32?_natural (n : UInt32) : uint32? (natural n.toNat) = some n := by
  have hn : n.toNat ≤ 0xFFFFFFFF := by have := n.toNat_lt; omega
  rw [uint32?, natural?_natural hn, Option.map_some, UInt32.ofNat_toNat]

/-- Credits are read back. -/
theorem int64?_integer (n : Int64) : int64? (integer n.toInt) = some n := by
  have hmin : -0x8000000000000000 ≤ n.toInt := n.le_toInt
  have hmax : n.toInt ≤ 0x7FFFFFFFFFFFFFFF := by have := n.toInt_lt; omega
  rw [int64?, integer?_integer hmin hmax, Option.map_some, Int64.ofInt_toInt]

/-- Can the character be part of a number? -/
def isNumeral (c : Char) : Bool :=
  c.isDigit || c = '-' || c = '+'

theorem isNumeral_of_isDigit {c : Char} (h : c.isDigit = true) : isNumeral c = true := by
  rw [isNumeral, h]
  rfl

theorem isNumeral_of_digits? {s : List Char} (h : digits? s ≠ none) :
    ∀ c ∈ s, isNumeral c = true := by
  intro c hc
  rw [digits?] at h
  split at h
  · next hall => exact isNumeral_of_isDigit (List.all_eq_true.mp hall.2 c hc)
  · exact absurd rfl h

/-- What is read as credits is made of digits and signs. -/
theorem isNumeral_of_int64? {s : List Char} {n : Int64} (h : int64? s = some n) :
    ∀ c ∈ s, isNumeral c = true := by
  have hsign : ∀ {d : Char} {r : List Char}, isNumeral d = true →
      (∀ c ∈ r, isNumeral c = true) → ∀ c ∈ d :: r, isNumeral c = true := by
    intro d r hd hr c hc
    rcases List.mem_cons.mp hc with rfl | hc
    · exact hd
    · exact hr c hc
  obtain ⟨i, hi, _⟩ := Option.map_eq_some_iff.mp h
  rw [integer?.eq_def] at hi
  split at hi
  · refine hsign (by decide) (isNumeral_of_digits? fun hnone => ?_)
    rw [hnone] at hi
    cases hi
  · refine hsign (by decide) (isNumeral_of_digits? fun hnone => ?_)
    rw [hnone] at hi
    cases hi
  · refine isNumeral_of_digits? fun hnone => ?_
    rw [hnone] at hi
    cases hi

/-! ## What counts as a numeral -/

/-- Decimal digits that make a number. -/
structure Digits (s : List Char) (n : Nat) : Prop where
  ne_nil : s ≠ []
  isDigit : ∀ c ∈ s, c.isDigit = true
  value : Nat.ofDigitChars 10 s 0 = n

/-- A numeral without a minus sign. -/
inductive Numeral : List Char → Nat → Prop where
  | plain {s : List Char} {n : Nat} (h : Digits s n) : Numeral s n
  | plus {s : List Char} {n : Nat} (h : Digits s n) : Numeral ('+' :: s) n

/-- A numeral with or without a sign. -/
inductive SignedNumeral : List Char → Int → Prop where
  | unsigned {s : List Char} {n : Nat} (h : Numeral s n) : SignedNumeral s n
  | minus {s : List Char} {n : Nat} (h : Digits s n) : SignedNumeral ('-' :: s) (-n)

theorem digits?_eq_some_iff {s : List Char} {n : Nat} : digits? s = some n ↔ Digits s n := by
  rw [digits?]
  split
  · next h =>
    constructor
    · intro hn
      exact ⟨h.1, List.all_eq_true.mp h.2, Option.some.inj hn⟩
    · intro hd
      rw [hd.value]
  · next h =>
    refine ⟨nofun, fun hd => absurd ⟨hd.ne_nil, List.all_eq_true.mpr hd.isDigit⟩ h⟩

/-- Digits begin with no sign. -/
theorem not_digits_cons {c : Char} (hc : c.isDigit = false) (s : List Char) (n : Nat) :
    ¬ Digits (c :: s) n := by
  intro h
  rw [h.isDigit c List.mem_cons_self] at hc
  cases hc

theorem natural?_eq_some_iff {s : List Char} {n max : Nat} :
    natural? max s = some n ↔ Numeral s n ∧ n ≤ max := by
  have hread : digits? (if s.head? = some '+' then s.tail else s) = some n ↔ Numeral s n := by
    rw [digits?_eq_some_iff]
    split
    · next hplus =>
      obtain ⟨t, rfl⟩ := List.head?_eq_some_iff.mp hplus
      constructor
      · exact .plus
      · rintro (h | h)
        · exact absurd h (not_digits_cons (by decide) t n)
        · exact h
    · next hplus =>
      constructor
      · exact .plain
      · rintro (h | h)
        · exact h
        · exact absurd rfl hplus
  rw [natural?, Option.filter_eq_some_iff, hread, decide_eq_true_eq]

/-- An amount is read from its numerals, and from nothing else. -/
theorem uint32?_eq_some_iff {s : List Char} {n : UInt32} :
    uint32? s = some n ↔ Numeral s n.toNat := by
  have hn : n.toNat ≤ 0xFFFFFFFF := by have := n.toNat_lt; omega
  rw [uint32?, Option.map_eq_some_iff]
  constructor
  · rintro ⟨m, hm, rfl⟩
    obtain ⟨hnumeral, hle⟩ := natural?_eq_some_iff.mp hm
    rwa [UInt32.toNat_ofNat', Nat.mod_eq_of_lt (by omega)]
  · intro h
    exact ⟨n.toNat, natural?_eq_some_iff.mpr ⟨h, hn⟩, UInt32.ofNat_toNat⟩

/-- A numeral stands for one amount. -/
theorem Numeral.amount_eq {s : List Char} {n m : UInt32} (hn : Numeral s n.toNat)
    (hm : Numeral s m.toNat) : n = m :=
  Option.some.inj ((uint32?_eq_some_iff.mpr hn).symm.trans (uint32?_eq_some_iff.mpr hm))

theorem map_digits?_eq_some_iff {s : List Char} {i : Int} {f : Int → Int} :
    Option.map f (do let n ← digits? s; pure (n : Int)) = some i ↔
      ∃ n : Nat, Digits s n ∧ f n = i := by
  simp [← digits?_eq_some_iff, Option.bind_eq_some_iff]

theorem integer?_eq_some_iff {s : List Char} {i min max : Int} (hmin : min ≤ 0) (hmax : 0 ≤ max) :
    integer? min max s = some i ↔ SignedNumeral s i ∧ min ≤ i ∧ i ≤ max := by
  rw [integer?.eq_def]
  split <;> rw [Option.filter_eq_some_iff, map_digits?_eq_some_iff, decide_eq_true_eq]
  · next t =>
    constructor
    · rintro ⟨⟨n, hn, rfl⟩, hlow⟩
      exact ⟨.minus hn, hlow, by omega⟩
    · rintro ⟨h, hlow, -⟩
      cases h with
      | minus h => exact ⟨⟨_, h, rfl⟩, hlow⟩
      | unsigned h =>
        cases h with
        | plain h => exact absurd h (not_digits_cons (by decide) t _)
  · next t =>
    constructor
    · rintro ⟨⟨n, hn, rfl⟩, hhigh⟩
      exact ⟨.unsigned (.plus hn), by omega, hhigh⟩
    · rintro ⟨h, -, hhigh⟩
      cases h with
      | unsigned h =>
        cases h with
        | plain h => exact absurd h (not_digits_cons (by decide) t _)
        | plus h => exact ⟨⟨_, h, rfl⟩, hhigh⟩
  · next hminus hplus =>
    constructor
    · rintro ⟨⟨n, hn, rfl⟩, hhigh⟩
      exact ⟨.unsigned (.plain hn), by omega, hhigh⟩
    · rintro ⟨h, -, hhigh⟩
      cases h with
      | minus h => exact absurd rfl (hminus _)
      | unsigned h =>
        cases h with
        | plain h => exact ⟨⟨_, h, rfl⟩, hhigh⟩
        | plus h => exact absurd rfl (hplus _)

/-- Credits are read from their numerals, and from nothing else. -/
theorem int64?_eq_some_iff {s : List Char} {n : Int64} :
    int64? s = some n ↔ SignedNumeral s n.toInt := by
  have hlow : -0x8000000000000000 ≤ n.toInt := n.le_toInt
  have hhigh : n.toInt ≤ 0x7FFFFFFFFFFFFFFF := by have := n.toInt_lt; omega
  rw [int64?, Option.map_eq_some_iff]
  constructor
  · rintro ⟨i, hi, rfl⟩
    obtain ⟨hnumeral, hmin, hmax⟩ := (integer?_eq_some_iff (by decide) (by decide)).mp hi
    rwa [Int64.toInt_ofInt_of_le (by omega) (by omega)]
  · intro h
    exact ⟨n.toInt, (integer?_eq_some_iff (by decide) (by decide)).mpr ⟨h, hlow, hhigh⟩,
      Int64.ofInt_toInt n⟩
end CountingHouse.Text

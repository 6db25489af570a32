/-
CountingHouse.Proofs.Text.Utf8 — decoding gives back what was encoded.

Both readers work on pieces, so one statement serves them:
`pieces_encode` says that the pieces of an encoded text are its
characters. It rests on `piecesFrom_char`, which follows one character
of one, two, three or four bytes through the decoder. A piece is read
from the left, so the bytes behind it do not matter.

When an encoded text is cut off anywhere, what is left decodes to the
characters that are whole and at most one broken piece
(`isTorn_decodeLossy_take`).

The bytes of ASCII characters stand for nothing else
(`eq_of_ascii_mem`), so bytes can be cut at them instead of characters.

A strict reader accepts no other bytes than those of an encoded text
(`decode?_eq_some_iff`): the ranges that the decoder asks of the second
byte are just those in which a character needs this many bytes.
-/
import CountingHouse.Text.Utf8

namespace CountingHouse.Text

/-! ## The first byte of a character -/

theorem lead_one : ∀ v < 0x80, lead (UInt8.ofNat v) = .single (Char.ofNat v) := by
  decide

theorem lead_two : ∀ hi < 0x20, 2 ≤ hi →
    lead (UInt8.ofNat (hi + 0xC0)) = .opens ⟨hi, 0x80, 0xBF, 0⟩ := by
  decide

theorem lead_three : ∀ hi < 0x10,
    lead (UInt8.ofNat (hi + 0xE0)) =
      .opens ⟨hi, if hi = 0 then 0xA0 else 0x80, if hi = 0xD then 0x9F else 0xBF, 1⟩ := by
  decide

theorem lead_four : ∀ hi < 5,
    lead (UInt8.ofNat (hi + 0xF0)) =
      .opens ⟨hi, if hi = 0 then 0x90 else 0x80, if hi = 4 then 0x8F else 0xBF, 2⟩ := by
  decide

/-! ## Following the bytes -/

theorem piecesFrom_cons (q : Option Partial) (b : UInt8) (s : List UInt8) :
    piecesFrom q (b :: s) = (feed q b).1 ++ piecesFrom (feed q b).2 s := by
  cases q <;> rfl

theorem piecesFrom_single {b : UInt8} {c : Char} (h : lead b = .single c) (s : List UInt8) :
    piecesFrom none (b :: s) = some c :: piecesFrom none s := by
  rw [piecesFrom_cons]
  simp only [feed, enter, h, List.singleton_append]

theorem piecesFrom_opens {b : UInt8} {p : Partial} (h : lead b = .opens p) (s : List UInt8) :
    piecesFrom none (b :: s) = piecesFrom (some p) s := by
  rw [piecesFrom_cons]
  simp only [feed, enter, h, List.nil_append]

/-- A byte in the range that an unfinished character asks for adds six
bits to its value. -/
theorem feed_continuation {p : Partial} {n : Nat} (hn : n < 0x40)
    (hlow : p.low.toNat ≤ n + 0x80) (hhigh : n + 0x80 ≤ p.high.toNat) :
    feed (some p) (UInt8.ofNat (n + 0x80)) =
      match p.more with
      | 0 => ([some (Char.ofNat (p.value * 0x40 + n))], none)
      | k + 1 => ([], some ⟨p.value * 0x40 + n, 0x80, 0xBF, k⟩) := by
  have hb : (UInt8.ofNat (n + 0x80)).toNat = n + 0x80 := by
    simp only [UInt8.toNat_ofNat']; omega
  have hrange : (p.low ≤ UInt8.ofNat (n + 0x80) && UInt8.ofNat (n + 0x80) ≤ p.high) = true := by
    simp only [UInt8.le_iff_toNat_le, hb, Bool.and_eq_true, decide_eq_true_eq]
    exact ⟨hlow, hhigh⟩
  have hbits : (n + 0x80) % 0x40 = n := by omega
  cases hmore : p.more with
  | zero => simp only [feed, hrange, if_true, hb, hbits, hmore]
  | succ k => simp only [feed, hrange, if_true, hb, hbits, hmore]

/-- The last byte of a character completes it. -/
theorem piecesFrom_last {value n : Nat} {low high : UInt8} (s : List UInt8) (hn : n < 0x40)
    (hlow : low.toNat ≤ n + 0x80) (hhigh : n + 0x80 ≤ high.toNat) :
    piecesFrom (some ⟨value, low, high, 0⟩) (UInt8.ofNat (n + 0x80) :: s) =
      some (Char.ofNat (value * 0x40 + n)) :: piecesFrom none s := by
  rw [piecesFrom_cons, feed_continuation hn hlow hhigh]
  rfl

/-- A byte in the middle of a character leaves it unfinished. -/
theorem piecesFrom_next {value n k : Nat} {low high : UInt8} (s : List UInt8) (hn : n < 0x40)
    (hlow : low.toNat ≤ n + 0x80) (hhigh : n + 0x80 ≤ high.toNat) :
    piecesFrom (some ⟨value, low, high, k + 1⟩) (UInt8.ofNat (n + 0x80) :: s) =
      piecesFrom (some ⟨value * 0x40 + n, 0x80, 0xBF, k⟩) s := by
  rw [piecesFrom_cons, feed_continuation hn hlow hhigh]
  rfl

/-- The bytes of a character are one piece, whatever follows them. -/
theorem piecesFrom_char (c : Char) (s : List UInt8) :
    piecesFrom none (String.utf8EncodeChar c ++ s) = some c :: piecesFrom none s := by
  have hc : Char.ofNat c.val.toNat = c := Char.ofNat_toNat c
  have hvalid : c.val.toNat < 0xD800 ∨ 0xDFFF < c.val.toNat ∧ c.val.toNat < 0x110000 := c.valid
  have hhigh : (0xBF : UInt8).toNat = 0xBF := rfl
  rw [String.utf8EncodeChar]
  generalize c.val.toNat = v at hc hvalid
  split
  · rw [List.singleton_append, piecesFrom_single (lead_one v (by omega)), hc]
  · split
    · have hvalue : v / 64 % 0x20 * 0x40 + v % 0x40 = v := by omega
      simp only [List.cons_append, List.nil_append]
      rw [piecesFrom_opens (lead_two _ (by omega) (by omega)),
        piecesFrom_last s (by omega) (Nat.le_add_left _ _) (by omega), hvalue, hc]
    · split
      · have hvalue : (v / 4096 % 0x10 * 0x40 + v / 64 % 0x40) * 0x40 + v % 0x40 = v := by omega
        simp only [List.cons_append, List.nil_append]
        rw [piecesFrom_opens (lead_three _ (by omega)),
          piecesFrom_next _ (by omega)
            (by split <;> simp only [UInt8.reduceToNat] <;> omega)
            (by split <;> simp only [UInt8.reduceToNat] <;> omega),
          piecesFrom_last s (by omega) (Nat.le_add_left _ _) (by omega), hvalue, hc]
      · -- the ranges of the second byte are met because `c` is a valid code
        -- point that needs this many bytes
        have hvalue : ((v / 262144 % 0x08 * 0x40 + v / 4096 % 0x40) * 0x40 + v / 64 % 0x40) * 0x40
            + v % 0x40 = v := by omega
        simp only [List.cons_append, List.nil_append]
        rw [piecesFrom_opens (lead_four _ (by omega)),
          piecesFrom_next _ (by omega)
            (by split <;> simp only [UInt8.reduceToNat] <;> omega)
            (by split <;> simp only [UInt8.reduceToNat] <;> omega),
          piecesFrom_next _ (by omega) (Nat.le_add_left _ _) (by omega),
          piecesFrom_last s (by omega) (Nat.le_add_left _ _) (by omega), hvalue, hc]

/-! ## Whole texts -/

theorem encode_cons (c : Char) (s : List Char) :
    encode (c :: s) = String.utf8EncodeChar c ++ encode s := rfl

/-- **The pieces of an encoded text are its characters.** -/
theorem pieces_encode (s : List Char) : pieces (encode s) = s.map some := by
  induction s with
  | nil => rfl
  | cons c s ih =>
    rw [pieces, encode_cons, piecesFrom_char]
    exact congrArg (some c :: ·) ih

/-- A forgiving reader gets back what was encoded. -/
theorem decodeLossy_encode (s : List Char) : decodeLossy (encode s) = s := by
  rw [decodeLossy, pieces_encode, List.map_map]
  exact List.map_id s

/-- A strict reader gets back what was encoded. -/
theorem decode?_encode (s : List Char) : decode? (encode s) = some s := by
  rw [decode?, pieces_encode]
  induction s with
  | nil => rfl
  | cons c s ih => simp [ih]

/-! ## Characters of one byte -/

/-- Only an ASCII character is encoded with its own byte. -/
theorem eq_of_ascii_mem {b : UInt8} (hb : b.toNat < 0x80) {c : Char}
    (h : b ∈ String.utf8EncodeChar c) : c = Char.ofNat b.toNat := by
  have hc : Char.ofNat c.val.toNat = c := Char.ofNat_toNat c
  rw [String.utf8EncodeChar] at h
  generalize c.val.toNat = v at h hc
  have hbyte : ∀ n, b = UInt8.ofNat n → n % 0x100 < 0x80 := by
    rintro n rfl
    rwa [UInt8.toNat_ofNat'] at hb
  split at h
  · next hv =>
    rw [List.mem_singleton.mp h, UInt8.toNat_ofNat', Nat.mod_eq_of_lt (by omega), hc]
  · -- every byte of a longer character is at least 0x80
    split at h
    · simp only [List.mem_cons, List.not_mem_nil, or_false] at h
      rcases h with h | h <;> have := hbyte _ h <;> omega
    · split at h <;> simp only [List.mem_cons, List.not_mem_nil, or_false] at h
      · rcases h with h | h | h <;> have := hbyte _ h <;> omega
      · rcases h with h | h | h | h <;> have := hbyte _ h <;> omega

theorem not_mem_encode {b : UInt8} (hb : b.toNat < 0x80) {s : List Char}
    (h : Char.ofNat b.toNat ∉ s) : b ∉ encode s := by
  intro hmem
  obtain ⟨c, hc, hbyte⟩ := List.mem_flatMap.mp hmem
  exact h (eq_of_ascii_mem hb hbyte ▸ hc)

theorem encode_eq_nil_iff {s : List Char} : encode s = [] ↔ s = [] := by
  refine ⟨fun h => ?_, fun h => by rw [h]; rfl⟩
  have hpieces := pieces_encode s
  rw [h] at hpieces
  exact List.map_eq_nil_iff.mp hpieces.symm

theorem splitOnP_append_of_forall {α : Type} {p : α → Bool} {before : List α}
    (h : ∀ a ∈ before, p a = false) (s : List α) :
    (before ++ s).splitOnP p = (s.splitOnP p).modifyHead (before ++ ·) := by
  induction before with
  | nil =>
    obtain ⟨piece, pieces, hs⟩ := List.exists_cons_of_ne_nil (List.splitOnP_ne_nil p s)
    rw [List.nil_append, hs]
    rfl
  | cons a before ih =>
    simp only [List.forall_mem_cons] at h
    rw [List.cons_append, List.splitOnP_cons_eq_if_modifyHead, h.1, ih h.2]
    simp
    rfl

/-- To cut a text at characters of one byte is to cut its bytes at those
bytes. -/
theorem splitOnP_encode {p : UInt8 → Bool} {q : Char → Bool}
    (hcut : ∀ c, q c = true → ∃ b, String.utf8EncodeChar c = [b] ∧ p b = true)
    (hkeep : ∀ c, q c = false → ∀ b ∈ String.utf8EncodeChar c, p b = false) (s : List Char) :
    (encode s).splitOnP p = (s.splitOnP q).map encode := by
  induction s with
  | nil => rfl
  | cons c s ih =>
    rw [encode_cons, List.splitOnP_cons_eq_if_modifyHead]
    cases hc : q c with
    | true =>
      obtain ⟨b, hb, hp⟩ := hcut c hc
      rw [hb, List.singleton_append, List.splitOnP_cons_eq_if_modifyHead, hp, ih]
      rfl
    | false =>
      obtain ⟨piece, pieces, h⟩ := List.exists_cons_of_ne_nil (List.splitOnP_ne_nil q s)
      rw [splitOnP_append_of_forall (hkeep c hc), ih, h]
      rfl

/-! ## Texts that were cut off -/

/-- Every byte comes out in some piece. -/
theorem piecesFrom_ne_nil (q : Option Partial) {s : List UInt8} (h : s ≠ []) :
    piecesFrom q s ≠ [] := by
  have hopen : ∀ p s, piecesFrom (some p) s ≠ [] := by
    intro p s
    induction s generalizing p with
    | nil => exact List.cons_ne_nil _ _
    | cons b s ih =>
      rw [piecesFrom_cons, feed]
      split
      · split
        · exact List.cons_ne_nil _ _
        · exact ih _
      · exact List.cons_ne_nil _ _
  cases q with
  | some p => exact hopen p s
  | none =>
    obtain ⟨b, s, rfl⟩ := List.exists_cons_of_ne_nil h
    rw [piecesFrom_cons, feed, enter]
    split
    · exact List.cons_ne_nil _ _
    · exact hopen _ s
    · exact List.cons_ne_nil _ _

/-- Bytes that come out as one piece make at most a broken one when some
of them are missing at the end. -/
theorem piecesFrom_of_append {q : Option Partial} {s t : List UInt8} {piece : Piece} (ht : t ≠ [])
    (h : piecesFrom q (s ++ t) = [piece]) : piecesFrom q s = [] ∨ piecesFrom q s = [none] := by
  induction s generalizing q with
  | nil =>
    cases q with
    | none => exact .inl rfl
    | some p => exact .inr rfl
  | cons b s ih =>
    rw [List.cons_append, piecesFrom_cons] at h
    have hmore := piecesFrom_ne_nil (feed q b).2 (List.append_ne_nil_of_right_ne_nil s ht)
    -- the one piece belongs to the later bytes
    rcases List.append_eq_singleton_iff.mp h with ⟨hnow, hlater⟩ | ⟨_, hlater⟩
    · rw [piecesFrom_cons, hnow, List.nil_append]
      exact ih hlater
    · exact absurd hlater hmore

/-- What is read of the first bytes of a text: characters of the text, and
at most one replacement character behind them. -/
def IsTorn (s torn : List Char) : Prop :=
  ∃ whole broken, whole <+: s ∧ (broken = [] ∨ broken = [replacement]) ∧ torn = whole ++ broken

/-- **An encoded text that is cut off is a text that is cut off.** -/
theorem isTorn_decodeLossy_take (s : List Char) (n : Nat) :
    IsTorn s (decodeLossy ((encode s).take n)) := by
  induction s generalizing n with
  | nil =>
    refine ⟨[], [], List.nil_prefix, .inl rfl, ?_⟩
    rw [show encode [] = [] from rfl, List.take_nil]
    rfl
  | cons c s ih =>
    rw [encode_cons]
    by_cases hwhole : (String.utf8EncodeChar c).length ≤ n
    · obtain ⟨whole, broken, hprefix, hbroken, heq⟩ := ih (n - (String.utf8EncodeChar c).length)
      refine ⟨c :: whole, broken, (List.cons_prefix_cons).mpr ⟨rfl, hprefix⟩, hbroken, ?_⟩
      rw [List.take_append, List.take_of_length_le hwhole, decodeLossy, pieces, piecesFrom_char]
      exact congrArg (c :: ·) heq
    · -- the cut is within the bytes of the first character
      have hcut : n < (String.utf8EncodeChar c).length := Nat.lt_of_not_le hwhole
      have hrest : (String.utf8EncodeChar c).drop n ≠ [] := by
        rw [ne_eq, List.drop_eq_nil_iff]
        exact hwhole
      have hchar : piecesFrom none
          ((String.utf8EncodeChar c).take n ++ (String.utf8EncodeChar c).drop n) = [some c] := by
        rw [List.take_append_drop]
        have h := piecesFrom_char c []
        rwa [List.append_nil] at h
      rw [List.take_append_of_le_length (Nat.le_of_lt hcut), decodeLossy, pieces]
      rcases piecesFrom_of_append hrest hchar with h | h
      · exact ⟨[], [], List.nil_prefix, .inl rfl, by rw [h]; rfl⟩
      · exact ⟨[], [replacement], List.nil_prefix, .inr rfl, by rw [h]; rfl⟩

/-! ## Bytes that are a text -/

theorem toNat_ofNat_of_valid {v : Nat} (h : v < 0xD800 ∨ 0xDFFF < v ∧ v < 0x110000) :
    (Char.ofNat v).val.toNat = v := by
  have hvalid : v.isValidChar := h
  rw [Char.ofNat, dif_pos hvalid]
  rfl

/-- The bytes that complete a character of several bytes. -/
inductive Completes : Partial → List UInt8 → Char → Prop where
  /-- The last byte is there. -/
  | last {p : Partial} {b : UInt8} (hlow : p.low ≤ b) (hhigh : b ≤ p.high) (hmore : p.more = 0) :
    Completes p [b] (Char.ofNat (p.value * 0x40 + b.toNat % 0x40))
  /-- A byte is followed by others. -/
  | next {p : Partial} {b : UInt8} {n : Nat} {t : List UInt8} {c : Char} (hlow : p.low ≤ b)
    (hhigh : b ≤ p.high) (hmore : p.more = n + 1)
    (h : Completes ⟨p.value * 0x40 + b.toNat % 0x40, 0x80, 0xBF, n⟩ t c) : Completes p (b :: t) c

/-- When no piece is broken, the first character is completed first. -/
theorem exists_completes {p : Partial} {bytes : List UInt8} {s : List Char}
    (h : piecesFrom (some p) bytes = s.map some) :
    ∃ t rest c s', bytes = t ++ rest ∧ Completes p t c ∧ s = c :: s' ∧
      piecesFrom none rest = s'.map some := by
  induction bytes generalizing p with
  | nil => cases s <;> cases h
  | cons b bytes ih =>
    rw [piecesFrom_cons, feed] at h
    split at h
    · next hrange =>
      simp only [Bool.and_eq_true, decide_eq_true_eq] at hrange
      split at h
      · next hmore =>
        obtain ⟨c, s', rfl, hc, hrest⟩ := List.map_eq_cons_iff.mp h.symm
        cases hc
        exact ⟨[b], bytes, _, s', rfl, .last hrange.1 hrange.2 hmore, rfl, hrest.symm⟩
      · next n hmore =>
        obtain ⟨t, rest, c, s', rfl, hc, rfl, hrest⟩ := ih h
        exact ⟨b :: t, rest, c, s', rfl, .next hrange.1 hrange.2 hmore hc, rfl, hrest⟩
    · cases s <;> cases h

theorem encodeChar_of_single {b : UInt8} {c : Char} (h : lead b = .single c) :
    String.utf8EncodeChar c = [b] := by
  simp only [lead] at h
  split at h
  · next hb =>
    cases h
    have hv := toNat_ofNat_of_valid (v := b.toNat) (.inl (by omega))
    rw [String.utf8EncodeChar]
    simp only [hv]
    rw [if_pos (by omega), UInt8.ofNat_toNat]
  · repeat' split at h
    all_goals cases h

theorem encodeChar_two {hi x : Nat} (hlow : 2 ≤ hi) (hhigh : hi < 0x20) (hx : x < 0x40) :
    String.utf8EncodeChar (Char.ofNat (hi * 0x40 + x)) =
      [UInt8.ofNat (hi + 0xC0), UInt8.ofNat (x + 0x80)] := by
  have hv := toNat_ofNat_of_valid (v := hi * 0x40 + x) (.inl (by omega))
  rw [String.utf8EncodeChar]
  simp only [hv]
  rw [if_neg (by omega), if_pos (by omega), show (hi * 0x40 + x) / 64 % 32 = hi by omega,
    show (hi * 0x40 + x) % 64 = x by omega]

theorem encodeChar_three {hi x y : Nat} (hhi : hi < 0x10) (hx : x < 0x40) (hy : y < 0x40)
    (hlow : hi = 0 → 0x20 ≤ x) (hhigh : hi = 0xD → x < 0x20) :
    String.utf8EncodeChar (Char.ofNat ((hi * 0x40 + x) * 0x40 + y)) =
      [UInt8.ofNat (hi + 0xE0), UInt8.ofNat (x + 0x80), UInt8.ofNat (y + 0x80)] := by
  have hv := toNat_ofNat_of_valid (v := (hi * 0x40 + x) * 0x40 + y) (by omega)
  rw [String.utf8EncodeChar]
  simp only [hv]
  rw [if_neg (by omega), if_neg (by omega), if_pos (by omega),
    show ((hi * 0x40 + x) * 0x40 + y) / 4096 % 16 = hi by omega,
    show ((hi * 0x40 + x) * 0x40 + y) / 64 % 64 = x by omega,
    show ((hi * 0x40 + x) * 0x40 + y) % 64 = y by omega]

theorem encodeChar_four {hi x y z : Nat} (hhi : hi < 5) (hx : x < 0x40) (hy : y < 0x40)
    (hz : z < 0x40) (hlow : hi = 0 → 0x10 ≤ x) (hhigh : hi = 4 → x < 0x10) :
    String.utf8EncodeChar (Char.ofNat (((hi * 0x40 + x) * 0x40 + y) * 0x40 + z)) =
      [UInt8.ofNat (hi + 0xF0), UInt8.ofNat (x + 0x80), UInt8.ofNat (y + 0x80),
        UInt8.ofNat (z + 0x80)] := by
  have hv := toNat_ofNat_of_valid (v := ((hi * 0x40 + x) * 0x40 + y) * 0x40 + z) (by omega)
  rw [String.utf8EncodeChar]
  simp only [hv]
  rw [if_neg (by omega), if_neg (by omega), if_neg (by omega),
    show (((hi * 0x40 + x) * 0x40 + y) * 0x40 + z) / 262144 % 8 = hi by omega,
    show (((hi * 0x40 + x) * 0x40 + y) * 0x40 + z) / 4096 % 64 = x by omega,
    show (((hi * 0x40 + x) * 0x40 + y) * 0x40 + z) / 64 % 64 = y by omega,
    show (((hi * 0x40 + x) * 0x40 + y) * 0x40 + z) % 64 = z by omega]

/-- What the first byte of a character of several bytes asks of the
next one. -/
theorem opens_cases {b : UInt8} {p : Partial} (h : lead b = .opens p) :
    (∃ hi, b = UInt8.ofNat (hi + 0xC0) ∧ 2 ≤ hi ∧ hi < 0x20 ∧ p = ⟨hi, 0x80, 0xBF, 0⟩) ∨
    (∃ hi, b = UInt8.ofNat (hi + 0xE0) ∧ hi < 0x10 ∧
      p = ⟨hi, if hi = 0 then 0xA0 else 0x80, if hi = 0xD then 0x9F else 0xBF, 1⟩) ∨
    (∃ hi, b = UInt8.ofNat (hi + 0xF0) ∧ hi < 5 ∧
      p = ⟨hi, if hi = 0 then 0x90 else 0x80, if hi = 4 then 0x8F else 0xBF, 2⟩) := by
  have hbyte : ∀ n, b.toNat = n → b = UInt8.ofNat n := by
    rintro n rfl
    exact UInt8.ofNat_toNat.symm
  simp only [lead] at h
  generalize b.toNat = v at h hbyte
  split at h
  · cases h
  split at h
  · cases h
  split at h
  · cases h
    exact .inl ⟨v % 0x20, hbyte _ (by omega), by omega, by omega, rfl⟩
  split at h
  · next hv =>
    cases h
    exact .inr (.inl ⟨0, hbyte _ hv, by omega, by rw [hv]; rfl⟩)
  split at h
  · next hv =>
    cases h
    exact .inr (.inl ⟨0xD, hbyte _ hv, by omega, by rw [hv]; rfl⟩)
  split at h
  · cases h
    exact .inr (.inl ⟨v % 0x10, hbyte _ (by omega), by omega,
      by rw [if_neg (by omega), if_neg (by omega)]⟩)
  split at h
  · next hv =>
    cases h
    exact .inr (.inr ⟨0, hbyte _ hv, by omega, by rw [hv]; rfl⟩)
  split at h
  · cases h
    exact .inr (.inr ⟨v % 0x08, hbyte _ (by omega), by omega,
      by rw [if_neg (by omega), if_neg (by omega)]⟩)
  split at h
  · next hv =>
    cases h
    exact .inr (.inr ⟨4, hbyte _ hv, by omega, by rw [hv]; rfl⟩)
  · cases h

/-- A byte that continues a character, and the six bits it carries. -/
theorem exists_of_continues {b low high : UInt8} (hlow : low ≤ b) (hhigh : b ≤ high)
    (h80 : 0x80 ≤ low.toNat) (hBF : high.toNat ≤ 0xBF) :
    ∃ x < 0x40, b = UInt8.ofNat (x + 0x80) ∧ b.toNat % 0x40 = x ∧ low.toNat ≤ x + 0x80 ∧
      x + 0x80 ≤ high.toNat := by
  rw [UInt8.le_iff_toNat_le] at hlow hhigh
  refine ⟨b.toNat - 0x80, by omega, ?_, by omega, by omega, by omega⟩
  rw [Nat.sub_add_cancel (by omega), UInt8.ofNat_toNat]

/-- The last byte of a character, and the six bits it carries. -/
theorem Completes.last_inv {value : Nat} {low high : UInt8} {t : List UInt8} {c : Char}
    (h : Completes ⟨value, low, high, 0⟩ t c) (h80 : 0x80 ≤ low.toNat) (hBF : high.toNat ≤ 0xBF) :
    ∃ x < 0x40, low.toNat ≤ x + 0x80 ∧ x + 0x80 ≤ high.toNat ∧ t = [UInt8.ofNat (x + 0x80)] ∧
      c = Char.ofNat (value * 0x40 + x) := by
  cases h with
  | last hlow hhigh _ =>
    obtain ⟨x, hx, hb, hbits, hlo, hhi⟩ := exists_of_continues hlow hhigh h80 hBF
    exact ⟨x, hx, hlo, hhi, by rw [hb], by rw [hbits]⟩
  | next _ _ hmore _ => cases hmore

/-- A byte in the middle of a character, and the six bits it carries. -/
theorem Completes.next_inv {value n : Nat} {low high : UInt8} {t : List UInt8} {c : Char}
    (h : Completes ⟨value, low, high, n + 1⟩ t c) (h80 : 0x80 ≤ low.toNat)
    (hBF : high.toNat ≤ 0xBF) :
    ∃ x < 0x40, low.toNat ≤ x + 0x80 ∧ x + 0x80 ≤ high.toNat ∧
      ∃ t', t = UInt8.ofNat (x + 0x80) :: t' ∧
        Completes ⟨value * 0x40 + x, 0x80, 0xBF, n⟩ t' c := by
  cases h with
  | last _ _ hmore => cases hmore
  | next hlow hhigh hmore h =>
    obtain ⟨x, hx, hb, hbits, hlo, hhi⟩ := exists_of_continues hlow hhigh h80 hBF
    cases hmore
    exact ⟨x, hx, hlo, hhi, _, by rw [hb], hbits ▸ h⟩

/-- **Bytes that a character is read from** are those it is written with. -/
theorem encodeChar_of_completes {b : UInt8} {p : Partial} {t : List UInt8} {c : Char}
    (hlead : lead b = .opens p) (h : Completes p t c) : String.utf8EncodeChar c = b :: t := by
  have h80 : (0x80 : UInt8).toNat = 0x80 := rfl
  have hBF : (0xBF : UInt8).toNat = 0xBF := rfl
  rcases opens_cases hlead with ⟨hi, rfl, h2, hhi, rfl⟩ | ⟨hi, rfl, hhi, rfl⟩ | ⟨hi, rfl, hhi, rfl⟩
  · obtain ⟨x, hx, -, -, rfl, rfl⟩ := h.last_inv (by omega) (by omega)
    exact encodeChar_two h2 hhi hx
  · obtain ⟨x, hx, hlow, hhigh, t, rfl, hrest⟩ :=
      h.next_inv (by split <;> decide) (by split <;> decide)
    obtain ⟨y, hy, -, -, rfl, rfl⟩ := hrest.last_inv (by omega) (by omega)
    refine encodeChar_three hhi hx hy ?_ ?_ <;> rintro rfl
    · have : 0xA0 ≤ x + 0x80 := hlow
      omega
    · have : x + 0x80 ≤ 0x9F := hhigh
      omega
  · obtain ⟨x, hx, hlow, hhigh, t, rfl, hsecond⟩ :=
      h.next_inv (by split <;> decide) (by split <;> decide)
    obtain ⟨y, hy, -, -, t, rfl, hthird⟩ := hsecond.next_inv (by omega) (by omega)
    obtain ⟨z, hz, -, -, rfl, rfl⟩ := hthird.last_inv (by omega) (by omega)
    refine encodeChar_four hhi hx hy hz ?_ ?_ <;> rintro rfl
    · have : 0x90 ≤ x + 0x80 := hlow
      omega
    · have : x + 0x80 ≤ 0x8F := hhigh
      omega

theorem encode_of_pieces {bytes : List UInt8} {s : List Char} (h : pieces bytes = s.map some) :
    encode s = bytes := by
  rw [pieces] at h
  induction s generalizing bytes with
  | nil =>
    refine Eq.symm (Decidable.byContradiction fun hne => ?_)
    exact piecesFrom_ne_nil none hne h
  | cons c s ih =>
    cases bytes with
    | nil => cases h
    | cons b bytes =>
      cases hlead : lead b with
      | single d =>
        rw [piecesFrom_single hlead, List.map_cons] at h
        obtain ⟨hd, hrest⟩ := List.cons.inj h
        cases hd
        rw [encode_cons, encodeChar_of_single hlead, ih hrest]
        rfl
      | opens p =>
        rw [piecesFrom_opens hlead] at h
        obtain ⟨t, rest, d, s', rfl, hd, heq, hrest⟩ := exists_completes h
        cases heq
        rw [encode_cons, encodeChar_of_completes hlead hd, ih hrest]
        rfl
      | stray =>
        rw [piecesFrom_cons, feed, enter, hlead, List.map_cons] at h
        exact nomatch (List.cons.inj h).1

theorem eq_map_some_of_mapM {ps : List Piece} {s : List Char} (h : ps.mapM id = some s) :
    ps = s.map some := by
  induction ps generalizing s with
  | nil =>
    cases h
    rfl
  | cons piece ps ih =>
    cases piece with
    | none => simp at h
    | some c =>
      simp only [List.mapM_cons, id_eq, Option.bind_eq_bind, Option.bind_some,
        Option.bind_eq_some_iff, Option.pure_def, Option.some.injEq] at h
      obtain ⟨s', hs', rfl⟩ := h
      rw [ih hs', List.map_cons]

/-- **A strict reader reads the bytes of a text, and nothing else.** -/
theorem decode?_eq_some_iff {bytes : List UInt8} {s : List Char} :
    decode? bytes = some s ↔ encode s = bytes :=
  ⟨fun h => encode_of_pieces (eq_map_some_of_mapM h), fun h => by rw [← h, decode?_encode]⟩

end CountingHouse.Text

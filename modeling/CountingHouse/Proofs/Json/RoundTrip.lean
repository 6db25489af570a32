/-
CountingHouse.Proofs.Json.RoundTrip — a value that is written can be read
back.

The reader is followed along the text that was written. Each part of it
is shown to give back what its part of the text was written for and to
leave the rest (`units?_quoted`, `number?_integer`, `elements?_render`,
`members?_render`), whatever the rest is, as long as it does not make a
longer number. By induction on the value this holds of the whole text
(`IsPlain.readsBack`). The text of a value is also one line without
control characters (`IsPlain.isPrinted_render`) and loses nothing when it
is trimmed (`IsPlain.trim_render`).

Numbers that are no integers and strings without text are left out: they
stand for what the bank has no use for, and only their text is known.
-/
import CountingHouse.Json.Parser
import CountingHouse.Proofs.Text.Numeral
import Mathlib.Data.List.TakeDrop

namespace CountingHouse.Json

/-! ## Strings -/

theorem hexDigit?_hexDigit : ∀ n < 16, Text.hexDigit? (hexDigit n) = some n := by
  decide

theorem hexDigits?_control {n : Nat} (h : n < 0x20) :
    Text.hexDigits? ['0', '0', hexDigit (n / 16), hexDigit (n % 16)] = some n := by
  have hzero : Text.hexDigit? '0' = some 0 := by decide
  have hhigh := hexDigit?_hexDigit (n / 16) (by omega)
  have hlow := hexDigit?_hexDigit (n % 16) (by omega)
  have hn : n / 16 * 16 + n % 16 = n := by omega
  simp [Text.hexDigits?, hzero, hhigh, hlow, hn]

/-- The three ways in which a character is written. -/
theorem escape_cases (c : Char) :
    (escape c = [c] ∧ c ≠ '"' ∧ c ≠ '\\' ∧ ¬ c.toNat < 0x20) ∨
    (∃ e, escape c = ['\\', e] ∧ escapeUnit? e = some c.toNat) ∨
    (escape c = ['\\', 'u', '0', '0', hexDigit (c.toNat / 16), hexDigit (c.toNat % 16)] ∧
      c.toNat < 0x20) := by
  unfold escape
  split
  · next h => exact .inr (.inl ⟨_, rfl, by subst h; rfl⟩)
  split
  · next h => exact .inr (.inl ⟨_, rfl, by subst h; rfl⟩)
  split
  · next h => exact .inr (.inl ⟨_, rfl, by subst h; rfl⟩)
  split
  · next h => exact .inr (.inl ⟨_, rfl, by subst h; rfl⟩)
  split
  · next h => exact .inr (.inl ⟨_, rfl, by subst h; rfl⟩)
  split
  · next h => exact .inr (.inl ⟨_, rfl, by subst h; rfl⟩)
  split
  · next h => exact .inr (.inl ⟨_, rfl, by subst h; rfl⟩)
  split
  · next h => exact .inr (.inr ⟨rfl, h⟩)
  · next hquote hback _ _ _ _ _ hcontrol => exact .inl ⟨rfl, hquote, hback, hcontrol⟩

/-- A character is read back, whichever way it was written. -/
theorem units?_escape (c : Char) (s : List Char) :
    units? (escape c ++ s) = (units? s).map fun (units, rest) => (c.toNat :: units, rest) := by
  rcases escape_cases c with
    ⟨heq, hquote, hback, hcontrol⟩ | ⟨e, heq, hunit⟩ | ⟨heq, hcontrol⟩
  · rw [heq, List.singleton_append, units?.eq_def]
    simp [hquote, hback, hcontrol]
  · have hu : e ≠ 'u' := by
      rintro rfl
      cases hunit
    rw [heq, List.cons_append, List.singleton_append, units?.eq_def]
    simp [hunit, hu]
  · simp [heq, units?, hexDigits?_control hcontrol]

/-- A character of a string is not half of a surrogate pair. -/
theorem charsOfUnits?_cons (c : Char) (units : List Nat) :
    charsOfUnits? (c.toNat :: units) = (charsOfUnits? units).map (c :: ·) := by
  have hvalid : c.toNat < 0xD800 ∨ 0xDFFF < c.toNat ∧ c.toNat < 0x110000 := c.valid
  have hhigh : isHighSurrogate c.toNat = false := by
    simp [isHighSurrogate]
    omega
  have hlow : isLowSurrogate c.toNat = false := by
    simp [isLowSurrogate]
    omega
  rw [charsOfUnits?.eq_def]
  simp [hhigh, hlow, Char.ofNat_toNat]

theorem units?_quoted (text rest : List Char) :
    units? (text.flatMap escape ++ '"' :: rest) = some (text.map Char.toNat, rest) := by
  induction text with
  | nil => rw [List.flatMap_nil, List.nil_append, units?.eq_def]; rfl
  | cons c text ih =>
    rw [List.flatMap_cons, List.append_assoc, units?_escape, ih]
    rfl

theorem charsOfUnits?_map (text : List Char) :
    charsOfUnits? (text.map Char.toNat) = some text := by
  induction text with
  | nil => rfl
  | cons c text ih =>
    rw [List.map_cons, charsOfUnits?_cons, ih]
    rfl

/-- **A string is read back** behind its opening quote. -/
theorem text?_quoted (text : String) (rest : List Char) :
    text? (text.toList.flatMap escape ++ '"' :: rest) = some (some text, rest) := by
  simp [text?, units?_quoted, charsOfUnits?_map]

/-! ## Numbers -/

/-- No number goes on with what comes now. -/
def EndsNumber (s : List Char) : Prop :=
  ∀ c ∈ s.head?, c.isDigit = false ∧ c ≠ '.' ∧ c ≠ 'e' ∧ c ≠ 'E'

theorem someDigits?_append {digits rest : List Char} (hne : digits ≠ [])
    (hdigits : ∀ c ∈ digits, c.isDigit = true) (h : EndsNumber rest) :
    someDigits? (digits ++ rest) = some (digits, rest) := by
  have hend : rest.takeWhile Char.isDigit = [] ∧ rest.dropWhile Char.isDigit = rest := by
    cases rest with
    | nil => exact ⟨rfl, rfl⟩
    | cons c rest => simp [(h c rfl).1]
  rw [someDigits?, List.span_eq_takeWhile_dropWhile, List.takeWhile_append_of_pos hdigits,
    List.dropWhile_append_of_pos hdigits, hend.1, hend.2, List.append_nil]
  cases digits with
  | nil => exact absurd rfl hne
  | cons c digits => rfl

/-- Only zero is written with a zero at its beginning. -/
theorem head?_natural_ne_zero {n : Nat} (h : n ≠ 0) : (Text.natural n).head? ≠ some '0' := by
  induction n using Nat.strongRecOn with
  | ind n ih =>
    unfold Text.natural
    by_cases hsmall : n < 10
    · rw [Nat.toDigits_of_lt_base hsmall]
      have hdigit : ∀ m < 10, m ≠ 0 → Nat.digitChar m ≠ '0' := by decide
      simpa using hdigit n hsmall h
    · have hfirst := ih (n / 10) (by omega) (by omega)
      obtain ⟨c, s, hcons⟩ := List.exists_cons_of_ne_nil (Text.natural_ne_nil (n / 10))
      rw [hcons] at hfirst
      rw [Nat.toDigits_of_base_le (by decide) (by omega), ← Text.natural, hcons]
      exact hfirst

theorem wholePart?_natural (n : Nat) {rest : List Char} (h : EndsNumber rest) :
    wholePart? (Text.natural n ++ rest) = some (Text.natural n, rest) := by
  by_cases hn : n = 0
  · subst hn
    rfl
  · have hdigits : someDigits? (Text.natural n ++ rest) = some (Text.natural n, rest) :=
      someDigits?_append (Text.natural_ne_nil n) (fun _ => Text.isDigit_of_mem_natural) h
    have hhead := head?_natural_ne_zero hn
    obtain ⟨c, s, hcons⟩ := List.exists_cons_of_ne_nil (Text.natural_ne_nil n)
    rw [hcons, List.cons_append] at hdigits ⊢
    rw [hcons, List.head?_cons] at hhead
    rw [wholePart?.eq_def]
    split
    · next heq => exact absurd (congrArg some (List.cons.inj heq).1) hhead
    · exact hdigits

theorem fraction?_of_ends {rest : List Char} (h : EndsNumber rest) :
    fraction? rest = some ([], rest) := by
  cases rest with
  | nil => rfl
  | cons c rest =>
    rw [fraction?.eq_def]
    simp [(h c rfl).2.1]

theorem exponent?_of_ends {rest : List Char} (h : EndsNumber rest) :
    exponent? rest = some ([], rest) := by
  cases rest with
  | nil => rfl
  | cons c rest => simp [exponent?, (h c rfl).2.2]

/-- **An integer is read back**, when nothing follows that would make it
another number. -/
theorem number?_integer (n : Int) {rest : List Char} (h : EndsNumber rest) :
    number? (Text.integer n ++ rest) = some (.integer n, rest) := by
  have hvalue : ∀ m, (Nat.ofDigitChars 10 (Text.natural m) 0 : Int) = m := by
    intro m
    rw [Text.natural, Nat.ofDigitChars_ten_toDigits]
  cases n with
  | ofNat n =>
    obtain ⟨c, s, hcons, _, hminus⟩ := Text.exists_natural_eq_cons n
    have hwhole := wholePart?_natural n h
    have hsign : number? (Text.natural n ++ rest) =
        some (numberOf false (Text.natural n) [], rest) := by
      rw [hcons, List.cons_append] at hwhole ⊢
      simp [number?, hminus, hwhole, fraction?_of_ends h, exponent?_of_ends h]
    rw [Text.integer, hsign]
    simp [numberOf, hvalue]
  | negSucc n =>
    have hwhole := wholePart?_natural (n + 1) h
    have hsign : number? ('-' :: Text.natural (n + 1) ++ rest) =
        some (numberOf true (Text.natural (n + 1)) [], rest) := by
      simp [number?, hwhole, fraction?_of_ends h, exponent?_of_ends h]
    have hnonzero : (n : Int) + 1 ≠ 0 := by omega
    rw [Text.integer, hsign, numberOf]
    simp [hvalue, hnonzero, Int.negSucc_eq]

/-! ## Values -/

/-- The values whose text says all there is to say about them: no other
numbers than integers, and no strings without text. -/
inductive IsPlain : Json → Prop
  | null : IsPlain .null
  | bool (value : Bool) : IsPlain (.bool value)
  | integer (n : Int) : IsPlain (.integer n)
  | text (text : String) : IsPlain (.ofText text)
  | array {elements : List Json} (h : ∀ e ∈ elements, IsPlain e) : IsPlain (.array elements)
  | members {members : List (String × Json)} (h : ∀ m ∈ members, IsPlain m.2) :
    IsPlain (.ofMembers members)

theorem isBlank_eq_false {c : Char} (h : Text.isBlank c = false) : isBlank c = false := by
  by_contra hblank
  simp only [isBlank, Bool.not_eq_false, Bool.or_eq_true, decide_eq_true_eq] at hblank
  rcases hblank with ((rfl | rfl) | rfl) | rfl <;> exact absurd h (by decide)

theorem skipBlanks_cons {c : Char} (h : Text.isBlank c = false) (s : List Char) :
    skipBlanks (c :: s) = c :: s := by
  simp [skipBlanks, isBlank_eq_false h]

theorem exists_integer_eq_cons (n : Int) :
    ∃ c s, Text.integer n = c :: s ∧ (c = '-' ∨ c.isDigit = true) := by
  obtain ⟨c, s, h⟩ := List.exists_cons_of_ne_nil (Text.isWord_integer n).ne_nil
  exact ⟨c, s, h, Text.mem_integer (h ▸ List.mem_cons_self)⟩

/-- The text of a value begins with a character that tells it from the end
of an array. -/
theorem IsPlain.exists_render_eq_cons {j : Json} (h : j.IsPlain) :
    ∃ c s, render j = c :: s ∧ Text.isBlank c = false ∧ c ≠ ']' := by
  cases h with
  | null => exact ⟨'n', _, rfl, by decide, by decide⟩
  | bool value =>
    cases value with
    | true => exact ⟨'t', _, rfl, by decide, by decide⟩
    | false => exact ⟨'f', _, rfl, by decide, by decide⟩
  | integer n =>
    obtain ⟨c, s, hcons, hc⟩ := exists_integer_eq_cons n
    refine ⟨c, s, hcons, ?_, ?_⟩
    · exact (Text.isWord_integer n).notBlank c (hcons ▸ List.mem_cons_self)
    · rintro rfl
      revert hc
      decide
  | text text => exact ⟨'"', _, rfl, by decide, by decide⟩
  | array h => exact ⟨'[', _, rfl, by decide, by decide⟩
  | members h => exact ⟨'{', _, rfl, by decide, by decide⟩

/-- The reader gives a value back from its text, whatever follows. -/
def ReadsBack (j : Json) : Prop :=
  ∀ (n : Nat) (rest : List Char), (render j).length ≤ n → EndsNumber rest →
    value? n (render j ++ rest) = some (j, rest)

theorem endsNumber_cons {c : Char} (h : c.isDigit = false ∧ c ≠ '.' ∧ c ≠ 'e' ∧ c ≠ 'E')
    (s : List Char) : EndsNumber (c :: s) := by
  rintro d ⟨⟩
  exact h

theorem readsBack_integer (n : Int) : ReadsBack (.integer n) := by
  intro steps rest hsteps hend
  obtain ⟨c, s, hcons, hc⟩ := exists_integer_eq_cons n
  have hnumber := number?_integer n hend
  have hblank : Text.isBlank c = false :=
    (Text.isWord_integer n).notBlank c (hcons ▸ List.mem_cons_self)
  have hother : c ≠ '"' ∧ c ≠ '[' ∧ c ≠ '{' ∧ c ≠ 'n' ∧ c ≠ 't' ∧ c ≠ 'f' := by
    refine ⟨?_, ?_, ?_, ?_, ?_, ?_⟩ <;> rintro rfl <;> revert hc <;> decide
  rw [render, hcons] at hsteps ⊢
  rw [hcons] at hnumber
  cases steps with
  | zero => simp at hsteps
  | succ steps =>
    rw [List.cons_append] at hnumber ⊢
    simp [value?, skipBlanks_cons hblank, hother, scalar?, hnumber]

theorem value?_quote (n : Nat) (s : List Char) :
    value? (n + 1) ('"' :: s) = (text? s).map fun (text, rest) => (.string text, rest) := by
  rw [value?, skipBlanks_cons (by decide)]
  rfl

theorem quoteText_some (text : String) : quoteText (some text) = quote text.toList := rfl

theorem render_ofText (text : String) : render (.ofText text) = quote text.toList := by
  rw [ofText, render, quoteText_some]

theorem quote_append (text rest : List Char) :
    quote text ++ rest = '"' :: (text.flatMap escape ++ '"' :: rest) := by
  simp [quote]

theorem readsBack_text (text : String) : ReadsBack (.ofText text) := by
  intro steps rest hsteps hend
  rw [render_ofText] at hsteps ⊢
  cases steps with
  | zero => simp [quote] at hsteps
  | succ steps =>
    rw [quote_append, value?_quote, text?_quoted]
    rfl

/-- Each word that is a value is read back. -/
theorem readsBack_word {j : Json} (hj : j = .null ∨ ∃ value, j = .bool value) : ReadsBack j := by
  intro n rest hn hend
  rcases hj with rfl | ⟨value, rfl⟩
  · cases n with
    | zero => simp [render] at hn
    | succ n => rfl
  · cases value <;> cases n with
    | zero => simp [render] at hn
    | succ n => rfl

/-! ### Arrays -/

theorem renderElements_cons_cons (e e' : Json) (rest : List Json) :
    renderElements (e :: e' :: rest) = render e ++ ',' :: renderElements (e' :: rest) := by
  rw [renderElements]
  simp

theorem renderElements_singleton (e : Json) : renderElements [e] = render e := by
  rw [renderElements]

/-- The elements of an array are read back up to its end. -/
theorem elements?_render {elements : List Json} (hne : elements ≠ [])
    (h : ∀ e ∈ elements, ReadsBack e) {n : Nat} (hn : (renderElements elements).length < n)
    (rest : List Char) :
    elements? n (renderElements elements ++ ']' :: rest) = some (elements, rest) := by
  induction elements generalizing n with
  | nil => exact absurd rfl hne
  | cons e elements ih =>
    obtain ⟨n, rfl⟩ := Nat.exists_eq_add_one_of_ne_zero (Nat.ne_zero_of_lt hn)
    have he : ReadsBack e := h e List.mem_cons_self
    cases elements with
    | nil =>
      rw [renderElements_singleton] at hn ⊢
      rw [elements?, he n _ (by omega) (endsNumber_cons (by decide) rest)]
      simp only [skipBlanks_cons (c := ']') (by decide)]
    | cons e' elements =>
      rw [renderElements_cons_cons] at hn ⊢
      simp only [List.length_append, List.length_cons] at hn
      have hmore := ih (List.cons_ne_nil _ _) (fun x hx => h x (List.mem_cons_of_mem e hx))
        (n := n) (by omega)
      rw [List.append_assoc, List.cons_append, elements?,
        he n _ (by omega) (endsNumber_cons (by decide) _)]
      simp only [skipBlanks_cons (c := ',') (by decide), hmore]
      rfl

theorem exists_renderElements_eq_cons {e : Json} (he : e.IsPlain) (elements : List Json) :
    ∃ c s, renderElements (e :: elements) = c :: s ∧ Text.isBlank c = false ∧ c ≠ ']' := by
  obtain ⟨c, s, hcons, hc⟩ := he.exists_render_eq_cons
  cases elements with
  | nil => exact ⟨c, s, by rw [renderElements_singleton, hcons], hc⟩
  | cons e' elements =>
    exact ⟨c, _, by rw [renderElements_cons_cons, hcons, List.cons_append], hc⟩

theorem value?_bracket {n : Nat} {c : Char} {s : List Char} (hblank : Text.isBlank c = false)
    (hend : c ≠ ']') :
    value? (n + 1) ('[' :: c :: s) =
      (elements? n (c :: s)).map fun (elements, rest) => (.array elements, rest) := by
  rw [value?, skipBlanks_cons (by decide)]
  simp only [skipBlanks_cons hblank]
  split
  · next heq => exact absurd (List.cons.inj heq).1 hend
  · rfl

theorem readsBack_array {elements : List Json} (hplain : ∀ e ∈ elements, e.IsPlain)
    (h : ∀ e ∈ elements, ReadsBack e) : ReadsBack (.array elements) := by
  intro n rest hn hend
  rw [render] at hn ⊢
  simp only [List.length_append, List.length_cons, List.length_nil] at hn
  obtain ⟨n, rfl⟩ := Nat.exists_eq_add_one_of_ne_zero (n := n) (by omega)
  cases elements with
  | nil =>
    rw [renderElements, value?]
    simp [skipBlanks_cons (c := '[') (by decide), skipBlanks_cons (c := ']') (by decide)]
  | cons e elements =>
    obtain ⟨c, s, hcons, hblank, hend⟩ :=
      exists_renderElements_eq_cons (hplain e List.mem_cons_self) elements
    have hread := elements?_render (List.cons_ne_nil e elements) h (n := n) (by omega) rest
    rw [hcons] at hread ⊢
    simp only [List.cons_append, List.append_assoc, List.nil_append] at hread ⊢
    rw [value?_bracket hblank hend, hread]
    rfl

/-! ### Objects -/

theorem renderMembers_cons_cons (m m' : Option String × Json) (rest : List (Option String × Json)) :
    renderMembers (m :: m' :: rest) =
      quoteText m.1 ++ ':' :: (render m.2 ++ ',' :: renderMembers (m' :: rest)) := by
  rw [renderMembers]
  · simp
  · simp

theorem renderMembers_singleton (m : Option String × Json) :
    renderMembers [m] = quoteText m.1 ++ ':' :: render m.2 := by
  rw [renderMembers]

/-- The members of an object are read back up to its end. -/
theorem members?_render {members : List (String × Json)} (hne : members ≠ [])
    (h : ∀ m ∈ members, ReadsBack m.2) {n : Nat}
    (hn : (renderMembers (members.map fun m => (some m.1, m.2))).length < n)
    (rest : List Char) :
    members? n (renderMembers (members.map fun m => (some m.1, m.2)) ++ '}' :: rest) =
      some (members.map fun m => (some m.1, m.2), rest) := by
  induction members generalizing n with
  | nil => exact absurd rfl hne
  | cons m members ih =>
    obtain ⟨n, rfl⟩ := Nat.exists_eq_add_one_of_ne_zero (Nat.ne_zero_of_lt hn)
    have hm : ReadsBack m.2 := h m List.mem_cons_self
    have hname : ∀ s, expect? ['"'] (skipBlanks ('"' :: s)) = some s := by
      intro s
      rw [skipBlanks_cons (by decide)]
      rfl
    have hcolon : ∀ s, expect? [':'] (skipBlanks (':' :: s)) = some s := by
      intro s
      rw [skipBlanks_cons (by decide)]
      rfl
    cases members with
    | nil =>
      simp only [List.map_cons, List.map_nil, renderMembers_singleton, quoteText_some,
        List.length_append, List.length_cons, List.append_assoc, List.cons_append] at hn ⊢
      have hvalue := hm n _ (by omega) (endsNumber_cons (c := '}') (by decide) rest)
      rw [quote_append, members?, hname]
      simp only [text?_quoted, hcolon, hvalue, skipBlanks_cons (c := '}') (by decide)]
    | cons m' members =>
      simp only [List.map_cons, renderMembers_cons_cons, quoteText_some,
        List.length_append, List.length_cons, List.append_assoc, List.cons_append] at hn ih ⊢
      have hmore := ih (List.cons_ne_nil _ _) (fun x hx => h x (List.mem_cons_of_mem m hx))
        (n := n) (by omega)
      have hvalue := hm n _ (by omega) (endsNumber_cons (c := ',') (by decide)
        (renderMembers ((some m'.1, m'.2) :: members.map fun m => (some m.1, m.2)) ++
          '}' :: rest))
      rw [quote_append, members?, hname]
      simp only [text?_quoted, hcolon, hvalue, skipBlanks_cons (c := ',') (by decide), hmore]
      rfl

theorem exists_renderMembers_eq_cons (m : Option String × Json)
    (members : List (Option String × Json)) :
    ∃ c s, renderMembers (m :: members) = c :: s ∧ Text.isBlank c = false ∧ c ≠ '}' := by
  have hquote : ∃ s, quoteText m.1 = '"' :: s := by
    cases m.1 with
    | none => exact ⟨_, rfl⟩
    | some text => exact ⟨_, rfl⟩
  obtain ⟨s, hquote⟩ := hquote
  have hcons : ∃ s, renderMembers (m :: members) = '"' :: s := by
    cases members with
    | nil => simp [renderMembers_singleton, hquote]
    | cons m' members => simp [renderMembers_cons_cons, hquote]
  obtain ⟨s, hcons⟩ := hcons
  exact ⟨'"', s, hcons, by decide, by decide⟩

theorem value?_brace {n : Nat} {c : Char} {s : List Char} (hblank : Text.isBlank c = false)
    (hend : c ≠ '}') :
    value? (n + 1) ('{' :: c :: s) =
      (members? n (c :: s)).map fun (members, rest) => (.object members, rest) := by
  rw [value?, skipBlanks_cons (by decide)]
  simp only [skipBlanks_cons hblank]
  split
  · next heq => exact absurd (List.cons.inj heq).1 hend
  · rfl

theorem readsBack_members {members : List (String × Json)} (h : ∀ m ∈ members, ReadsBack m.2) :
    ReadsBack (.ofMembers members) := by
  intro n rest hn hend
  rw [ofMembers, render] at hn ⊢
  simp only [List.length_append, List.length_cons, List.length_nil] at hn
  obtain ⟨n, rfl⟩ := Nat.exists_eq_add_one_of_ne_zero (n := n) (by omega)
  cases members with
  | nil =>
    rw [List.map_nil, renderMembers, value?]
    simp [skipBlanks_cons (c := '{') (by decide), skipBlanks_cons (c := '}') (by decide)]
  | cons m members =>
    have hread := members?_render (List.cons_ne_nil m members) h (n := n) (by omega) rest
    rw [List.map_cons] at hread ⊢
    obtain ⟨c, s, hcons, hblank, hend⟩ := exists_renderMembers_eq_cons (some m.1, m.2)
      (members.map fun m => (some m.1, m.2))
    rw [hcons] at hread ⊢
    simp only [List.cons_append, List.append_assoc, List.nil_append] at hread ⊢
    rw [value?_brace hblank hend, hread]
    rfl

/-! ### The whole text -/

theorem IsPlain.readsBack {j : Json} (h : j.IsPlain) : ReadsBack j := by
  induction h with
  | null => exact readsBack_word (.inl rfl)
  | bool value => exact readsBack_word (.inr ⟨value, rfl⟩)
  | integer n => exact readsBack_integer n
  | text text => exact readsBack_text text
  | array hplain ih => exact readsBack_array hplain ih
  | members hplain ih => exact readsBack_members ih

/-- **What is written is read back**: the text of a plain value is a text
of that value and of nothing else. -/
theorem IsPlain.parse?_render {j : Json} (h : j.IsPlain) : parse? (render j) = some j := by
  have hread := h.readsBack ((render j).length + 1) [] (Nat.le_succ _) (by rintro c ⟨⟩)
  rw [List.append_nil] at hread
  rw [parse?, hread]
  rfl

/-! ## One line -/

theorem le_toNat_hexDigit : ∀ n < 16, 0x20 ≤ (hexDigit n).toNat := by
  decide

/-- No control character is left as it is. -/
theorem le_toNat_of_mem_escape {c d : Char} (h : d ∈ escape c) : 0x20 ≤ d.toNat := by
  rcases escape_cases c with ⟨heq, -, -, hcontrol⟩ | ⟨e, heq, hunit⟩ | ⟨heq, hcontrol⟩
  · obtain rfl : d = c := by simpa [heq] using h
    omega
  · have he : 0x20 ≤ e.toNat := by
      unfold escapeUnit? at hunit
      split at hunit <;> first | decide | cases hunit
    rw [heq] at h
    simp only [List.mem_cons, List.not_mem_nil, or_false] at h
    rcases h with rfl | rfl
    · decide
    · exact he
  · have hhigh := le_toNat_hexDigit (c.toNat / 16) (by omega)
    have hlow := le_toNat_hexDigit (c.toNat % 16) (by omega)
    rw [heq] at h
    simp only [List.mem_cons, List.not_mem_nil, or_false] at h
    rcases h with rfl | rfl | rfl | rfl | rfl | rfl
    all_goals first | decide | assumption

/-- A text without control characters. -/
def IsPrinted (s : List Char) : Prop :=
  ∀ c ∈ s, 0x20 ≤ c.toNat

@[simp] theorem isPrinted_nil : IsPrinted [] := by
  simp [IsPrinted]

@[simp] theorem isPrinted_cons {c : Char} {s : List Char} :
    IsPrinted (c :: s) ↔ 0x20 ≤ c.toNat ∧ IsPrinted s := by
  simp [IsPrinted]

@[simp] theorem isPrinted_append {s t : List Char} :
    IsPrinted (s ++ t) ↔ IsPrinted s ∧ IsPrinted t := by
  simp only [IsPrinted, List.mem_append]
  exact ⟨fun h => ⟨fun c hc => h c (.inl hc), fun c hc => h c (.inr hc)⟩,
    fun h c hc => hc.elim (h.1 c) (h.2 c)⟩

theorem isPrinted_quote (text : List Char) : IsPrinted (quote text) := by
  have hescaped : IsPrinted (text.flatMap escape) := by
    intro d hd
    obtain ⟨c, _, hd⟩ := List.mem_flatMap.mp hd
    exact le_toNat_of_mem_escape hd
  simp [quote, hescaped]

theorem isPrinted_integer (n : Int) : IsPrinted (Text.integer n) := by
  intro c hc
  rcases Text.mem_integer hc with rfl | hdigit
  · decide
  · simp only [Char.isDigit, Bool.and_eq_true, decide_eq_true_eq] at hdigit
    have : (48 : UInt32).toNat ≤ c.val.toNat := hdigit.1
    exact Nat.le_trans (by decide) this

theorem isPrinted_renderElements {elements : List Json}
    (h : ∀ e ∈ elements, IsPrinted (render e)) : IsPrinted (renderElements elements) := by
  induction elements with
  | nil => simp [renderElements]
  | cons e elements ih =>
    have hrest := ih fun x hx => h x (List.mem_cons_of_mem e hx)
    cases elements with
    | nil => simpa [renderElements_singleton] using h e List.mem_cons_self
    | cons e' elements => simp [renderElements_cons_cons, h e List.mem_cons_self, hrest]

theorem isPrinted_renderMembers {members : List (String × Json)}
    (h : ∀ m ∈ members, IsPrinted (render m.2)) :
    IsPrinted (renderMembers (members.map fun m => (some m.1, m.2))) := by
  induction members with
  | nil => simp [renderMembers]
  | cons m members ih =>
    have hrest := ih fun x hx => h x (List.mem_cons_of_mem m hx)
    have hm := h m List.mem_cons_self
    cases members with
    | nil =>
      simp [renderMembers_singleton, quoteText_some, isPrinted_quote, hm]
    | cons m' members =>
      simp only [List.map_cons] at hrest ⊢
      simp [renderMembers_cons_cons, quoteText_some, isPrinted_quote, hm, hrest]

/-- **A value is written without control characters**, so its text is one
line whatever the strings in it are. -/
theorem IsPlain.isPrinted_render {j : Json} (h : j.IsPlain) : IsPrinted (render j) := by
  induction h with
  | null => simp [render]
  | bool value => cases value <;> simp [render]
  | integer n => exact isPrinted_integer n
  | text text => exact isPrinted_quote _
  | array _ ih => simp [render, isPrinted_renderElements ih]
  | members _ ih => simp [ofMembers, render, isPrinted_renderMembers ih]

theorem IsPrinted.not_mem_line_end {s : List Char} (h : IsPrinted s) : '\n' ∉ s ∧ '\r' ∉ s :=
  ⟨fun hmem => absurd (h _ hmem) (by decide), fun hmem => absurd (h _ hmem) (by decide)⟩

/-- The text of a value ends with something else than a blank. -/
theorem IsPlain.exists_render_eq_append {j : Json} (h : j.IsPlain) :
    ∃ init d, render j = init ++ [d] ∧ Text.isBlank d = false := by
  cases h with
  | null => exact ⟨"nul".toList, 'l', rfl, by decide⟩
  | bool value =>
    cases value with
    | true => exact ⟨"tru".toList, 'e', rfl, by decide⟩
    | false => exact ⟨"fals".toList, 'e', rfl, by decide⟩
  | integer n =>
    have hword := Text.isWord_integer n
    have hlast := (List.dropLast_concat_getLast hword.ne_nil).symm
    exact ⟨_, _, hlast, hword.notBlank _ (List.getLast_mem hword.ne_nil)⟩
  | text text => exact ⟨_, '"', rfl, by decide⟩
  | array h => exact ⟨_, ']', rfl, by decide⟩
  | members h => exact ⟨_, '}', rfl, by decide⟩

/-- **Blanks around a value are trimmed away**, and nothing of the value. -/
theorem IsPlain.trim_render {j : Json} (h : j.IsPlain) {before after : List Char}
    (hbefore : ∀ b ∈ before, Text.isBlank b = true) (hafter : ∀ b ∈ after, Text.isBlank b = true) :
    Text.trim (before ++ (render j ++ after)) = render j := by
  obtain ⟨c, s, hcons, hc, -⟩ := h.exists_render_eq_cons
  obtain ⟨init, d, happend, hd⟩ := h.exists_render_eq_append
  rw [hcons] at happend ⊢
  exact Text.trim_between hc hd happend hbefore hafter

end CountingHouse.Json

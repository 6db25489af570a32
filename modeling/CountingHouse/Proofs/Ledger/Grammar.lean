/-
CountingHouse.Proofs.Ledger.Grammar — which lines describe an account.

A line that describes an account is an id, a body of transactions, and
the credits. `Body` is the grammar of what may stand between the id and
the credits, one constructor for each way the body may go on, and a
`Derivation` puts the three parts of a line together. A reader does what
the derivation says (`parseAccount_derivation`), it reads nothing that has
none (`exists_derivation`), and no line has two (`Derivation.eq`).

The credits are the last word, whatever it could mean as part of the body.
So the line `BankID_1 D 5` holds a letter without an amount, and credits
of 5.
-/
import CountingHouse.Proofs.Ledger.Line

namespace CountingHouse

namespace Operation

theorem ofLedgerWord?_eq_some_iff {word : List Char} {operation : Operation} :
    ofLedgerWord? word = some operation ↔ word = [operation.letter] := by
  constructor
  · intro h
    simpa [eq_comm] using List.find?_some h
  · rintro rfl
    exact Ledger.ofLedgerWord?_letter operation

theorem ofLedgerWord?_eq_none_iff {word : List Char} :
    ofLedgerWord? word = none ↔ ∀ operation : Operation, word ≠ [operation.letter] := by
  rw [Option.eq_none_iff_forall_ne_some]
  exact forall_congr' fun operation => not_congr ofLedgerWord?_eq_some_iff

theorem eq_of_letter {word : List Char} {o o' : Operation} (h : word = [o.letter])
    (h' : word = [o'.letter]) : o = o' :=
  Option.some.inj
    ((ofLedgerWord?_eq_some_iff.mpr h).symm.trans (ofLedgerWord?_eq_some_iff.mpr h'))

end Operation

namespace Ledger

/-! ## The grammar -/

/-- The words between the id and the credits of a line. -/
inductive Body : List (List Char) → Type where
  | nothing : Body []
  /-- A zero ends the body, whatever follows it. -/
  | ended {word : List Char} (rest : List (List Char)) (hzero : word = ['0']) : Body (word :: rest)
  /-- An operation that nothing follows is dropped. -/
  | dangling {word : List Char} (operation : Operation) (hletter : word = [operation.letter]) :
    Body [word]
  /-- Any other word that is no operation is passed over. -/
  | passed {word : List Char} {rest : List (List Char)} (hzero : word ≠ ['0'])
    (hletter : ∀ operation : Operation, word ≠ [operation.letter]) (body : Body rest) :
    Body (word :: rest)
  /-- An operation and its amount make a booking. -/
  | booked {word numeral : List Char} {rest : List (List Char)} (operation : Operation)
    (amount : UInt32) (hletter : word = [operation.letter])
    (hamount : Text.Numeral numeral amount.toNat) (body : Body rest) :
    Body (word :: numeral :: rest)

namespace Body

/-- The operations with their amounts, in order. -/
def bookings {ws : List (List Char)} : Body ws → List (Operation × UInt32)
  | nothing | ended .. | dangling .. => []
  | passed _ _ body => body.bookings
  | booked operation amount _ _ body => (operation, amount) :: body.bookings

/-- **A body has one derivation.** The first word decides which
constructor it begins with, together with whether anything follows a
letter. -/
theorem eq {ws : List (List Char)} (b b' : Body ws) : b = b' := by
  induction b with
  | nothing =>
    cases b'
    rfl
  | ended rest hzero =>
    cases b' with
    | ended => rfl
    | dangling _ hletter | booked _ _ hletter =>
      exact absurd (hletter.symm.trans hzero) (letter_ne_zero _)
    | passed hnot => exact absurd hzero hnot
  | dangling operation hletter =>
    cases b' with
    | ended _ hzero => exact absurd (hletter.symm.trans hzero) (letter_ne_zero _)
    | dangling operation' hletter' =>
      cases Operation.eq_of_letter hletter hletter'
      rfl
    | passed _ hnot => exact absurd hletter (hnot operation)
  | passed hnotZero hnot body ih =>
    cases b' with
    | ended _ hzero => exact absurd hzero hnotZero
    | dangling operation hletter | booked operation _ hletter =>
      exact absurd hletter (hnot operation)
    | passed _ _ body' => rw [ih body']
  | booked operation amount hletter hamount body ih =>
    cases b' with
    | ended _ hzero => exact absurd (hletter.symm.trans hzero) (letter_ne_zero _)
    | passed _ hnot => exact absurd hletter (hnot operation)
    | booked operation' amount' hletter' hamount' body' =>
      cases Operation.eq_of_letter hletter hletter'
      cases hamount.amount_eq hamount'
      rw [ih body']

/-- The bookings as transactions of an account. -/
def transactions (id : BankId) {ws : List (List Char)} (b : Body ws) : List Transaction :=
  b.bookings.map fun (operation, amount) => ⟨id, operation, amount⟩

end Body

/-! ## Reading the body -/

/-- What the grammar derives is read. -/
theorem transactions_body (id : BankId) {ws : List (List Char)} (b : Body ws) :
    transactions id ws = .ok (b.transactions id) := by
  induction b with
  | nothing => rfl
  | ended rest hzero => rw [transactions.eq_def]; simp [hzero, Body.transactions, Body.bookings]
  | dangling operation hletter =>
    rw [transactions.eq_def]
    simp only [hletter, letter_ne_zero, ofLedgerWord?_letter, if_false]
    rfl
  | passed hzero hletter body ih =>
    rw [transactions.eq_def]
    simp only [hzero, Operation.ofLedgerWord?_eq_none_iff.mpr hletter, if_false]
    exact ih
  | booked operation amount hletter hamount body ih =>
    rw [transactions.eq_def]
    simp only [hletter, letter_ne_zero, ofLedgerWord?_letter, if_false,
      Text.uint32?_eq_some_iff.mpr hamount, ih]
    rfl

/-- What is read has a derivation. -/
theorem exists_body {id : BankId} {ws : List (List Char)} {ts : List Transaction}
    (h : transactions id ws = .ok ts) : Nonempty (Body ws) := by
  fun_induction transactions id ws generalizing ts with
  | case1 => exact ⟨.nothing⟩
  | case2 rest => exact ⟨.ended rest rfl⟩
  | case3 word rest hzero hletter ih =>
    obtain ⟨body⟩ := ih h
    exact ⟨.passed hzero (Operation.ofLedgerWord?_eq_none_iff.mp hletter) body⟩
  | case4 word hzero operation hletter =>
    exact ⟨.dangling operation (Operation.ofLedgerWord?_eq_some_iff.mp hletter)⟩
  | case5 => cases h
  | case6 word hzero operation hletter numeral rest amount hamount ih =>
    obtain ⟨us, hus, -⟩ := exists_of_map_eq_ok h
    obtain ⟨body⟩ := ih hus
    exact ⟨.booked operation amount (Operation.ofLedgerWord?_eq_some_iff.mp hletter)
      (Text.uint32?_eq_some_iff.mp hamount) body⟩

/-! ## Whole lines -/

/-- How a line describes an account. -/
structure Derivation (line : List Char) where
  id : BankId
  /-- The words between the id and the credits. -/
  inner : List (List Char)
  body : Body inner
  /-- The word of the credits. -/
  last : List Char
  credits : Int64
  hcredits : Text.SignedNumeral last credits.toInt
  hwords : Text.Splits line (id.text.toList :: (inner ++ [last]))

/-- What a derivation says of the account. -/
def Derivation.entry {line : List Char} (d : Derivation line) : Entry :=
  ⟨d.id, d.body.transactions d.id, d.credits⟩

theorem parseAccount_derivation {line : List Char} (d : Derivation line) :
    parseAccount line = .ok d.entry := by
  have hlast : (d.inner ++ [d.last]).getLast? = some d.last := List.getLast?_concat
  rw [parseAccount, Text.words_eq_iff.mpr d.hwords, entryOfWords, String.ofList_toList]
  simp only [BankId.ofString_text, hlast, Text.int64?_eq_some_iff.mpr d.hcredits,
    List.dropLast_concat, transactions_body d.id d.body]
  rfl

theorem exists_derivation {line : List Char} {e : Entry} (h : parseAccount line = .ok e) :
    Nonempty (Derivation line) := by
  obtain ⟨ws, last, hwords, hlast, hcredits⟩ := words_of_parseAccount h
  obtain ⟨inner, rfl⟩ := List.getLast?_eq_some_iff.mp hlast
  rw [parseAccount, hwords, entryOfWords, String.ofList_toList] at h
  simp only [BankId.ofString_text, hlast, hcredits, List.dropLast_concat] at h
  obtain ⟨ts, hts, -⟩ := exists_of_map_eq_ok h
  obtain ⟨body⟩ := exists_body hts
  exact ⟨⟨e.id, inner, body, last, e.credits, Text.int64?_eq_some_iff.mp hcredits,
    Text.words_eq_iff.mp hwords⟩⟩

/-- A line has one derivation. -/
theorem Derivation.eq {line : List Char} (d d' : Derivation line) : d = d' := by
  have hentry := (parseAccount_derivation d).symm.trans (parseAccount_derivation d')
  have hwords := (Text.words_eq_iff.mpr d.hwords).symm.trans (Text.words_eq_iff.mpr d'.hwords)
  obtain ⟨id, inner, body, last, credits, _, _⟩ := d
  obtain ⟨id', inner', body', last', credits', _, _⟩ := d'
  obtain ⟨rfl, -, rfl⟩ := Entry.mk.inj (Except.ok.inj hentry)
  obtain ⟨rfl, hlast⟩ := List.append_inj' (List.cons.inj hwords).2 rfl
  cases hlast
  rw [body.eq body']

/-- **A line describes an account exactly when it has a derivation**, and it
has no more than one. The account has the id and the credits of the
derivation, it counts all its bookings, and it keeps the last 1024 of them
in order. -/
theorem parseAccount_grammar (line : List Char) :
    ((∃ e, parseAccount line = .ok e) ↔ Nonempty (Derivation line)) ∧
    (∀ d : Derivation line, ∃ e, parseAccount line = .ok e ∧
      e.account =
        { bankId := d.id
          credits := d.credits
          history := (d.body.bookings.drop (d.body.bookings.length - 1024)).map
            fun (operation, amount) => ⟨d.id, operation, amount⟩
          count := d.body.bookings.length }) ∧
    (∀ (ws : List (List Char)) (b b' : Body ws), b = b') ∧
    ∀ d d' : Derivation line, d = d' := by
  refine ⟨⟨fun ⟨e, he⟩ => exists_derivation he, fun ⟨d⟩ => ⟨_, parseAccount_derivation d⟩⟩,
    fun d => ⟨_, parseAccount_derivation d, ?_⟩, fun _ => Body.eq, Derivation.eq⟩
  rw [Entry.account, Derivation.entry, Account.restored_eq]
  simp [Body.transactions, List.map_drop, Account.historyLimit]

/-- Two bookings, one of them of nothing, a word that is passed over and a
letter whose place of an amount the credits have taken. -/
example : (parseAccount "BankID_1 D +05 x W 0 D -3".toList).toOption.map
    (fun e => (e.history.map (·.amount), e.credits)) = some ([5, 0], -3) := by
  decide +kernel

end Ledger

end CountingHouse

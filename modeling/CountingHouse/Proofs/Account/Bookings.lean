/-
CountingHouse.Proofs.Account.Bookings — what any number of transactions
come to.

`book` carries out transactions one after another and keeps a record of
each. `Booking.Sound` is what holds of one of them: which transactions are
refused and how, what the others do to the credits, and when the account
is empty. `Amounts` says what all of them together have done to the
account. The credits are added up along the records. The history is that
of an account which has recorded the accepted transactions and nothing
else (`exists_foldl_record`), so it is the end of all there were.

The credits an account begins with need not agree with its history, and
the history it is made from may be longer than the one it keeps.
-/
import CountingHouse.Proofs.Account
import Mathlib.Algebra.BigOperators.Group.List.Basic
import Mathlib.Algebra.Ring.Int.Defs
import Mathlib.Data.List.DropRight

namespace CountingHouse.Account

/-! ## Records -/

/-- The record of one transaction that was carried out or refused. -/
structure Booking where
  before : Account
  transaction : Transaction
  response : Response
  after : Account

/-- Carries out transactions in order and keeps the record of each. -/
def book (a : Account) : List Transaction → List Booking × Account
  | [] => ([], a)
  | t :: rest =>
    let (response, after) := a.apply t
    let (bookings, last) := after.book rest
    (⟨a, t, response, after⟩ :: bookings, last)

namespace Booking

/-- Was the transaction carried out, as the answer says? -/
def isAccepted (b : Booking) : Bool :=
  b.response.isAccepted

/-- The transactions that were carried out, in order. -/
def accepted (bookings : List Booking) : List Transaction :=
  (bookings.filter isAccepted).map transaction

/-- What the transactions that were carried out add to the credits. -/
def moved (bookings : List Booking) : Int :=
  ((accepted bookings).map Transaction.signedAmount).sum

/-- What holds of one transaction, carried out or refused. -/
structure Sound (b : Booking) : Prop where
  /-- A withdrawal is refused when it exceeds the credits of the moment. -/
  insufficient : b.response = .insufficientCredits ↔
    b.transaction.operation = .withdraw ∧ b.before.credits.toInt < b.transaction.amount.toNat
  /-- A deposit is refused when the sum is no sixty-four bit integer. -/
  failed : b.response = .failure ↔
    b.transaction.operation = .deposit ∧
      0x7FFFFFFFFFFFFFFF < b.before.credits.toInt + b.transaction.amount.toNat
  /-- A refusal changes nothing. -/
  refused : b.isAccepted = false → b.after = b.before
  /-- The exact sum of an accepted transaction is a sixty-four bit
  integer. -/
  inRange : b.isAccepted = true →
    -0x8000000000000000 ≤ b.before.credits.toInt + b.transaction.signedAmount ∧
      b.before.credits.toInt + b.transaction.signedAmount ≤ 0x7FFFFFFFFFFFFFFF
  /-- An account is deleted by what leaves it without credits. -/
  deleted : b.response = .accountDeleted ↔ b.isAccepted = true ∧ b.after.credits = 0
  /-- There is always an answer. -/
  final : b.response ≠ .pending

end Booking

open Booking

/-- The record of a transaction that is carried out now. -/
def booking (a : Account) (t : Transaction) : Booking :=
  ⟨a, t, (a.apply t).1, (a.apply t).2⟩

theorem book_cons (a : Account) (t : Transaction) (rest : List Transaction) :
    a.book (t :: rest) =
      (a.booking t :: ((a.apply t).2.book rest).1, ((a.apply t).2.book rest).2) := rfl

theorem accepted_cons (b : Booking) (rest : List Booking) :
    accepted (b :: rest) = if b.isAccepted then b.transaction :: accepted rest else accepted rest := by
  by_cases h : b.isAccepted = true <;> simp [accepted, h]

theorem moved_cons (b : Booking) (rest : List Booking) :
    moved (b :: rest) =
      (if b.isAccepted then b.transaction.signedAmount else 0) + moved rest := by
  by_cases h : b.isAccepted = true <;> simp [moved, accepted_cons, h]

/-! ## One transaction -/

theorem deposited?_eq_none_iff {credits : Int64} {amount : UInt32} :
    deposited? credits amount = none ↔
      0x7FFFFFFFFFFFFFFF < credits.toInt + amount.toNat := by
  simp only [deposited?]
  split
  · simp
    omega
  · simp
    omega

theorem withdrawn?_eq_none_iff {credits : Int64} {amount : UInt32} :
    withdrawn? credits amount = none ↔ credits.toInt < amount.toNat := by
  simp [withdrawn?]

/-- What a transaction is refused with, and why. -/
theorem balanceAfter_eq_error_iff {credits : Int64} {t : Transaction} {refusal : Response} :
    balanceAfter credits t = .error refusal ↔
      (refusal = .failure ∧ t.operation = .deposit ∧
        0x7FFFFFFFFFFFFFFF < credits.toInt + t.amount.toNat) ∨
      (refusal = .insufficientCredits ∧ t.operation = .withdraw ∧
        credits.toInt < t.amount.toNat) := by
  unfold balanceAfter
  cases t.operation with
  | deposit =>
    rw [← deposited?_eq_none_iff]
    cases deposited? credits t.amount <;> simp [eq_comm]
  | withdraw =>
    rw [← withdrawn?_eq_none_iff]
    cases withdrawn? credits t.amount <;> simp [eq_comm]

/-- The answer of an account is the refusal, if there is one. -/
theorem apply_eq_refusal_iff (a : Account) (t : Transaction) (refusal : Response)
    (h : refusal.isAccepted = false) :
    (a.apply t).1 = refusal ↔ balanceAfter a.credits t = .error refusal := by
  rcases apply_cases a t with ⟨r, hbalance, heq⟩ | ⟨credits, hbalance, heq⟩
  · simp [heq, hbalance]
  · rw [heq, hbalance]
    constructor
    · rintro rfl
      split at h <;> cases h
    · intro hno
      cases hno

theorem sound_booking (a : Account) (t : Transaction) : (a.booking t).Sound where
  insufficient := by
    have hrefusal := apply_eq_refusal_iff a t .insufficientCredits rfl
    simp [booking, hrefusal, balanceAfter_eq_error_iff]
  failed := by
    have hrefusal := apply_eq_refusal_iff a t .failure rfl
    simp [booking, hrefusal, balanceAfter_eq_error_iff]
  refused := apply_of_refused
  inRange := by
    intro haccepted
    have haccepted : (a.apply t).1.isAccepted = true := haccepted
    have hcredits := credits_apply a t
    rw [if_pos haccepted] at hcredits
    have hlow := (a.apply t).2.credits.le_toInt
    have hhigh := (a.apply t).2.credits.toInt_lt
    simp only [booking]
    omega
  deleted := by
    rcases apply_cases a t with ⟨r, hbalance, heq⟩ | ⟨credits, _, heq⟩
    · rcases balanceAfter_eq_error_iff.mp hbalance with ⟨rfl, _⟩ | ⟨rfl, _⟩ <;>
        simp [booking, isAccepted, heq, Response.isAccepted]
    · by_cases hzero : credits = 0 <;>
        simp [booking, isAccepted, heq, hzero, Response.isAccepted, record]
  final := by
    intro hpending
    have hrefused : balanceAfter a.credits t = .error .pending :=
      (apply_eq_refusal_iff a t .pending rfl).mp hpending
    rcases balanceAfter_eq_error_iff.mp hrefused with ⟨h, _⟩ | ⟨h, _⟩ <;> cases h

/-! ## Any number of transactions -/

theorem transactions_book (a : Account) (ts : List Transaction) :
    (a.book ts).1.map Booking.transaction = ts := by
  induction ts generalizing a with
  | nil => rfl
  | cons t rest ih => simp [book_cons, booking, ih]

theorem sound_of_mem_book {a : Account} {ts : List Transaction} :
    ∀ b ∈ (a.book ts).1, b.Sound := by
  induction ts generalizing a with
  | nil =>
    intro b hb
    cases hb
  | cons t rest ih =>
    intro b hb
    rw [book_cons] at hb
    rcases List.mem_cons.mp hb with rfl | hb
    · exact sound_booking a t
    · exact ih b hb

/-- The credits before each transaction are those of the beginning and what
has been carried out since. -/
theorem credits_before_book (a : Account) (ts : List Transaction) {k : Nat} {b : Booking}
    (h : (a.book ts).1[k]? = some b) :
    b.before.credits.toInt = a.credits.toInt + moved ((a.book ts).1.take k) := by
  induction ts generalizing a k with
  | nil => simp [book] at h
  | cons t rest ih =>
    rw [book_cons] at h ⊢
    cases k with
    | zero =>
      simp only [List.getElem?_cons_zero, Option.some.injEq] at h
      subst h
      simp [booking, moved, accepted]
    | succ k =>
      have hafter := ih (a.apply t).2 h
      rw [hafter, List.take_succ_cons, moved_cons, credits_apply, Int.add_assoc]
      rfl

theorem credits_book (a : Account) (ts : List Transaction) :
    (a.book ts).2.credits.toInt = a.credits.toInt + moved (a.book ts).1 := by
  induction ts generalizing a with
  | nil => simp [book, moved, accepted]
  | cons t rest ih =>
    rw [book_cons, ih (a.apply t).2, moved_cons, credits_apply, Int.add_assoc]
    rfl

/-- A transaction as an account records it. -/
def filedUnder (id : BankId) (t : Transaction) : Transaction :=
  { t with bankId := id }

/-- But for its credits an account is what it was, with the accepted
transactions recorded. -/
theorem exists_foldl_record (a : Account) (ts : List Transaction) :
    ∃ credits, (a.book ts).2 =
      ((accepted (a.book ts).1).map (filedUnder a.bankId)).foldl record { a with credits } := by
  induction ts generalizing a with
  | nil => exact ⟨a.credits, rfl⟩
  | cons t rest ih =>
    obtain ⟨credits, hlast⟩ := ih (a.apply t).2
    rw [apply_bankId] at hlast
    refine ⟨credits, ?_⟩
    rw [book_cons, hlast, accepted_cons]
    by_cases h : (a.booking t).isAccepted = true
    · rw [if_pos h, List.map_cons, List.foldl_cons]
      rcases apply_cases a t with ⟨r, hbalance, heq⟩ | ⟨balance, _, heq⟩
      · rw [isAccepted, booking, isAccepted_apply, hbalance] at h
        cases h
      · rw [heq]
        rfl
    · rw [if_neg h, apply_of_refused (Bool.eq_false_iff.mpr h)]

/-- The end of a list, when it may be shorter. -/
theorem rtake_min {α : Type} (n : Nat) (l : List α) :
    l.rtake (min n l.length) = l.drop (l.length - n) := by
  have hlength : l.length - min n l.length = l.length - n := by omega
  rw [List.rtake, hlength]

/-- What transactions have done to an account that was made from a
history. -/
structure Amounts (start : Account) (given ts : List Transaction) (bookings : List Booking)
    (last : Account) : Prop where
  /-- There is a record of every transaction. -/
  recorded : bookings.map Booking.transaction = ts
  /-- Each of them was accepted or refused by the rule. -/
  sound : ∀ b ∈ bookings, b.Sound
  /-- The credits of each moment are an exact sum. -/
  meanwhile : ∀ k b, bookings[k]? = some b →
    b.before.credits.toInt = start.credits.toInt + moved (bookings.take k)
  bankId : last.bankId = start.bankId
  credits : last.credits.toInt = start.credits.toInt + moved bookings
  /-- The history is the end of all that was recorded. -/
  history :
    let all := given ++ (accepted bookings).map (filedUnder start.bankId)
    last.history = all.rtake (min historyLimit all.length)
  count : last.count = start.count + (accepted bookings).length

/-- The ways an account comes into being, and the history it is made
from. -/
inductive Begins : Account → List Transaction → Prop where
  | opened (id : BankId) : Begins (.opened id) []
  | restored (id : BankId) (given : List Transaction) (credits : Int64) :
    Begins (.restored id given credits) given

theorem Begins.eq {start : Account} {given : List Transaction} (h : Begins start given) :
    start.history = given.drop (given.length - historyLimit) ∧ start.count = given.length := by
  cases h with
  | opened id => simp [Account.opened]
  | restored id given credits => simp [restored_eq]

/-- **What any run of an account amounts to.** Whatever history and credits
an account is made from and whatever is asked of it, its credits are an
exact sum at every moment and in the end, its history is the end of the
one it was made from and the accepted transactions under its own id, and
its count is of all of them. Each answer is the one that the credits of
the moment call for. -/
theorem book_amounts {start : Account} {given : List Transaction} (h : Begins start given)
    (ts : List Transaction) :
    start.count = given.length ∧
      Amounts start given ts (start.book ts).1 (start.book ts).2 := by
  obtain ⟨hhistory, hcount⟩ := h.eq
  obtain ⟨credits, hlast⟩ := exists_foldl_record start ts
  have hkept : start.history.length ≤ historyLimit := by
    rw [hhistory, List.length_drop]
    omega
  rw [foldl_record (a := { start with credits }) hkept] at hlast
  refine ⟨hcount, transactions_book start ts, sound_of_mem_book,
    fun k b => credits_before_book start ts, ?_, credits_book start ts, ?_, ?_⟩
  · rw [hlast]
  · -- what was dropped in the beginning is part of what is dropped in all
    have hnone : ([] : List Transaction).length ≤ historyLimit := Nat.zero_le _
    have hdrop := drop_append_drop hnone given
      ((accepted (start.book ts).1).map (filedUnder start.bankId))
    simp only [List.nil_append, List.length_nil, Nat.zero_add, ← hhistory] at hdrop
    simp only [hlast]
    rw [hdrop, rtake_min]
  · rw [hlast, List.length_map]

/-- A debt, made from more transactions than are kept, is paid to the last
credit, and then there is nothing to withdraw. -/
theorem book_amounts_debt :
    let id : BankId := ⟨"BankID_1", by decide⟩
    let given := List.replicate 1030 ⟨⟨"BankID_2", by decide⟩, .withdraw, 7⟩
    let start := Account.restored id given (-5)
    let ts : List Transaction :=
      [⟨⟨"N", by decide⟩, .deposit, 5⟩, ⟨id, .withdraw, 1⟩, ⟨id, .withdraw, 0⟩]
    start.count = given.length ∧
      Amounts start given ts (start.book ts).1 (start.book ts).2 :=
  book_amounts (.restored _ _ _) _

end CountingHouse.Account

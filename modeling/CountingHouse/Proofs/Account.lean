/-
CountingHouse.Proofs.Account — what an account keeps of its
transactions, and what they do to its balance.

Recording is a bounded list: `foldl_record` says that any number of
transactions leaves the most recent ones, in their order, and a count of
all of them. `Filed` is what holds of every account of the bank: the
history is within its bound and every transaction in it stands under the
account's own id.

The balance changes by exactly the amount of a transaction that is
accepted (`credits_apply`), and a transaction that is not changes nothing
at all (`apply_of_refused`).
-/
import CountingHouse.Account

namespace CountingHouse.Account

/-! ## Recording -/

/-- One more transaction pushes out the oldest only when there is no
room. -/
theorem record_eq {a : Account} (ha : a.history.length ≤ historyLimit) (t : Transaction) :
    a.record t =
      { a with
        history := (a.history ++ [t]).drop (a.history.length + 1 - historyLimit)
        count := a.count + 1 } := by
  have hkept : (if a.history.length = historyLimit then a.history.tail else a.history) ++ [t] =
      (a.history ++ [t]).drop (a.history.length + 1 - historyLimit) := by
    split
    · next hfull =>
      have hpos : 1 ≤ a.history.length := by rw [hfull]; decide
      rw [show a.history.length + 1 - historyLimit = 1 by omega,
        List.drop_append_of_le_length hpos, List.drop_one]
    · rw [show a.history.length + 1 - historyLimit = 0 by omega, List.drop_zero]
  rw [record, hkept]

/-- Dropping what is too much after each part or once at the end comes
to the same. -/
theorem drop_append_drop {α : Type} {limit : Nat} {kept : List α} (h : kept.length ≤ limit)
    (more new : List α) :
    let next := (kept ++ more).drop (kept.length + more.length - limit)
    (next ++ new).drop (next.length + new.length - limit) =
      (kept ++ (more ++ new)).drop (kept.length + (more ++ new).length - limit) := by
  have happend : (kept ++ more).drop (kept.length + more.length - limit) ++ new =
      (kept ++ (more ++ new)).drop (kept.length + more.length - limit) := by
    rw [← List.drop_append_of_le_length (by rw [List.length_append]; omega), List.append_assoc]
  simp only [happend, List.drop_drop, List.length_drop, List.length_append]
  congr 1
  omega

/-- **The history after any number of transactions** is the end of all
that were recorded. -/
theorem foldl_record {a : Account} (ha : a.history.length ≤ historyLimit)
    (ts : List Transaction) :
    ts.foldl record a =
      { a with
        history := (a.history ++ ts).drop (a.history.length + ts.length - historyLimit)
        count := a.count + ts.length } := by
  induction ts generalizing a with
  | nil => simp [Nat.sub_eq_zero_of_le ha]
  | cons t ts ih =>
    have hnext : (a.record t).history.length ≤ historyLimit := by
      rw [record_eq ha, List.length_drop, List.length_append, List.length_singleton]
      omega
    have hdrop := drop_append_drop ha [t] ts
    rw [List.length_singleton, List.singleton_append] at hdrop
    rw [List.foldl_cons, ih hnext]
    simp only [record_eq ha, hdrop, List.length_cons, Nat.add_assoc, Nat.add_comm 1]

/-- What the ledger makes of the transactions on a line. -/
theorem restored_eq (id : BankId) (ts : List Transaction) (credits : Int64) :
    restored id ts credits = ⟨id, credits, ts.drop (ts.length - historyLimit), ts.length⟩ := by
  have hopened : (opened id).history.length ≤ historyLimit := by simp [opened]
  rw [restored, foldl_record hopened]
  simp [opened]

/-! ## Accounts of the bank -/

/-- The history is within its bound and under the account's own id. -/
structure Filed (a : Account) : Prop where
  bounded : a.history.length ≤ historyLimit
  own : ∀ t ∈ a.history, t.bankId = a.bankId

theorem Filed.opened (id : BankId) : (opened id).Filed :=
  ⟨by simp [Account.opened], fun _ ht => absurd ht List.not_mem_nil⟩

theorem Filed.restored {id : BankId} {ts : List Transaction} (h : ∀ t ∈ ts, t.bankId = id)
    (credits : Int64) : (restored id ts credits).Filed := by
  rw [restored_eq]
  constructor <;> simp only
  · rw [List.length_drop]
    omega
  · intro t ht
    exact h t (List.mem_of_mem_drop ht)

theorem Filed.record {a : Account} (ha : a.Filed) {t : Transaction} (ht : t.bankId = a.bankId) :
    (a.record t).Filed := by
  rw [record_eq ha.bounded]
  constructor <;> simp only
  · rw [List.length_drop, List.length_append, List.length_singleton]
    omega
  · intro u hu
    rcases List.mem_append.mp (List.mem_of_mem_drop hu) with hu | hu
    · exact ha.own u hu
    · rw [List.mem_singleton.mp hu, ht]

/-- What carrying out a transaction can do to an account. -/
theorem apply_cases (a : Account) (t : Transaction) :
    (∃ refusal, balanceAfter a.credits t = .error refusal ∧ a.apply t = (refusal, a)) ∨
    (∃ credits, balanceAfter a.credits t = .ok credits ∧
      a.apply t = (if credits = 0 then .accountDeleted else .success,
        { a with credits }.record { t with bankId := a.bankId })) := by
  rw [apply]
  cases h : balanceAfter a.credits t with
  | error refusal => exact .inl ⟨refusal, rfl, rfl⟩
  | ok credits => exact .inr ⟨credits, rfl, by simp [isDeleted, Account.record]⟩

theorem apply_bankId (a : Account) (t : Transaction) : (a.apply t).2.bankId = a.bankId := by
  rcases apply_cases a t with ⟨_, _, h⟩ | ⟨_, _, h⟩ <;> rw [h]
  rfl

theorem Filed.apply {a : Account} (ha : a.Filed) (t : Transaction) : (a.apply t).2.Filed := by
  rcases apply_cases a t with ⟨_, _, h⟩ | ⟨credits, _, h⟩ <;> rw [h]
  · exact ha
  · exact Filed.record (a := { a with credits }) ⟨ha.bounded, ha.own⟩ rfl

/-! ## Balances -/

theorem toInt_of_deposited? {credits balance : Int64} {amount : UInt32}
    (h : deposited? credits amount = some balance) :
    balance.toInt = credits.toInt + amount.toNat := by
  have hlow := credits.le_toInt
  simp only [deposited?] at h
  split at h
  · next hroom =>
    rw [← Option.some.inj h, Int64.toInt_ofInt_of_le (by omega) (by omega)]
  · cases h

theorem toInt_of_withdrawn? {credits balance : Int64} {amount : UInt32}
    (h : withdrawn? credits amount = some balance) :
    balance.toInt = credits.toInt - amount.toNat ∧ amount.toNat ≤ credits.toInt := by
  have hhigh := credits.toInt_lt
  simp only [withdrawn?] at h
  split at h
  · next hcovered =>
    rw [← Option.some.inj h, Int64.toInt_ofInt_of_le (by omega) (by omega)]
    exact ⟨rfl, hcovered⟩
  · cases h

/-- What a transaction can do to a balance. -/
theorem balanceAfter_cases (credits : Int64) (t : Transaction) :
    (∃ refusal, balanceAfter credits t = .error refusal ∧
      (refusal = .failure ∨ refusal = .insufficientCredits)) ∨
    (∃ balance, balanceAfter credits t = .ok balance ∧
      balance.toInt = credits.toInt + t.signedAmount ∧
      (0 ≤ credits.toInt → 0 ≤ balance.toInt)) := by
  unfold balanceAfter Transaction.signedAmount
  cases t.operation with
  | deposit =>
    cases h : deposited? credits t.amount with
    | none => exact .inl ⟨.failure, rfl, .inl rfl⟩
    | some balance =>
      have hsum := toInt_of_deposited? h
      exact .inr ⟨balance, rfl, hsum, by omega⟩
  | withdraw =>
    cases h : withdrawn? credits t.amount with
    | none => exact .inl ⟨.insufficientCredits, rfl, .inr rfl⟩
    | some balance =>
      obtain ⟨hdifference, hcovered⟩ := toInt_of_withdrawn? h
      exact .inr ⟨balance, rfl, by simp only; omega, by omega⟩

theorem isAccepted_apply (a : Account) (t : Transaction) :
    (a.apply t).1.isAccepted = (balanceAfter a.credits t).isOk := by
  rcases balanceAfter_cases a.credits t with ⟨refusal, h, hrefusal⟩ | ⟨balance, h, _⟩
  · rw [apply, h]
    rcases hrefusal with rfl | rfl <;> rfl
  · simp only [apply, h]
    split <;> rfl

/-- A transaction that is refused changes nothing of the account. -/
theorem apply_of_refused {a : Account} {t : Transaction}
    (h : (a.apply t).1.isAccepted = false) : (a.apply t).2 = a := by
  rw [isAccepted_apply] at h
  rcases apply_cases a t with ⟨refusal, _, happly⟩ | ⟨credits, hbalance, _⟩
  · rw [happly]
  · rw [hbalance] at h
    cases h

/-- **The balance changes by what is accepted.** -/
theorem credits_apply (a : Account) (t : Transaction) :
    (a.apply t).2.credits.toInt =
      a.credits.toInt + if (a.apply t).1.isAccepted then t.signedAmount else 0 := by
  by_cases h : (a.apply t).1.isAccepted = true
  · rw [if_pos h]
    rw [isAccepted_apply] at h
    rcases balanceAfter_cases a.credits t with ⟨refusal, hbalance, _⟩ | ⟨balance, hbalance, hsum, _⟩
    · rw [hbalance] at h
      cases h
    · simp only [apply, hbalance, record]
      exact hsum
  · rw [if_neg h, apply_of_refused (Bool.eq_false_iff.mpr h), Int.add_zero]

theorem nonneg_apply {a : Account} (h : 0 ≤ a.credits.toInt) (t : Transaction) :
    0 ≤ (a.apply t).2.credits.toInt := by
  rcases balanceAfter_cases a.credits t with
    ⟨refusal, hbalance, _⟩ | ⟨balance, hbalance, _, hnonneg⟩
  · simpa only [apply, hbalance] using h
  · simpa only [apply, hbalance, record] using hnonneg h

end CountingHouse.Account

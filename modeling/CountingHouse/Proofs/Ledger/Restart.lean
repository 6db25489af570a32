/-
CountingHouse.Proofs.Ledger.Restart — nobody can tell that the bank was
closed and opened again.

A restart writes the ledger and reads it back, and what is lost is the
number of transactions that are no longer kept (`Table.reloaded`). Nothing
that is decided later looks at this number: looking up a token sees the
ids, an account sees its credits and its history, and the ledger is
written without it. So two tables that are the same up to the numbers
stay so whatever is submitted to them (`submit_reloaded`), and they give
the same outcomes.
-/
import CountingHouse.Proofs.Clock
import CountingHouse.Proofs.Ledger.RoundTrip

namespace CountingHouse

/-! ## What a reload does not change -/

namespace Account

@[simp] theorem reloaded_reloaded (a : Account) : a.reloaded.reloaded = a.reloaded := rfl

theorem Filed.reloaded {a : Account} (h : a.Filed) : a.reloaded.Filed :=
  ⟨h.bounded, h.own⟩

/-- An account does not look at the number of its transactions. -/
theorem apply_reloaded (a : Account) (x : Transaction) :
    (a.reloaded.apply x).1 = (a.apply x).1 ∧
      (a.reloaded.apply x).2.reloaded = (a.apply x).2.reloaded := by
  unfold apply
  have hcredits : a.reloaded.credits = a.credits := rfl
  rw [hcredits]
  cases balanceAfter a.credits x with
  | error refusal => exact ⟨rfl, rfl⟩
  | ok balance => exact ⟨rfl, rfl⟩

end Account

namespace Table

theorem reloaded_reloaded (t : Table) : t.reloaded.reloaded = t.reloaded := by
  simp [reloaded]

theorem Sound.reloaded {t : Table} (h : t.Sound) : t.reloaded.Sound := by
  refine ⟨h.toWellFormed.reloaded, fun a ha => ?_⟩
  rw [toList_reloaded] at ha
  obtain ⟨b, hb, rfl⟩ := List.mem_map.mp ha
  exact (h.filed b hb).reloaded

theorem reloaded_add_opened (t : Table) (id : BankId) :
    (t.add (.opened id)).reloaded = t.reloaded.add (.opened id) := by
  simp [reloaded, add, size, Account.reloaded, Account.opened]

theorem freeIdFrom_reloaded (t : Table) (attempts n : Nat) :
    t.reloaded.freeIdFrom attempts n = t.freeIdFrom attempts n := by
  induction attempts generalizing n with
  | zero => rfl
  | succ attempts ih =>
    rw [freeIdFrom_succ, freeIdFrom_succ]
    simp only [ih]
    rfl

/-- Looking up a token sees no account but only ids. -/
theorem getOrCreate_reloaded (t : Table) (token : String) :
    t.reloaded.getOrCreate token =
      ((t.getOrCreate token).1, (t.getOrCreate token).2.reloaded) := by
  have hsize : t.reloaded.size = t.size := by simp [reloaded, size]
  have hfree : t.reloaded.freeId = t.freeId := by
    unfold freeId
    rw [hsize, freeIdFrom_reloaded]
    rfl
  unfold getOrCreate
  rw [hfree, hsize]
  split
  · cases t.freeId with
    | error e => rfl
    | ok id => simp only [reloaded_add_opened]
  · cases BankId.ofString token with
    | error e => rfl
    | ok id =>
      have hfind : t.reloaded.find? id = t.find? id := rfl
      simp only [hfind]
      cases t.find? id with
      | none => rfl
      | some position => rfl

theorem apply_reloaded (t : Table) (i : Nat) (x : Transaction) :
    (t.reloaded.apply i x).1 = (t.apply i x).1 ∧
      (t.reloaded.apply i x).2.reloaded = (t.apply i x).2.reloaded := by
  have hget : t.reloaded.get? i = (t.get? i).map Account.reloaded := by
    simp [reloaded, get?]
  unfold apply
  rw [hget]
  cases t.get? i with
  | none => exact ⟨rfl, reloaded_reloaded t⟩
  | some a =>
    obtain ⟨hresponse, hafter⟩ := a.apply_reloaded x
    refine ⟨hresponse, ?_⟩
    simp [reloaded, hafter, Function.comp_def]

/-- **A submission does not look at the numbers of transactions.** -/
theorem submit_reloaded (t : Table) (token : String) (x : Transaction) :
    (t.reloaded.submit token x).1 = (t.submit token x).1 ∧
      (t.reloaded.submit token x).2.reloaded = (t.submit token x).2.reloaded := by
  unfold submit
  rw [getOrCreate_reloaded]
  cases h : t.getOrCreate token with
  | mk result u =>
    cases result with
    | error e => exact ⟨rfl, reloaded_reloaded u⟩
    | ok i =>
      obtain ⟨hresponse, hafter⟩ := u.apply_reloaded i x
      exact ⟨by simp only [hresponse], hafter⟩

theorem Sound.submit {t : Table} (h : t.Sound) (token : String) (x : Transaction) :
    (t.submit token x).2.Sound := by
  have hfound := h.getOrCreate token
  unfold Table.submit
  cases hget : t.getOrCreate token with
  | mk result u =>
    rw [hget] at hfound
    cases result with
    | error e => exact hfound
    | ok i => exact hfound.apply i x

end Table

/-! ## Restarts -/

namespace Ledger

/-- The name and the time under which a bank closes. A bank is called by
something else than blanks, and name and time fit on one line. -/
structure Restart where
  bank : String
  stamp : String
  named : ∃ c ∈ bank.toList, Text.isBlank c = false
  bankOnLine : '\n' ∉ bank.toList
  stampOnLine : '\n' ∉ stamp.toList

/-- Writes the ledger of a table and reads it back. -/
def Restart.reopen (r : Restart) (t : Table) : Except LedgerError Table :=
  match write t r.bank r.stamp .unbounded with
  | (.error fault, _) => .error (.ioFailed fault)
  | (.ok (), sink) => (read (.ofBytes sink.taken)).map Prod.fst

/-- What happens to a bank. -/
inductive Action where
  | submit (token : String) (x : Transaction)
  | restart (r : Restart)

def Action.isSubmission : Action → Bool
  | .submit _ _ => true
  | .restart _ => false

/-- What comes of a submission: an error, or a position and a response;
and the id of the account at this position. -/
structure Outcome where
  result : Except AccountError (Nat × Response)
  id : Option BankId

def outcomeOf (submitted : Except AccountError (Nat × Response) × Table) : Outcome :=
  ⟨submitted.1, submitted.1.toOption.bind fun r => (submitted.2.get? r.1).map Account.bankId⟩

/-- Lets things happen to a bank, one after another. -/
def live (t : Table) : List Action → Except LedgerError (List Outcome × Table)
  | [] => .ok ([], t)
  | .submit token x :: rest =>
    (live (t.submit token x).2 rest).map fun (outcomes, last) =>
      (outcomeOf (t.submit token x) :: outcomes, last)
  | .restart r :: rest =>
    match r.reopen t with
    | .error e => .error e
    | .ok t => live t rest

theorem Restart.reopen_eq (r : Restart) {t : Table} (h : t.Sound) :
    r.reopen t = .ok t.reloaded := by
  have hread := readBytes_render h r.named r.bankOnLine r.stampOnLine
  unfold reopen
  rw [write_unbounded]
  exact congrArg Except.ok hread

/-! ## Life with and without restarts -/

section
variable {t u : Table} (h : t.reloaded = u.reloaded)
include h

theorem ids_eq_of_reloaded : t.ids = u.ids := by
  rw [← Table.ids_reloaded, h, Table.ids_reloaded]

/-- Tables that are the same up to the numbers of transactions give the
same outcome and are the same up to the numbers afterwards. -/
theorem submit_of_reloaded (token : String) (x : Transaction) :
    outcomeOf (t.submit token x) = outcomeOf (u.submit token x) ∧
      (t.submit token x).2.reloaded = (u.submit token x).2.reloaded := by
  obtain ⟨htresult, htafter⟩ := t.submit_reloaded token x
  obtain ⟨huresult, huafter⟩ := u.submit_reloaded token x
  have hresult : (t.submit token x).1 = (u.submit token x).1 := by
    rw [← htresult, h, huresult]
  have hafter : (t.submit token x).2.reloaded = (u.submit token x).2.reloaded := by
    rw [← htafter, h, huafter]
  refine ⟨?_, hafter⟩
  unfold outcomeOf
  simp only [hresult, ← Table.getElem?_ids, ids_eq_of_reloaded hafter]

theorem live_of_reloaded (ht : t.Sound) (hu : u.Sound) (actions : List Action) :
    ∃ outcomes last last', live t actions = .ok (outcomes, last) ∧
      live u (actions.filter Action.isSubmission) = .ok (outcomes, last') ∧
      last.reloaded = last'.reloaded := by
  induction actions generalizing t u with
  | nil => exact ⟨[], t, u, rfl, rfl, h⟩
  | cons action rest ih =>
    cases action with
    | submit token x =>
      obtain ⟨houtcome, hafter⟩ := submit_of_reloaded h token x
      obtain ⟨outcomes, last, last', hlast, hlast', hsame⟩ :=
        ih hafter (ht.submit token x) (hu.submit token x)
      refine ⟨outcomeOf (t.submit token x) :: outcomes, last, last', ?_, ?_, hsame⟩
      · rw [live, hlast]
        rfl
      · rw [List.filter_cons_of_pos rfl, live, hlast', houtcome]
        rfl
    | restart r =>
      -- only the first bank is restarted, and it is the same up to the numbers
      have hreloaded : t.reloaded.reloaded = u.reloaded := by
        rw [Table.reloaded_reloaded, h]
      obtain ⟨outcomes, last, last', hlast, hlast', hsame⟩ := ih hreloaded ht.reloaded hu
      refine ⟨outcomes, last, last', ?_, ?_, hsame⟩
      · rw [live, r.reopen_eq ht]
        exact hlast
      · rw [List.filter_cons_of_neg (by simp [Action.isSubmission])]
        exact hlast'

end

/-- **Restarts are invisible.** Whatever happens to a bank, and however
often it is closed and opened again in between, every submission comes to
what it would come to without the restarts: the same error, or the same
position, id and response. In the end the same ids have been given out and
the same ledger is written. -/
theorem live_restarted {t : Table} (ht : Reachable t) (actions : List Action) :
    ∃ outcomes last last', live t actions = .ok (outcomes, last) ∧
      live t (actions.filter Action.isSubmission) = .ok (outcomes, last') ∧
      last.ids = last'.ids ∧
      ∀ bank stamp sink, write last bank stamp sink = write last' bank stamp sink := by
  obtain ⟨outcomes, last, last', hlast, hlast', hsame⟩ :=
    live_of_reloaded (t := t) rfl ht.sound ht.sound actions
  refine ⟨outcomes, last, last', hlast, hlast', ids_eq_of_reloaded hsame, ?_⟩
  intro bank stamp sink
  rw [← write_reloaded last, hsame, write_reloaded]

/-- An account is opened, emptied after one restart and revived after
another, at the time the clock gives. -/
theorem live_restarted_between_visits :
    let night : Moment := ⟨2025, 2, 2, 23, 5⟩
    let closing : Restart :=
      ⟨"Ada Bank", night.stamp, ⟨'A', by decide, by decide⟩, by decide,
        night.newline_not_mem_stamp⟩
    let id : BankId := ⟨"BankID_1", by decide⟩
    let actions : List Action :=
      [.submit "N" ⟨⟨"N", by decide⟩, .deposit, 5⟩, .restart closing,
        .submit "BankID_1" ⟨id, .withdraw, 5⟩, .restart closing, .restart closing,
        .submit "BankID_1" ⟨id, .deposit, 7⟩, .submit "BankID_2" ⟨id, .deposit, 1⟩]
    ∃ outcomes last last', live .empty actions = .ok (outcomes, last) ∧
      live .empty (actions.filter Action.isSubmission) = .ok (outcomes, last') ∧
      last.ids = last'.ids ∧
      ∀ bank stamp sink, write last bank stamp sink = write last' bank stamp sink :=
  live_restarted .empty _

end Ledger

end CountingHouse

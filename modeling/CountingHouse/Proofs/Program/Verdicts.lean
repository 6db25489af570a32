/-
CountingHouse.Proofs.Program.Verdicts — what a client program would print if
it went to the accounts itself.

`Table.submitAll` submits the transactions of a program one after another,
each under its own id, and knows nothing of servers, tellers and pipes. It is
what the session of the program is measured by. `reports_lines` says that the
program prints its answers when they come from the tellers as lines.
-/
import CountingHouse.Proofs.Channels
import CountingHouse.Proofs.Server.Books

namespace CountingHouse

open Message Program

/-! ## The accounts alone -/

namespace Table

/-- Submits a transaction under its own id. What cannot be submitted has
failed. -/
def submitOwn (t : Table) (x : Transaction) : Response × Table :=
  match t.submit x.bankId.text x with
  | (.ok (_, response), t) => (response, t)
  | (.error _, t) => (.failure, t)

/-- Submits transactions in turn. -/
def submitAll (t : Table) : List Transaction → List Response × Table
  | [] => ([], t)
  | x :: rest =>
    let (verdict, t) := t.submitOwn x
    let (verdicts, t) := t.submitAll rest
    (verdict :: verdicts, t)

theorem submitOwn_eq_answer (t : Table) (x : Transaction) :
    t.submitOwn x = t.answer x.bankId.text x := by
  rw [submitOwn, submit, answer, if_pos rfl]
  rcases t.getOrCreate x.bankId.text with ⟨error | position, t'⟩ <;> rfl

theorem length_submitAll (t : Table) (xs : List Transaction) :
    (t.submitAll xs).1.length = xs.length := by
  induction xs generalizing t with
  | nil => rfl
  | cons x xs ih => exact congrArg Nat.succ (ih _)

end Table

/-! ## The client program -/

namespace Program.Client

/-- The answer of the bank, if the teller has written one. -/
def verdict? (answer : List UInt8) : Option Response :=
  (Text.decode? answer).bind fun text => decode? (Text.trim text)

/-- The line that is printed for a client that has its answer. -/
def verdictLine (place : Nat) (x : Transaction) (r : Response) : String :=
  label place ++ " connected.." ++ x.operation.word ++ " " ++ toString x.amount.toNat ++
    " credits.. " ++ r.description ++ "\n"

/-- The lines for the clients from place `place` on. -/
def verdictLines (place : Nat) : List Transaction → List Response → String
  | x :: xs, r :: rs => verdictLine place x r ++ verdictLines (place + 1) xs rs
  | _, _ => ""

/-- A client that has a teller and an answer is told of it. -/
theorem reports_lines (map : TellerMap) (place : Nat) {xs : List Transaction} {rs : List Response}
    (hlength : rs.length = xs.length)
    (hmap : ∀ k < xs.length, (map.byTeller? (UInt32.ofNat (place + k))).isSome = true) :
    reports map place xs (rs.map Channels.line) = verdictLines place xs rs := by
  induction xs generalizing place rs with
  | nil => cases rs <;> rfl
  | cons x xs ih =>
    cases rs with
    | nil => cases hlength
    | cons r rs =>
      have hfirst := hmap 0 (Nat.succ_pos _)
      rw [Nat.add_zero] at hfirst
      have hrest : ∀ k < xs.length,
          (map.byTeller? (UInt32.ofNat (place + 1 + k))).isSome = true := by
        intro k hk
        have hplace : place + 1 + k = place + (k + 1) := by omega
        rw [hplace]
        exact hmap (k + 1) (Nat.succ_lt_succ hk)
      rw [List.map_cons, reports, if_pos hfirst, List.headD_cons, List.tail_cons, report_line,
        ih (place + 1) (Nat.succ.inj hlength) hrest]
      rfl

end Program.Client

end CountingHouse

/-
CountingHouse.Proofs.Server.Conservation — money comes and goes only by
transactions that are answered as carried out.

The accounts of one envelope that is handled are settled by
`total_handling` and `creditsAt_handling`: what it moves is the amount of
its transaction when it is answered with success or with the deletion of
the account, and nothing otherwise. `handleAll_conserves` adds these up.
Who sent the envelopes does not matter, nor whether the ledger can be
written.
-/
import CountingHouse.Proofs.Server.Handlings
import CountingHouse.Proofs.Table.Money

namespace CountingHouse.Server.Books

/-- The amounts of the handlings with a property, added up. -/
def moved (p : Handling → Bool) (handlings : List Handling) : Int :=
  ((handlings.filter p).map Handling.amount).sum

theorem moved_cons (p : Handling → Bool) (h : Handling) (rest : List Handling) :
    moved p (h :: rest) = (if p h then h.amount else 0) + moved p rest := by
  unfold moved
  by_cases hp : p h = true
  · simp [hp]
  · simp [hp]

/-! ## One envelope -/

section
variable (map : TellerMap) (e : Envelope) (b : Books)

theorem isAccepted_of_answer {h : Handling} {r : Response} (hanswer : h.answer = some r) :
    h.isAccepted = r.isAccepted := by
  rw [Handling.isAccepted, hanswer]
  rfl

theorem total_handling :
    (handling map e b).after.table.total =
      b.table.total + if (handling map e b).isAccepted then (handling map e b).amount else 0 := by
  rcases handling_cases map e b with ⟨a, i, _, _, _, hanswer, htable⟩ | ⟨_, hrefused, htable⟩
  · rw [htable, Table.total_apply, Table.total_getOrCreate, isAccepted_of_answer hanswer]
    rfl
  · simp [htable, hrefused]

theorem creditsAt_handling (i : Nat) :
    (handling map e b).after.table.creditsAt i =
      b.table.creditsAt i +
        if (handling map e b).isAccepted && (handling map e b).destination? map = some i then
          (handling map e b).amount
        else 0 := by
  rcases handling_cases map e b with ⟨a, j, _, hgoes, _, hanswer, htable⟩ | ⟨_, hrefused, htable⟩
  · rw [htable, Table.creditsAt_apply, Table.creditsAt_getOrCreate, isAccepted_of_answer hanswer,
      hgoes]
    simp [handling, Handling.amount]
  · simp [htable, hrefused]

/-- What is refused or discarded changes no account that was there. -/
theorem get?_handling_of_refused (hrefused : (handling map e b).isAccepted = false) {i : Nat}
    (hi : i < b.table.size) : (handling map e b).after.table.get? i = b.table.get? i := by
  rcases handling_cases map e b with ⟨a, j, _, _, _, hanswer, htable⟩ | ⟨_, _, htable⟩
  · rw [isAccepted_of_answer hanswer] at hrefused
    rw [htable, Table.apply_of_refused hrefused, Table.get?_getOrCreate_of_lt hi]
  · rw [htable]

theorem solvent_handling (h : b.table.Solvent) : (handling map e b).after.table.Solvent := by
  rcases handling_cases map e b with ⟨a, i, _, _, _, _, htable⟩ | ⟨_, _, htable⟩
  · rw [htable]
    exact (h.getOrCreate a.client).apply i e.transaction
  · rw [htable]
    exact h

end

/-! ## Any number of envelopes -/

/-- **Money is conserved.** Whatever envelopes are handled, the credits of
all accounts change by the amounts of those that were answered as carried
out, and the credits of each account by the amounts of those that were
routed to it. An account that is opened begins with nothing. All other
envelopes change nothing of the accounts there were, and without debts at
the beginning there are none later. -/
theorem handleAll_conserves (map : TellerMap) (b : Books) (envelopes : List Envelope) :
    let handlings := (b.handleAll map envelopes).1
    let last := (b.handleAll map envelopes).2
    last.table.total - b.table.total = moved Handling.isAccepted handlings ∧
    b.table.ids <+: last.table.ids ∧
    (∀ i, last.table.creditsAt i - b.table.creditsAt i =
      moved (fun h => h.isAccepted && h.destination? map = some i) handlings) ∧
    (∀ h ∈ handlings, h.isAccepted = false → ∀ i < h.before.table.size,
      h.after.table.get? i = h.before.table.get? i) ∧
    (b.table.Solvent → last.table.Solvent) := by
  induction envelopes generalizing b with
  | nil =>
    refine ⟨by simp [handleAll, moved], by simp [handleAll], fun i => by simp [handleAll, moved],
      fun h hh => absurd hh List.not_mem_nil, id⟩
  | cons e rest ih =>
    obtain ⟨htotal, hids, hcredits, hrefused, hsolvent⟩ := ih (handling map e b).after
    simp only [handleAll_cons]
    refine ⟨?_, (prefix_ids_handling map e b).trans hids, fun i => ?_, ?_, ?_⟩
    · rw [moved_cons, ← htotal, total_handling]
      omega
    · rw [moved_cons, ← hcredits i, creditsAt_handling]
      omega
    · intro h hh
      rcases List.mem_cons.mp hh with rfl | hh
      · exact fun hh i hi => get?_handling_of_refused map e b hh hi
      · exact hrefused h hh
    · exact fun h => hsolvent (solvent_handling map e b h)

/-- Two of four requests are carried out, on an account that the first of
them has opened. The ledger can never be written. -/
example :
    let id : BankId := ⟨"BankID_1", by decide⟩
    let b : Books :=
      ⟨.empty, ⟨"AdaBank.bankLog", "AdaBank", ⟨["AdaBank.bankLog".toList], 0⟩⟩, ⟨[], []⟩,
        fun _ => ⟨"09:30 March 02 2025", some 0⟩, 0, []⟩
    let map : TellerMap := [⟨0, "N", 41⟩, ⟨1, "BankID_1", 42⟩]
    let run := b.handleAll map
      [⟨0, 41, ⟨⟨"N", by decide⟩, .deposit, 5⟩⟩, ⟨1, 42, ⟨id, .withdraw, 9⟩⟩,
        ⟨1, 43, ⟨id, .deposit, 4⟩⟩, ⟨1, 42, ⟨id, .withdraw, 3⟩⟩]
    run.1.map Handling.answer = [some .success, some .insufficientCredits, none, some .success] ∧
      run.2.table.total = 2 := by
  decide

end CountingHouse.Server.Books

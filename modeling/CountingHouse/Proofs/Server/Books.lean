/-
CountingHouse.Proofs.Server.Books — what the server answers, by the rule
of the bank.

`Table.answer` is the rule for one request of an enrolled client, with
nothing of tellers, mailboxes and ledger files in it; `answer_cases` says
that it is carried out on one account or changes nothing.
`processEnvelope` follows the rule for every teller of the batch
(`processEnvelope_of_sender`), and a payload of anybody else changes no
account (`processEnvelope_of_stranger`). What the server reports, and
whether it can write its ledger, does not matter to the accounts.
-/
import CountingHouse.Proofs.Table
import CountingHouse.Server.Books

namespace CountingHouse

/-! ## The rule -/

/-- The bank's answer to a request of an enrolled client. The request must
name the client. Then the client's account is found or opened and the
transaction carried out; without an account it fails. -/
def Table.answer (t : Table) (client : String) (x : Transaction) : Response × Table :=
  if x.bankId.text = client then
    match t.getOrCreate client with
    | (.error _, t) => (.failure, t)
    | (.ok position, t) => t.apply position x
  else (.failure, t)

/-- The position of the account that a request of an enrolled client goes
to, if it goes to one. -/
def Table.destination? (t : Table) (client : String) (x : Transaction) : Option Nat :=
  if x.bankId.text = client then (t.getOrCreate client).1.toOption else none

/-- What a request of an enrolled client can do: it is carried out on the
account it goes to, which may have been opened for it, or it goes to none
and changes nothing. -/
theorem Table.answer_cases (t : Table) (client : String) (x : Transaction) :
    (∃ i, t.destination? client x = some i ∧ x.bankId.text = client ∧
      (t.getOrCreate client).1 = .ok i ∧
      t.answer client x = (t.getOrCreate client).2.apply i x) ∨
    (t.destination? client x = none ∧ t.answer client x = (.failure, t)) := by
  unfold answer destination?
  by_cases hname : x.bankId.text = client
  · simp only [if_pos hname]
    cases hfound : t.getOrCreate client with
    | mk result u =>
      cases result with
      | ok i => exact .inl ⟨i, rfl, hname, rfl, rfl⟩
      | error e =>
        have hsame := snd_getOrCreate_of_error (congrArg Prod.fst hfound)
        rw [hfound] at hsame
        exact .inr ⟨rfl, congrArg (Prod.mk _) hsame⟩
  · simp only [if_neg hname]
    exact .inr ⟨trivial, trivial⟩

theorem Account.isFinal_apply (a : Account) (x : Transaction) :
    (a.apply x).1.isFinal = true := by
  unfold apply
  rcases balanceAfter_cases a.credits x with ⟨refusal, h, rfl | rfl⟩ | ⟨balance, h, _⟩
  · rw [h]; rfl
  · rw [h]; rfl
  · rw [h]
    simp only
    split <;> rfl

theorem Table.isFinal_apply (t : Table) (position : Nat) (x : Transaction) :
    (t.apply position x).1.isFinal = true := by
  rcases t.apply_cases position x with ⟨a, _, happly, _⟩ | ⟨_, happly⟩
  · rw [happly]; exact a.isFinal_apply x
  · rw [happly]; rfl

/-- The bank always makes up its mind. -/
theorem Table.isFinal_answer (t : Table) (client : String) (x : Transaction) :
    (t.answer client x).1.isFinal = true := by
  rw [answer]
  split
  · split
    · rfl
    · next position t' _ => exact t'.isFinal_apply position x
  · rfl

/-! ## Senders -/

theorem TellerMap.pid_ne {map : TellerMap} {pid : Int32} (h : pid ∉ map.map Assignment.pid)
    {a : Assignment} (ha : a ∈ map) : a.pid ≠ pid := by
  rintro rfl
  exact h (List.mem_map_of_mem ha)

theorem TellerMap.byPid?_of_mem {map : TellerMap} (hpids : (map.map Assignment.pid).Nodup)
    {a : Assignment} (ha : a ∈ map) : map.byPid? a.pid = some a := by
  induction map with
  | nil => exact absurd ha List.not_mem_nil
  | cons b map ih =>
    rw [List.map_cons, List.nodup_cons] at hpids
    obtain ⟨hfirst, hrest⟩ := hpids
    rw [byPid?, List.find?_cons]
    rcases List.mem_cons.mp ha with rfl | ha
    · simp
    · have hne : b.pid ≠ a.pid := (pid_ne hfirst ha).symm
      have hfound := ih hrest ha
      rw [byPid?] at hfound
      simpa [hne] using hfound

namespace Server.Books

/-- A teller of the batch is known by its process. -/
theorem senderOf_of_mem {map : TellerMap} (hpids : (map.map Assignment.pid).Nodup)
    {a : Assignment} (ha : a ∈ map) (x : Transaction) :
    senderOf map ⟨a.teller, a.pid, x⟩ = some a := by
  simp [senderOf, TellerMap.byPid?_of_mem hpids ha]

theorem senderOf_of_not_mem {map : TellerMap} {e : Envelope}
    (h : e.pid ∉ map.map Assignment.pid) : senderOf map e = none := by
  have hnone : map.byPid? e.pid = none := by
    rw [TellerMap.byPid?, List.find?_eq_none]
    intro a ha
    simpa using TellerMap.pid_ne h ha
  rw [senderOf, hnone]
  rfl

/-! ## What reaches the accounts -/

@[simp] theorem table_note (b : Books) (event : Event) : (b.note event).table = b.table := rfl

@[simp] theorem table_persist (b : Books) : b.persist.table = b.table := by
  have hflush : b.flush.2.table = b.table := rfl
  rw [persist]
  split
  · next hpersist => rw [← hflush, hpersist]
  · next hpersist => rw [table_note, ← hflush, hpersist]

theorem submit_eq_answer (b : Books) {client : String} {x : Transaction}
    (h : x.bankId.text = client) :
    (b.submit client x).1 = (b.table.answer client x).1 ∧
      (b.submit client x).2.table = (b.table.answer client x).2 := by
  rw [submit, Table.submit, Table.answer, if_pos h]
  rcases b.table.getOrCreate client with ⟨error | position, t⟩
  · exact ⟨rfl, rfl⟩
  · simp only
    split
    · exact ⟨rfl, rfl⟩
    · exact ⟨rfl, rfl⟩

/-- A request of a teller of the batch is answered by the rule. -/
theorem processEnvelope_of_sender {map : TellerMap} {e : Envelope} {a : Assignment}
    (h : senderOf map e = some a) (b : Books) :
    (processEnvelope map e b).1 = some (b.table.answer a.client e.transaction).1 ∧
      (processEnvelope map e b).2.table = (b.table.answer a.client e.transaction).2 := by
  rw [processEnvelope, h]
  by_cases hname : e.transaction.bankId.text = a.client
  · obtain ⟨hanswer, htable⟩ := b.submit_eq_answer hname
    simp [hname, hanswer, htable]
  · simp [hname, Table.answer]

/-- Anybody else's is discarded. -/
theorem processEnvelope_of_stranger {map : TellerMap} {e : Envelope} (h : senderOf map e = none)
    (b : Books) : processEnvelope map e b = (none, b.note (.discarded e.teller)) := by
  rw [processEnvelope, h]

end Server.Books

end CountingHouse

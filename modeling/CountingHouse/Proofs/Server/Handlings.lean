/-
CountingHouse.Proofs.Server.Handlings — payloads handled one after
another.

An envelope acts under a mandate: it comes from a teller of the batch and
is about the client this teller was given. `handleAll` handles envelopes
in order, whoever they come from, and keeps the record of each.
`handling_cases` is all that one of them can do to the accounts: with a
mandate its transaction is carried out on one account, which may have been
opened for it, and otherwise nothing happens.
-/
import CountingHouse.Proofs.Server.Books

namespace CountingHouse.Server.Books

/-! ## Records -/

/-- The assignment under which an envelope acts. -/
def mandateOf (map : TellerMap) (e : Envelope) : Option Assignment :=
  (senderOf map e).filter fun a => e.transaction.bankId.text = a.client

/-- The record of one envelope that was handled. -/
structure Handling where
  envelope : Envelope
  /-- The answer; `none` when the envelope was discarded. -/
  answer : Option Response
  before : Books
  after : Books

namespace Handling

/-- Was the transaction carried out, as the teller was told? -/
def isAccepted (h : Handling) : Bool :=
  h.answer.any Response.isAccepted

/-- What the transaction adds to a balance. -/
def amount (h : Handling) : Int :=
  h.envelope.transaction.signedAmount

/-- The position of the account that the envelope was routed to. -/
def destination? (map : TellerMap) (h : Handling) : Option Nat :=
  (senderOf map h.envelope).bind fun a =>
    h.before.table.destination? a.client h.envelope.transaction

/-- What was reported in the meantime. -/
def reports (h : Handling) : List Event :=
  h.after.events.drop h.before.events.length

end Handling

/-- The record of an envelope that is handled now. -/
def handling (map : TellerMap) (e : Envelope) (b : Books) : Handling :=
  ⟨e, (processEnvelope map e b).1, b, (processEnvelope map e b).2⟩

/-- Handles envelopes in order and keeps the record of each. -/
def handleAll (map : TellerMap) (b : Books) : List Envelope → List Handling × Books
  | [] => ([], b)
  | e :: rest =>
    let (answer, after) := processEnvelope map e b
    let (handlings, last) := handleAll map after rest
    (⟨e, answer, b, after⟩ :: handlings, last)

theorem handleAll_cons (map : TellerMap) (b : Books) (e : Envelope) (rest : List Envelope) :
    b.handleAll map (e :: rest) =
      (handling map e b :: ((handling map e b).after.handleAll map rest).1,
        ((handling map e b).after.handleAll map rest).2) := rfl

/-! ## One envelope -/

theorem senderOf_of_mandateOf {map : TellerMap} {e : Envelope} {a : Assignment}
    (h : mandateOf map e = some a) :
    senderOf map e = some a ∧ e.transaction.bankId.text = a.client := by
  obtain ⟨hsender, hname⟩ := Option.filter_eq_some_iff.mp h
  exact ⟨hsender, by simpa using hname⟩

theorem mandateOf_of_senderOf {map : TellerMap} {e : Envelope} {a : Assignment}
    (h : senderOf map e = some a) (hname : e.transaction.bankId.text = a.client) :
    mandateOf map e = some a := by
  simp [mandateOf, h, hname]

/-- What an envelope can do to the accounts. -/
theorem handling_cases (map : TellerMap) (e : Envelope) (b : Books) :
    (∃ a i, mandateOf map e = some a ∧ (handling map e b).destination? map = some i ∧
      (b.table.getOrCreate a.client).1 = .ok i ∧
      (handling map e b).answer =
        some ((b.table.getOrCreate a.client).2.apply i e.transaction).1 ∧
      (handling map e b).after.table =
        ((b.table.getOrCreate a.client).2.apply i e.transaction).2) ∨
    ((handling map e b).destination? map = none ∧ (handling map e b).isAccepted = false ∧
      (handling map e b).after.table = b.table) := by
  unfold Handling.destination? Handling.isAccepted handling
  cases hsender : senderOf map e with
  | none =>
    rw [processEnvelope_of_stranger hsender]
    exact .inr ⟨rfl, rfl, rfl⟩
  | some a =>
    obtain ⟨hanswer, htable⟩ := processEnvelope_of_sender hsender b
    rw [Option.bind_some, hanswer, htable]
    rcases b.table.answer_cases a.client e.transaction with
      ⟨i, hgoes, hname, hfound, heq⟩ | ⟨hnowhere, heq⟩
    · rw [heq]
      exact .inl ⟨a, i, mandateOf_of_senderOf hsender hname, hgoes, hfound, rfl, rfl⟩
    · rw [heq]
      exact .inr ⟨hnowhere, rfl, rfl⟩

/-- No account goes away or gets another place. -/
theorem prefix_ids_handling (map : TellerMap) (e : Envelope) (b : Books) :
    b.table.ids <+: (handling map e b).after.table.ids := by
  rcases handling_cases map e b with ⟨a, i, _, _, _, _, htable⟩ | ⟨_, _, htable⟩
  · rw [htable, Table.ids_apply]
    exact b.table.prefix_ids_getOrCreate a.client
  · simp only [htable, List.prefix_rfl]

end CountingHouse.Server.Books

/-
CountingHouse.Proofs.Mailbox.Basic — what each operation does to the slot
and to the answers.

An operation that changes the slot leaves something else in it
(`Mailbox.leave`) and does nothing further, except that taking a payload
also publishes its answer. So two things have to be said of each: when it
changes the slot, and whose answer it changes.
-/
import CountingHouse.Mailbox.Basic
import CountingHouse.Proofs.Mailbox.Payload

namespace CountingHouse

/-- An envelope as it lies in the slot. -/
def Envelope.posted (e : Envelope) : Posted :=
  ⟨e.teller, e.pid, .encode e.transaction⟩

namespace Mailbox

/-! ## Parts of operations -/

/-- The mailbox after a visit that leaves this in the slot. -/
def leave (m : Mailbox) (slot : Option Posted) : Mailbox :=
  { m.enter with slot }

/-- The mailbox after a teller was answered, or its payload discarded. -/
def conclude (m : Mailbox) (teller : UInt32) : Option Response → Mailbox
  | some response => m.publish teller response
  | none => m

section
variable (m : Mailbox) (slot : Option Posted) (teller : UInt32)

@[simp] theorem slot_leave : (m.leave slot).slot = slot := rfl
@[simp] theorem capacity_leave : (m.leave slot).capacity = m.capacity := rfl
@[simp] theorem active_leave : (m.leave slot).active = m.active := rfl
@[simp] theorem response_leave : (m.leave slot).response teller = m.response teller := rfl

@[simp] theorem capacity_publish (r : Response) :
    (m.publish teller r).capacity = m.capacity := by
  rw [publish]; split <;> rfl

@[simp] theorem active_publish (r : Response) : (m.publish teller r).active = m.active := by
  rw [publish]; split <;> rfl

@[simp] theorem capacity_conclude (answer : Option Response) :
    (m.conclude teller answer).capacity = m.capacity := by
  cases answer <;> simp [conclude]

@[simp] theorem active_conclude (answer : Option Response) :
    (m.conclude teller answer).active = m.active := by
  cases answer <;> simp [conclude]

end

/-! ## Answers -/

/-- A teller of the batch finds the answer that was published for it. -/
theorem response_publish_self {m : Mailbox} {teller : UInt32} (hcapacity : teller.toNat < m.capacity)
    (hactive : teller.toNat < m.active) (r : Response) :
    (m.publish teller r).response teller = .ok r := by
  rw [publish, if_pos ⟨hcapacity, hactive⟩, response, if_pos hcapacity]
  simp

/-- An answer is nobody else's. -/
theorem response_publish_of_ne (m : Mailbox) {teller other : UInt32} (h : other ≠ teller)
    (r : Response) : (m.publish other r).response teller = m.response teller := by
  rw [publish]
  split
  · rw [response, response, List.lookup_cons, beq_false_of_ne (Ne.symm h)]
  · rfl

theorem response_conclude_of_ne (m : Mailbox) {teller other : UInt32} (h : other ≠ teller)
    (answer : Option Response) : (m.conclude other answer).response teller = m.response teller := by
  cases answer with
  | none => rfl
  | some r => exact m.response_publish_of_ne h r

theorem finalResponse_of_response {m : Mailbox} {teller : UInt32} {r : Response}
    (h : m.response teller = .ok r) :
    m.finalResponse teller = .ok (if r.isFinal then some r else none) := by
  rw [finalResponse, h]
  rfl

/-! ## The operations -/

/-- Beginning a batch leaves the slot alone. -/
theorem slot_beginBatch (m : Mailbox) (tellers : Nat) : (m.beginBatch tellers).2.slot = m.slot := by
  rw [beginBatch]; split <;> rfl

theorem tryPost_of_none {m : Mailbox} (h : m.slot = none) (e : Envelope) :
    m.tryPost e = (true, m.leave (some e.posted)) := by
  rw [tryPost, h]
  rfl

theorem tryPost_of_some {m : Mailbox} {p : Posted} (h : m.slot = some p) (e : Envelope) :
    m.tryPost e = (false, m.enter) := by
  rw [tryPost, h]

section
variable {σ : Type} {m : Mailbox} (handler : Envelope → σ → Option Response × σ) (s : σ)

theorem tryTake_of_none (h : m.slot = none) : m.tryTake handler s = (none, m.enter, s) := by
  rw [tryTake, h]

theorem tryTake_of_some {p : Posted} (h : m.slot = some p) :
    m.tryTake handler s =
      (some ⟨p.teller, p.pid, (handle p handler s).1⟩,
        (m.conclude p.teller (handle p handler s).1).leave none, (handle p handler s).2) := by
  simp only [tryTake, h]
  cases (handle p handler s).1 <;> rfl

/-- The handler is given what was posted. -/
theorem handle_posted (e : Envelope) : handle e.posted handler s = handler e s := by
  rw [handle, show e.posted.payload = .encode e.transaction from rfl, Payload.decode_encode]
  rfl

/-- A posted transaction is handled as it is, and the slot is empty
afterwards. -/
theorem tryTake_of_posted {e : Envelope} (h : m.slot = some e.posted) :
    m.tryTake handler s =
      (some ⟨e.teller, e.pid, (handler e s).1⟩,
        (m.conclude e.teller (handler e s).1).leave none, (handler e s).2) := by
  rw [tryTake_of_some handler s h, handle_posted]
  rfl

end

/-- What taking a request back can do: the payload of this very teller is
removed, or the slot is left alone and the answer looked at. -/
theorem retract_cases (m : Mailbox) (teller : UInt32) (pid : Int32) :
    (∃ p, m.slot = some p ∧ p.teller = teller ∧ p.pid = pid ∧
      m.retract teller pid = (.ok .withdrawn, m.leave none)) ∨
    ((∀ p ∈ m.slot, p.teller = teller → p.pid ≠ pid) ∧
      m.retract teller pid =
        ((m.finalResponse teller).map fun
          | some r => Retraction.answered r
          | none => .notPosted, m.enter)) := by
  rw [retract]
  split
  · next h =>
    obtain ⟨p, hslot, hp⟩ := Option.any_eq_true _ _ |>.mp h
    simp only [Bool.and_eq_true, decide_eq_true_eq] at hp
    exact .inl ⟨p, hslot, hp.1, hp.2, rfl⟩
  · next h =>
    refine .inr ⟨fun p hp hteller hpid => h ?_, rfl⟩
    rw [Option.any_eq_true]
    exact ⟨p, hp, by simp [hteller, hpid]⟩

end Mailbox

end CountingHouse

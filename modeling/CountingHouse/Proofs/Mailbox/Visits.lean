/-
CountingHouse.Proofs.Mailbox.Visits — visits to a mailbox, one after
another.

Everything a server and its tellers do with a mailbox is one of five
requests, and each is served in one step. A run serves requests in order
and keeps a record of every visit: what was asked for, what was replied,
and the mailbox before and after. Handlers are journaled, so that the
record also tells what they were called with and what they answered.
-/
import CountingHouse.Mailbox.Basic

namespace CountingHouse.Mailbox

/-! ## Handlers -/

/-- What a server does with a transaction, on a state of its own. -/
abbrev Handler (σ : Type) := Envelope → σ → Option Response × σ

/-- One call of a handler: what it was given and what it answered. -/
structure Call where
  envelope : Envelope
  /-- The answer; `none` when the payload was discarded. -/
  answer : Option Response
  deriving DecidableEq, Repr

/-- A handler that keeps a journal of its calls, oldest first. -/
def journaled {σ : Type} (handler : Handler σ) : Handler (σ × List Call) :=
  fun e s => ((handler e s.1).1, (handler e s.1).2, s.2 ++ [⟨e, (handler e s.1).1⟩])

/-! ## Requests -/

/-- What a mailbox can be asked for. -/
inductive Request (σ : Type) where
  | beginBatch (tellers : Nat)
  | post (e : Envelope)
  | take (handler : Handler σ)
  | retract (teller : UInt32) (pid : Int32)
  | look (teller : UInt32)

/-- What it replies. -/
inductive Reply where
  | begun (result : Except IpcError Unit)
  | posted (accepted : Bool)
  /-- What was taken, and the calls of the handler. -/
  | taken (receipt : Option Receipt) (calls : List Call)
  | retracted (result : Except IpcError Retraction)
  | seen (result : Except IpcError Response)

variable {σ : Type}

/-- Serves one request. The second state is that of the handlers. -/
def serve (m : Mailbox) (s : σ) : Request σ → Reply × Mailbox × σ
  | .beginBatch tellers =>
    let (result, m) := m.beginBatch tellers
    (.begun result, m, s)
  | .post e =>
    let (accepted, m) := m.tryPost e
    (.posted accepted, m, s)
  | .take handler =>
    let (receipt, m, s, calls) := m.tryTake (journaled handler) (s, [])
    (.taken receipt calls, m, s)
  | .retract teller pid =>
    let (result, m) := m.retract teller pid
    (.retracted result, m, s)
  | .look teller => (.seen (m.response teller), m, s)

/-- The record of one visit. -/
structure Visit (σ : Type) where
  request : Request σ
  reply : Reply
  before : Mailbox
  after : Mailbox

/-- The visit in which a request is served. -/
def visit (m : Mailbox) (s : σ) (request : Request σ) : Visit σ :=
  ⟨request, (m.serve s request).1, m, (m.serve s request).2.1⟩

/-- Serves requests in order and keeps the record of every visit. -/
def run (m : Mailbox) (s : σ) : List (Request σ) → List (Visit σ) × Mailbox × σ
  | [] => ([], m, s)
  | request :: rest =>
    let (reply, after, s) := m.serve s request
    let (visits, last, s) := run after s rest
    (⟨request, reply, m, after⟩ :: visits, last, s)

theorem run_cons (m : Mailbox) (s : σ) (request : Request σ) (rest : List (Request σ)) :
    m.run s (request :: rest) =
      (m.visit s request ::
          (run (m.serve s request).2.1 (m.serve s request).2.2 rest).1,
        (run (m.serve s request).2.1 (m.serve s request).2.2 rest).2) := rfl

/-! ## The journal changes nothing -/

theorem handle_journaled (p : Posted) (handler : Handler σ) (s : σ) (calls : List Call) :
    (handle p (journaled handler) (s, calls)).1 = (handle p handler s).1 ∧
      (handle p (journaled handler) (s, calls)).2.1 = (handle p handler s).2 := by
  rw [handle, handle]
  cases p.payload.decode with
  | ok transaction => exact ⟨rfl, rfl⟩
  | error e => exact ⟨rfl, rfl⟩

/-- A journaled handler takes and answers what the handler itself would
take and answer. -/
theorem tryTake_journaled (m : Mailbox) (handler : Handler σ) (s : σ) (calls : List Call) :
    (m.tryTake (journaled handler) (s, calls)).1 = (m.tryTake handler s).1 ∧
      (m.tryTake (journaled handler) (s, calls)).2.1 = (m.tryTake handler s).2.1 ∧
      (m.tryTake (journaled handler) (s, calls)).2.2.1 = (m.tryTake handler s).2.2 := by
  rw [tryTake, tryTake]
  cases m.slot with
  | none => exact ⟨rfl, rfl, rfl⟩
  | some p =>
    obtain ⟨hanswer, hstate⟩ := handle_journaled p handler s calls
    exact ⟨by simp only [hanswer], by simp only [hanswer], hstate⟩

end CountingHouse.Mailbox

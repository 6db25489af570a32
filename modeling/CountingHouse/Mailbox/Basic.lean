/-
CountingHouse.Mailbox.Basic — the single slot through which tellers hand
their transactions to the server, and the table of the server's answers.

    teller                               server
    slot empty? write, mark full         slot full? handle, answer, mark empty
    not written? rest and try again      nothing there? rest and try again
    look at the own answer until final

Everything that touches the slot happens inside one critical section, so
each operation here is one step that no other can come between. Only
looking at an answer needs no permission. The semaphore of the section
always works, and nobody dies inside; what happens otherwise is left out.
-/
import CountingHouse.Mailbox.Payload
import CountingHouse.Response

namespace CountingHouse

/-! ## What passes through -/

/-- A transaction and the teller that hands it over. -/
structure Envelope where
  teller : UInt32
  pid : Int32
  transaction : Transaction
  deriving DecidableEq, Repr

/-- What became of a payload the server took. -/
structure Receipt where
  teller : UInt32
  pid : Int32
  /-- The answer; `none` when the payload was discarded. -/
  response : Option Response
  deriving DecidableEq, Repr

/-- What a teller learns when it takes its request back. -/
inductive Retraction where
  /-- The payload was still in the slot and is no longer. -/
  | withdrawn
  /-- The server has taken the payload and answered. -/
  | answered (response : Response)
  /-- There is nothing of this teller in the slot and no answer. -/
  | notPosted
  deriving DecidableEq, Repr

/-- A full slot. -/
structure Posted where
  teller : UInt32
  pid : Int32
  payload : Payload
  deriving DecidableEq

/-- The mailbox of one server. -/
structure Mailbox where
  /-- How many tellers a batch may have. -/
  capacity : Nat
  /-- What has been posted and not been taken. -/
  slot : Option Posted
  /-- The answers of this batch, newest first; tellers that are not
  listed have none. -/
  answers : List (UInt32 × Response)
  /-- How many tellers the batch has. -/
  active : Nat
  /-- The most processes that have been inside the critical section at
  one time. -/
  peak : Nat
  deriving DecidableEq

namespace Mailbox

/-- The bytes a mailbox takes beside its answers. -/
def headerBytes : Nat := 88

/-- An empty mailbox. -/
def ofCapacity (capacity : Nat) : Mailbox :=
  ⟨capacity, none, [], 0, 0⟩

/-- Maps a mailbox with room for batches of a size, at least for one
teller. The number of bytes is a 64-bit word and wraps around. -/
def create (capacity : Nat) (machine : Machine := .ordinary) : Except IpcError Mailbox :=
  let capacity := max capacity 1
  match SharedRegion.map ((headerBytes + capacity) % UInt64.size) machine with
  | .error e => .error e
  | .ok _ => .ok (ofCapacity capacity)

/-- Notes that one process has been inside the critical section. -/
def enter (m : Mailbox) : Mailbox :=
  { m with peak := max m.peak 1 }

/-! ## Batches -/

/-- Clears the answers for a batch of some size. A batch that is too
large is refused and changes nothing. What is in the slot stays there. -/
def beginBatch (m : Mailbox) (tellers : Nat) : Except IpcError Unit × Mailbox :=
  if m.capacity < tellers then (.error (.batchTooLarge tellers m.capacity), m)
  else (.ok (), { m.enter with answers := [], active := tellers % UInt32.size })

/-! ## Posting and taking -/

/-- One attempt of a teller to hand over a transaction: it succeeds when
the slot is empty. -/
def tryPost (m : Mailbox) (e : Envelope) : Bool × Mailbox :=
  match m.slot with
  | some _ => (false, m.enter)
  | none => (true, { m.enter with slot := some ⟨e.teller, e.pid, .encode e.transaction⟩ })

/-- Writes an answer into the table. An answer for a teller outside the
batch is dropped. -/
def publish (m : Mailbox) (teller : UInt32) (response : Response) : Mailbox :=
  if teller.toNat < m.capacity ∧ teller.toNat < m.active then
    { m with answers := (teller, response) :: m.answers }
  else m

/-- What a handler makes of a full slot. A payload that holds no
transaction is answered with a failure and the handler is not asked. -/
def handle {σ : Type} (p : Posted) (handler : Envelope → σ → Option Response × σ) (s : σ) :
    Option Response × σ :=
  match p.payload.decode with
  | .ok transaction => handler ⟨p.teller, p.pid, transaction⟩ s
  | .error _ => (some .failure, s)

/-- One attempt of the server to take a payload. The handler decides the
answer, or discards the payload with `none`; it works on a state of its
own that is passed through. -/
def tryTake {σ : Type} (m : Mailbox) (handler : Envelope → σ → Option Response × σ) (s : σ) :
    Option Receipt × Mailbox × σ :=
  match m.slot with
  | none => (none, m.enter, s)
  | some p =>
    let (response, s) := handle p handler s
    let m := match response with
      | some r => m.publish p.teller r
      | none => m
    (some ⟨p.teller, p.pid, response⟩, { m.enter with slot := none }, s)

/-! ## Answers -/

/-- Looks at the answer for a teller. -/
def response (m : Mailbox) (teller : UInt32) : Except IpcError Response :=
  if teller.toNat < m.capacity then .ok ((m.answers.lookup teller).getD .pending)
  else .error (.noSuchSlot teller)

/-- Looks at the answer for a teller and reports it only when it is
final. -/
def finalResponse (m : Mailbox) (teller : UInt32) : Except IpcError (Option Response) :=
  (m.response teller).map fun r => if r.isFinal then some r else none

/-- Takes back what a teller has posted, if it is still there. Taking a
payload and answering it are one step, so otherwise the answer is there
already, or nothing was posted. -/
def retract (m : Mailbox) (teller : UInt32) (pid : Int32) :
    Except IpcError Retraction × Mailbox :=
  if m.slot.any fun p => p.teller = teller && p.pid = pid then
    (.ok .withdrawn, { m.enter with slot := none })
  else
    let outcome := (m.finalResponse teller).map fun
      | some r => Retraction.answered r
      | none => .notPosted
    (outcome, m.enter)

end Mailbox

end CountingHouse

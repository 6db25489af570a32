/-
CountingHouse.SharedMemory — memory that the server shares with its
tellers, and the errors of everything that is built on it.

A region is mapped before any teller is started, so that every teller
inherits it. It begins as zeros.
-/
import CountingHouse.Fault
import CountingHouse.Machine

namespace CountingHouse

/-! ## Errors -/

/-- Why processes could not exchange what they had to. -/
inductive IpcError where
  /-- A system call failed. -/
  | system (call : String) (fault : Fault)
  /-- A batch is larger than the mailbox. -/
  | batchTooLarge (requested capacity : Nat)
  /-- A teller is beyond the mailbox's capacity. -/
  | noSuchSlot (teller : UInt32)
  /-- The mailbox holds something that is no transaction. -/
  | corruptPayload (reason : String)
  deriving DecidableEq, Repr

/-- The error as the bank reports it. -/
def IpcError.message : IpcError → String
  | .system call fault => call ++ " failed: " ++ fault.text
  | .batchTooLarge requested capacity =>
    "batch of " ++ toString requested ++ " tellers exceeds mailbox capacity of " ++
      toString capacity
  | .noSuchSlot teller => "teller " ++ toString teller.toNat ++ " has no response slot"
  | .corruptPayload reason => "corrupt mailbox payload: " ++ reason

/-! ## Regions -/

/-- A mapped region of zeros. -/
structure SharedRegion where
  size : Nat
  deriving DecidableEq, Repr

/-- Maps a region. A region without bytes cannot be mapped, and neither
can one that the machine could never provide. -/
def SharedRegion.map (size : Nat) (machine : Machine := .ordinary) :
    Except IpcError SharedRegion :=
  if size = 0 then .error (.system "mmap" (.system .invalidArgument))
  else if machine.memory ≤ size then .error (.system "mmap" (.system .cannotAllocate))
  else .ok ⟨size⟩

/-- Does the region hold no bytes? -/
def SharedRegion.isEmpty (r : SharedRegion) : Bool :=
  r.size = 0

/-- The bytes of a region that nothing has written to. -/
def SharedRegion.byte? (r : SharedRegion) (position : Nat) : Option UInt8 :=
  if position < r.size then some 0 else none

end CountingHouse

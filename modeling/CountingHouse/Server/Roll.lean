/-
CountingHouse.Server.Roll — which tellers of a batch have been served
and which have gone.

A teller is served when a payload of its has been answered, and it is
abandoned when it is found to have ended before that. An answer may still
come after that; then the teller is counted as both.
-/
import CountingHouse.Child
import CountingHouse.Mailbox.Basic

namespace CountingHouse.Server

/-- A teller that was started. -/
structure TellerProcess where
  teller : UInt32
  pid : Int32
  served : Bool
  /-- How it ended, once that is known. -/
  exit : Option ExitStatus
  deriving DecidableEq, Repr

/-- Is one of the tellers, whose end is not known yet, running as this
process? -/
def runsAs (tellers : List TellerProcess) (pid : Int32) : Bool :=
  tellers.any fun t => t.pid = pid && t.exit.isNone

/-- Is the teller still to be served? -/
def TellerProcess.isAwaiting (t : TellerProcess) : Bool :=
  !t.served && t.exit.isNone

/-- Summary of one batch. -/
structure Report where
  enrolled : Nat
  /-- Tellers whose request was answered. -/
  served : Nat
  /-- Tellers that ended without having been served. -/
  abandoned : Nat
  /-- The batch was refused because it is too large. -/
  rejected : Bool
  /-- The batch was left unfinished because the server is to stop. -/
  interrupted : Bool
  deriving DecidableEq, Repr

/-- The summary of a batch that nothing has happened to. -/
def Report.blank (enrolled : Nat) : Report :=
  ⟨enrolled, 0, 0, false, false⟩

/-- The tellers of a batch and its summary. -/
structure Roll where
  tellers : List TellerProcess
  report : Report
  deriving DecidableEq, Repr

namespace Roll

/-- Is any teller still to be served? -/
def isAwaiting (r : Roll) : Bool :=
  r.tellers.any (·.isAwaiting)

/-- Is this the teller a receipt is about? -/
def isSender (receipt : Receipt) (t : TellerProcess) : Bool :=
  t.pid = receipt.pid && t.teller = receipt.teller

/-- Marks the first teller that satisfies a condition as served. -/
def markServed (p : TellerProcess → Bool) : List TellerProcess → List TellerProcess
  | [] => []
  | t :: rest => if p t then { t with served := true } :: rest else t :: markServed p rest

/-- Takes note of a payload that was taken. A discarded one serves
nobody. -/
def recordReceipt (r : Roll) (receipt : Receipt) : Roll :=
  if receipt.response.isSome && r.tellers.any (isSender receipt) then
    { tellers := markServed (isSender receipt) r.tellers
      report := { r.report with served := r.report.served + 1 } }
  else r

/-- Looks after one teller: how it ended is noted when it is known and
was not known before. -/
def reapOne (ended : Int32 → Option ExitStatus) (t : TellerProcess) : TellerProcess :=
  match t.exit with
  | some _ => t
  | none => { t with exit := ended t.pid }

/-- Is the teller found to have ended without having been served? -/
def isLost (ended : Int32 → Option ExitStatus) (t : TellerProcess) : Bool :=
  t.exit.isNone && (ended t.pid).isSome && !t.served

/-- Takes note of the tellers that have ended. -/
def reapFinished (r : Roll) (ended : Int32 → Option ExitStatus) : Roll :=
  { tellers := r.tellers.map (reapOne ended)
    report := { r.report with
      abandoned := r.report.abandoned + r.tellers.countP (isLost ended) } }

end Roll

end CountingHouse.Server

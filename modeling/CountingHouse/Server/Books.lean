/-
CountingHouse.Server.Books — what the server keeps, and what it does
with one payload.

The server knows which teller serves which client. A payload from anyone
else is discarded without an answer. A payload from a teller of the
batch must be about the client the teller was given, and the name under
which that client enrolled decides the account. Afterwards the ledger is
written anew; when that fails the answer stands all the same.
-/
import CountingHouse.Batch
import CountingHouse.Ledger.File
import CountingHouse.Mailbox.Basic

namespace CountingHouse.Server

open Ledger

/-! ## Errors and events -/

/-- Why the server cannot open or must stop. -/
inductive ServerError where
  | ledger (error : LedgerError)
  | ipc (error : IpcError)
  /-- The source of batches failed. -/
  | bootstrap (fault : Fault)
  deriving DecidableEq, Repr

/-- The error as the bank reports it. -/
def ServerError.message : ServerError → String
  | .ledger error => error.message
  | .ipc error => error.message
  | .bootstrap fault => "bootstrap channel error: " ++ fault.text

/-- What the server reports about its work. -/
inductive Event where
  | processed (client : String) (transaction : Transaction) (account : Account)
      (response : Response)
  | rejected (client : String) (error : AccountError)
  | mismatched (client : String) (id : BankId)
  | discarded (teller : UInt32)
  | publishFailed (pid : Int32) (fault : Fault)
  | batchTooLarge (clients capacity : Nat)
  | cleanupFailed (fault : Fault)
  | servingStopped (error : ServerError)
  | ledgerNotWritten (error : LedgerError)
  | tellerNotReaped (pid : Int32) (error : IpcError)
  deriving DecidableEq, Repr

/-- The event as a record of the log. -/
def Event.record : Event → LogRecord
  | .processed client transaction account response =>
    ⟨.info, "Transaction processed",
      [("client", .text client), ("bank_id", .text account.bankId.text),
       ("op", .text transaction.operation.word), ("amount", .number transaction.amount.toNat),
       ("credits", .number account.credits.toInt), ("response", .text response.description)]⟩
  | .rejected client error =>
    ⟨.warn, "Transaction rejected", [("client", .text client), ("error", .text error.message)]⟩
  | .mismatched client id =>
    ⟨.warn, "Request does not match the enrolled client, rejected",
      [("client", .text client), ("bank_id", .text id.text)]⟩
  | .discarded teller =>
    ⟨.warn, "Discarding payload from a teller outside the active batch",
      [("teller_id", .text (toString teller.toNat))]⟩
  | .publishFailed pid fault =>
    ⟨.warn, "Failed to publish teller map",
      [("client_pid", .number pid.toInt), ("error", .text fault.text)]⟩
  | .batchTooLarge clients capacity =>
    ⟨.warn, "Batch exceeds mailbox capacity, rejected",
      [("clients", .number clients), ("capacity", .number capacity)]⟩
  | .cleanupFailed fault =>
    ⟨.warn, "Failed to remove bootstrap channels", [("error", .text fault.text)]⟩
  | .servingStopped error =>
    ⟨.error, "Serving stopped on error", [("error", .text error.message)]⟩
  | .ledgerNotWritten error =>
    ⟨.error, "Failed to persist ledger", [("error", .text error.message)]⟩
  | .tellerNotReaped pid error =>
    ⟨.warn, "Failed to reap teller",
      [("pid", .number pid.toInt), ("error", .text error.message)]⟩

/-! ## The books -/

/-- The accounts, the ledger file and the log. -/
structure Books where
  table : Table
  ledger : LedgerFile
  volume : Volume
  /-- What each attempt to write the ledger meets with, by its number. -/
  conditions : Nat → Conditions
  /-- How often writing the ledger has been attempted. -/
  flushes : Nat
  /-- What has been reported, oldest first. -/
  events : List Event

namespace Books

/-- Reports an event. -/
def note (b : Books) (event : Event) : Books :=
  { b with events := b.events ++ [event] }

/-- Writes the ledger anew. -/
def flush (b : Books) : Except LedgerError Unit × Books :=
  let (result, ledger, volume) := b.ledger.flush b.table (b.conditions b.flushes) b.volume
  (result, { b with ledger, volume, flushes := b.flushes + 1 })

/-- Writes the ledger anew and reports a failure to do so. -/
def persist (b : Books) : Books :=
  match b.flush with
  | (.ok (), b) => b
  | (.error e, b) => b.note (.ledgerNotWritten e)

/-- Carries out a transaction for an enrolled client. -/
def submit (b : Books) (client : String) (transaction : Transaction) : Response × Books :=
  match b.table.submit client transaction with
  | (.error e, table) => (.failure, { b with table }.note (.rejected client e))
  | (.ok (position, response), table) =>
    let b := { b with table }
    match table.get? position with
    | some account => (response, b.note (.processed client transaction account response))
    | none => (response, b)

/-- The assignment an envelope comes from, if it comes from a teller of
the batch. -/
def senderOf (map : TellerMap) (e : Envelope) : Option Assignment :=
  (map.byPid? e.pid).filter (·.teller = e.teller)

/-- Handles one payload. No answer means that it is discarded. -/
def processEnvelope (map : TellerMap) (e : Envelope) (b : Books) : Option Response × Books :=
  match senderOf map e with
  | none => (none, b.note (.discarded e.teller))
  | some assignment =>
    if e.transaction.bankId.text ≠ assignment.client then
      (some .failure, b.note (.mismatched assignment.client e.transaction.bankId))
    else
      let (response, b) := b.submit assignment.client e.transaction
      (some response, b.persist)

end Books

end CountingHouse.Server

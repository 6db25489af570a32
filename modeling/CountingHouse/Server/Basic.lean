/-
CountingHouse.Server.Basic — the bank server: opening, serving batches
and stopping.

However serving ends, the bank is closed in the same way: tellers that
are still alive are killed and reaped, the ledger is written a last time
and the source of batches removes what it has created. An error that ended
the serving is reported before one that comes up while stopping.

A batch that could be served to its end waits for all its tellers, and each
of them is there to be waited for. After one that was interrupted the
tellers are kept: the next batch begins with them, and stopping dismisses
those that are left.
-/
import CountingHouse.Config
import CountingHouse.Server.Source

namespace CountingHouse

/-! ## The server -/

/-- A bank server. -/
structure Server where
  books : Server.Books
  mailbox : Mailbox
  /-- The tellers of a batch that was interrupted. -/
  tellers : List Server.TellerProcess
  signal : Server.Signal
  /-- How long a teller waits for the server. -/
  patience : Span
  machine : Machine := .ordinary
  /-- The processes of its tellers. -/
  children : Children := .none

namespace Server

open Ledger

/-- Reads the ledger and maps the mailbox. -/
def open? (config : ServerConfig) (volume : Volume) (conditions : Nat → Conditions)
    (machine : Machine := .ordinary) : Except ServerError Server × Volume :=
  match openFile volume config.ledgerDir config.bankName with
  | (.error e, volume) => (.error (.ledger e), volume)
  | (.ok (ledger, table), volume) =>
    match Mailbox.create config.maxBatch.toNat machine with
    | .error e => (.error (.ipc e), volume)
    | .ok mailbox =>
      (.ok
        { books := ⟨table, ledger, volume, conditions, 0, []⟩
          mailbox
          tellers := []
          signal := none
          patience := config.teller.responseTimeout
          machine }, volume)

/-- Reports an event. -/
def note (s : Server) (event : Event) : Server :=
  { s with books := s.books.note event }

/-- Starts the tellers of a batch. Those that an interrupted batch has left
are looked after with them. -/
def begin (s : Server) (batch : Batch) (pids : List Int32) (mailbox : Mailbox) : Floor :=
  let map := assignmentsFrom 0 batch.clients pids
  { books := s.books
    mailbox
    signal := s.signal
    patience := s.patience
    machine := s.machine
    map
    roll := ⟨s.tellers ++ map.map startedTeller, .blank batch.size⟩
    children := s.children.start (map.map Assignment.pid) }

/-- The server after a batch. Tellers of an interrupted batch are kept
for stopping; otherwise the server waits until all have ended. -/
def finish (f : Floor) : Server :=
  { books := f.books
    mailbox := f.mailbox
    tellers := if f.roll.report.interrupted then f.roll.tellers else []
    signal := f.signal
    patience := f.patience
    machine := f.machine
    children :=
      if f.roll.report.interrupted then f.children
      else f.children.await (runsAs f.roll.tellers) }

/-- What serving one batch leads to: its summary and what the tellers
have written to their clients. -/
structure Served where
  report : Report
  responses : List (Option Sink)

/-- Begins a batch whose tellers run as the given processes. An empty batch
needs nothing, and one that is larger than the mailbox is refused; then
there is a summary and nothing to serve. -/
def startBatch (s : Server) (batch : Batch) (pids : List Int32) :
    Except (Except ServerError Report × Server) Floor :=
  let report := Report.blank batch.size
  if batch.isEmpty then .error (.ok report, s)
  else if s.mailbox.capacity < batch.size then
    .error (.ok { report with rejected := true },
      s.note (.batchTooLarge batch.size s.mailbox.capacity))
  else
    match s.mailbox.beginBatch batch.size with
    | (.error e, mailbox) => .error (.error (.ipc e), { s with mailbox })
    | (.ok (), mailbox) => .ok (s.begin batch pids mailbox)

/-- Notes that a teller map could not be published. The batch is served
all the same. -/
def notePublished (floor : Floor) (pid : Int32) : Except Fault Unit → Floor
  | .ok () => floor
  | .error fault => { floor with books := floor.books.note (.publishFailed pid fault) }

/-- Serves one batch. -/
def runBatch (s : Server) (round : Round) (source : BatchSource) :
    Except ServerError Served × Server × BatchSource :=
  match s.startBatch round.batch (round.seats.map Seat.pid) with
  | .error (.error e, s) => (.error e, s, source)
  | .error (.ok report, s) => (.ok ⟨report, round.batch.clients.map fun _ => none⟩, s, source)
  | .ok floor =>
    let (published, source) := source.publish round floor.map
    let floor := notePublished floor round.batch.pid published
    let (responses, floor) := floor.turn.serveSeats 0 round.seats
    let floor := floor.lapse s.tellers
    (.ok ⟨floor.roll.report, responses⟩, finish floor, source)

/-- Kills a teller and reaps it. A teller that has ended in the meantime is
not killed any more, but it is still there to be reaped. -/
def dismiss (s : Server) (t : TellerProcess) : Server :=
  let (_, killed) := (s.children t.pid).kill
  let (result, child) := killed.wait
  let s := { s with children := s.children.put t.pid child }
  match result with
  | .ok _ => s
  | .error e => s.note (.tellerNotReaped t.pid e)

/-- Kills and reaps the tellers that are left. -/
def dismissAll (s : Server) : Server :=
  (s.tellers.filter (·.exit.isNone)).foldl dismiss { s with tellers := [] }

/-- Dismisses the tellers that are left, writes the ledger a last time and
removes the source of batches. -/
def stop (s : Server) (source : BatchSource) : Except ServerError Unit × Server × BatchSource :=
  let s := s.dismissAll
  let (flushed, books) := s.books.flush
  let s := { s with books }
  let (cleaned, source) := source.cleanup
  let s := match cleaned with
    | .ok () => s
    | .error fault => s.note (.cleanupFailed fault)
  match flushed with
  | .ok () => (.ok (), s, source)
  | .error e => (.error (.ledger e), s, source)

/-- Serves batch after batch, at most `rounds` of them. -/
def serveBatches (s : Server) (source : BatchSource) :
    (rounds : Nat) → Except ServerError Unit × Server × BatchSource
  | 0 => (.ok (), s, source)
  | rounds + 1 =>
    match s.signal.look with
    | (true, signal) => (.ok (), { s with signal }, source)
    | (false, signal) =>
      match source.next signal with
      | (.error fault, signal, source) => (.error (.bootstrap fault), { s with signal }, source)
      | (.ok none, signal, source) => (.ok (), { s with signal }, source)
      | (.ok (some round), signal, source) =>
        match { s with signal }.runBatch round source with
        | (.error e, s, source) => (.error e, s, source)
        | (.ok served, s, source) => s.serveBatches (source.keepAnswers served.responses) rounds

/-- Serves batches until the source ends or fails or the server is asked
to stop, and then stops. The source has as many batches as it has; one
attempt more finds its end. -/
def serve (s : Server) (source : BatchSource) : Except ServerError Unit × Server × BatchSource :=
  let (served, s, source) := s.serveBatches source (source.rounds.length + 1)
  let s := match served with
    | .ok () => s
    | .error e => s.note (.servingStopped e)
  let (stopped, s, source) := s.stop source
  match served with
  | .ok () => (stopped, s, source)
  | .error e => (.error e, s, source)

end Server

end CountingHouse

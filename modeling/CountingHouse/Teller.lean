/-
CountingHouse.Teller — the worker that serves one client.

A teller reads one transaction from its client, hands it to the server
through the mailbox and relays the answer. It waits for the server only
until a deadline. Then it takes its request back, and whatever it finds
out by doing so is certain: either the server has never seen the request
and the client is told of a failure, or the answer is there.

A submission goes through stages, and each step from stage to stage is
one visit to the mailbox. What happens between two steps is up to the
server and the other tellers, and so is how many steps it takes.
-/
import CountingHouse.Mailbox.Basic
import CountingHouse.Stream
import CountingHouse.Wire

namespace CountingHouse

/-! ## Errors -/

/-- Why a teller ends without having served its client. -/
inductive TellerError where
  /-- The client's channel failed. -/
  | channel (fault : Fault)
  /-- What the client sent is no transaction, or an answer could not be
  written. -/
  | codec
  | ipc (error : IpcError)
  /-- The client closed its channel without sending anything. -/
  | emptyRequest
  /-- The server did not answer in time. -/
  | timeout (teller : UInt32)
  deriving DecidableEq, Repr

/-- The error as the bank reports it, without the position in a malformed
message and the time that was waited. -/
def TellerError.message : TellerError → String
  | .channel fault => "teller channel error: " ++ fault.text
  | .codec => "malformed message on teller channel"
  | .ipc error => error.message
  | .emptyRequest => "request channel closed before a transaction arrived"
  | .timeout teller => "teller " ++ toString teller.toNat ++ " gave up without a response"

namespace Teller

/-! ## The client's side -/

/-- Reads the transaction a client sends: one line, and blanks around it
do not count. -/
def readRequest (source : Source) : Except TellerError Transaction :=
  match source.readLine with
  | .error fault => .error (.channel fault)
  | .ok none => .error .emptyRequest
  | .ok (some line) =>
    match Message.decode? (Text.trim line) with
    | some transaction => .ok transaction
    | none => .error .codec

/-- Sends an answer to the client: its name as JSON, on a line. -/
def writeResponse (sink : Sink) (response : Response) : Except TellerError Unit × Sink :=
  match sink.write (Text.encode (Message.encode response)) with
  | (.error _, sink) => (.error .codec, sink)
  | (.ok (), sink) =>
    match sink.write [Text.lineFeed] with
    | (.error fault, sink) => (.error (.channel fault), sink)
    | (.ok (), sink) =>
      match sink.flush with
      | .error fault => (.error (.channel fault), sink)
      | .ok () => (.ok (), sink)

/-- Relays the outcome of a submission. After a timeout the client is
told of a failure; after any other error it hears nothing. -/
def relay (sink : Sink) : Except TellerError Response → Except TellerError Response × Sink
  | .ok verdict =>
    match writeResponse sink verdict with
    | (.ok (), sink) => (.ok verdict, sink)
    | (.error e, sink) => (.error e, sink)
  | .error (.timeout teller) =>
    match writeResponse sink .failure with
    | (.ok (), sink) => (.error (.timeout teller), sink)
    | (.error e, sink) => (.error e, sink)
  | .error e => (.error e, sink)

/-- The exit code of a teller: zero when it delivered the answer of the
server, one otherwise. -/
def exitCode : Except TellerError Response → Int32
  | .ok _ => 0
  | .error _ => 1

/-- The exit code of a teller that breaks down. -/
def brokenCode : Int32 := 101

/-- What a teller has to submit, or the exit code it ends with when it
comes to no submission. The request is read first. A teller that then
cannot set its deadline breaks down, and its client hears nothing. -/
def prepare (machine : Machine) (patience : Span) (source : Source) : Except Int32 Transaction :=
  match readRequest source with
  | .error e => .error (exitCode (.error e))
  | .ok transaction =>
    if patience.hasEnd machine.uptime then .ok transaction else .error brokenCode

/-! ## The mailbox's side -/

/-- How far a submission has come. -/
inductive Stage where
  /-- Trying to hand the transaction over. -/
  | posting
  /-- Waiting for the answer. -/
  | awaiting
  /-- About to take the request back. -/
  | withdrawing
  | finished (outcome : Except TellerError Response)

/-- One visit to the mailbox. `expired` tells whether the deadline has
passed when the visit turns out to be in vain. -/
def step (e : Envelope) (expired : Bool) (stage : Stage) (m : Mailbox) : Stage × Mailbox :=
  match stage with
  | .posting =>
    match m.tryPost e with
    | (true, m) => (.awaiting, m)
    | (false, m) => (if expired then .withdrawing else .posting, m)
  | .awaiting =>
    match m.finalResponse e.teller with
    | .error error => (.finished (.error (.ipc error)), m)
    | .ok (some verdict) => (.finished (.ok verdict), m)
    | .ok none => (if expired then .withdrawing else .awaiting, m)
  | .withdrawing =>
    match m.retract e.teller e.pid with
    | (.error error, m) => (.finished (.error (.ipc error)), m)
    | (.ok (.answered verdict), m) => (.finished (.ok verdict), m)
    | (.ok _, m) => (.finished (.error (.timeout e.teller)), m)
  | .finished outcome => (.finished outcome, m)

/-- The outcome of a submission at a stage. One that is not finished has
no better outcome than a timeout. -/
def Stage.outcome (e : Envelope) : Stage → Except TellerError Response
  | .finished outcome => outcome
  | _ => .error (.timeout e.teller)

/-- Brings a submission to its end when the deadline has passed; no more
than three visits are left then. -/
def settle (e : Envelope) (stage : Stage) (m : Mailbox) :
    Except TellerError Response × Mailbox :=
  let (stage, m) := step e true stage m
  let (stage, m) := step e true stage m
  let (stage, m) := step e true stage m
  (stage.outcome e, m)

/-- A submission whose deadline has passed when it begins. -/
def submitExpired (e : Envelope) (m : Mailbox) : Except TellerError Response × Mailbox :=
  settle e .posting m

/-- A submission during which the server takes one payload, once the
transaction has been handed over, and gives it to a handler. -/
def submitServed {σ : Type} (handler : Envelope → σ → Option Response × σ)
    (e : Envelope) (s : Mailbox × σ) : Except TellerError Response × Mailbox × σ :=
  let (stage, m) := step e false .posting s.1
  let (_, m, state) := m.tryTake handler s.2
  let (stage, m) := step e false stage m
  let (outcome, m) := settle e stage m
  (outcome, m, state)

/-- Serves a client of a teller that can set its deadline: reads the
request, submits it and relays the outcome. -/
def serve {σ : Type} (teller : UInt32) (pid : Int32) (source : Source) (sink : Sink)
    (submit : Envelope → σ → Except TellerError Response × σ) (s : σ) :
    Except TellerError Response × Sink × σ :=
  match readRequest source with
  | .error e => (.error e, sink, s)
  | .ok transaction =>
    let (outcome, s) := submit ⟨teller, pid, transaction⟩ s
    let (result, sink) := relay sink outcome
    (result, sink, s)

end Teller

end CountingHouse

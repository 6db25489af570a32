/-
CountingHouse.Server.Floor — one batch, from starting its tellers to
reaping them.

The server starts a teller for every client, publishes which teller
serves whom, and then takes turns. In a turn it first looks whether it is
asked to stop. If not, it takes a payload from the mailbox, or, when
there is none, looks which tellers have ended. It takes turns until no
teller is still to be served.

Between two turns the tellers do their part. Here they come forward one
at a time, in the order of their places: each reads its request, posts
it, waits for the turn that takes it, relays the answer and ends. A
teller that is to wait no time at all does not see that turn.

The server asks for the status of no process but its own tellers, and
nobody else does. Each is asked about until it has ended and never after
that, so there always is an answer; the errors of these calls are left out,
and so is a teller that cannot be started. Tellers that an interrupted batch
has left are looked after with those of the next one.
-/
import CountingHouse.Server.Books
import CountingHouse.Server.Roll
import CountingHouse.Teller

namespace CountingHouse.Server

/-! ## The request to stop -/

/-- The request to stop, as the server sees it by looking: `none` when it
never comes, otherwise how many more looks find nothing. -/
abbrev Signal := Option Nat

/-- Looks whether the request to stop has come. -/
def Signal.look : Signal → Bool × Signal
  | none => (false, none)
  | some 0 => (true, some 0)
  | some (n + 1) => (false, some n)

/-! ## What the tellers of a batch find -/

/-- What starting one teller leads to. -/
structure Seat where
  /-- The process the teller runs as. -/
  pid : Int32
  /-- The client's request, or nothing when the channels of this client
  cannot be opened. -/
  request : Option Source
  /-- The way back to the client. -/
  response : Sink
  deriving DecidableEq, Repr

/-- The server while it serves a batch. -/
structure Floor where
  books : Books
  mailbox : Mailbox
  signal : Signal
  /-- How long a teller waits for the server. -/
  patience : Span
  machine : Machine
  /-- Who serves whom. -/
  map : TellerMap
  roll : Roll
  /-- The processes of the tellers. -/
  children : Children

namespace Floor

/-! ## The server's part -/

/-- Notes that the server is asked to stop. -/
def interrupt (f : Floor) : Floor :=
  { f with roll.report.interrupted := true }

/-- How the process of a teller has ended, if it has. -/
def ended? (f : Floor) (pid : Int32) : Option ExitStatus :=
  (f.children pid).status?

/-- Takes a payload, or looks after the tellers when there is none. -/
def attend (f : Floor) : Floor :=
  match f.mailbox.tryTake (Books.processEnvelope f.map) f.books with
  | (some receipt, mailbox, books) =>
    { f with mailbox, books, roll := f.roll.recordReceipt receipt }
  | (none, mailbox, books) =>
    { f with
      mailbox
      books
      roll := f.roll.reapFinished f.ended?
      children := f.children.poll (runsAs f.roll.tellers) }

/-- One turn of the server. When no teller is still to be served, or the
server has been asked to stop, there are no more turns. -/
def turn (f : Floor) : Floor :=
  if f.roll.report.interrupted || !f.roll.isAwaiting then f
  else
    let (raised, signal) := f.signal.look
    let f := { f with signal }
    if raised then f.interrupt else f.attend

/-! ## The tellers' part -/

/-- A teller ends with an exit code. -/
def leave (f : Floor) (pid : Int32) (code : Int32) : Floor :=
  { f with children := f.children.put pid ((f.children pid).exit (.ofCode code)) }

/-- A teller relays the outcome of its submission and ends. -/
def conclude (f : Floor) (pid : Int32) (sink : Sink) (outcome : Except TellerError Response) :
    Sink × Floor :=
  let (result, sink) := Teller.relay sink outcome
  (sink, (f.leave pid (Teller.exitCode result)).turn)

/-- A teller hands a transaction over, waits for the turn that takes it
and relays the answer. When that turn does not come because the server is
to stop, the teller is left waiting. Without patience it takes the request
back before any turn. -/
def submit (f : Floor) (e : Envelope) (sink : Sink) : Sink × Floor :=
  if f.patience.isZero then
    let (outcome, mailbox) := Teller.submitExpired e f.mailbox
    { f with mailbox }.conclude e.pid sink outcome
  else
    let (stage, mailbox) := Teller.step e false .posting f.mailbox
    let f := { f with mailbox }.turn
    if f.roll.report.interrupted then (sink, f)
    else
      let (stage, mailbox) := Teller.step e false stage f.mailbox
      let (outcome, mailbox) := Teller.settle e stage mailbox
      { f with mailbox }.conclude e.pid sink outcome

/-- The teller at a place comes forward. Gives what it has written to its
client, or nothing when its channels could not be opened. -/
def comeForward (f : Floor) (teller : UInt32) (seat : Seat) : Option Sink × Floor :=
  match seat.request with
  | none => (none, (f.leave seat.pid 1).turn)
  | some source =>
    match Teller.prepare f.machine f.patience source with
    | .error code => (some seat.response, (f.leave seat.pid code).turn)
    | .ok transaction =>
      if f.roll.report.interrupted then (some seat.response, f)
      else
        let (sink, f) := f.submit ⟨teller, seat.pid, transaction⟩ seat.response
        (some sink, f)

/-- The tellers come forward one after another; the first of them has
place `place`. -/
def serveSeats (f : Floor) (place : Nat) : List Seat → List (Option Sink) × Floor
  | [] => ([], f)
  | seat :: rest =>
    let (sink, f) := f.comeForward (UInt32.ofNat place) seat
    let (sinks, f) := f.serveSeats (place + 1) rest
    (sink :: sinks, f)

/-- Tellers that an earlier batch has left behind, and that no answer is
meant for, run out of patience one after another. What they had posted has
been discarded by then. -/
def lapse (f : Floor) : List TellerProcess → Floor
  | [] => f
  | t :: rest =>
    if f.roll.report.interrupted then f else (f.leave t.pid 1).turn.lapse rest

end Floor

/-! ## Starting tellers -/

/-- The assignments of the tellers of a batch, which run as the given
processes; the first of them has place `place`. -/
def assignmentsFrom (place : Nat) : List String → List Int32 → TellerMap
  | client :: clients, pid :: pids =>
    ⟨UInt32.ofNat place, client, pid⟩ :: assignmentsFrom (place + 1) clients pids
  | _, _ => []

/-- A teller that has just been started. -/
def startedTeller (a : Assignment) : TellerProcess :=
  ⟨a.teller, a.pid, false, none⟩

end CountingHouse.Server

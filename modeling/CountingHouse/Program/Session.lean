/-
CountingHouse.Program.Session — the two programs on one volume.

A server program is started, client programs run one after another while
it serves, and in the end it is told to stop. The programs share nothing
but the volume. The batch goes through the server's pipe, the teller map
through the pipe of the client program, and each teller finds its request
in one pipe and writes its answer to another.

A client program asks its tellers one after another, in the order of their
places, so they come forward in this order. A teller whose client does not
ask waits for it, and with it the server, which takes no more batches.
-/
import CountingHouse.Enrollment
import CountingHouse.Program.Client

namespace CountingHouse

/-! ## A floor on a volume -/

namespace Server.Floor

/-- The volume of the server and its tellers. -/
def volume (f : Floor) : Volume :=
  f.books.volume

/-- Changes the volume. -/
def onVolume (f : Floor) (volume : Volume) : Floor :=
  { f with books.volume := volume }

/-- The map is published on the pipe of the client program `pid`. -/
def publish (f : Floor) (directory : String) (pid : Int32) : Floor :=
  match Channels.publish f.volume directory pid f.map with
  | .error fault => notePublished f pid (.error fault)
  | .ok (place, bytes) => f.onVolume (f.volume.send place bytes)

/-- The teller at a place opens its channels, takes its request out of one
pipe and writes to the other what it has to. Gives what it has written, or
nothing when its channels cannot be opened. -/
def serveTeller (f : Floor) (directory : String) (pid : Int32) (teller : UInt32)
    (process : Int32) : Option (List UInt8) × Floor :=
  match Channels.open? f.volume directory pid teller,
    f.volume.openWritable (Channels.requestPipe directory pid teller) with
  | .ok (source, answers), .ok requests =>
    let f := f.onVolume (f.volume.drain requests)
    let (sink, f) := f.comeForward teller ⟨process, some source, .unbounded⟩
    let written := (sink.map Sink.taken).getD []
    (some written, f.onVolume (f.volume.send answers written))
  | _, _ => (none, (f.comeForward teller ⟨process, none, .unbounded⟩).2)

end Server.Floor

namespace Program

open Ledger Server

/-! ## The server program -/

/-- A server program that is serving. -/
structure RunningServer where
  server : Server
  enrollment : Enrollment
  /-- The server's end of its pipe. -/
  fifo : OpenFile
  /-- The directory of the clients' pipes. -/
  directory : String
  /-- Is the server held up by tellers whose clients do not ask? -/
  held : Bool := false

namespace RunningServer

/-- The volume the server works on. -/
def volume (s : RunningServer) : Volume :=
  s.server.books.volume

/-- Changes the volume. -/
def onVolume (s : RunningServer) (volume : Volume) : RunningServer :=
  { s with server.books.volume := volume }

/-- Starts to serve. A server that cannot ends at once. -/
def serve (v : Volume) (conditions : Nat → Conditions) (config : ServerConfig) (fifo : String) :
    Except Outcome RunningServer × Volume :=
  match Server.open? config v conditions with
  | (.error e, v) =>
    (.error (.failed "" ⟨"failed to start bank '" ++ config.bankName ++ "'", serverCauses e⟩), v)
  | (.ok server, v) =>
    match Enrollment.create v fifo with
    | (.error fault, v) => (.error (.failed "" (.ofFault ("failed to create " ++ fifo) fault)), v)
    | (.ok (enrollment, place), v) =>
      let s : RunningServer :=
        { server, enrollment, fifo := ⟨place, 0⟩, directory := Path.directoryOf fifo }
      (.ok (s.onVolume v), v)

/-- Starts a server program. -/
def start (v : Volume) (conditions : Nat → Conditions) (arguments : List String) :
    Except Outcome RunningServer × Volume :=
  match CommandLine.serverArguments arguments with
  | .error e => (.error (.misused e), v)
  | .ok ⟨config, fifo⟩ => serve v conditions config fifo

/-- Tells the server program to stop. -/
def terminate (s : RunningServer) : Outcome × Volume :=
  let (result, server, _) := s.server.stop (.ofRounds [] none none)
  let volume := (s.enrollment.cleanup server.books.volume).2
  match result with
  | .ok () => (.success "", volume)
  | .error e => (.failed "" ⟨e.message, (serverCauses e).tail⟩, volume)

/-! ## A client program while the server serves -/

/-- The server reads what has arrived on its pipe. -/
def collect (s : RunningServer) : RunningServer :=
  let (bytes, fifo, volume) := s.fifo.read s.volume
  { s.onVolume volume with fifo, enrollment := s.enrollment.receive bytes }

/-- The server goes on with a batch as long as nobody asks it to stop, which
ends the batch. -/
def hold (s : RunningServer) (f : Floor) : RunningServer :=
  { s with server := finish f.interrupt, held := true }

/-- The server has no more to do for the clients of a program. It goes on
with its next batch unless tellers are still waiting for theirs. -/
def release (s : RunningServer) (f : Floor) : RunningServer :=
  let f := f.lapse s.server.tellers
  if f.roll.isAwaiting then s.hold f else { s with server := finish f }

/-- One client of a program and its teller. Gives what the client hears. -/
def converse (directory : String) (c : Client.Enrolled) (pid process : Int32) (f : Floor)
    (place : Nat) (transaction : Transaction) : Except Client.Halt (List UInt8) × Floor :=
  match c.ask f.volume place transaction with
  | .error fault => (.error (.fault fault), f)
  | .ok v =>
    match (f.onVolume v).serveTeller directory pid (UInt32.ofNat place) process with
    | (none, f) => (.error .waits, f)
    | (some _, f) =>
      match c.hear f.volume place with
      | .error fault => (.error (.fault fault), f)
      | .ok (answer, v) => (.ok answer, f.onVolume v)

/-- The clients of a program from place `place` on, one after another. Gives
what they hear and what keeps the program from going on, if something
does. A client without a teller hears nothing. -/
def converseAll (directory : String) (c : Client.Enrolled) (pid : Int32) (pidOf : Nat → Int32)
    (map : TellerMap) (f : Floor) (place : Nat) :
    List Transaction → List (List UInt8) × Option Client.Halt × Floor
  | [] => ([], none, f)
  | transaction :: rest =>
    let (heard, f) :=
      if (map.byTeller? (UInt32.ofNat place)).isSome then
        converse directory c pid (pidOf place) f place transaction
      else (.ok [], f)
    match heard with
    | .error halt => ([], some halt, f)
    | .ok answer =>
      let (answers, halt, f) := converseAll directory c pid pidOf map f (place + 1) rest
      (answer :: answers, halt, f)

/-- Serves a batch and runs the client program that waits for its map. -/
def serveBatch (s : RunningServer) (c : Client.Enrolled) (pidOf : Nat → Int32) (batch : Batch) :
    Outcome × RunningServer :=
  match s.server.startBatch batch ((List.range batch.size).map pidOf) with
  | .error (_, server) => (.waiting c.output, { s with server })
  | .ok f =>
    let f := (f.publish s.directory batch.pid).turn
    match c.awaitMap f.volume with
    | .error halt => (halt.outcome c.output, s.hold f)
    | .ok (mapLine, v) =>
      let f := f.onVolume v
      match Client.mapOf? mapLine with
      | none => (c.finish mapLine [], s.hold f)
      | some map =>
        match converseAll s.directory c batch.pid pidOf map f 0 c.transactions with
        | (answers, some halt, f) =>
          let printed := Client.reports map 0 (c.transactions.take answers.length) answers
          (halt.outcome (c.output ++ printed), s.hold f)
        | (answers, none, f) => (c.finish mapLine answers, s.release f)

/-- Runs a client program that has made its pipes. One whose batch does not
arrive or is refused waits for ever. -/
def serveClient (s : RunningServer) (c : Client.Enrolled) (pidOf : Nat → Int32) :
    Outcome × RunningServer :=
  let s := s.onVolume (c.enroll s.volume)
  if s.held then (.waiting c.output, s)
  else
    let s := s.collect
    match s.enrollment.next with
    | (none, enrollment) => (.waiting c.output, { s with enrollment })
    | (some batch, enrollment) => { s with enrollment }.serveBatch c pidOf batch

/-- Runs a client program to its end. -/
def runClient (s : RunningServer) (pid : Int32) (pidOf : Nat → Int32) (arguments : List String) :
    Outcome × RunningServer :=
  match Client.start s.volume pid arguments with
  | (.error outcome, v) => (outcome, s.onVolume v)
  | (.ok c, v) =>
    let (outcome, s) := (s.onVolume v).serveClient c pidOf
    if outcome.exitCode.isNone then (outcome, s)
    else (outcome, s.onVolume (Client.removePipes s.volume c.pipes))

/-- Runs client programs one after another. The process numbers of each
and of its tellers are given by its place. -/
def runClients (s : RunningServer) (pid : Nat → Int32) (pidOf : Nat → Nat → Int32) (place : Nat) :
    List (List String) → List Outcome × RunningServer
  | [] => ([], s)
  | arguments :: rest =>
    let (outcome, s) := s.runClient (pid place) (pidOf place) arguments
    let (outcomes, s) := s.runClients pid pidOf (place + 1) rest
    (outcome :: outcomes, s)

end RunningServer

/-! ## Alone -/

/-- Runs a server program that is expected to end by itself. -/
def runServerAlone (v : Volume) (conditions : Nat → Conditions) (arguments : List String) :
    Outcome × Volume :=
  match RunningServer.start v conditions arguments with
  | (.error outcome, v) => (outcome, v)
  | (.ok s, _) => s.terminate

/-- Runs a client program while no server is there. -/
def runClientAlone (v : Volume) (pid : Int32) (arguments : List String) : Outcome × Volume :=
  match Client.start v pid arguments with
  | (.error outcome, v) => (outcome, v)
  | (.ok c, v) => (.waiting c.output, c.enroll v)

end Program

end CountingHouse

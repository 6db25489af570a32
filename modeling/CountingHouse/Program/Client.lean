/-
CountingHouse.Program.Client — the program that enrolls clients.

The program reads a client file, makes the pipes its clients need,
enrolls them all at once, and then serves as each client in turn: it
sends the client's transaction to the client's teller and prints the
answer. Whatever happens after the pipes were made, it removes them.

What it sends and what it gets goes through the pipes. A pipe that cannot
be opened, and a line that is no text, end the program; where nothing
comes it waits.
-/
import CountingHouse.Channels
import CountingHouse.ClientFile.Clients
import CountingHouse.Program.Outcome

namespace CountingHouse.Program.Client

/-! ## Before enrolling -/

/-- The transactions of a client file. A directory can be opened like a
file; only reading it fails. -/
def readFile (v : Volume) (path : String) : Except Fault (List Transaction) :=
  match v.open? path with
  | .error fault => .error fault
  | .ok (_, .directory) =>
    .ok (ClientFile.read ⟨[], some (.system .isADirectory)⟩).transactions
  | .ok (place, _) => .ok (ClientFile.readBytes (v.contents place)).transactions

/-- The paths of all pipes a number of clients need. -/
def pipes (directory : String) (pid : Int32) (count : Nat) : List String :=
  (Channels.names pid count).map (Path.join directory)

/-- Makes pipes until one cannot be made. -/
def makePipes (v : Volume) : List String → Except Failure Unit × Volume
  | [] => (.ok (), v)
  | path :: rest =>
    match v.makePipe path with
    | (.ok (), v) => makePipes v rest
    | (.error fault, v) => (.error (.ofFault ("failed to create " ++ path) fault), v)

/-- Removes pipes; those that cannot be removed stay. -/
def removePipes (v : Volume) (paths : List String) : Volume :=
  paths.foldl (fun v path => (v.remove path).2) v

/-- The batch in which the clients enroll. -/
def batchOf (pid : Int32) (transactions : List Transaction) : Batch :=
  ⟨pid, transactions.map (·.bankId.text)⟩

/-- A client program that has made its pipes and found the server. -/
structure Enrolled where
  pid : Int32
  fifo : String
  /-- Where the server's pipe stands. -/
  server : Place
  /-- The directory of the pipes. -/
  directory : String
  transactions : List Transaction
  /-- What has been printed. -/
  output : String

/-- The pipes of the program. -/
def Enrolled.pipes (c : Enrolled) : List String :=
  Client.pipes c.directory c.pid c.transactions.length

/-- Does everything up to the enrollment. A program that does not get
that far ends here. -/
def start (v : Volume) (pid : Int32) (arguments : List String) :
    Except Outcome Enrolled × Volume :=
  match CommandLine.clientArguments arguments with
  | .error e => (.error (.misused e), v)
  | .ok ⟨file, fifo⟩ =>
    let output := "Reading " ++ file ++ "...\n"
    match readFile v file with
    | .error fault =>
      (.error (.failed output (.ofFault ("failed to open client file '" ++ file ++ "'") fault)), v)
    | .ok [] => (.error (.failed output ⟨"no clients in '" ++ file ++ "'", []⟩), v)
    | .ok transactions =>
      let count := transactions.length
      let output := output ++ toString count ++ " clients to connect.. creating clients..\n"
      let directory := Path.directoryOf fifo
      match makePipes v (pipes directory pid count) with
      | (.error failure, v) => (.error (.failed output failure), v)
      | (.ok (), v) =>
        match v.openWritable fifo with
        | .error fault =>
          (.error (.failed output (.ofFault ("cannot connect to " ++ fifo) fault)),
            removePipes v (pipes directory pid count))
        | .ok server =>
          (.ok ⟨pid, fifo, server, directory, transactions,
            output ++ "Connected to " ++ fifo ++ "..\n"⟩, v)

/-- The line that enrolls the clients. -/
def Enrolled.enrollment (c : Enrolled) : List UInt8 :=
  Channels.line (batchOf c.pid c.transactions)

/-- Sends the batch to the server. -/
def Enrolled.enroll (c : Enrolled) (v : Volume) : Volume :=
  v.send c.server c.enrollment

/-! ## After enrolling -/

/-- Why the program does not go on. -/
inductive Halt where
  | fault (fault : Fault)
  /-- It waits for something that never comes. -/
  | waits
  deriving DecidableEq, Repr

/-- How a program ends that does not go on after it has printed something. -/
def Halt.outcome (output : String) : Halt → Outcome
  | .fault cause => .failed output ⟨cause.text, []⟩
  | .waits => .waiting output

/-- Reads the line with the teller map. While the pipe is empty there is
nothing to do but to wait. -/
def Enrolled.awaitMap (c : Enrolled) (v : Volume) : Except Halt (List UInt8 × Volume) :=
  let path := Channels.clientPipe c.directory c.pid
  match v.open? path with
  | .ok (_, .fifo []) => .error .waits
  | _ => (Channels.receive v path).mapError .fault

/-- Sends the transaction of the client at a place to its teller. -/
def Enrolled.ask (c : Enrolled) (v : Volume) (place : Nat) (transaction : Transaction) :
    Except Fault Volume :=
  (v.openWritable (Channels.requestPipe c.directory c.pid (UInt32.ofNat place))).map fun pipe =>
    v.send pipe (Channels.line transaction)

/-- Reads what the teller of the client at a place has written. -/
def Enrolled.hear (c : Enrolled) (v : Volume) (place : Nat) :
    Except Fault (List UInt8 × Volume) :=
  Channels.receive v (Channels.responsePipe c.directory c.pid (UInt32.ofNat place))

/-- The number of a client, with at least two digits. -/
def label (place : Nat) : String :=
  let number := Text.natural (place + 1)
  String.ofList ("Client".toList ++ List.replicate (2 - number.length) '0' ++ number)

/-- The line that is printed for one client when its teller has written
`answer` and nothing more. -/
def report (place : Nat) (transaction : Transaction) (answer : List UInt8) : String :=
  match (Text.decode? answer).bind fun text => Message.decode? (Text.trim text) with
  | some (response : Response) =>
    label place ++ " connected.." ++ transaction.operation.word ++ " " ++
      toString transaction.amount.toNat ++ " credits.. " ++ response.description ++ "\n"
  | none => label place ++ " lost its teller before an answer arrived\n"

/-- The lines that are printed for the clients from place `place` on. -/
def reports (map : TellerMap) (place : Nat) :
    List Transaction → List (List UInt8) → String
  | [], _ => ""
  | transaction :: rest, answers =>
    let line :=
      if (map.byTeller? (UInt32.ofNat place)).isSome then
        report place transaction (answers.headD [])
      else label place ++ " was not assigned a teller\n"
    line ++ reports map (place + 1) rest answers.tail

/-- The teller map, if the line holds one. -/
def mapOf? (mapLine : List UInt8) : Option TellerMap :=
  (Text.decode? mapLine).bind fun text =>
    (Message.decode? (Text.trim text) : Option (List Assignment))

/-- How the program ends once it has its teller map, as a line, and what
the tellers have written. -/
def Enrolled.finish (c : Enrolled) (mapLine : List UInt8) (answers : List (List UInt8)) :
    Outcome :=
  match mapOf? mapLine with
  | none =>
    .failed c.output ⟨"server sent a malformed teller map", []⟩
  | some map =>
    .success (c.output ++ reports map 0 c.transactions answers ++ "exiting..\n")

end CountingHouse.Program.Client

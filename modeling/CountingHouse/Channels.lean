/-
CountingHouse.Channels — the named pipes between the programs.

    <server fifo>             client to server    the batch
    client_<pid>.fifo         server to client    the teller map
    teller_<pid>_<i>.req      client to teller    one transaction
    teller_<pid>_<i>.res      teller to client    one answer

Each carries one line of JSON. All but the first stand in the directory
of the first and are made by the client program.
-/
import CountingHouse.Stream
import CountingHouse.Volume
import CountingHouse.Wire

namespace CountingHouse.Channels

/-! ## Paths -/

/-- The name of the pipe on which the client program learns its tellers. -/
def clientName (pid : Int32) : String :=
  "client_" ++ toString pid.toInt ++ ".fifo"

/-- The name of a pipe of a teller. -/
def tellerName (ending : String) (pid : Int32) (teller : UInt32) : String :=
  "teller_" ++ toString pid.toInt ++ "_" ++ toString teller.toNat ++ ending

/-- The name of the pipe on which a teller gets its request. -/
def requestName : Int32 → UInt32 → String :=
  tellerName ".req"

/-- The name of the pipe on which a teller sends its answer. -/
def responseName : Int32 → UInt32 → String :=
  tellerName ".res"

def clientPipe (directory : String) (pid : Int32) : String :=
  Path.join directory (clientName pid)

def requestPipe (directory : String) (pid : Int32) (teller : UInt32) : String :=
  Path.join directory (requestName pid teller)

def responsePipe (directory : String) (pid : Int32) (teller : UInt32) : String :=
  Path.join directory (responseName pid teller)

/-- The names of the pipes of tellers from place `place` on. -/
def tellerNames (pid : Int32) (place : Nat) : Nat → List String
  | 0 => []
  | count + 1 =>
    requestName pid (UInt32.ofNat place) :: responseName pid (UInt32.ofNat place) ::
      tellerNames pid (place + 1) count

/-- The names of all pipes a client program needs for a number of clients. -/
def names (pid : Int32) (count : Nat) : List String :=
  clientName pid :: tellerNames pid 0 count

/-! ## Lines -/

/-- A message as the line that is sent. -/
def line {α : Type} [Message α] (message : α) : List UInt8 :=
  Text.encode (Message.encode message) ++ [Text.lineFeed]

/-- What is sent to the client program so that it learns its tellers, and
the place it is sent to. -/
def publish (v : Volume) (directory : String) (pid : Int32) (map : TellerMap) :
    Except Fault (Place × List UInt8) :=
  (v.openWritable (clientPipe directory pid)).map fun place => (place, line map)

/-- Opens the two channels of a teller: where its request comes from and
the place of its answer. -/
def open? (v : Volume) (directory : String) (pid : Int32) (teller : UInt32) :
    Except Fault (Source × Place) :=
  match v.read (requestPipe directory pid teller) with
  | .error fault => .error fault
  | .ok request =>
    match v.openWritable (responsePipe directory pid teller) with
    | .error fault => .error fault
    | .ok place => .ok (.ofBytes request, place)

/-- Reads a line from what a path leads to. Whatever a pipe holds is gone
from it then. Nothing at all is a line without bytes, and a line has to be
text. -/
def receive (v : Volume) (path : String) : Except Fault (List UInt8 × Volume) :=
  match v.openWritable path with
  | .error fault => .error fault
  | .ok place =>
    match (Source.ofBytes (v.contents place)).readLine with
    | .error fault => .error fault
    | .ok text => .ok (Text.encode (text.getD []), v.drain place)

end CountingHouse.Channels

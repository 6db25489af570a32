/-
CountingHouse.Batch — one round of enrollment.

A client program enrolls a batch: the clients it wants served, in order.
The bank gives each of them a teller and answers with a map of which
teller, running as which process, serves which client.
-/

namespace CountingHouse

/-- The clients that one enrolling program wants served. Their names are
any texts; the bank decides later what each one refers to. -/
structure Batch where
  /-- The process of the enrolling program. -/
  pid : Int32
  clients : List String
  deriving DecidableEq, Repr

namespace Batch

/-- The number of clients. -/
def size (b : Batch) : Nat :=
  b.clients.length

/-- Is nobody to be served? -/
def isEmpty (b : Batch) : Bool :=
  b.clients.isEmpty

end Batch

/-- A teller and the client it serves. -/
structure Assignment where
  /-- The place of the teller in its batch. -/
  teller : UInt32
  client : String
  /-- The process of the teller. -/
  pid : Int32
  deriving DecidableEq, Repr

/-- Which teller serves which client, in the order the tellers were
started. -/
abbrev TellerMap := List Assignment

namespace TellerMap

/-- The first assignment of a process. -/
def byPid? (map : TellerMap) (pid : Int32) : Option Assignment :=
  map.find? (·.pid = pid)

/-- The first assignment of a teller. -/
def byTeller? (map : TellerMap) (teller : UInt32) : Option Assignment :=
  map.find? (·.teller = teller)

/-- Adds an assignment at the end. -/
def insert (map : TellerMap) (teller : UInt32) (client : String) (pid : Int32) : TellerMap :=
  map ++ [⟨teller, client, pid⟩]

end TellerMap

end CountingHouse

/-
CountingHouse.Program.Visit — a server that is started for one client
program and stopped after it.

The two programs meet on a volume of their own. On it stand the bank's
ledger, the client file and the directories their paths lead through. All
that is left of a visit is what the programs print and the new ledger.
-/
import CountingHouse.Program.Session

namespace CountingHouse.Program

/-! ## Furnishing a volume -/

/-- Makes the directories that names lead through, from a place on. -/
def furnish (v : Volume) (here : Place) : List (List Char) → Volume
  | [] => v
  | name :: rest =>
    if name = ['.', '.'] then furnish v here.dropLast rest
    else furnish (v.put (here ++ [name]) .directory) (here ++ [name]) rest

/-- Makes the directories that lead to a path. -/
def furnishFor (v : Volume) (path : String) : Volume :=
  let names := (Path.partsOf (Path.directoryOf path).toList).filter (!Path.isVoid ·)
  furnish v (if Path.isAbsolute path then [] else v.workingDirectory) names

/-- Puts a file at a path, if the path leads to a place. -/
def putFile (v : Volume) (path : String) (bytes : List UInt8) : Volume :=
  match v.locate path with
  | .ok place => v.put place (.file bytes)
  | .error _ => v

/-! ## The visit -/

/-- What a visit begins with. -/
structure Visit where
  server : CommandLine.ServerArguments
  /-- The bank's ledger, if it has one. -/
  ledger : Option (List UInt8)
  /-- The client file. -/
  clients : List UInt8
  /-- The time of the visit, as the ledger's header gives it. -/
  stamp : String

namespace Visit

/-- The path of the client file. -/
def clientFile : String := "/dev/stdin"

/-- The path of the ledger. -/
def ledgerPath (visit : Visit) : String :=
  Ledger.pathFor visit.server.config.ledgerDir visit.server.config.bankName

/-- The volume the programs meet on. -/
def volume (visit : Visit) : Volume :=
  let paths := [visit.ledgerPath, visit.server.fifo, clientFile]
  let v := putFile (paths.foldl furnishFor (.scratch "/bank")) clientFile visit.clients
  match visit.ledger with
  | some bytes => putFile v visit.ledgerPath bytes
  | none => v

/-- Runs both programs to their end. Gives how the visit ended and the
ledger it left. A server that fails matters more than what the client
program met with. -/
def run (visit : Visit) : Outcome × Option (List UInt8) :=
  let ⟨config, fifo⟩ := visit.server
  match RunningServer.serve visit.volume (fun _ => ⟨visit.stamp, none⟩) config fifo with
  | (.error outcome, v) => (outcome, (v.read visit.ledgerPath).toOption)
  | (.ok s, _) =>
    let (client, s) := s.runClient 2 (fun place => Int32.ofNat (3 + place)) [clientFile, fifo]
    let (server, v) := s.terminate
    (if server.exitCode = some 0 then client else server, (v.read visit.ledgerPath).toOption)

end Visit

end CountingHouse.Program

/-
CountingHouse.Main — the counting house as a program.

    counting-house [OPTIONS] <BANK_NAME> <SERVER_FIFO> < clients

It takes the arguments of the server and reads a client file from its
input. It serves these clients, prints what their program prints and
writes the ledger of the bank anew.
-/
import CountingHouse.Clock
import CountingHouse.Program.Visit
import Std.Time.Zoned.Database

namespace CountingHouse

/-- How to use the program. -/
def usage : String :=
  "Usage: counting-house [OPTIONS] <BANK_NAME> <SERVER_FIFO>\n\n" ++
  "Options:\n" ++
  "      --ledger-dir <LEDGER_DIR>                    directory of the ledger [default: .]\n" ++
  "      --max-batch <MAX_BATCH>                      clients in a batch [default: 64]\n" ++
  "      --poll-ms <POLL_MS>                          milliseconds between looks [default: 10]\n" ++
  "      --teller-timeout-secs <TELLER_TIMEOUT_SECS>  seconds a teller waits [default: 30]\n" ++
  "  -h, --help                                       print help\n"

/-- The time on the clocks of this place. -/
def localTime : IO Moment := do
  let instant ← Std.Time.Timestamp.now
  let offset : Int ←
    try pure ((← Std.Time.Database.defaultGetLocalZoneRules).timezoneAt instant).offset.second.val
    catch _ => pure 0
  return .ofSeconds (instant.toSecondsSinceUnixEpoch.val + offset).toNat

/-- The bytes of a file, or nothing when there is none. -/
def readIfThere (path : String) : IO (Option (List UInt8)) := do
  try return some (← IO.FS.readBinFile path).toList
  catch
    | .noFileOrDirectory .. => return none
    | e => throw e

/-- Prints how a program ended and gives its exit code. -/
def conclude (outcome : Program.Outcome) : IO UInt32 := do
  IO.print outcome.output
  match outcome.complaint with
  | .none => pure ()
  | .usage .displayHelp => IO.print usage
  | .usage _ => IO.eprint usage
  | .failure f => IO.eprint f.text
  return UInt32.ofNat (outcome.exitCode.getD 1)

end CountingHouse

open CountingHouse in
/-- Serves the clients of one client file. -/
def main (arguments : List String) : IO UInt32 := do
  match CommandLine.serverArguments arguments with
  | .error e => conclude (.misused e)
  | .ok server =>
    let path := Ledger.pathFor server.config.ledgerDir server.config.bankName
    let ledger ← readIfThere path
    let clients := (← (← IO.getStdin).readBinToEnd).toList
    let (outcome, written) := (Program.Visit.mk server ledger clients (← localTime).stamp).run
    if let some bytes := written then
      IO.FS.writeBinFile path ⟨bytes.toArray⟩
    conclude outcome

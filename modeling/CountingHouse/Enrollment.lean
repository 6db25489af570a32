/-
CountingHouse.Enrollment — batches arriving on a named pipe.

Client programs write lines; the server keeps the bytes it has received
until a line is complete. A line that is no batch is ignored, and a blank
one is not even counted. How the bytes were divided when they arrived
does not matter. The request to stop is looked at before each line, so a
wait that it cuts short takes no batch; the blank and malformed lines
before it are used up all the same. The pipe itself does not fail here:
asking it for bytes gives those that have arrived.
-/
import CountingHouse.Stream
import CountingHouse.Volume
import CountingHouse.Wire

namespace CountingHouse

/-! ## Lines -/

/-- What one line of the pipe holds. -/
inductive EnrollmentLine where
  | blank
  | malformed
  | batch (batch : Batch)
  deriving DecidableEq, Repr

/-- Reads one line, without its line feed. -/
def EnrollmentLine.decode (line : List UInt8) : EnrollmentLine :=
  match Text.decode? line with
  | none => .malformed
  | some text =>
    let text := Text.trim text
    if text.isEmpty then .blank
    else
      match Message.decode? text with
      | some b => .batch b
      | none => .malformed

/-! ## The pipe -/

/-- The server's end of the pipe. -/
structure Enrollment where
  /-- The path of the pipe. -/
  path : String
  /-- Bytes that were received and not yet used. -/
  pending : List UInt8
  /-- How many malformed lines have been ignored. -/
  ignored : Nat
  deriving DecidableEq, Repr

namespace Enrollment

/-- Makes the pipe and opens it; tells where it stands. A pipe that is
already there is used. -/
def create (v : Volume) (path : String) : Except Fault (Enrollment × Place) × Volume :=
  match v.makePipe path with
  | (.error fault, v) => (.error fault, v)
  | (.ok (), v) =>
    match v.openWritable path with
    | .error fault => (.error fault, v)
    | .ok place => (.ok (⟨path, [], 0⟩, place), v)

/-- Bytes arrive. -/
def receive (e : Enrollment) (bytes : List UInt8) : Enrollment :=
  { e with pending := e.pending ++ bytes }

/-- Looks for a batch in the complete lines, at most `lines` of them: then
there are no more, or the request to stop is seen. -/
def search (e : Enrollment) : (lines : Nat) → Option Batch × Enrollment
  | 0 => (none, e)
  | lines + 1 =>
    match Text.takeLine? e.pending with
    | none => (none, e)
    | some (line, rest) =>
      let e := { e with pending := rest }
      match EnrollmentLine.decode line with
      | .batch batch => (some batch, e)
      | .blank => e.search lines
      | .malformed => { e with ignored := e.ignored + 1 }.search lines

/-- The next batch among what has been received, or nothing when all
complete lines are used up. There are no more lines than bytes. -/
def next (e : Enrollment) : Option Batch × Enrollment :=
  e.search e.pending.length

/-- The next batch, unless the server is to stop. -/
def nextUnless (e : Enrollment) (stopping : Bool) : Option Batch × Enrollment :=
  if stopping then (none, e) else e.next

/-- All batches among what has been received, at most `count` of them. -/
def drain (e : Enrollment) : (count : Nat) → List Batch × Enrollment
  | 0 => ([], e)
  | count + 1 =>
    match e.next with
    | (none, e) => ([], e)
    | (some batch, e) =>
      let (batches, e) := e.drain count
      (batch :: batches, e)

/-- Removes the pipe. That it is gone already does not matter. -/
def cleanup (e : Enrollment) (v : Volume) : Except Fault Unit × Volume :=
  match v.remove e.path with
  | (.error fault, v) => if fault.kind = .notFound then (.ok (), v) else (.error fault, v)
  | (.ok (), v) => (.ok (), v)

end Enrollment

end CountingHouse

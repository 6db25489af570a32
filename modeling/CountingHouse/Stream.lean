/-
CountingHouse.Stream — byte streams that may fail.

A source is everything a reader will ever receive: some bytes, and then
either the end or a fault. A sink is everything a writer has been able
to send, together with how many bytes will still be taken and what
happens to the first byte that is not.
-/
import CountingHouse.Fault
import CountingHouse.Text.Lines
import CountingHouse.Text.Utf8

namespace CountingHouse

/-! ## Reading -/

/-- Bytes to be read, and the fault that follows them, if one does. -/
structure Source where
  bytes : List UInt8
  failure : Option Fault
  deriving DecidableEq, Repr

namespace Source

/-- A source that ends after its bytes. -/
def ofBytes (bytes : List UInt8) : Source :=
  ⟨bytes, none⟩

/-- All bytes of the source. -/
def readAll (s : Source) : Except Fault (List UInt8) :=
  match s.failure with
  | some fault => .error fault
  | none => .ok s.bytes

/-- The bytes up to the first line feed, or all bytes when the source
ends without one. A reader that has its line does not notice that the
source fails later. -/
def firstLine (s : Source) : Except Fault (List UInt8) :=
  match Text.takeLine? s.bytes with
  | some (line, _) => .ok (line ++ [Text.lineFeed])
  | none => s.readAll

/-- The first line as text, or nothing when the source is empty. -/
def readLine (s : Source) : Except Fault (Option (List Char)) :=
  match s.firstLine with
  | .error fault => .error fault
  | .ok [] => .ok none
  | .ok line =>
    match Text.decode? line with
    | some text => .ok (some text)
    | none => .error .notUtf8

end Source

/-! ## Writing -/

/-- Bytes sent so far and what will become of the next ones. -/
structure Sink where
  /-- The bytes that were taken. -/
  taken : List UInt8
  /-- How many more bytes will be taken; `none` means all. -/
  room : Option Nat
  /-- What a byte beyond the room is refused with. -/
  refusal : Fault
  /-- What flushing fails with, if it fails. -/
  flushFault : Option Fault
  deriving DecidableEq, Repr

namespace Sink

/-- A sink that takes everything. -/
def unbounded : Sink :=
  ⟨[], none, .nothingWritten, none⟩

/-- Sends bytes. Those there is room for are taken even when the others
are refused. -/
def write (s : Sink) (bytes : List UInt8) : Except Fault Unit × Sink :=
  match s.room with
  | none => (.ok (), { s with taken := s.taken ++ bytes })
  | some room =>
    let after := { s with
      taken := s.taken ++ bytes.take room
      room := some (room - bytes.length) }
    (if bytes.length ≤ room then .ok () else .error s.refusal, after)

/-- Sends several pieces in turn and stops at the first that is not
taken whole. -/
def writeEach (s : Sink) : List (List UInt8) → Except Fault Unit × Sink
  | [] => (.ok (), s)
  | piece :: rest =>
    match s.write piece with
    | (.ok (), s) => s.writeEach rest
    | (.error fault, s) => (.error fault, s)

/-- Makes sure that what was taken has arrived. -/
def flush (s : Sink) : Except Fault Unit :=
  match s.flushFault with
  | some fault => .error fault
  | none => .ok ()

end Sink

end CountingHouse

/-
CountingHouse.Server.Source — where the batches of a server come from.

A source is described by everything it will ever give: its batches, each
with what serving it meets with, and how it ends. What comes back to it,
the teller maps, the answers and the request to remove itself, is kept. How
long publishing a map is tried before it fails is left out.
-/
import CountingHouse.Server.Floor

namespace CountingHouse.Server

/-! ## Batches -/

/-- One batch and everything it meets with. -/
structure Round where
  batch : Batch
  /-- What the tellers find, one for each client. -/
  seats : List Seat
  /-- What publishing the teller map fails with, if it fails. -/
  publishFault : Option Fault

/-- A teller map that a source was given to publish. -/
structure Publication where
  /-- The process it is meant for. -/
  pid : Int32
  map : TellerMap
  /-- What publishing it failed with; `none` when the map was published. -/
  fault : Option Fault

/-- A source of batches. -/
structure BatchSource where
  /-- The batches that are still to come. -/
  rounds : List Round
  /-- What the source fails with after its last batch; `none` when it
  just ends. -/
  ending : Option Fault
  /-- What removing the source fails with, if it fails. -/
  cleanupFault : Option Fault
  /-- What became of the teller maps, oldest first. -/
  publications : List Publication
  /-- What the tellers of each batch have written to their clients,
  oldest batch first. -/
  answers : List (List (Option Sink))
  /-- How often the source has been removed. -/
  cleanups : Nat

namespace BatchSource

/-- A source that nothing has come back to. -/
def ofRounds (rounds : List Round) (ending cleanupFault : Option Fault) : BatchSource :=
  ⟨rounds, ending, cleanupFault, [], [], 0⟩

/-- A source that has one batch. -/
def single (round : Round) : BatchSource :=
  ofRounds [round] none none

/-- Waits for the next batch. There is none when the source has ended or
the server is asked to stop; in the latter case nothing is lost. -/
def next (s : BatchSource) (signal : Signal) : Except Fault (Option Round) × Signal × BatchSource :=
  match signal.look with
  | (true, signal) => (.ok none, signal, s)
  | (false, signal) =>
    match s.rounds with
    | round :: rest => (.ok (some round), signal, { s with rounds := rest })
    | [] =>
      match s.ending with
      | some fault => (.error fault, signal, s)
      | none => (.ok none, signal, s)

/-- Publishes the teller map of a batch, which may fail. What becomes of it
is kept. -/
def publish (s : BatchSource) (round : Round) (map : TellerMap) :
    Except Fault Unit × BatchSource :=
  let s := { s with
    publications := s.publications ++ [⟨round.batch.pid, map, round.publishFault⟩] }
  match round.publishFault with
  | some fault => (.error fault, s)
  | none => (.ok (), s)

/-- The teller maps that were to be published, each with the process it was
meant for, also those that could not be. -/
def published (s : BatchSource) : List (Int32 × TellerMap) :=
  s.publications.map fun p => (p.pid, p.map)

/-- Keeps what the tellers of a batch have written. -/
def keepAnswers (s : BatchSource) (answers : List (Option Sink)) : BatchSource :=
  { s with answers := s.answers ++ [answers] }

/-- Removes the source. -/
def cleanup (s : BatchSource) : Except Fault Unit × BatchSource :=
  let s := { s with cleanups := s.cleanups + 1 }
  match s.cleanupFault with
  | some fault => (.error fault, s)
  | none => (.ok (), s)

end BatchSource

end CountingHouse.Server

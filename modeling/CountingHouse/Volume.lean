/-
CountingHouse.Volume — the files, directories and named pipes the
programs of the bank share.

A node of the volume stands at a place, the list of names that leads to
it from the root. A path is followed part by part: every part before
the last has to be a directory, two dots go up, and a name has at most
255 bytes. An open file keeps its place and the position of its next
write, so a path is looked at only when something is opened.

A pipe holds what was sent and not yet received. It has room for all of
it, so a writer never waits; that a writer also waits for a reader to open
the other end is left out.
-/
import CountingHouse.Fault
import CountingHouse.Path
import CountingHouse.Text.Utf8

namespace CountingHouse

/-! ## Nodes -/

/-- What stands at a place. -/
inductive Node where
  | directory
  | file (bytes : List UInt8)
  /-- A pipe and the bytes it holds. -/
  | fifo (held : List UInt8)
  deriving DecidableEq, Repr

/-- A pipe that nothing has been sent on. -/
def Node.pipe : Node :=
  .fifo []

/-- The names that lead from the root to a node. -/
abbrev Place := List (List Char)

/-- A tree of nodes and the directory relative paths begin at. -/
structure Volume where
  /-- Every node but the root, each with its place. -/
  nodes : List (Place × Node)
  workingDirectory : Place
  deriving DecidableEq, Repr

namespace Volume

/-- A volume that holds one empty directory, the working directory. -/
def scratch (directory : String) : Volume :=
  let names := (Path.partsOf directory.toList).filter (· ≠ [])
  let places := (List.range names.length).map fun n => names.take (n + 1)
  ⟨places.map (·, .directory), names⟩

/-- The node at a place. -/
def node? (v : Volume) (place : Place) : Option Node :=
  if place = [] then some .directory else v.nodes.lookup place

/-- Puts a node at a place, instead of the one that stood there. -/
def put (v : Volume) (place : Place) (node : Node) : Volume :=
  { v with nodes := (place, node) :: v.nodes.filter (·.1 ≠ place) }

/-- Takes the node at a place away. -/
def drop (v : Volume) (place : Place) : Volume :=
  { v with nodes := v.nodes.filter (·.1 ≠ place) }

/-- The bytes of the file or in the pipe at a place; other places have
none. -/
def contents (v : Volume) (place : Place) : List UInt8 :=
  match v.node? place with
  | some (.file bytes) => bytes
  | some (.fifo held) => held
  | _ => []

/-- The names in the directory at a place. -/
def names (v : Volume) (place : Place) : List String :=
  (v.nodes.filter fun n => n.1 ≠ [] && n.1.dropLast = place).map fun n =>
    String.ofList (n.1.getLastD [])

/-! ## Following a path -/

/-- The largest number of bytes in a name. -/
def maxNameBytes : Nat := 255

/-- The largest number of bytes in a path. -/
def maxPathBytes : Nat := 4095

/-- Follows the names of a path from a place. Nothing need stand at the
place it leads to. -/
def follow (v : Volume) (here : Place) : List (List Char) → Except SystemError Place
  | [] => .ok here
  | name :: rest =>
    match v.node? here with
    | none => .error .noSuchFile
    | some .directory =>
      if name = ['.', '.'] then v.follow here.dropLast rest
      else if maxNameBytes < (Text.encode name).length then .error .nameTooLong
      else v.follow (here ++ [name]) rest
    | some _ => .error .notADirectory

/-- A path that ends in a void part has to lead to a directory. -/
def checkEnd (v : Volume) (place : Place) (endsVoid : Bool) : Except SystemError Place :=
  if endsVoid then
    match v.node? place with
    | none => .error .noSuchFile
    | some .directory => .ok place
    | some _ => .error .notADirectory
  else .ok place

/-- The place a path leads to. -/
def locate (v : Volume) (path : String) : Except SystemError Place :=
  let parts := Path.partsOf path.toList
  if path.isEmpty then .error .noSuchFile
  else if maxPathBytes < Text.byteLength path then .error .nameTooLong
  else
    let start := if Path.isAbsolute path then [] else v.workingDirectory
    match v.follow start (parts.filter (!Path.isVoid ·)) with
    | .error e => .error e
    | .ok place => v.checkEnd place (Path.isVoid (parts.getLastD []))

/-- The node a path leads to and its place. A path with a null character
leads nowhere. -/
def open? (v : Volume) (path : String) : Except Fault (Place × Node) :=
  if path.toList.contains '\x00' then
    .error (.reported .invalidInput "file name contained an unexpected NUL byte")
  else
    match v.locate path with
    | .error e => .error (.system e)
    | .ok place =>
      match v.node? place with
      | none => .error (.system .noSuchFile)
      | some node => .ok (place, node)

/-! ## Operations on paths -/

/-- Finds the file or pipe to write to at a path. -/
def openWritable (v : Volume) (path : String) : Except Fault Place :=
  match v.open? path with
  | .error fault => .error fault
  | .ok (_, .directory) => .error (.system .isADirectory)
  | .ok (place, _) => .ok place

/-- The bytes of the file or in the pipe at a path. -/
def read (v : Volume) (path : String) : Except Fault (List UInt8) :=
  match v.openWritable path with
  | .error fault => .error fault
  | .ok place => .ok (v.contents place)

/-- Makes an empty file at a path where nothing stands. -/
def create (v : Volume) (path : String) : Except Fault (Place × Volume) :=
  match v.locate path with
  | .error e => .error (.system e)
  | .ok place => .ok (place, v.put place (.file []))

/-- Makes the directories of a chain of names that begins at a place and
are missing. Where something else stands, or a name is too long, the rest
of the chain is not made. -/
def makeChain (v : Volume) (here : Place) : List (List Char) → Volume
  | [] => v
  | name :: rest =>
    if name = ['.', '.'] then v.makeChain here.dropLast rest
    else if maxNameBytes < (Text.encode name).length then v
    else
      let place := here ++ [name]
      match v.node? place with
      | none => (v.put place .directory).makeChain place rest
      | some .directory => v.makeChain place rest
      | some _ => v

/-- Makes the directories a path leads through and the one it leads to. -/
def makeDirectories (v : Volume) (path : String) : Volume :=
  let start := if Path.isAbsolute path then [] else v.workingDirectory
  v.makeChain start ((Path.partsOf path.toList).filter (!Path.isVoid ·))

/-- Makes a named pipe at a path. Whatever stands there already is left
as it is and taken for the pipe. -/
def makePipe (v : Volume) (path : String) : Except Fault Unit × Volume :=
  match path.toList.findIdx? (· = '\x00') with
  | some n =>
    let bytes := Text.encode (path.toList.take n)
    (.error (.reported .invalidInput
      ("nul byte found in provided data at position: " ++ toString bytes.length)), v)
  | none =>
    match v.locate path with
    | .error e => (.error (.system e), v)
    | .ok place =>
      match v.node? place with
      | some _ => (.ok (), v)
      | none => (.ok (), v.put place .pipe)

/-- Takes away the file or pipe at a path. -/
def remove (v : Volume) (path : String) : Except Fault Unit × Volume :=
  match v.openWritable path with
  | .error fault => (.error fault, v)
  | .ok place => (.ok (), v.drop place)

end Volume

/-! ## Open files -/

/-- A file that was opened for writing. -/
structure OpenFile where
  place : Place
  /-- Where the next write begins. -/
  position : Nat
  deriving DecidableEq, Repr

namespace OpenFile

/-- Empties the file; the position stays. -/
def truncate (f : OpenFile) (v : Volume) : Volume :=
  v.put f.place (.file [])

/-- Moves the position to the beginning of the file. -/
def rewind (f : OpenFile) : OpenFile :=
  { f with position := 0 }

/-- Old contents with `bytes` written over them from a position; a gap
before the position is filled with zeros. -/
def overwrite (old : List UInt8) (position : Nat) (bytes : List UInt8) : List UInt8 :=
  let gap := List.replicate (position - old.length) 0
  old.take position ++ gap ++ bytes ++ old.drop (position + bytes.length)

/-- Writes bytes into a file that may not grow beyond `limit` bytes.
Those that fit are written even when the others are refused. -/
def write (f : OpenFile) (v : Volume) (limit : Option Nat) (bytes : List UInt8) :
    Except Fault Unit × OpenFile × Volume :=
  let fitting := match limit with
    | none => bytes
    | some limit => bytes.take (limit - f.position)
  let contents := overwrite (v.contents f.place) f.position fitting
  let f' := { f with position := f.position + fitting.length }
  let v' := if fitting.isEmpty then v else v.put f.place (.file contents)
  if fitting.length = bytes.length then (.ok (), f', v')
  else (.error (.system .fileTooLarge), f', v')

/-- Reads all there is: what a pipe holds, which then is gone from it, or
the rest of a file. -/
def read (f : OpenFile) (v : Volume) : List UInt8 × OpenFile × Volume :=
  match v.node? f.place with
  | some (.fifo held) => (held, f, v.put f.place .pipe)
  | _ =>
    let rest := (v.contents f.place).drop f.position
    (rest, { f with position := f.position + rest.length }, v)

end OpenFile

namespace Volume

/-- Sends bytes to what stands at a place. A pipe holds them behind what it
holds already; a file is written from its beginning. -/
def send (v : Volume) (place : Place) (bytes : List UInt8) : Volume :=
  match v.node? place with
  | some (.fifo held) => v.put place (.fifo (held ++ bytes))
  | _ => ((OpenFile.mk place 0).write v none bytes).2.2

/-- Takes away what a pipe holds; a file stays as it is. -/
def drain (v : Volume) (place : Place) : Volume :=
  ((OpenFile.mk place 0).read v).2.2

end Volume

end CountingHouse

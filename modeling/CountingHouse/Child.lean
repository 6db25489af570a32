/-
CountingHouse.Child — processes that are started, end and are reaped.

A child that has ended keeps its status until its parent asks for it;
after that nothing is left of it. Only the last eight bits of an exit
code survive.

A process can ask for the status of its own children and of nobody else,
and it can kill each of them. These calls fail for no other reason here
than that there is no such child, and starting a child does not fail.
-/
import CountingHouse.SharedMemory

namespace CountingHouse

/-- How a process ended. -/
inductive ExitStatus where
  | exited (code : UInt8)
  | signaled (signal : Nat)
  deriving DecidableEq, Repr

namespace ExitStatus

/-- The status of a process that exits with a code. -/
def ofCode (code : Int32) : ExitStatus :=
  .exited (UInt8.ofNat (code.toInt % 256).toNat)

/-- Did the process do what it was started for? -/
def isSuccess (s : ExitStatus) : Bool :=
  s = .exited 0

end ExitStatus

/-- A process as its parent sees it. -/
inductive Child where
  | running
  /-- It has ended and its status has not been asked for. -/
  | ended (status : ExitStatus)
  | reaped
  deriving DecidableEq, Repr

namespace Child

/-- The number of the signal that cannot be refused. -/
def killSignal : Nat := 9

/-- Asks for the status of a child. A child that is still running has
none, and one that was reaped is unknown. -/
def wait : Child → Except IpcError (Option ExitStatus) × Child
  | .running => (.ok none, .running)
  | .ended status => (.ok (some status), .reaped)
  | .reaped => (.error (.system "waitpid" (.system .noChildProcesses)), .reaped)

/-- Kills a child; tells whether there was one. -/
def kill : Child → Bool × Child
  | .running => (true, .ended (.signaled killSignal))
  | .ended status => (true, .ended status)
  | .reaped => (false, .reaped)

/-- A child ends by itself, if it has not ended before. -/
def exit (status : ExitStatus) : Child → Child
  | .running => .ended status
  | child => child

/-- How a child has ended, as its parent is told when it asks. -/
def status? (c : Child) : Option ExitStatus :=
  match c.wait.1 with
  | .ok status => status
  | .error _ => none

end Child

/-- The children of a process, by the numbers they run under. A number
under which no child was started is as good as reaped. -/
def Children := Int32 → Child

namespace Children

/-- A process that has not started any. -/
def none : Children :=
  fun _ => .reaped

/-- Puts down what has become of one child. -/
def put (c : Children) (pid : Int32) (child : Child) : Children :=
  fun other => if other = pid then child else c other

/-- Starts a child under each of the given numbers. -/
def start (c : Children) (pids : List Int32) : Children :=
  fun pid => if pid ∈ pids then .running else c pid

/-- Asks for the status of some of the children. -/
def poll (c : Children) (asked : Int32 → Bool) : Children :=
  fun pid => if asked pid then (c pid).wait.2 else c pid

/-- Waits until some of the children have ended and asks for their status.
Nothing is left of these then, however long it took. -/
def await (c : Children) (asked : Int32 → Bool) : Children :=
  fun pid => if asked pid then .reaped else c pid

end Children

end CountingHouse

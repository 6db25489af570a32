/-
CountingHouse.Program.Outcome — how a program ends and what it prints.

A program that fails prints what it was doing and below it the causes,
the nearest one first. A single cause stands by itself, several are
numbered, and the lines of a long one are set in alike.
-/
import CountingHouse.CommandLine
import CountingHouse.Server.Basic

namespace CountingHouse.Program

/-! ## Failures -/

/-- Why a program failed: what it was doing, and the causes. -/
structure Failure where
  message : String
  causes : List String
  deriving DecidableEq, Repr

namespace Failure

/-- A failure of input or output, and what it prevented. -/
def ofFault (message : String) (fault : Fault) : Failure :=
  ⟨message, [fault.text]⟩

/-- A text whose further lines are set in by `margin`. -/
def setIn (margin text : List Char) : List Char :=
  text.flatMap fun c => if c = '\n' then c :: margin else [c]

/-- A cause that stands by itself. -/
def showCause (cause : String) : List Char :=
  let margin := "    ".toList
  margin ++ setIn margin cause.toList

/-- A cause with its number, set to the right of a column of five. -/
def showNumbered (n : Nat) (cause : String) : List Char :=
  let number := Text.natural n
  List.replicate (5 - number.length) ' ' ++ number ++ ": ".toList ++
    setIn "       ".toList cause.toList

/-- The causes, each after a line end. -/
def showCauses : List String → List Char
  | [] => []
  | [cause] => "\n\nCaused by:\n".toList ++ showCause cause
  | causes =>
    "\n\nCaused by:".toList ++
      causes.zipIdx.flatMap fun (cause, n) => '\n' :: showNumbered n cause

/-- The failure as the program prints it. -/
def text (f : Failure) : String :=
  String.ofList ("Error: ".toList ++ f.message.toList ++ showCauses f.causes ++ ['\n'])

end Failure

/-! ## Outcomes -/

/-- What went wrong, as far as it is printed. -/
inductive Complaint where
  | none
  /-- The arguments could not be followed; how to use the program is
  printed. -/
  | usage (error : CommandLine.UsageError)
  | failure (failure : Failure)
  deriving DecidableEq, Repr

/-- How a program ended. -/
structure Outcome where
  /-- The exit code; `none` when the program waits for something that
  never comes. -/
  exitCode : Option Nat
  output : String
  complaint : Complaint
  deriving DecidableEq, Repr

namespace Outcome

/-- The program did what it was asked to. -/
def success (output : String) : Outcome :=
  ⟨some 0, output, .none⟩

/-- The program waits for ever. -/
def waiting (output : String) : Outcome :=
  ⟨none, output, .none⟩

/-- The program failed after having printed something. -/
def failed (output : String) (f : Failure) : Outcome :=
  ⟨some 1, output, .failure f⟩

/-- The program was not used as it should be. Asking for help is not
wrong. -/
def misused (e : CommandLine.UsageError) : Outcome :=
  ⟨some (if e = .displayHelp then 0 else 2), "", .usage e⟩

end Outcome

/-! ## Failures of the server -/

/-- What lies beneath an error of the ledger. -/
def ledgerCause : Ledger.LedgerError → Fault
  | .openFailed _ fault => fault
  | .ioFailed fault => fault

/-- An error of the server and what lies beneath it, nearest first. -/
def serverCauses (e : Server.ServerError) : List String :=
  let deeper := match e with
    | .ledger e => [(ledgerCause e).text]
    | .ipc (.system _ fault) => [fault.text]
    | .ipc _ => []
    | .bootstrap fault => [fault.text]
  e.message :: deeper

example : (Failure.mk "a" ["b"]).text = "Error: a\n\nCaused by:\n    b\n" := by decide
example : (Failure.mk "a" ["b", "c\nd"]).text =
    "Error: a\n\nCaused by:\n    0: b\n    1: c\n       d\n" := by decide

end CountingHouse.Program

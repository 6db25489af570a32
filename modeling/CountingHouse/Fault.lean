/-
CountingHouse.Fault — input and output that fails.

A fault has a kind, which callers tell apart, and a text, which is
reported. The operating system reports by number; every number it can
report here is listed with its text.
-/

namespace CountingHouse

/-- What sort of failure a fault is. -/
inductive FaultKind where
  | notFound
  | notADirectory
  | isADirectory
  | alreadyExists
  | invalidInput
  | invalidData
  | invalidFilename
  | fileTooLarge
  | outOfMemory
  | brokenPipe
  | writeZero
  | other
  | uncategorized
  deriving DecidableEq, Repr

/-- A failure the operating system reports. -/
inductive SystemError where
  | noSuchFile
  | noChildProcesses
  | cannotAllocate
  | fileExists
  | notADirectory
  | isADirectory
  | invalidArgument
  | fileTooLarge
  | nameTooLong
  deriving DecidableEq, Repr

namespace SystemError

/-- The number of the error. -/
def code : SystemError → Nat
  | .noSuchFile => 2
  | .noChildProcesses => 10
  | .cannotAllocate => 12
  | .fileExists => 17
  | .notADirectory => 20
  | .isADirectory => 21
  | .invalidArgument => 22
  | .fileTooLarge => 27
  | .nameTooLong => 36

/-- The error in the system's words. -/
def description : SystemError → String
  | .noSuchFile => "No such file or directory"
  | .noChildProcesses => "No child processes"
  | .cannotAllocate => "Cannot allocate memory"
  | .fileExists => "File exists"
  | .notADirectory => "Not a directory"
  | .isADirectory => "Is a directory"
  | .invalidArgument => "Invalid argument"
  | .fileTooLarge => "File too large"
  | .nameTooLong => "File name too long"

/-- The sort of failure the error is. -/
def kind : SystemError → FaultKind
  | .noSuchFile => .notFound
  | .noChildProcesses => .uncategorized
  | .cannotAllocate => .outOfMemory
  | .fileExists => .alreadyExists
  | .notADirectory => .notADirectory
  | .isADirectory => .isADirectory
  | .invalidArgument => .invalidInput
  | .fileTooLarge => .fileTooLarge
  | .nameTooLong => .invalidFilename

/-- The error with its number, as it is reported. -/
def text (e : SystemError) : String :=
  e.description ++ " (os error " ++ toString e.code ++ ")"

end SystemError

/-- A failure of an input or output operation. -/
inductive Fault where
  /-- The operating system refused. -/
  | system (error : SystemError)
  /-- Something above the operating system refused, in its own words. -/
  | reported (kind : FaultKind) (text : String)
  deriving DecidableEq, Repr

namespace Fault

/-- The sort of failure. -/
def kind : Fault → FaultKind
  | .system e => e.kind
  | .reported k _ => k

/-- The failure as it is reported. -/
def text : Fault → String
  | .system e => e.text
  | .reported _ t => t

/-- A stream of text held bytes that make no character. -/
def notUtf8 : Fault :=
  .reported .invalidData "stream did not contain valid UTF-8"

/-- A stream accepted none of the bytes it was given. -/
def nothingWritten : Fault :=
  .reported .writeZero "failed to write whole buffer"

end Fault

example : SystemError.noSuchFile.text = "No such file or directory (os error 2)" := by decide

end CountingHouse

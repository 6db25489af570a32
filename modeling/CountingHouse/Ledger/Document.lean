/-
CountingHouse.Ledger.Document — all accounts of a bank as one text.

    # AdaBank log file updated @14:05 March 02 2025
    BankID_1 D 300 W 100 200
    # BankID_2 D 30 W 30 0
    ## end of log.

A header names the bank and the time of writing, then each account has a
line, and a footer ends the text. A reader does not insist on this form.
It judges each line alone: headers, lines that begin with two `#` and
lines without content are passed over wherever they stand, and a line
that holds no account, or one for an id that an earlier line has taken,
is reported and otherwise ignored.
-/
import CountingHouse.Ledger.Line
import CountingHouse.Log
import CountingHouse.Stream
import CountingHouse.Table

namespace CountingHouse.Ledger

/-! ## Errors -/

/-- Why a ledger cannot be read or written. -/
inductive LedgerError where
  /-- The ledger file could not be opened. -/
  | openFailed (path : String) (fault : Fault)
  /-- Reading or writing failed part of the way. -/
  | ioFailed (fault : Fault)
  deriving DecidableEq, Repr

/-- The error as the bank reports it. -/
def LedgerError.message : LedgerError → String
  | .openFailed path fault => "failed to open ledger " ++ path ++ ": " ++ fault.text
  | .ioFailed fault => "ledger i/o error: " ++ fault.text

/-! ## The first and the last line -/

/-- What stands in a header between the bank's name and the time. -/
def headerMark : List Char := " log file updated @".toList

/-- The header of a ledger. -/
def header (bank stamp : String) : List Char :=
  ['#', ' '] ++ bank.toList ++ headerMark ++ stamp.toList

/-- The footer of a ledger. -/
def footer : List Char := "## end of log.".toList

/-- The part of a text before the first occurrence of a mark, or nothing
when the mark does not occur. -/
def before? (mark : List Char) : List Char → Option (List Char)
  | [] => if mark = [] then some [] else none
  | c :: s =>
    if mark.isPrefixOf (c :: s) then some []
    else (before? mark s).map (c :: ·)

/-- Has the line the form of a header? There has to be a name before the
mark. -/
def isHeader : List Char → Bool
  | '#' :: rest =>
    match before? headerMark (Text.trimStart rest) with
    | some name => !name.isEmpty
    | none => false
  | _ => false

/-! ## Reading -/

/-- What a reader makes of one line. -/
inductive Reading where
  /-- The line is not about an account. -/
  | skipped
  /-- The line describes an account. -/
  | entry (entry : Entry)
  /-- The line should describe an account and does not. -/
  | malformed (reason : Malformed)
  deriving DecidableEq, Repr

/-- The account part of a line: what follows a single `#`, if there is
one. -/
def accountPart : List Char → List Char
  | '#' :: rest => Text.trimStart rest
  | line => line

/-- Judges a line of text without blanks at its ends. -/
def judgeTrimmed (text : List Char) : Reading :=
  if text.isEmpty || ['#', '#'].isPrefixOf text || isHeader text then .skipped
  else
    let body := accountPart text
    if body.isEmpty then .skipped
    else
      match parseAccount body with
      | .ok entry => .entry entry
      | .error reason => .malformed reason

/-- Judges the bytes of a line. Bytes that make no character are read as
replacement characters. -/
def judge (line : List UInt8) : Reading :=
  judgeTrimmed (Text.trim (Text.decodeLossy line))

/-- What a reader reports. -/
inductive Notice where
  /-- The id on the line has been taken by an earlier line. -/
  | duplicate (line : Nat) (id : BankId)
  /-- The line holds no account. -/
  | malformed (line : Nat) (reason : Malformed)
  /-- The transactions on a line do not add up to its credits. -/
  | unbalanced (id : BankId) (running : Int) (credits : Int64)
  deriving DecidableEq, Repr

/-- The notice as a record of the log. -/
def Notice.record : Notice → LogRecord
  | .duplicate line id =>
    ⟨.warn, "Skipping duplicate ledger entry",
      [("line", .number line), ("bank_id", .text id.text)]⟩
  | .malformed line reason =>
    ⟨.warn, "Skipping malformed ledger line",
      [("line", .number line), ("reason", .text reason.message)]⟩
  | .unbalanced id running credits =>
    ⟨.debug, "Ledger balance differs from its history, keeping recorded credits",
      [("bank_id", .text id.text), ("running", .number running),
       ("credits", .number credits.toInt)]⟩

/-- What reading an entry by itself reports. -/
def Entry.notices (e : Entry) : List Notice :=
  if e.isUnbalanced then [.unbalanced e.id e.running e.credits] else []

/-- Takes one line, with its number, into the table. -/
def takeLine (t : Table) (number : Nat) (line : List UInt8) : Table × List Notice :=
  match judge line with
  | .skipped => (t, [])
  | .malformed reason => (t, [.malformed number reason])
  | .entry entry =>
    match t.insertLoaded entry.account with
    | (some _, t) => (t, entry.notices)
    | (none, t) => (t, entry.notices ++ [.duplicate number entry.id])

/-- Takes lines into the table; the first of them has number `number`. -/
def takeLines (t : Table) (number : Nat) : List (List UInt8) → Table × List Notice
  | [] => (t, [])
  | line :: rest =>
    let (t, notices) := takeLine t number line
    let (t, more) := takeLines t (number + 1) rest
    (t, notices ++ more)

/-- Reads a ledger from its bytes. This cannot fail. -/
def readBytes (bytes : List UInt8) : Table × List Notice :=
  takeLines .empty 1 (Text.lines bytes)

/-- Reads a ledger from a source. Only a failing source is an error. -/
def read (source : Source) : Except LedgerError (Table × List Notice) :=
  match source.readAll with
  | .error fault => .error (.ioFailed fault)
  | .ok bytes => .ok (readBytes bytes)

/-! ## Writing -/

/-- The bytes of a line with its line feed. -/
def lineBytes (line : List Char) : List UInt8 :=
  Text.encode line ++ [Text.lineFeed]

/-- The lines of a ledger. -/
def linesOf (t : Table) (bank stamp : String) : List (List Char) :=
  header bank stamp :: t.toList.map formatAccount ++ [footer]

/-- The bytes of a ledger. -/
def render (t : Table) (bank stamp : String) : List UInt8 :=
  (linesOf t bank stamp).flatMap lineBytes

/-- Writes a ledger line by line and flushes. Writing stops at the first
line that is not taken whole. -/
def write (t : Table) (bank stamp : String) (sink : Sink) : Except Fault Unit × Sink :=
  match sink.writeEach ((linesOf t bank stamp).map lineBytes) with
  | (.error fault, sink) => (.error fault, sink)
  | (.ok (), sink) => (sink.flush, sink)

end CountingHouse.Ledger

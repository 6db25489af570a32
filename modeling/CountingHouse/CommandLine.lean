/-
CountingHouse.CommandLine — the arguments of the two programs.

Both programs take two positional arguments. The server also takes
options, each with a value that is the next argument or follows an equals
sign. Two dashes alone make everything after them positional.

What is wrong with a command line is decided by the first argument that
cannot go on. A value by itself is looked at only when the next argument
has been recognised, so an argument nobody knows is reported before a
bad value in front of it.
-/
import CountingHouse.Config
import CountingHouse.Text.Numeral

namespace CountingHouse.CommandLine

/-! ## What can be wrong -/

/-- Why a command line is not followed. -/
inductive UsageError where
  | missingRequiredArgument
  | unknownArgument
  /-- A value is there and cannot be read. -/
  | valueValidation
  /-- A value is missing, or a path is empty. -/
  | invalidValue
  /-- A value is there where none belongs. -/
  | tooManyValues
  /-- An option is given twice. -/
  | argumentConflict
  /-- Help was asked for. -/
  | displayHelp
  deriving DecidableEq, Repr

/-! ## Values -/

/-- How a value is read. -/
inductive ValueKind where
  | text
  | path
  | number
  deriving DecidableEq, Repr

/-- Is the text a value of this kind? A path may not be empty, and a
number has at most sixty-four bits. -/
def ValueKind.check (kind : ValueKind) (text : String) : Except UsageError Unit :=
  match kind with
  | .text => .ok ()
  | .path => if text.isEmpty then .error .invalidValue else .ok ()
  | .number =>
    match Text.natural? 0xFFFFFFFFFFFFFFFF text.toList with
    | some _ => .ok ()
    | none => .error .valueValidation

/-- The arguments a program knows: the kinds of its positional ones, and
its options by name. -/
structure Grammar where
  positionals : List ValueKind
  options : List (String × ValueKind)
  deriving DecidableEq, Repr

/-! ## Reading -/

/-- The argument that is being read. -/
inductive Pending where
  | nothing
  | positional (kind : ValueKind) (value : String)
  | option (name : String) (kind : ValueKind) (value : Option String)
  deriving DecidableEq, Repr

/-- What has been read of a command line. -/
structure Parsed where
  positionals : List String
  options : List (String × String)
  pending : Pending
  /-- Have the two dashes been read? -/
  onlyPositionals : Bool
  deriving DecidableEq, Repr

namespace Parsed

/-- Nothing has been read. -/
def start : Parsed :=
  ⟨[], [], .nothing, false⟩

/-- Takes note of an option and its value. -/
def addOption (p : Parsed) (name : String) (kind : ValueKind) (value : String) :
    Except UsageError Parsed :=
  if (p.options.lookup name).isSome then .error .argumentConflict
  else (kind.check value).map fun _ => { p with options := p.options ++ [(name, value)] }

/-- Finishes the argument that is being read. -/
def resolve (p : Parsed) : Except UsageError Parsed :=
  let rest := { p with pending := .nothing }
  match p.pending with
  | .nothing => .ok rest
  | .positional kind value =>
    (kind.check value).map fun _ => { rest with positionals := p.positionals ++ [value] }
  | .option _ _ none => .error .invalidValue
  | .option name kind (some value) => rest.addOption name kind value

/-- The number of positional arguments, the one being read included. -/
def positionalCount (p : Parsed) : Nat :=
  match p.pending with
  | .positional _ _ => p.positionals.length + 1
  | _ => p.positionals.length

/-- Reads a positional argument. -/
def positional (p : Parsed) (g : Grammar) (argument : String) : Except UsageError Parsed :=
  match g.positionals[p.positionalCount]? with
  | none => .error .unknownArgument
  | some kind => p.resolve.map ({ · with pending := .positional kind argument })

/-- Help is asked for. -/
def help (p : Parsed) : Except UsageError Parsed :=
  match p.resolve with
  | .ok _ => .error .displayHelp
  | .error e => .error e

/-- Reads an argument that begins with two dashes, given without them. -/
def long (p : Parsed) (g : Grammar) (argument : List Char) : Except UsageError Parsed :=
  let name := String.ofList (argument.takeWhile (· ≠ '='))
  let attached := argument.dropWhile (· ≠ '=')
  if name = "help" then if attached.isEmpty then p.help else .error .tooManyValues
  else
    match g.options.lookup name with
    | none => .error .unknownArgument
    | some kind =>
      match p.resolve with
      | .error e => .error e
      | .ok p =>
        match attached with
        | [] => .ok { p with pending := .option name kind none }
        | _ :: value => p.addOption name kind (String.ofList value)

/-- Reads one argument. -/
def argument (p : Parsed) (g : Grammar) (text : String) : Except UsageError Parsed :=
  if p.onlyPositionals then p.positional g text
  else
    match text.toList with
    | ['-', '-'] => .ok { p with onlyPositionals := true }
    | '-' :: '-' :: rest => p.long g rest
    | '-' :: 'h' :: _ => p.help
    | '-' :: _ :: _ => .error .unknownArgument
    | _ =>
      match p.pending with
      | .option name kind none => .ok { p with pending := .option name kind (some text) }
      | _ => p.positional g text

/-- Reads arguments one after another. -/
def arguments (p : Parsed) (g : Grammar) : List String → Except UsageError Parsed
  | [] => p.resolve
  | text :: rest =>
    match p.argument g text with
    | .error e => .error e
    | .ok p => p.arguments g rest

end Parsed

/-- Reads the arguments after the name of the program. -/
def parse (g : Grammar) (arguments : List String) : Except UsageError Parsed :=
  match Parsed.start.arguments g arguments with
  | .error e => .error e
  | .ok p =>
    if p.positionals.length < g.positionals.length then .error .missingRequiredArgument else .ok p

/-! ## The programs -/

/-- What the server is asked to do. -/
structure ServerArguments where
  config : ServerConfig
  /-- The pipe clients enroll through. -/
  fifo : String
  deriving DecidableEq, Repr

/-- The arguments of the server. -/
def serverGrammar : Grammar :=
  ⟨[.text, .path],
   [("ledger-dir", .path), ("max-batch", .number), ("poll-ms", .number),
    ("teller-timeout-secs", .number)]⟩

/-- The number an option gives, or else its default. -/
def Parsed.number (p : Parsed) (name : String) (default : UInt64) : UInt64 :=
  match (p.options.lookup name).bind fun text => Text.natural? 0xFFFFFFFFFFFFFFFF text.toList with
  | some n => UInt64.ofNat n
  | none => default

/-- Reads the arguments of the server. -/
def serverArguments (arguments : List String) : Except UsageError ServerArguments :=
  match parse serverGrammar arguments with
  | .error e => .error e
  | .ok p =>
    match p.positionals with
    | [bankName, fifo] =>
      let pollInterval := Span.ofMillis (p.number "poll-ms" 10)
      let responseTimeout := Span.ofSeconds (p.number "teller-timeout-secs" 30)
      .ok ⟨{ bankName
             ledgerDir := (p.options.lookup "ledger-dir").getD "."
             maxBatch := p.number "max-batch" 64
             pollInterval
             teller := ⟨pollInterval, responseTimeout⟩ }, fifo⟩
    | _ => .error .missingRequiredArgument

/-- What the client is asked to do. -/
structure ClientArguments where
  /-- The file of transactions. -/
  file : String
  /-- The pipe of the server. -/
  fifo : String
  deriving DecidableEq, Repr

/-- The arguments of the client. -/
def clientGrammar : Grammar :=
  ⟨[.path, .path], []⟩

/-- Reads the arguments of the client. -/
def clientArguments (arguments : List String) : Except UsageError ClientArguments :=
  match parse clientGrammar arguments with
  | .error e => .error e
  | .ok p =>
    match p.positionals with
    | [file, fifo] => .ok ⟨file, fifo⟩
    | _ => .error .missingRequiredArgument

example : (clientArguments ["--", "-c", "--f"]).toOption = some ⟨"-c", "--f"⟩ := by decide
example : (clientArguments ["", "f"]).toOption = none := by decide
example : (serverArguments ["B", "--max-batch", "3", "f"]).toOption.map (·.config.maxBatch) =
    some 3 := by decide

end CountingHouse.CommandLine

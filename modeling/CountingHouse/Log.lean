/-
CountingHouse.Log — what the bank reports about its own work.

Each part of the bank has its own type of events. An event is written to
the log as a record: a level, a message that is the same for all events
of its sort, and named values.

What the bank says about its progress (that it is active, that a teller was
started or a batch is finished) and what tellers and client programs say for
themselves is left out.
-/

namespace CountingHouse

/-- How much an event matters. -/
inductive LogLevel where
  | debug
  | info
  | warn
  | error
  deriving DecidableEq, Repr

/-- The level as the log writes it. -/
def LogLevel.name : LogLevel → String
  | .debug => "DEBUG"
  | .info => "INFO"
  | .warn => "WARN"
  | .error => "ERROR"

/-- A value in a record. -/
inductive LogValue where
  | text (value : String)
  | number (value : Int)
  deriving DecidableEq, Repr

/-- One entry of the log. -/
structure LogRecord where
  level : LogLevel
  message : String
  fields : List (String × LogValue)
  deriving DecidableEq, Repr

end CountingHouse

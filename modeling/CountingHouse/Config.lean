/-
CountingHouse.Config — what a server and its tellers are told when they
start.
-/

namespace CountingHouse

/-- A length of time in seconds and nanoseconds. -/
structure Span where
  seconds : UInt64
  nanos : Fin 1000000000
  deriving DecidableEq, Repr

namespace Span

/-- Whole seconds. -/
def ofSeconds (n : UInt64) : Span :=
  ⟨n, 0⟩

/-- Whole milliseconds. -/
def ofMillis (n : UInt64) : Span :=
  ⟨n / 1000, Fin.ofNat _ ((n.toNat % 1000) * 1000000)⟩

/-- Is the span over as soon as it begins? -/
def isZero (s : Span) : Bool :=
  s.seconds = 0 && s.nanos = 0

/-- Seconds and nanoseconds; a billion nanoseconds and more are carried
over into seconds, which may then be too many. -/
def ofParts? (seconds : UInt64) (nanos : UInt32) : Option Span :=
  let total := seconds.toNat + nanos.toNat / 1000000000
  if total < UInt64.size then some ⟨UInt64.ofNat total, Fin.ofNat _ nanos.toNat⟩ else none

example : (ofMillis 1500).nanos = 500000000 := by decide
example : (ofParts? 1 4294967295).map (·.seconds) = some 5 := by decide

end Span

/-- What a teller is told. -/
structure TellerConfig where
  /-- How long to rest between two looks at the mailbox. -/
  pollInterval : Span
  /-- How long to wait for the server before taking the request back. -/
  responseTimeout : Span
  deriving DecidableEq, Repr

/-- What a server is told. -/
structure ServerConfig where
  bankName : String
  /-- The directory of the ledger file. -/
  ledgerDir : String
  /-- The largest number of clients in a batch. -/
  maxBatch : UInt64
  /-- How long to rest between two looks at the mailbox. -/
  pollInterval : Span
  teller : TellerConfig
  deriving DecidableEq, Repr

/-- A teller that looks every ten milliseconds for half a minute. -/
def TellerConfig.default : TellerConfig :=
  ⟨.ofMillis 10, .ofSeconds 30⟩

/-- The bank that is served when nothing else is said. -/
def ServerConfig.default : ServerConfig :=
  ⟨"AdaBank", ".", 64, .ofMillis 10, .default⟩

end CountingHouse

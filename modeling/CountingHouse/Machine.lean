/-
CountingHouse.Machine — what the programs of the bank notice of the
machine they run on.

A machine has so much memory and no more. Its clock runs from the moment it
was started and counts seconds in a signed 64-bit word, so a span that is
too long leads to no moment at all, and no deadline can be set by it.
-/
import CountingHouse.Config

namespace CountingHouse

/-- A machine. -/
structure Machine where
  /-- The number of bytes it has in all. -/
  memory : Nat
  /-- How long it has been running when a deadline is set. -/
  uptime : Span
  deriving DecidableEq, Repr

/-- A machine with 32 GiB that was started a quarter of an hour ago. Whatever
is said without naming a machine is meant for this one. -/
def Machine.ordinary : Machine :=
  ⟨0x800000000, .ofSeconds 900⟩

/-- The last second the clock can count to. -/
def lastSecond : Nat := 0x7FFFFFFFFFFFFFFF

/-- Does a moment lie a span after now? Nanoseconds may make a second of
their own. -/
def Span.hasEnd (s now : Span) : Bool :=
  now.seconds.toNat + s.seconds.toNat + (now.nanos.val + s.nanos.val) / 1000000000 ≤ lastSecond

example : (Span.ofSeconds 9000000000000000000).hasEnd Machine.ordinary.uptime = true := by decide
example : (Span.ofSeconds 9223372036854775807).hasEnd Machine.ordinary.uptime = false := by decide

end CountingHouse

namespace CaptureRig

/-- Nanoseconds since a fixed but arbitrary origin. -/
abbrev Instant := Nat

/-- A length of time in nanoseconds. -/
abbrev Duration := Nat

def nanosPerSecond : Nat := 1000000000

def millis (n : Nat) : Duration := n * 1000000

namespace Instant

/-- The clock counts whole seconds in 63 bits. -/
def limit : Instant := 9223372036854775808 * nanosPerSecond

/-- The later instant, if the clock can show it. -/
def later? (i : Instant) (d : Duration) : Option Instant :=
  if i + d < limit then some (i + d) else none

/-- The time from one instant to another, zero if the second is not later. -/
def elapsed (since now : Instant) : Duration := now - since

end Instant

end CaptureRig

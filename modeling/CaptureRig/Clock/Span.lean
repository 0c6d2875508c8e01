import CaptureRig.Clock.Authority

namespace CaptureRig.Clock

inductive TimeUnit where
  | nanos
  | micros
  | millis
  | seconds
  deriving Repr, DecidableEq

/-- The unit in nanoseconds. -/
def TimeUnit.length : TimeUnit → Int
  | .nanos => 1
  | .micros => 1000
  | .millis => 1000000
  | .seconds => 1000000000

/-- The longest span either way, in milliseconds. -/
def spanLimit : Int := 9223372036854775807

/-- `n` units as a span in nanoseconds, if that is not too long. -/
def span? (u : TimeUnit) (n : Int) : Option Int :=
  let total := n * u.length
  if -(spanLimit * 1000000) ≤ total ∧ total ≤ spanLimit * 1000000 then some total else none

end CaptureRig.Clock

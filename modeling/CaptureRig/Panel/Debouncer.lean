import CaptureRig.Clock.Instant

namespace CaptureRig

/-- The level that counts, and the level seen last with the first instant of its unbroken run. -/
structure Debouncer where
  stable : Bool
  candidate : Bool
  candidateSince : Instant
  deriving Repr, DecidableEq

namespace Debouncer

/-- How long a level has to last to count. -/
def settleTime : Duration := millis 10

def new (level : Bool) (now : Instant) : Debouncer := ⟨level, level, now⟩

/-- Take a sample. A level is reported when it begins to count. -/
def update (d : Debouncer) (level : Bool) (now : Instant) : Option Bool × Debouncer :=
  let d := if level = d.candidate then d else { d with candidate := level, candidateSince := now }
  if d.candidate ≠ d.stable ∧ settleTime ≤ d.candidateSince.elapsed now then
    (some d.candidate, { d with stable := d.candidate })
  else (none, d)

end Debouncer

end CaptureRig

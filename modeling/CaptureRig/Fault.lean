namespace CaptureRig

inductive Fault where
  /-- A period of the controller was needed that converts to no duration. -/
  | unusablePeriod
  /-- A deadline lies beyond what the clock can show. -/
  | instantOverflow
  /-- There is no number after the last session's. -/
  | idOverflow
  /-- A sensor broke down while it was writing. -/
  | sensorBroken
  /-- Something was to be sent over a network that is down. -/
  | networkDown
  deriving Repr, DecidableEq

end CaptureRig

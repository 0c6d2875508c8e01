import CaptureRig.Json.Value

namespace CaptureRig.Gnss

structure Line where
  timestamp : UInt64
  sentence : String
  deriving Repr, DecidableEq

def Line.json (l : Line) : Json :=
  .object [("timestamp_ns", .nat l.timestamp.toNat), ("sentence", .text l.sentence)]

end CaptureRig.Gnss

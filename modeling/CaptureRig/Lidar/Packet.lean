import CaptureRig.Number.Binary
import CaptureRig.Json.Value

namespace CaptureRig.Lidar

/-- A point as sent, its time relative to the packet. -/
structure RawPoint where
  x : Int32
  y : Int32
  z : Int32
  reflectivity : UInt8
  tag : UInt8
  offset : UInt32
  deriving DecidableEq

/-- Three values along the axes. -/
structure Triple where
  x : Binary32
  y : Binary32
  z : Binary32
  deriving DecidableEq

/-- A motion sample as sent, its time relative to the packet. -/
structure RawMotion where
  gyro : Triple
  acc : Triple
  offset : UInt32
  deriving DecidableEq

/-- The samples of a packet, all of one kind. -/
inductive Payload where
  | points (samples : List RawPoint)
  | motion (samples : List RawMotion)
  deriving DecidableEq

/-- The samples of one scanner; `timestamp` is the scanner's own time of the first one. -/
structure Packet where
  serial : String
  timestamp : UInt64
  payload : Payload
  deriving DecidableEq

/-- A point with its authoritative time. -/
structure Point where
  x : Int32
  y : Int32
  z : Int32
  reflectivity : UInt8
  tag : UInt8
  timestamp : UInt64
  lidar : UInt16
  deriving DecidableEq

/-- A motion sample with its authoritative time. -/
structure Motion where
  gyro : Triple
  acc : Triple
  timestamp : UInt64
  lidar : UInt16
  deriving DecidableEq

namespace Payload

def size : Payload → Nat
  | .points samples => samples.length
  | .motion samples => samples.length

end Payload

namespace Triple

def toList (t : Triple) : List Binary32 := [t.x, t.y, t.z]

def numericallyEqual (a b : Triple) : Bool :=
  a.x.numericallyEqual b.x && a.y.numericallyEqual b.y && a.z.numericallyEqual b.z

def json (t : Triple) : Json := .list (t.toList.map .single)

end Triple

namespace Packet

def size (p : Packet) : Nat := p.payload.size

def isEmpty (p : Packet) : Bool := p.size == 0

end Packet

/-- Equality of samples as numbers, under which nothing equals what is not a number. -/
def RawMotion.numericallyEqual (a b : RawMotion) : Bool :=
  a.gyro.numericallyEqual b.gyro && a.acc.numericallyEqual b.acc && a.offset == b.offset

def Payload.numericallyEqual : Payload → Payload → Bool
  | .points a, .points b => a == b
  | .motion a, .motion b => a.length == b.length && (a.zip b).all fun (s, t) => s.numericallyEqual t
  | _, _ => false

def Packet.numericallyEqual (a b : Packet) : Bool :=
  a.serial == b.serial && a.timestamp == b.timestamp && a.payload.numericallyEqual b.payload

def Point.json (p : Point) : Json :=
  .object [("x_mm", .int p.x.toInt), ("y_mm", .int p.y.toInt), ("z_mm", .int p.z.toInt),
    ("reflectivity", .nat p.reflectivity.toNat), ("tag", .nat p.tag.toNat), ("timestamp_ns", .nat p.timestamp.toNat),
    ("lidar_id", .nat p.lidar.toNat)]

def Motion.json (m : Motion) : Json :=
  .object [("gyro", m.gyro.json), ("acc", m.acc.json), ("timestamp_ns", .nat m.timestamp.toNat),
    ("lidar_id", .nat m.lidar.toNat)]

end CaptureRig.Lidar

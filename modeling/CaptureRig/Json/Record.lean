import CaptureRig.Camera.Frame
import CaptureRig.Command
import CaptureRig.Gnss.Line
import CaptureRig.Json.Reader
import CaptureRig.Lidar.Packet

namespace CaptureRig.Json

/-- The values of the named fields, in their order. -/
def fields? (names : List String) : Raw → Option (List Raw)
  | .list items => if items.length = names.length then some items else none
  | .object members => do
    let named ← members.mapM fun (key, value) => (textOf? key).map fun name => (name, value)
    names.mapM fun name =>
      match named.filter (·.1 == name) with
      | [(_, value)] => some value
      | _ => none
  | _ => none

/-- A whole number from `low` to `high`. -/
def whole? (low high : Int) : Raw → Option Int
  | .number n =>
    match n.value? with
    | some (.int i) => if low ≤ i ∧ i ≤ high then some i else none
    | _ => none
  | _ => none

def natural? (bits : Nat) (r : Raw) : Option Nat :=
  (whole? 0 ((twoTo bits : Int) - 1) r).map Int.toNat

def int32? (r : Raw) : Option Int32 :=
  (whole? (-2147483648) 2147483647 r).map Int32.ofInt

/-- A double-precision number is rounded once more, a whole number only once. -/
def single? : Raw → Option Binary32
  | .number n =>
    match n.value? with
    | some (.int i) => some (.ofInt i)
    | some (.double x) => some (.ofBinary64 x)
    | _ => none
  | _ => none

def text? : Raw → Option String
  | .text units => textOf? units
  | _ => none

def triple? : Raw → Option Lidar.Triple
  | .list [x, y, z] => do return ⟨← single? x, ← single? y, ← single? z⟩
  | _ => none

def point? (r : Raw) : Option Lidar.Point := do
  match ← fields? ["x_mm", "y_mm", "z_mm", "reflectivity", "tag", "timestamp_ns", "lidar_id"] r with
  | [x, y, z, reflectivity, tag, timestamp, lidar] =>
    return { x := ← int32? x, y := ← int32? y, z := ← int32? z, reflectivity := (← natural? 8 reflectivity).toUInt8
             tag := (← natural? 8 tag).toUInt8, timestamp := (← natural? 64 timestamp).toUInt64
             lidar := (← natural? 16 lidar).toUInt16 }
  | _ => none

def motion? (r : Raw) : Option Lidar.Motion := do
  match ← fields? ["gyro", "acc", "timestamp_ns", "lidar_id"] r with
  | [gyro, acc, timestamp, lidar] =>
    return { gyro := ← triple? gyro, acc := ← triple? acc, timestamp := (← natural? 64 timestamp).toUInt64
             lidar := (← natural? 16 lidar).toUInt16 }
  | _ => none

def gnssLine? (r : Raw) : Option Gnss.Line := do
  match ← fields? ["timestamp_ns", "sentence"] r with
  | [timestamp, sentence] => return ⟨(← natural? 64 timestamp).toUInt64, ← text? sentence⟩
  | _ => none

/-- The camera and the time of a frame; its picture is no part of the record. -/
def frame? (r : Raw) : Option (UInt32 × UInt64) := do
  match ← fields? ["camera", "timestamp_ns"] r with
  | [camera, timestamp] => return ((← natural? 32 camera).toUInt32, (← natural? 64 timestamp).toUInt64)
  | _ => none

/-- A tag alone, or an object whose only member is the tag with nothing to it. -/
def command? : Raw → Option Command
  | .text units => (textOf? units).bind Command.ofTag?
  | .object [(key, .null)] => (textOf? key).bind Command.ofTag?
  | _ => none

/-- The kinds of records that are exchanged as JSON. -/
inductive RecordKind where
  | point
  | motion
  | gnssLine
  | frame
  | command
  deriving DecidableEq

/-- Read a record of a kind, and give it back as a value. -/
def record? (kind : RecordKind) (s : String) : Option Json :=
  (Raw.read? s).bind fun r =>
    match kind with
    | .point => (point? r).map Lidar.Point.json
    | .motion => (motion? r).map Lidar.Motion.json
    | .gnssLine => (gnssLine? r).map Gnss.Line.json
    | .frame => (frame? r).map fun (camera, timestamp) => Camera.recordJson camera timestamp
    | .command => (command? r).map fun c => .text c.tag

end CaptureRig.Json

import CaptureRig.Csv
import CaptureRig.Lidar.Packet

namespace CaptureRig.Lidar

/-- Double-precision numbers in chunk files: as in JSON, but a power of ten takes no plus sign, and values that are
no numbers have names. -/
def doubleLayout : NumberLayout :=
  { Json.doubleLayout with
    plus := "", notANumber := "NaN", infinite := fun negative => if negative then "-inf" else "inf" }

/-- Single-precision numbers in chunk files. -/
def singleLayout : NumberLayout :=
  { doubleLayout with positional := Json.singleLayout.positional }

/-- One thousandth, as nearly as it can be held. -/
def thousandth : Binary64 := .ofDecimal false 1 (-3)

/-- A coordinate in millimetres as the text of one in metres. -/
def metres (mm : Int32) : String :=
  ((Binary64.ofInt mm.toInt).times thousandth).write doubleLayout

/-- The row of a point after its timestamp. -/
def Point.places (p : Point) : List String :=
  [metres p.x, metres p.y, metres p.z, toString p.reflectivity.toNat, toString p.tag.toNat, toString p.lidar.toNat]

def Point.row (p : Point) : List String := toString p.timestamp.toNat :: p.places

/-- The row of a motion sample after its timestamp. -/
def Motion.places (m : Motion) : List String :=
  (m.gyro.toList ++ m.acc.toList).map (fun x => x.write singleLayout) ++ [toString m.lidar.toNat]

def Motion.row (m : Motion) : List String := toString m.timestamp.toNat :: m.places

/-- The row that tells which scanner a number stands for. -/
def serialRow (entry : UInt16 × String) : List String := [toString entry.1.toNat, entry.2]

end CaptureRig.Lidar

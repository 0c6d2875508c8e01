import CaptureRig.Json.Value

namespace CaptureRig.Clock

def clamp (low high x : Int) : Int := max low (min high x)

/-- The offset is kept in 64 bits with a sign. -/
def lowestOffset : Int := -9223372036854775808

def highestOffset : Int := 9223372036854775807

def highestTime : Int := 18446744073709551615

structure Authority where
  /-- The name of the primary source, set at most once. -/
  primary : Option String := none
  /-- System time minus sensor time, once known. -/
  offset : Option Int := none
  /-- The latest corrected time. -/
  latest : UInt64 := 0
  deriving Repr, DecidableEq

namespace Authority

/-- Name the primary source. Only the first name counts. -/
def designate (a : Authority) (name : String) : Bool × Authority :=
  match a.primary with
  | none => (true, { a with primary := some name })
  | some _ => (false, a)

/-- A sensor time shifted by an offset, within the range of times. -/
def shifted (sensor : UInt64) (offset : Int) : UInt64 :=
  UInt64.ofNat (clamp 0 highestTime (sensor.toNat + offset)).toNat

/-- A sample beyond the range of offsets cannot fix the offset. -/
def usable (sensor : UInt64) : Bool := (sensor.toNat : Int) ≤ highestOffset

/-- The offset that a sample fixes when it is read at `now` on the system clock. -/
def offsetFrom (sensor now : UInt64) : Int :=
  clamp lowestOffset highestOffset ((now.toNat : Int) - sensor.toNat)

/-- Correct a sensor time with a known offset. -/
def apply (a : Authority) (sensor : UInt64) (offset : Int) : UInt64 × Authority :=
  let corrected := shifted sensor offset
  (corrected, { a with offset := some offset, latest := max a.latest corrected })

/-- Correct a sensor time, where `now` is what the system clock shows. A sample that cannot fix the offset reads
the system clock as long as no other has fixed it. -/
def correctAt (a : Authority) (sensor now : UInt64) : UInt64 × Authority :=
  match a.offset with
  | some offset => a.apply sensor offset
  | none => if usable sensor then a.apply sensor (offsetFrom sensor now) else (now, a)

/-- The authoritative time, where `now` is what the system clock shows. -/
def time (a : Authority) (now : UInt64) : UInt64 :=
  if a.primary.isNone || a.offset.isNone then now else a.latest

def report (a : Authority) (now : UInt64) : Json :=
  .object [("last_timestamp_ns", .nat (a.time now).toNat), ("offset_ns", .ofOption .int a.offset),
    ("primary", .ofOption .text a.primary)]

end Authority

/-- The seconds in a signed 64-bit number of nanoseconds; both the conversion and the division are rounded. -/
def seconds? (nanos : Int) : Option Binary64 :=
  if lowestOffset ≤ nanos ∧ nanos ≤ highestOffset then some ((Binary64.ofInt nanos).dividedBy (.ofInt 1000000000))
  else none

end CaptureRig.Clock

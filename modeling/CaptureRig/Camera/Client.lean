import CaptureRig.Chunk.Dump
import CaptureRig.Table

namespace CaptureRig.Camera

def clientName : String := "cameras"

structure Client where
  logging : Bool := false
  /-- Whether the clock of the rig has been handed over; the system clock is read until then. -/
  provided : Bool := false
  buffer : List Frame := []
  /-- The time of the last frame of each camera, also if it could not be compressed. -/
  lastTimes : Table UInt32 UInt64 := {}
  taken : Nat := 0
  stale : Nat := 0
  errors : Nat := 0

namespace Client

/-- The time of the last frame of a camera, zero before the first. -/
def lastTime (c : Client) (camera : UInt32) : UInt64 := (c.lastTimes.find? camera).getD 0

/-- Take an image while logging, where `stamp` is the time of its receipt. Whether it has been kept. -/
def record (encode : Encoder) (stamp : UInt64) (camera : UInt32) (image : Image) (c : Client) :
    Except EncodeError Bool × Client :=
  if !c.logging then (.ok false, c)
  else if stamp ≤ c.lastTime camera then
    (.ok false, { c with stale := c.stale + 1, lastTimes := c.lastTimes.insert camera (c.lastTime camera) })
  else
    let c := { c with lastTimes := c.lastTimes.insert camera stamp }
    match encode image with
    | .error e => (.error e, c)
    | .ok jpeg => (.ok true, { c with taken := c.taken + 1, buffer := c.buffer ++ [⟨camera, stamp, jpeg⟩] })

/-- One round of capture: nothing is grabbed unless logging. A grab may fail, which `none` stands for, and a
frame lost that way or another counts as an error. -/
def capture (encode : Encoder) (stamp : UInt64) (camera : UInt32) (grabbed : Option Image) (c : Client) : Client :=
  if !c.logging then c
  else match grabbed with
    | none => { c with errors := c.errors + 1 }
    | some image =>
      match c.record encode stamp camera image with
      | (.ok _, c) => c
      | (.error _, c) => { c with errors := c.errors + 1 }

/-- Begin to log, with nothing kept from before. -/
def start (c : Client) : Client :=
  if c.logging then c else { c with logging := true, buffer := [] }

def stop (c : Client) : Client := { c with logging := false }

/-- Hand over what has been kept. -/
def freeze (c : Client) : Chunk.Dump × Client :=
  (⟨clientName, some (.frames c.buffer)⟩, { c with buffer := [] })

/-- Take the clock of the rig. -/
def provide (c : Client) : Client := { c with provided := true }

def report (c : Client) : Json :=
  .object [("buffer", .nat c.buffer.length), ("errors", .nat c.errors), ("frames", .nat c.taken),
    ("last_timestamps", .object ((Table.ofList (c.lastTimes.entries.map fun (camera, time) =>
      (toString camera.toNat, Json.nat time.toNat))).entries)),
    ("logging", .bool c.logging), ("stale_frames", .nat c.stale)]

end Client

end CaptureRig.Camera

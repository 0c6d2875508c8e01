import CaptureRig.Clock.Instant
import CaptureRig.Lidar.Client

namespace CaptureRig.Lidar.Simulator

def pointsPerPacket : Nat := 96

/-- The simulated scanners' clock starts an hour late. -/
def clockStart : Nat := 3600 * nanosPerSecond

/-- Half a turn. -/
def pi : Float := 3.141592653589793

/-- How far the ring has turned, one degree a step. -/
def phase (step : Nat) : Float := Float.ofNat (step % 360) * pi / 180

/-- Point number `i` of the ring. -/
def point (step i : Nat) : RawPoint :=
  let angle := phase step + Float.ofNat i * 2 * pi / Float.ofNat pointsPerPacket
  { x := (5000 * angle.cos).toInt32, y := (5000 * angle.sin).toInt32, z := Int32.ofInt (((i % 8 : Nat) - 4) * 100)
    reflectivity := UInt8.ofNat i, tag := 0, offset := UInt32.ofNat (i * 1000) }

/-- A slow turn about the upright axis, along which the scanner weighs its own weight. -/
def sample : RawMotion :=
  { gyro := ⟨.ofInt 0, .ofInt 0, .ofBinary64 (.ofDecimal false 1 (-2))⟩
    acc := ⟨.ofInt 0, .ofInt 0, .ofInt 1⟩, offset := 0 }

/-- The packets of one scanner in one step. -/
def packets (serial : String) (timestamp : UInt64) (step : Nat) : List Packet :=
  [⟨serial, timestamp, .points ((List.range pointsPerPacket).map (point step))⟩,
   ⟨serial, timestamp, .motion [sample]⟩]

/-- Take the packets of all scanners in one step, `elapsed` nanoseconds after the start, where `now` is what the
system clock shows. -/
def advance (serials : List String) (elapsed : Nat) (now : UInt64) (step : Nat) (state : Client × Clock.Authority) :
    Client × Clock.Authority :=
  let timestamp := UInt64.ofNat (clockStart + elapsed)
  (serials.flatMap fun serial => packets serial timestamp step).foldl (fun (c, a) p => c.ingest now p a) state

/-- The client after some steps. Opening the simulator makes it ready. -/
def run (serials : List String) (period : Duration) (start : UInt64) (steps : Nat) (state : Client × Clock.Authority) :
    Client × Clock.Authority :=
  (List.range steps).foldl (fun state step =>
    advance serials (step * period) (start + UInt64.ofNat (step * period)) step state) (state.1.opened, state.2)

end CaptureRig.Lidar.Simulator

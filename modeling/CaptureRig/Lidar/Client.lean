import CaptureRig.Chunk.Dump
import CaptureRig.Clock.Authority
import CaptureRig.Lidar.Datagram
import CaptureRig.Table

namespace CaptureRig.Lidar

def clientName : String := "lidar"

/-- Samples of this many scanners are kept. -/
def scannerLimit : Nat := 16

/-- What is known of one scanner. -/
structure Scanner where
  id : UInt16
  pointPackets : Nat := 0
  motionPackets : Nat := 0
  /-- The scanner's own time of its last packet. -/
  lastTimestamp : UInt64 := 0
  deriving Repr, DecidableEq

structure Client where
  logging : Bool := false
  /-- Whether a source of packets has been opened. -/
  ready : Bool := false
  points : List Point := []
  motion : List Motion := []
  /-- The scanners by their serials. -/
  scanners : Table String Scanner := {}
  decodeErrors : Nat := 0
  /-- Packets of scanners beyond the limit. -/
  rejected : Nat := 0

/-- A time some nanoseconds after another, or the last time there is. -/
def laterBy (base : UInt64) (offset : UInt32) : UInt64 :=
  UInt64.ofNat (min (base.toNat + offset.toNat) (UInt64.size - 1))

/-- A point as it is kept, where `base` is the authoritative time of its packet. -/
def RawPoint.stamped (p : RawPoint) (base : UInt64) (scanner : UInt16) : Point :=
  { x := p.x, y := p.y, z := p.z, reflectivity := p.reflectivity, tag := p.tag
    timestamp := laterBy base p.offset, lidar := scanner }

/-- A motion sample as it is kept, where `base` is the authoritative time of its packet. -/
def RawMotion.stamped (m : RawMotion) (base : UInt64) (scanner : UInt16) : Motion :=
  { gyro := m.gyro, acc := m.acc, timestamp := laterBy base m.offset, lidar := scanner }

/-- Count a packet of the scanner. -/
def Scanner.count (s : Scanner) (p : Packet) : Scanner :=
  match p.payload with
  | .points _ => { s with pointPackets := s.pointPackets + 1, lastTimestamp := p.timestamp }
  | .motion _ => { s with motionPackets := s.motionPackets + 1, lastTimestamp := p.timestamp }

def Scanner.report (s : Scanner) : Json :=
  .object [("id", .nat s.id.toNat), ("imu_packets", .nat s.motionPackets),
    ("last_timestamp_ns", .nat s.lastTimestamp.toNat), ("point_packets", .nat s.pointPackets)]

/-- Serials in ascending order, each once. -/
def distinctSerials (serials : List String) : List String :=
  (serials.mergeSort fun a b => a ≤ b).eraseReps

namespace Client

/-- A client that knows some serials in advance. They are numbered in ascending order, as far as the limit allows. -/
def new (serials : List String) : Client :=
  { scanners := Table.ofList (((distinctSerials serials).take scannerLimit).zipIdx.map fun (serial, i) =>
      (serial, { id := UInt16.ofNat i })) }

/-- The number of a scanner. A serial not seen before takes the next number, if there is one left. -/
def scannerId (c : Client) (serial : String) : Option UInt16 × Client :=
  match c.scanners.find? serial with
  | some s => (some s.id, c)
  | none =>
    if scannerLimit ≤ c.scanners.size then (none, c)
    else
      let id := UInt16.ofNat c.scanners.size
      (some id, { c with scanners := c.scanners.insert serial { id } })

/-- Count a packet of a scanner that has its number. -/
def countPacket (c : Client) (p : Packet) : Client :=
  match c.scanners.find? p.serial with
  | some s => { c with scanners := c.scanners.insert p.serial (s.count p) }
  | none => c

/-- Keep the samples of a packet, where `base` is the authoritative time of the packet. -/
def keep (c : Client) (p : Packet) (base : UInt64) (scanner : UInt16) : Client :=
  match p.payload with
  | .points samples => { c with points := c.points ++ samples.map (·.stamped base scanner) }
  | .motion samples => { c with motion := c.motion ++ samples.map (·.stamped base scanner) }

/-- Take a packet, where `now` is what the system clock shows. A scanner whose clock does not run yet sends the time
zero, and its samples are not kept. Any other time goes to the authority, and the samples are kept while logging. -/
def ingest (now : UInt64) (p : Packet) (c : Client) (a : Clock.Authority) : Client × Clock.Authority :=
  match c.scannerId p.serial with
  | (none, c) => ({ c with rejected := c.rejected + 1 }, a)
  | (some scanner, c) =>
    let c := c.countPacket p
    if p.timestamp = 0 then (c, a)
    else
      let (base, a) := a.correctAt p.timestamp now
      (if c.logging then c.keep p base scanner else c, a)

/-- Take a datagram. One that is no packet is only counted. -/
def receive (now : UInt64) (datagram : List UInt8) (c : Client) (a : Clock.Authority) : Client × Clock.Authority :=
  match Packet.decode datagram with
  | .ok p => c.ingest now p a
  | .error _ => ({ c with decodeErrors := c.decodeErrors + 1 }, a)

/-- A source of packets has been opened. -/
def opened (c : Client) : Client := { c with ready := true }

/-- Begin to log, with nothing kept from before. -/
def start (c : Client) : Client :=
  if c.logging then c else { c with logging := true, points := [], motion := [] }

def stop (c : Client) : Client := { c with logging := false }

/-- The number and serial of every scanner, by serial. -/
def serials (c : Client) : List (UInt16 × String) :=
  c.scanners.entries.map fun (serial, s) => (s.id, serial)

/-- Hand over what has been kept. -/
def freeze (c : Client) : Chunk.Dump × Client :=
  (⟨clientName, some (.scans c.points c.motion c.serials)⟩, { c with points := [], motion := [] })

def report (c : Client) : Json :=
  .object [("buffers", .object [("imu", .nat c.motion.length), ("points", .nat c.points.length)]),
    ("decode_errors", .nat c.decodeErrors), ("init_success", .bool c.ready),
    ("lidars", .object (c.scanners.entries.map fun (serial, s) => (serial, s.report))),
    ("logging", .bool c.logging), ("rejected_packets", .nat c.rejected)]

end Client

end CaptureRig.Lidar

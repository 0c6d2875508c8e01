import CaptureRig.Console
import CaptureRig.Gnss.Device
import CaptureRig.Net.Link
import CaptureRig.Rig.Instruments
import CaptureRig.Scan.Controller

namespace CaptureRig.Station

/-- A change of the instruments alone. -/
def onInstruments (f : Instruments → Instruments) (s : Station) : Station :=
  { s with instruments := f s.instruments }

/-- A packet of a scanner. -/
def packet (now : UInt64) (p : Lidar.Packet) (s : Station) : Station :=
  let (lidar, authority) := s.instruments.lidar.ingest now p s.instruments.authority
  s.onInstruments fun i => { i with lidar, authority }

/-- A datagram that should hold a packet. -/
def datagram (now : UInt64) (bytes : List UInt8) (s : Station) : Station :=
  let (lidar, authority) := s.instruments.lidar.receive now bytes s.instruments.authority
  s.onInstruments fun i => { i with lidar, authority }

/-- Listen for datagrams. None can be sent while the network is down. -/
def listen (link : Link) (now : Nat → UInt64) (datagrams : List (List UInt8)) (s : Station) :
    Except Fault Station :=
  if link = .down ∧ datagrams ≠ [] then .error .networkDown
  else
    let s := s.onInstruments fun i => { i with lidar := i.lidar.opened }
    .ok (datagrams.zipIdx.foldl (fun s (bytes, i) => s.datagram (now i) bytes) s)

/-- The time of what a client receives: the clock of the rig once the client has it, else the system clock. -/
def stamp (provided : Bool) (now : UInt64) (i : Instruments) : UInt64 := if provided then i.time now else now

/-- A line of the satellite receiver. -/
def sentence (now : UInt64) (line : String) (s : Station) : Station :=
  s.onInstruments fun i => { i with gnss := i.gnss.ingest (stamp i.gnss.provided now i) line }

/-- All that a device gives, cut where it runs dry. -/
def device (now : Nat → UInt64) (segments : List (List UInt8)) (s : Station) : Station :=
  (Gnss.Device.read segments).zipIdx.foldl (fun s (line, i) => s.sentence (now i) line) s

/-- An image of a camera. Whether it has been kept. -/
def frame (now : UInt64) (camera : UInt32) (image : Camera.Image) (s : Station) :
    Except Camera.EncodeError Bool × Station :=
  let i := s.instruments
  let (kept, cameras) := i.cameras.record i.encoder (stamp i.cameras.provided now i) camera image
  (kept, s.onInstruments fun i => { i with cameras })

/-- What a camera gives while it is captured; a grab may fail. -/
def capture (now : Nat → UInt64) (camera : UInt32) (grabs : List (Option Camera.Image)) (s : Station) : Station :=
  grabs.zipIdx.foldl (fun s (grab, n) => s.onInstruments fun i =>
    { i with cameras := i.cameras.capture i.encoder (stamp i.cameras.provided (now n) i) camera grab }) s

/-- Queue commands in order. -/
def sendAll (commands : List Command) (s : Station) : Station := commands.foldl (fun s c => s.send c) s

/-- Press buttons one after another. The levels that count after each press and each release. -/
def press (buttons : List Button) (s : Station) : List (List Bool) × Station :=
  let (levels, _, panel, issued) := Panel.pressEach buttons 0 (.new 0, s.instruments.panel, [])
  (levels, (s.onInstruments fun i => { i with panel }).sendAll issued)

/-- Read keys. Whether shutting down has been asked for. -/
def keys (shutdown : Bool) (typed : List (Option Console.Key)) (s : Station) : Bool × Station :=
  let (commands, quit) := Console.session shutdown typed
  (quit, s.sendAll commands)

/-- Start or stop every logger. -/
def broadcast (on : Bool) (s : Station) : Station :=
  if on then s.startAll Instruments.equipment else s.stopAll Instruments.equipment

/-- Start or stop one instrument. -/
def log (r : Instrument) (on : Bool) (s : Station) : Station :=
  s.onInstruments (if on then Instruments.start r else Instruments.stop r)

/-- Freeze one instrument. Only rehearsal sensors note it. -/
def freeze (r : Instrument) (s : Station) : Chunk.Dump × Station :=
  let (dump, instruments) := s.instruments.freeze r
  (dump, { s with instruments }.note (.froze r dump))

/-- Write a dump that has been kept aside, as its instrument does it. An instrument that breaks down over it stops
everything. -/
def persistBy (r : Instrument) (d : Chunk.Dump) (dir : String) (index : Nat) (s : Station) :
    Except Fault (Except Chunk.PersistError (List String) × Station) :=
  let (outcome, files) := s.instruments.persist r d dir index s.files
  let s := { s with files }.note (.persisted r d dir index outcome files)
  match outcome with
  | .wrote names => .ok (.ok names, s)
  | .failed e => .ok (.error e, s)
  | .broke => .error .sensorBroken

/-- Write a dump that has been kept aside, without an instrument. -/
def persist (d : Chunk.Dump) (dir : String) (index : Nat) (s : Station) :
    Except Chunk.PersistError (List String) × Station :=
  let (result, files) := d.write s.instruments.writer dir index s.files
  (result, { s with files })

end CaptureRig.Station

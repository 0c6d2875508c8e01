import CaptureRig.Camera.Client
import CaptureRig.Clock.Authority
import CaptureRig.Gnss.Client
import CaptureRig.Lidar.Client
import CaptureRig.Rehearsal.Sensor
import CaptureRig.Rig.Basic
import CaptureRig.Storage.Medium

namespace CaptureRig

/-- A reference to an instrument. -/
inductive Instrument where
  | lidar
  | gnss
  | cameras
  | panel
  | storage
  | sensor (name : String)
  deriving Repr, DecidableEq

structure Instruments where
  lidar : Lidar.Client
  gnss : Gnss.Client := {}
  cameras : Camera.Client := {}
  panel : Panel := {}
  medium : Storage.Medium
  authority : Clock.Authority := {}
  /-- The time of a clock set by hand, if the clients are given that one and not the authority. -/
  handClock : Option UInt64 := none
  /-- Sensors for rehearsals by their names. -/
  sensors : Table String Rehearsal.Sensor := {}
  /-- Directories for every session, if none are to be allocated on the medium. -/
  fixedDirs : Option SessionDirs := none
  /-- How long the last commit has taken, in microseconds. -/
  commitMicros : Nat := 0
  /-- What compresses the images of the cameras. -/
  encoder : Camera.Encoder := .marks
  /-- What writes the tables of a chunk. -/
  writer : Csv.Writer := .standard

namespace Instruments

/-- The instruments of a rig with a storage root and known scanners, which are the primary source of the clock. -/
def new (root : String) (serials : List String) : Instruments :=
  { lidar := .new serials, medium := { root }, authority := (({} : Clock.Authority).designate Lidar.clientName).2 }

/-- The time that the clients stamp their data with, where `now` is what the system clock shows. -/
def time (i : Instruments) (now : UInt64) : UInt64 := i.handClock.getD (i.authority.time now)

/-- Change a sensor, if there is one of that name. -/
def changeSensor (i : Instruments) (name : String) (f : Rehearsal.Sensor → Rehearsal.Sensor) : Instruments :=
  match i.sensors.find? name with
  | some s => { i with sensors := i.sensors.insert name (f s) }
  | none => i

/-- Add a sensor, unless there is one of that name. -/
def addSensor (i : Instruments) (name : String) (s : Rehearsal.Sensor) : Instruments :=
  if i.sensors.contains name then i else { i with sensors := i.sensors.insert name s }

def start (r : Instrument) (i : Instruments) : Instruments :=
  match r with
  | .lidar => { i with lidar := i.lidar.start }
  | .gnss => { i with gnss := i.gnss.start }
  | .cameras => { i with cameras := i.cameras.start }
  | .panel | .storage | .sensor _ => i

def stop (r : Instrument) (i : Instruments) : Instruments :=
  match r with
  | .lidar => { i with lidar := i.lidar.stop }
  | .gnss => { i with gnss := i.gnss.stop }
  | .cameras => { i with cameras := i.cameras.stop }
  | .panel | .storage | .sensor _ => i

def provide (r : Instrument) (i : Instruments) : Instruments :=
  match r with
  | .gnss => { i with gnss := i.gnss.provide }
  | .cameras => { i with cameras := i.cameras.provide }
  | .sensor name => i.changeSensor name .provide
  | .lidar | .panel | .storage => i

def freeze (r : Instrument) (i : Instruments) : Chunk.Dump × Instruments :=
  match r with
  | .lidar =>
    let (dump, lidar) := i.lidar.freeze
    (dump, { i with lidar })
  | .gnss =>
    let (dump, gnss) := i.gnss.freeze
    (dump, { i with gnss })
  | .cameras =>
    let (dump, cameras) := i.cameras.freeze
    (dump, { i with cameras })
  | .sensor name =>
    match i.sensors.find? name with
    | some s =>
      let (dump, s) := s.freeze name
      (dump, { i with sensors := i.sensors.insert name s })
    | none => (⟨name, none⟩, i)
  | .panel => (⟨Panel.clientName, none⟩, i)
  | .storage => (⟨Storage.clientName, none⟩, i)

def persist (r : Instrument) (d : Chunk.Dump) (i : Instruments) (dir : String) (index : Nat) (t : Storage.Tree) :
    Persisted × Storage.Tree :=
  let write : Persisted × Storage.Tree :=
    match d.write i.writer dir index t with
    | (.ok files, t) => (.wrote files, t)
    | (.error e, t) => (.failed e, t)
  match r with
  | .sensor name =>
    match i.sensors.find? name with
    | some s => s.persist i.writer d dir index t
    | none => write
  | _ => write

def sync (_ : Instruments) (dir : String) (t : Storage.Tree) : Except Storage.AccessError Unit := t.sync dir

def allocate (i : Instruments) (t : Storage.Tree) : Except Fault (Option SessionDirs × Instruments × Storage.Tree) :=
  match i.fixedDirs with
  | some dirs => .ok (some dirs, i, t)
  | none => do
    let (result, medium, t) ← i.medium.allocate t
    return (result.toOption, { i with medium }, t)

def setLed (led : Led) (on : Bool) (i : Instruments) : Instruments := { i with panel := i.panel.setLed led on }

/-- The equipment of the rig. -/
def equipment : Equipment Instrument Instruments Chunk.Dump :=
  { start, stop, provide, freeze, size := Chunk.Dump.size, persist, sync, allocate, setLed, commitMicros }

end Instruments

/-- A rig with the instruments it is meant for. -/
abbrev Station := Rig Instrument Instruments Chunk.Dump

end CaptureRig

import CaptureRig.Chunk.Dump
import CaptureRig.Rig.Equipment

namespace CaptureRig.Rehearsal

inductive Behaviour where
  | good
  /-- Nothing is handed over, and the records stay. -/
  | withholds
  /-- Writing the data fails. -/
  | fails
  /-- The sensor breaks down over writing its data. -/
  | breaks
  /-- A file is named that has not been written. -/
  | pretends
  /-- The output directory is removed. -/
  | removesDirectory
  /-- The data are written into a directory that need not be there. -/
  | strays
  deriving Repr, DecidableEq

structure Sensor where
  /-- The key of its report. -/
  reportName : String
  records : List String := []
  behaviour : Behaviour := .good
  /-- Whether the clock of the rig has been handed over. -/
  provided : Bool := false
  deriving Repr, DecidableEq

namespace Sensor

def push (s : Sensor) (record : String) : Sensor := { s with records := s.records ++ [record] }

def provide (s : Sensor) : Sensor := { s with provided := true }

/-- Hand over the records, in files named for the sensor. -/
def freeze (s : Sensor) (name : String) : Chunk.Dump × Sensor :=
  match s.behaviour with
  | .withholds => (⟨name, none⟩, s)
  | _ => (⟨name, some (.texts name s.records)⟩, { s with records := [] })

/-- Write a dump as the behaviour has it. -/
def persist (w : Csv.Writer) (s : Sensor) (d : Chunk.Dump) (dir : String) (index : Nat) (t : Storage.Tree) :
    Persisted × Storage.Tree :=
  let write (dir : String) : Persisted × Storage.Tree :=
    match d.write w dir index t with
    | (.ok files, t) => (.wrote files, t)
    | (.error e, t) => (.failed e, t)
  match s.behaviour with
  | .good | .withholds => write dir
  | .fails => (.failed (.unavailable "disk on fire"), t)
  | .breaks => (.broke, t)
  | .pretends => (.wrote [Path.join dir "ghost.txt"], t)
  | .removesDirectory => (.wrote [], (t.removeDirectory dir).2)
  | .strays => write (Path.join dir "nowhere")

def report (s : Sensor) : Json := .object [("records", .nat s.records.length)]

end Sensor

end CaptureRig.Rehearsal

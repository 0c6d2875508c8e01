import CaptureRig.Camera.Frame
import CaptureRig.Chunk.Write
import CaptureRig.Gnss.Line
import CaptureRig.Lidar.Rows

namespace CaptureRig.Chunk

/-- The data that one client hands over. -/
inductive Payload where
  /-- Samples of the scanners, with the number and serial of every scanner known by then. -/
  | scans (points : List Lidar.Point) (motion : List Lidar.Motion) (serials : List (UInt16 × String))
  | sentences (lines : List Gnss.Line)
  | frames (taken : List Camera.Frame)
  /-- Plain texts, in files named for their kind. -/
  | texts (kind : String) (kept : List String)
  deriving DecidableEq

/-- What a client hands over when it is frozen, which may be nothing at all. -/
structure Dump where
  client : String
  payload : Option Payload := none
  deriving DecidableEq

namespace Payload

/-- The number of records. -/
def size : Payload → Nat
  | .scans points motion _ => points.length + motion.length
  | .sentences lines => lines.length
  | .frames taken => taken.length
  | .texts _ kept => kept.length

/-- The path of a chunk's file. -/
def filePath (dir kind : String) (index : Nat) (extension : String) : String :=
  Path.join dir (fileName kind index extension)

def picturePath (dir : String) (index : Nat) (f : Camera.Frame) : String := Path.join dir (f.fileName index)

/-- A file of rows, left out if there are none. -/
def tableStep (w : Csv.Writer) (path : String) (table : List (List String)) : List WriteStep :=
  if table.isEmpty then [] else [.create path (.text (w.rows table)) .table]

/-- A line of a file of sentences: the time, one blank, the sentence. -/
def sentenceLine (l : Gnss.Line) : String := toString l.timestamp.toNat ++ " " ++ l.sentence ++ "\n"

/-- The row that lists a picture. -/
def frameRow (index : Nat) (f : Camera.Frame) : List String :=
  [toString f.timestamp.toNat, toString f.camera.toNat, f.fileName index]

/-- Write one picture, then list it. -/
def frameSteps (w : Csv.Writer) (dir : String) (index : Nat) (list : String) (f : Camera.Frame) : List WriteStep :=
  [.create (picturePath dir index f) (.bytes f.jpeg) .file, .append list (w.row (frameRow index f))]

/-- The steps that write the data as chunk number `index`. -/
def steps (w : Csv.Writer) (dir : String) (index : Nat) : Payload → List WriteStep
  | .scans points motion serials =>
    tableStep w (filePath dir "lidar" index "csv") (points.map Lidar.Point.row) ++
      tableStep w (filePath dir "imu" index "csv") (motion.map Lidar.Motion.row) ++
      [.create (filePath dir "lidar" index "sn") (.text (w.rows (serials.map Lidar.serialRow))) .table]
  | .sentences lines =>
    [.create (filePath dir "gnss" index "gnss") (.text (String.join (lines.map sentenceLine))) .file]
  | .frames taken =>
    let list := filePath dir "camera" index "csv"
    .create list (.text "") .table ::
      (taken.flatMap (frameSteps w dir index list) ++
        [.finish list (.text (w.rows (taken.map (frameRow index))))])
  | .texts kind kept =>
    [.create (filePath dir kind index "txt") (.text (String.intercalate "\n" kept)) .file]

/-- The files written, in the order in which they are done. -/
def files (dir : String) (index : Nat) : Payload → List String
  | .scans points motion _ =>
    (if points.isEmpty then [] else [filePath dir "lidar" index "csv"]) ++
      (if motion.isEmpty then [] else [filePath dir "imu" index "csv"]) ++ [filePath dir "lidar" index "sn"]
  | .sentences _ => [filePath dir "gnss" index "gnss"]
  | .frames taken => taken.map (picturePath dir index) ++ [filePath dir "camera" index "csv"]
  | .texts kind _ => [filePath dir kind index "txt"]

/-- Write the data, and name the files if all went well. -/
def write (w : Csv.Writer) (p : Payload) (dir : String) (index : Nat) (t : Storage.Tree) :
    Except PersistError (List String) × Storage.Tree :=
  match WriteStep.runAll (p.steps w dir index) t with
  | (none, t) => (.ok (p.files dir index), t)
  | (some e, t) => (.error e, t)

end Payload

namespace Dump

def size (d : Dump) : Nat :=
  match d.payload with
  | none => 0
  | some p => p.size

def isEmpty (d : Dump) : Bool := d.size == 0

/-- Write the dump; nothing writes no file. -/
def write (w : Csv.Writer) (d : Dump) (dir : String) (index : Nat) (t : Storage.Tree) :
    Except PersistError (List String) × Storage.Tree :=
  match d.payload with
  | none => (.ok [], t)
  | some p => p.write w dir index t

end Dump

end CaptureRig.Chunk

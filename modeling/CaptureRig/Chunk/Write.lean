import CaptureRig.Storage.Change

namespace CaptureRig.Chunk

/-- Why the data of a client are not written. -/
inductive PersistError where
  /-- A plain file could not be made or written, or the end of a file of rows could not. -/
  | file
  /-- A file of rows could not be made, or its rows could not be written. -/
  | table
  | unavailable (reason : String)
  deriving Repr, DecidableEq

/-- One step of a plan: a file made with what it holds at first, or text added to one made before, or a file that has
grown finished with all that it should hold by then. -/
inductive WriteStep where
  | create (path : String) (content : Storage.Content) (failure : PersistError)
  | append (path : String) (text : String)
  | finish (path : String) (whole : Storage.Content)
  deriving Repr, DecidableEq

/-- Rows are handed over in buffers of this many bytes, the last one when their file is finished. -/
def bufferSize : Nat := 8192

/-- What the failure is if not all of a content finds room: that of a row if a buffer before the last one is lost. -/
def lostBuffer (content held : Storage.Content) (failure : PersistError) : PersistError :=
  if (content.encoded.length - 1) / bufferSize * bufferSize ≤ held.encoded.length then .file else failure

namespace WriteStep

def path : WriteStep → String
  | .create path _ _ => path
  | .append path _ => path
  | .finish path _ => path

/-- Carry out one step. What has been written before a failure stays. -/
def run (step : WriteStep) (t : Storage.Tree) : Option PersistError × Storage.Tree :=
  match step with
  | .create path content failure =>
    match t.openFile path with
    | .error _ => (some failure, t)
    | .ok p =>
      let (shortage, t') := t.fill p content
      (shortage.map fun _ => lostBuffer content (t.fitting p content) failure, t')
  | .append path text => (none, t.append path text)
  | .finish path whole =>
    match t.locate path with
    | .error _ => (none, t)
    | .ok p => ((t.shortage? p whole).map fun _ => .file, t)

/-- Carry out steps up to the first that fails. -/
def runAll : List WriteStep → Storage.Tree → Option PersistError × Storage.Tree
  | [], t => (none, t)
  | step :: steps, t =>
    match step.run t with
    | (none, t) => runAll steps t
    | failed => failed

end WriteStep

end CaptureRig.Chunk

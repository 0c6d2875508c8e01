import CaptureRig.Json.Value
import CaptureRig.Storage.Change
import CaptureRig.Text.Quoted

namespace CaptureRig.Journal

/-- A value to be saved under a path below the directory of the session. -/
structure SaveRequest where
  path : String
  value : Json

inductive SaveError where
  | unsupportedExtension (path : String)
  | access (cause : Storage.AccessError)
  /-- The file has been opened, but not all of the value could be written. -/
  | serialize (cause : Storage.AccessError)
  deriving Repr, DecidableEq

def SaveError.message : SaveError → String
  | .unsupportedExtension path => "Unrecognised file path extension for " ++ Text.quoted path
  | .access cause => "Couldn\x27t write file: " ++ cause.message
  | .serialize cause => "Couldn\x27t serialize data: " ++ cause.message

/-- Write a value to a JSON file, and make the directories above it. -/
def writeJson (path : String) (value : Json) (t : Storage.Tree) : Option SaveError × Storage.Tree :=
  if Path.extension? path ≠ some "json" then (some (.unsupportedExtension path), t)
  else match t.makeParent path with
    | (some e, t) => (some (.access e), t)
    | (none, t) =>
      match t.openFile path with
      | .error e => (some (.access e), t)
      | .ok p =>
        let (failure, t) := t.fill p (.text value.pretty)
        (failure.map .serialize, t)

/-- Where the saving thread is. -/
inductive SaverThread where
  | listening
  /-- It has found the queue empty and is about to look at the stop flag. -/
  | idle
  | ended
  deriving Repr, DecidableEq

structure Saver where
  queue : List SaveRequest := []
  /-- Whether the thread has been asked to stop. -/
  stop : Bool := false
  thread : SaverThread := .listening
  /-- The requests taken, in order. -/
  taken : List SaveRequest := []

namespace Saver

def send (s : Saver) (r : SaveRequest) : Saver := { s with queue := s.queue ++ [r] }

def raise (s : Saver) : Saver := { s with stop := true }

/-- The next step of the thread; there is none after its end. -/
def step? (s : Saver) : Option Saver :=
  match s.thread, s.queue with
  | .listening, r :: rest => some { s with queue := rest, taken := s.taken ++ [r] }
  | .listening, [] => some { s with thread := .idle }
  | .idle, _ => some { s with thread := if s.stop then .ended else .listening }
  | .ended, _ => none

/-- Let the thread make steps on its own. -/
def run : Nat → Saver → Saver
  | 0, s => s
  | steps + 1, s =>
    match s.step? with
    | some s => run steps s
    | none => s

/-- Wait for the end of a thread that has been asked to stop: one step for each request left, and at most three to find
the queue empty, look at the flag and begin over. -/
def finish (s : Saver) : Saver := s.run (s.queue.length + 4)

end Saver

end CaptureRig.Journal

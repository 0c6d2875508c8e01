import CaptureRig.Fault
import CaptureRig.Json.Value
import CaptureRig.Scan.Session
import CaptureRig.Storage.Change
import CaptureRig.Text.Blank
import CaptureRig.Text.Quoted

namespace CaptureRig.Storage

def clientName : String := "fs"

def manifestName : String := "scan_manifest.txt"

def continuousStem : String := "continuous_scanning_"

def stopScanStem : String := "stop_scans_"

/-- The medium, the session allocated last, and the text of the last attempt's error. -/
structure Medium where
  root : String
  session : Option SessionDirs := none
  lastError : Option String := none
  deriving Repr, DecidableEq

inductive AllocError where
  | emptyRoot
  | notWritable (root : String)
  | corruptManifest (path text : String)
  | access (cause : AccessError)
  deriving Repr, DecidableEq

def AllocError.message : AllocError → String
  | .emptyRoot => "No storage root is configured"
  | .notWritable root => "Storage root " ++ Text.quoted root ++ " is not writable"
  | .corruptManifest path text => "Manifest " ++ Text.quoted path ++ " is corrupt: \x22" ++ text ++ "\x22"
  | .access cause => "Could not access the storage: " ++ cause.message

/-- The directories of a session below a root. -/
def sessionDirs (root : String) (id : Nat) : SessionDirs :=
  { id
    continuous := Path.join root (continuousStem ++ Text.padded 4 id)
    stopScan := Path.join root (stopScanStem ++ Text.padded 4 id) }

/-- The text of a manifest that holds `id`. -/
def manifestText (id : Nat) : String := toString id ++ "\n"

/-- Numbers of sessions have 64 bits. -/
def idBound : Nat := UInt64.size

namespace Medium

def manifestPath (m : Medium) : String := Path.join m.root manifestName

def isWritable (m : Medium) (t : Tree) : Bool := t.isWritable m.root

/-- The number that the next session takes: what the manifest holds, zero without one. -/
def nextId (m : Medium) (t : Tree) : Except AllocError Nat :=
  match t.readText m.manifestPath with
  | .error .notFound => .ok 0
  | .error e => .error (.access e)
  | .ok text =>
    match Text.natural? Text.decimalValue? 10 idBound (Text.trimmed text.toList) with
    | some id => .ok id
    | none => .error (.corruptManifest m.manifestPath (Text.trim text))

/-- An attempt to make the directories of a session and to advance the manifest. The tree keeps what was done
before an error. -/
def attempt (m : Medium) (t : Tree) : Except Fault (Except AllocError SessionDirs × Tree) :=
  if m.root.isEmpty then .ok (.error .emptyRoot, t)
  else if !m.isWritable t then .ok (.error (.notWritable m.root), t)
  else match m.nextId t with
    | .error e => .ok (.error e, t)
    | .ok id =>
      let dirs := sessionDirs m.root id
      match t.makeDirectory dirs.continuous with
      | (some e, t) => .ok (.error (.access e), t)
      | (none, t) =>
        match t.makeDirectory dirs.stopScan with
        | (some e, t) => .ok (.error (.access e), t)
        | (none, t) =>
          if id + 1 < idBound then
            match t.write m.manifestPath (.text (manifestText (id + 1))) with
            | (some e, t) => .ok (.error (.access e), t)
            | (none, t) => .ok (.ok dirs, t)
          else .error .idOverflow

/-- Allocate a session, and remember how that went. -/
def allocate (m : Medium) (t : Tree) : Except Fault (Except AllocError SessionDirs × Medium × Tree) := do
  match ← m.attempt t with
  | (.ok dirs, t) => return (.ok dirs, { m with session := some dirs, lastError := none }, t)
  | (.error e, t) => return (.error e, { m with lastError := some e.message }, t)

def report (m : Medium) (t : Tree) : Json :=
  .object [("dirs", .texts (t.directories m.root)), ("error", .ofOption .text m.lastError),
    ("next_id", match m.nextId t with
      | .ok id => .nat id
      | .error _ => .null),
    ("root", .text m.root), ("session_id", .ofOption (fun s => .nat s.id) m.session),
    ("writable", .bool (m.isWritable t))]

end Medium

end CaptureRig.Storage

import CaptureRig.Net.SocketAddress
import CaptureRig.Scan.Params
import CaptureRig.Text.Blank
import CaptureRig.Text.Split
import CaptureRig.Text.Utf8
import CaptureRig.Toml.Document

namespace CaptureRig

open Net (SocketAddress)

structure Settings where
  /-- Directory in which the directories of sessions are made. -/
  storageRoot : String := "/media/usb/"
  /-- Address at which packets of the scanners are received. -/
  lidarAddress : SocketAddress := .anywhere 56301
  /-- Serial numbers of the scanners that are expected. -/
  lidarSerials : List String := []
  /-- Serial device of the satellite receiver, empty for none. -/
  gnssDevice : String := "/dev/ttyS0"
  /-- Address of the web server. -/
  httpAddress : SocketAddress := .anywhere 8003
  /-- Whether all sensors and the panel are simulated. -/
  simulated : Bool := false
  /-- Whether to go on with the system clock where the scanners cannot be started. -/
  ignoreLidarError : Bool := false
  cameras : List Nat := []
  controller : ScanParams := {}

namespace Settings

open Toml (Value)

/-- The values of the named fields, `none` where a field is not given; no answer if one is given twice. Unknown keys
are ignored, and a record may also be given as a list of its first values in their order. -/
def fields? (names : List String) : Value → Option (List (Option Value))
  | .table pairs | .dotted pairs =>
    names.mapM fun name =>
      match pairs.filter (·.1 == name) with
      | [] => some none
      | [(_, value)] => some (some value)
      | _ => none
  | .list items =>
    if items.length ≤ names.length then
      some (items.map some ++ List.replicate (names.length - items.length) none)
    else none
  | .date => some (names.map fun _ => none)
  | _ => none

def text? : Value → Option String
  | .text s => some s
  | _ => none

def flag? : Value → Option Bool
  | .flag b => some b
  | _ => none

/-- A number of seconds; whole numbers will do. -/
def seconds? : Value → Option Binary64
  | .number (.integer n) => some (.ofInt n)
  | .number (.float x) => some x
  | _ => none

def camera? : Value → Option Nat
  | .number (.integer n) => if 0 ≤ n ∧ n < UInt32.size then some n.toNat else none
  | _ => none

def list? {α : Type} (item? : Value → Option α) : Value → Option (List α)
  | .list items => items.mapM item?
  | _ => none

def address? (v : Value) : Option SocketAddress := (text? v).bind SocketAddress.parse?

/-- A field that keeps its default if it is not given. -/
def orDefault {α : Type} (default : α) (read? : Value → Option α) : Option Value → Option α
  | none => some default
  | some v => read? v

def controllerOf? (v : Value) : Option ScanParams := do
  let d : ScanParams := {}
  match ← fields? ((d.periods.map (·.1)) ++ ["mandatory_clients"]) v with
  | [tick, errorBlink, fastBlink, commit, preRoll, duration, clients] =>
    return { tickPeriod := ← orDefault d.tickPeriod seconds? tick
             errorBlinkPeriod := ← orDefault d.errorBlinkPeriod seconds? errorBlink
             fastBlinkPeriod := ← orDefault d.fastBlinkPeriod seconds? fastBlink
             commitInterval := ← orDefault d.commitInterval seconds? commit
             stopScanPreRoll := ← orDefault d.stopScanPreRoll seconds? preRoll
             stopScanDuration := ← orDefault d.stopScanDuration seconds? duration
             mandatoryClients := ← orDefault d.mandatoryClients (list? text?) clients }
  | _ => none

def fieldNames : List String :=
  ["storage_root", "lidar_listen_addr", "lidar_serials", "gnss_device", "http_addr", "simulated_hardware",
   "ignore_lidar_error", "camera_indexes", "controller"]

def ofTable? (pairs : List (String × Value)) : Option Settings := do
  let d : Settings := {}
  match ← fields? fieldNames (.table pairs) with
  | [root, lidar, serials, gnss, http, simulated, ignoring, cameras, controller] =>
    return { storageRoot := ← orDefault d.storageRoot text? root
             lidarAddress := ← orDefault d.lidarAddress address? lidar
             lidarSerials := ← orDefault d.lidarSerials (list? text?) serials
             gnssDevice := ← orDefault d.gnssDevice text? gnss
             httpAddress := ← orDefault d.httpAddress address? http
             simulated := ← orDefault d.simulated flag? simulated
             ignoreLidarError := ← orDefault d.ignoreLidarError flag? ignoring
             cameras := ← orDefault d.cameras (list? camera?) cameras
             controller := ← orDefault d.controller controllerOf? controller }
  | _ => none

/-- Why a file of settings could not be used. -/
inductive LoadError where
  /-- The directory of the software is not known. -/
  | rootNotSet
  /-- The file is missing or is not text. -/
  | unreadable
  /-- The text describes no settings. -/
  | malformed
  deriving Repr, DecidableEq

/-- Load settings from the bytes of a file, if there is one. -/
def load (file? : Option (List UInt8)) : Except LoadError Settings :=
  match file?.bind Utf8.decode? with
  | none => .error .unreadable
  | some cs =>
    match (Toml.parse? (String.ofList cs)).bind ofTable? with
    | none => .error .malformed
    | some s => .ok s

/-- Load settings from a file below the directory of the software. -/
def loadBelow (rootKnown : Bool) (file? : Option (List UInt8)) : Except LoadError Settings :=
  if rootKnown then load file? else .error .rootNotSet

/-- A value that a variable cannot have. -/
structure InvalidVariable where
  name : String
  value : String
  deriving Repr, DecidableEq

def InvalidVariable.message (e : InvalidVariable) : String :=
  "Invalid value \x22" ++ e.value ++ "\x22 for " ++ e.name

/-- Only `1` and `true` in any case mean yes. -/
def asFlag (s : String) : Bool :=
  let v := Text.trim s
  v == "1" || v.toLower == "true"

/-- Indexes between commas; empty ones are dropped. -/
def cameras? (s : String) : Option (List Nat) :=
  (((Text.split (· == ',') s.toList).map Text.trimmed).filter fun cs => !cs.isEmpty).mapM
    (Text.natural? Text.decimalValue? 10 UInt32.size)

/-- The variables and what each of them sets; `none` if the value cannot be used. -/
def overrides : List (String × (Settings → String → Option Settings)) :=
  [("SCAN_RIG_REPO", fun s v => some { s with storageRoot := v }),
   ("SCAN_RIG_LIDAR_LISTEN", fun s v => (SocketAddress.parse? (Text.trim v)).map fun a => { s with lidarAddress := a }),
   ("SCAN_RIG_GNSS_UART", fun s v => some { s with gnssDevice := v }),
   ("SCAN_RIG_HTTP_ADDR", fun s v => (SocketAddress.parse? (Text.trim v)).map fun a => { s with httpAddress := a }),
   ("SCAN_RIG_SIM", fun s v => some { s with simulated := asFlag v }),
   ("SCAN_RIG_IGNORE_LIDAR_ERROR", fun s v => some { s with ignoreLidarError := asFlag v }),
   ("SCAN_RIG_CAMERAS", fun s v => (cameras? v).map fun cameras => { s with cameras })]

/-- Apply overrides in their order up to the first value that cannot be used; what was set before it stays. -/
def overrideWith (lookup : String → Option String) :
    List (String × (Settings → String → Option Settings)) → Settings → Option InvalidVariable × Settings
  | [], s => (none, s)
  | (name, set) :: more, s =>
    match lookup name with
    | none => overrideWith lookup more s
    | some value =>
      match set s value with
      | none => (some ⟨name, value⟩, s)
      | some s => overrideWith lookup more s

/-- Apply the variables that are set. -/
def applyOverrides (s : Settings) (lookup : String → Option String) : Option InvalidVariable × Settings :=
  overrideWith lookup overrides s

def validate (s : Settings) : Except InvalidPeriod Unit := s.controller.validate

/-- The device of the satellite receiver, if there is one. -/
def gnssDevice? (s : Settings) : Option String :=
  if s.gnssDevice.isEmpty then none else some s.gnssDevice

def json (s : Settings) : Json :=
  .object [("storage_root", .text s.storageRoot), ("lidar_listen_addr", .text s.lidarAddress.write),
    ("lidar_serials", .texts s.lidarSerials), ("gnss_device", .text s.gnssDevice),
    ("http_addr", .text s.httpAddress.write), ("simulated_hardware", .bool s.simulated),
    ("ignore_lidar_error", .bool s.ignoreLidarError), ("camera_indexes", .list (s.cameras.map .nat)),
    ("controller", s.controller.json)]

end Settings

end CaptureRig

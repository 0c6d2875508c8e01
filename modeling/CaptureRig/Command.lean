import CaptureRig.Text.Blank

namespace CaptureRig

/-- A request to the controller, which drops it where it does not apply. -/
inductive Command where
  /-- Start continuous scanning. -/
  | startScan
  /-- Stop continuous scanning and commit the last chunk. -/
  | stopScan
  /-- Start a delayed scan of fixed length. -/
  | triggerStopScan
  /-- Start continuous scanning if idle, stop it if scanning. -/
  | triggerContinuousScanning
  deriving Repr, DecidableEq

namespace Command

def all : List Command := [.startScan, .stopScan, .triggerStopScan, .triggerContinuousScanning]

/-- The word for the command. -/
def name : Command → String
  | .startScan => "start_scan"
  | .stopScan => "stop_scan"
  | .triggerStopScan => "trigger_stop_scan"
  | .triggerContinuousScanning => "trigger_continuous_scanning"

/-- The path of the web request that issues the command. -/
def path : Command → String
  | .startScan => "/trig/start_bag"
  | .stopScan => "/trig/stop_bag"
  | .triggerStopScan => "/trig/stopscan"
  | .triggerContinuousScanning => "/trig/toggle"

/-- The tag of the command in records. -/
def tag : Command → String
  | .startScan => "StartScan"
  | .stopScan => "StopScan"
  | .triggerStopScan => "TriggerStopScan"
  | .triggerContinuousScanning => "TriggerContinuousScanning"

def ofPath? (path : String) : Option Command :=
  all.find? fun c => c.path == path

def ofTag? (tag : String) : Option Command :=
  all.find? fun c => c.tag == tag

/-- A text that names no command. -/
inductive ParseError where
  | unknown (text : String)
  deriving Repr, DecidableEq

def ParseError.message : ParseError → String
  | .unknown text => "\x22" ++ text ++ "\x22 is not a recognised scan command"

/-- Read the word for a command, with blanks around it. -/
def parse (text : String) : Except ParseError Command :=
  match all.find? fun c => c.name == Text.trim text with
  | some c => .ok c
  | none => .error (.unknown text)

end Command

end CaptureRig

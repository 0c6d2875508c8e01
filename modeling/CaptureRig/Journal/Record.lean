import CaptureRig.Text.Blank

namespace CaptureRig.Journal

inductive Severity where
  | error
  | warning
  | info
  | debug
  | trace
  deriving Repr, DecidableEq

namespace Severity

def all : List Severity := [.error, .warning, .info, .debug, .trace]

/-- The more verbose, the greater. -/
def verbosity (s : Severity) : Nat := s.ctorIdx

def name : Severity → String
  | .error => "ERROR"
  | .warning => "WARN"
  | .info => "INFO"
  | .debug => "DEBUG"
  | .trace => "TRACE"

/-- The name as a word. -/
def word : Severity → String
  | .error => "Error"
  | .warning => "Warn"
  | .info => "Info"
  | .debug => "Debug"
  | .trace => "Trace"

/-- The name on the console. -/
def tag : Severity → String
  | .error => "ERR"
  | .warning => "WRN"
  | .info => "INF"
  | .debug => "DBG"
  | .trace => "TRC"

/-- The name in any case. -/
def ofName? (name : String) : Option Severity :=
  all.find? fun s => s.name.toList == name.toList.map Char.toUpper

end Severity

/-- The most verbose records let through; none at all if not given. -/
abbrev Limit := Option Severity

namespace Limit

def name : Limit → String
  | none => "OFF"
  | some s => s.name

end Limit

structure Record where
  severity : Severity
  /-- The part of the program that speaks. -/
  target : String
  text : String
  deriving Repr, DecidableEq

/-- Parts of the program that are worth a line only when something goes wrong, each with a limit of its own. -/
def quietTargets : List (String × Severity) :=
  [("hyper", .warning), ("mio", .warning), ("tokio", .warning), ("tower", .warning), ("axum", .info), ("image", .info)]

/-- Whether a target is a part or lies within it. Two colons make a separator, and in a longer run of colons pairs are
made from the right, so that one left over belongs to the name before. -/
def isWithin (part target : String) : Bool :=
  match part.toList.isPrefixOf? target.toList with
  | none => false
  | some rest =>
    let colons := (rest.takeWhile (· == ':')).length
    rest.isEmpty || (0 < colons && colons % 2 == 0)

/-- The limit for a target: its own if it is a quiet one. -/
def limitFor (limit : Severity) (target : String) : Severity :=
  match quietTargets.find? fun q => isWithin q.1 target with
  | some (_, own) => own
  | none => limit

namespace Record

/-- Whether a record is let through. -/
def passes (r : Record) (limit : Severity) : Bool :=
  r.severity.verbosity ≤ (limitFor limit r.target).verbosity

/-- The line on the console, which names the target only of records for debugging. -/
def consoleLine (r : Record) (elapsed : String) : String :=
  let text := if Severity.info.verbosity < r.severity.verbosity then r.target ++ ": " ++ r.text else r.text
  "[" ++ elapsed ++ " " ++ r.severity.tag ++ "] " ++ text

/-- A word in a column of five. -/
def column (word : String) : String := word ++ String.ofList (List.replicate (5 - word.length) ' ')

/-- The line in the log file. -/
def fileLine (r : Record) (elapsed : String) : String :=
  "[" ++ elapsed ++ " " ++ column r.severity.name ++ "] " ++ r.target ++ ": " ++ r.text

end Record

end CaptureRig.Journal

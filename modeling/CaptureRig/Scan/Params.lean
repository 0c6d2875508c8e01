import CaptureRig.Clock.Instant
import CaptureRig.Json.Value

namespace CaptureRig

structure ScanParams where
  /-- Period of the controller's loop. -/
  tickPeriod : Binary64 := .ofDecimal false 1 (-1)
  /-- Half a period of the blinking in error phases, and the period of the loop in them. -/
  errorBlinkPeriod : Binary64 := .ofInt 1
  /-- Half a period of the fast blinking before a scan. -/
  fastBlinkPeriod : Binary64 := .ofDecimal false 1 (-1)
  /-- Time between the chunks of a continuous scan. -/
  commitInterval : Binary64 := .ofInt 10
  /-- Time between the trigger of a stop scan and its start. -/
  stopScanPreRoll : Binary64 := .ofInt 5
  stopScanDuration : Binary64 := .ofInt 30
  /-- Clients that have to be attached before anything else. -/
  mandatoryClients : List String := ["gpio", "fs"]
  deriving Repr, DecidableEq

/-- A number of seconds as a duration, rounded to the nearest nanosecond. Negative numbers, those of 2^64 and more,
and what is no number have none. -/
def Binary64.duration? (x : Binary64) : Option Duration :=
  match x.value with
  | .finite negative m q =>
    if negative ∧ m ≠ 0 then none
    else match q with
      | .ofNat e => if m * twoTo e < UInt64.size then some (m * twoTo e * nanosPerSecond) else none
      | .negSucc e => if m < UInt64.size * twoTo (e + 1) then some (roundDiv (m * nanosPerSecond) (twoTo (e + 1))) else none
  | _ => none

/-- A period that cannot be used. -/
structure InvalidPeriod where
  name : String
  value : Binary64
  deriving Repr, DecidableEq

def InvalidPeriod.message (e : InvalidPeriod) : String :=
  "Invalid controller period " ++ e.name ++ " = " ++ e.value.write .message

namespace ScanParams

/-- Every period with its name, and whether it may not be zero. -/
def periods (p : ScanParams) : List (String × Binary64 × Bool) :=
  [("tick_period_s", p.tickPeriod, true), ("error_blink_period_s", p.errorBlinkPeriod, true),
   ("fast_blink_period_s", p.fastBlinkPeriod, true), ("commit_interval_s", p.commitInterval, false),
   ("stop_scan_pre_roll_s", p.stopScanPreRoll, false), ("stop_scan_duration_s", p.stopScanDuration, false)]

/-- Whether a period converts, and not to zero where it may not. -/
def usable (value : Binary64) (nonZero : Bool) : Bool :=
  match value.duration? with
  | none => false
  | some d => !(nonZero && d == 0)

/-- Refuse the first period that cannot be used. -/
def validate (p : ScanParams) : Except InvalidPeriod Unit :=
  match p.periods.find? fun (_, value, nonZero) => !usable value nonZero with
  | some (name, value, _) => .error ⟨name, value⟩
  | none => .ok ()

def json (p : ScanParams) : Json :=
  .object ((p.periods.map fun (name, value, _) => (name, Json.double value)) ++
    [("mandatory_clients", .texts p.mandatoryClients)])

end ScanParams

end CaptureRig

import CaptureRig.Command
import CaptureRig.Json.Value
import CaptureRig.Panel.Debouncer
import CaptureRig.Table

namespace CaptureRig

inductive Led where
  | stopScan
  | copyData
  | continuousScanning
  deriving Repr, DecidableEq

inductive Button where
  | stopScan
  | continuousScanning
  deriving Repr, DecidableEq

namespace Led

def all : List Led := [.stopScan, .copyData, .continuousScanning]

def name : Led → String
  | .stopScan => "LED_GPIO_STOP_SCAN"
  | .copyData => "LED_GPIO_COPY_DATA"
  | .continuousScanning => "LED_GPIO_CONTINOUS_SCANNING"

/-- The pin on the header of the rig. -/
def pin : Led → Nat
  | .stopScan => 26
  | .copyData => 19
  | .continuousScanning => 13

end Led

namespace Button

def all : List Button := [.stopScan, .continuousScanning]

def name : Button → String
  | .stopScan => "BUTTON_STOP_SCAN"
  | .continuousScanning => "BUTTON_CONTINOUS_SCANNING"

/-- The pin on the header of the rig. -/
def pin : Button → Nat
  | .stopScan => 5
  | .continuousScanning => 6

def command : Button → Command
  | .stopScan => .triggerStopScan
  | .continuousScanning => .triggerContinuousScanning

end Button

/-- Levels of the lamps, raw levels of the buttons, and the button levels that count. -/
structure Panel where
  leds : Led → Bool := fun _ => false
  raw : Button → Bool := fun _ => false
  pressed : Button → Bool := fun _ => false

namespace Panel

def clientName : String := "gpio"

inductive OpenError where
  | hardwareUnavailable
  deriving Repr, DecidableEq

def OpenError.message : OpenError → String
  | .hardwareUnavailable => "GPIO hardware is not available on this platform"

/-- Open the panel. There are no pins to drive, so only a simulated one opens. -/
def openPanel (simulated : Bool) : Except OpenError Panel :=
  if simulated then .ok {} else .error .hardwareUnavailable

def setLed (p : Panel) (led : Led) (on : Bool) : Panel :=
  { p with leds := fun l => if l = led then on else p.leds l }

/-- Set the raw level of a simulated button. -/
def hold (p : Panel) (button : Button) (down : Bool) : Panel :=
  { p with raw := fun b => if b = button then down else p.raw b }

def report (p : Panel) : Json :=
  .object [("leds", .object ((Table.ofList (Led.all.map fun l => (l.name, Json.bool (p.leds l)))).entries)),
    ("buttons", .object ((Table.ofList (Button.all.map fun b => (b.name, Json.bool (p.pressed b)))).entries))]

/-- What the polling of the buttons remembers. -/
structure Watch where
  debouncers : Button → Debouncer

def Watch.new (now : Instant) : Watch := ⟨fun _ => .new false now⟩

/-- Sample one button; a press that begins to count issues the command of the button. -/
def pollButton (now : Instant) (state : Watch × Panel × List Command) (button : Button) :
    Watch × Panel × List Command :=
  let (watch, panel, issued) := state
  let (change, debouncer) := (watch.debouncers button).update (panel.raw button) now
  let watch : Watch := ⟨fun b => if b = button then debouncer else watch.debouncers b⟩
  match change with
  | none => (watch, panel, issued)
  | some down =>
    (watch, { panel with pressed := fun b => if b = button then down else panel.pressed b },
      if down then issued ++ [button.command] else issued)

/-- Sample every button at each of the instants. -/
def poll (state : Watch × Panel × List Command) (instants : List Instant) : Watch × Panel × List Command :=
  instants.foldl (fun state now => Button.all.foldl (pollButton now) state) state

/-- The time between two samples. -/
def pollPeriod : Duration := millis 2

/-- Samples from an instant on, as many as it takes for a level to count. -/
def settling (now : Instant) : List Instant :=
  (List.range (Debouncer.settleTime / pollPeriod + 1)).map fun i => now + i * pollPeriod

/-- The levels of the buttons that count. -/
def levels (p : Panel) : List Bool := Button.all.map p.pressed

/-- Hold a button down until that counts, then let it go until that counts. The levels after each. -/
def press (button : Button) (now : Instant) (state : Watch × Panel × List Command) :
    List (List Bool) × Watch × Panel × List Command :=
  let (watch, panel, issued) := state
  let (watch, panel, issued) := poll (watch, panel.hold button true, issued) (settling now)
  let down := panel.levels
  let later := now + 2 * Debouncer.settleTime
  let (watch, panel, issued) := poll (watch, panel.hold button false, issued) (settling later)
  ([down, panel.levels], watch, panel, issued)

/-- Press buttons one after another from an instant on. -/
def pressEach : List Button → Instant → Watch × Panel × List Command →
    List (List Bool) × Watch × Panel × List Command
  | [], _, state => ([], state)
  | button :: buttons, now, state =>
    let (levels, state) := press button now state
    let (more, state) := pressEach buttons (now + 4 * Debouncer.settleTime) state
    (levels ++ more, state)

end Panel

end CaptureRig

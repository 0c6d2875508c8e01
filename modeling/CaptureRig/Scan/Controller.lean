import CaptureRig.Chunk.Commit

namespace CaptureRig

/-- Where a command leads from a phase, if it is open there. -/
def Command.target? : Command → Phase → Option Phase
  | .startScan, .idle => some .startingScan
  | .stopScan, .scanning => some .stopping
  | .triggerStopScan, .idle => some .startingStopScan
  | .triggerContinuousScanning, .idle => some .startingScan
  | .triggerContinuousScanning, .scanning => some .stopping
  | _, _ => none

/-- The duration of a period that is needed now. -/
def Binary64.needed (period : Binary64) : Except Fault Duration :=
  match period.duration? with
  | some d => .ok d
  | none => .error .unusablePeriod

/-- An instant some time after another, which the clock has to be able to show. -/
def Instant.after (i : Instant) (d : Duration) : Except Fault Instant :=
  match i.later? d with
  | some later => .ok later
  | none => .error .instantOverflow

namespace Phase

/-- Off in the first half period, on in the second, and so on. -/
def blink (elapsed half : Duration) : Bool := elapsed / max half 1 % 2 == 1

/-- The levels of the lamps in a phase, with those that blink fast and slowly as they are now. -/
def lamps (p : Phase) (fast slow : Bool) : Led → Bool
  | .continuousScanning =>
    match p with
    | .startingScan => !fast
    | .scanning | .stopping => true
    | .lidarError => slow
    | _ => false
  | .stopScan =>
    match p with
    | .stopScanInitialProgress => !fast
    | .stopScanInProgress | .stoppingStopScan => true
    | .lidarError => slow
    | _ => false
  | .copyData =>
    match p with
    | .storageError => slow
    | _ => false

end Phase

namespace Rig

variable {ρ σ δ : Type}

/-- Change the phase. -/
def moveTo (target : Phase) (g : Rig ρ σ δ) : Rig ρ σ δ :=
  if g.control.phase = target then g
  else { g with control := { g.control with phase := target } }.note (.moved g.control.phase target)

/-- Apply a command at once. Whether it was open. -/
def apply (c : Command) (g : Rig ρ σ δ) : Bool × Rig ρ σ δ :=
  match c.target? g.control.phase with
  | some target => (true, g.moveTo target)
  | none => (false, g)

/-- Queue a command for the next tick. -/
def send (c : Command) (g : Rig ρ σ δ) : Rig ρ σ δ :=
  { g with control := { g.control with queue := g.control.queue ++ [c] } }

/-- Report that a sensor has failed. -/
def reportFailure (g : Rig ρ σ δ) : Rig ρ σ δ :=
  { g with control := { g.control with sensorFailed := true } }

/-- Enter an error phase and stop every logger. -/
def fail (E : Equipment ρ σ δ) (target : Phase) (g : Rig ρ σ δ) : Rig ρ σ δ := (g.moveTo target).stopAll E

/-- Send a level to a lamp, unless it was the level sent last. -/
def showLed (E : Equipment ρ σ δ) (led : Led) (on : Bool) (g : Rig ρ σ δ) : Rig ρ σ δ :=
  if g.control.shown led = some on then g
  else
    let g := { g with control := { g.control with shown := fun l => if l = led then some on else g.control.shown l } }
    if g.control.indicator then { g with instruments := E.setLed led on g.instruments }.note (.lamp led on) else g

/-- Commit the next chunk into the directory for a way of capture, with the copy lamp lit. The chunk counts if all went
well. -/
def commitChunk (E : Equipment ρ σ δ) (mode : ScanMode) (stop : Bool) (g : Rig ρ σ δ) : Bool × Rig ρ σ δ :=
  match g.control.session with
  | none => (false, g)
  | some session =>
    let dir := session.dir mode
    let (result, g) := (g.showLed E .copyData true).commit E dir session.nextChunk stop
    let g := (g.note (.committed dir session.nextChunk stop result.isOk)).showLed E .copyData false
    match result with
    | .ok _ => (true, { g with control := { g.control with session := some (session.committed mode) } })
    | .error _ => (false, g)

/-- Commit, then go on to a phase, or to the storage error. -/
def commitThen (E : Equipment ρ σ δ) (mode : ScanMode) (target : Phase) (g : Rig ρ σ δ) : Rig ρ σ δ :=
  match g.commitChunk E mode true with
  | (true, g) => g.moveTo target
  | (false, g) => g.fail E .storageError

def setDeadlines (d : Deadlines) (g : Rig ρ σ δ) : Rig ρ σ δ :=
  { g with control := { g.control with deadlines := d } }

/-- Allocate a session once every mandatory client is attached. -/
def awaitResources (E : Equipment ρ σ δ) (g : Rig ρ σ δ) : Except Fault (Rig ρ σ δ) :=
  if g.registry.hasAll g.control.params.mandatoryClients then do
    let (dirs, instruments, files) ← E.allocate g.instruments g.files
    let g := { g with instruments, files }.note (.allocated dirs)
    match dirs with
    | some dirs => return { g with control := { g.control with session := some { dirs } } }.moveTo .idle
    | none => return g.fail E .storageError
  else .ok g

/-- Commit a chunk of a continuous scan if the last one is long enough ago. -/
def continueScan (E : Equipment ρ σ δ) (now : Instant) (g : Rig ρ σ δ) : Except Fault (Rig ρ σ δ) := do
  let start := g.control.deadlines.chunkStart.getD now
  let g := g.setDeadlines { g.control.deadlines with chunkStart := some start }
  let interval ← g.control.params.commitInterval.needed
  if interval ≤ start.elapsed now then
    match g.commitChunk E .continuous false with
    | (true, g) => return g.setDeadlines { g.control.deadlines with chunkStart := some now }
    | (false, g) => return g.fail E .storageError
  else return g

/-- Fix when the stop scan begins and ends. -/
def armStopScan (now : Instant) (g : Rig ρ σ δ) : Except Fault (Rig ρ σ δ) := do
  let initial ← now.after (← g.control.params.stopScanPreRoll.needed)
  let final ← initial.after (← g.control.params.stopScanDuration.needed)
  let deadlines := { g.control.deadlines with stopScanInitial := some initial, stopScan := some final }
  return (g.setDeadlines deadlines).moveTo .stopScanInitialProgress

/-- Whether a deadline has come; one that was not set has. -/
def due (deadline : Option Instant) (now : Instant) : Bool :=
  match deadline with
  | none => true
  | some d => d ≤ now

/-- The work of the present phase. -/
def step (E : Equipment ρ σ δ) (now : Instant) (g : Rig ρ σ δ) : Except Fault (Rig ρ σ δ) :=
  match g.control.phase with
  | .waitForResources => g.awaitResources E
  | .startingScan =>
    let g := g.startAll E
    .ok ((g.setDeadlines { g.control.deadlines with chunkStart := some now }).moveTo .scanning)
  | .scanning => g.continueScan E now
  | .stopping => .ok (g.commitThen E .continuous .idle)
  | .startingStopScan => g.armStopScan now
  | .stopScanInitialProgress =>
    .ok (if due g.control.deadlines.stopScanInitial now then (g.startAll E).moveTo .stopScanInProgress else g)
  | .stopScanInProgress =>
    .ok (if due g.control.deadlines.stopScan now then g.moveTo .stoppingStopScan else g)
  | .stoppingStopScan => .ok (g.commitThen E .stopScan .idle)
  | .idle | .lidarError | .storageError => .ok g

/-- At most this many steps are made in one tick. -/
def stepLimit : Nat := 8

/-- Make steps as long as they lead to phases that need no waiting. -/
def advance (E : Equipment ρ σ δ) (now : Instant) : Nat → Rig ρ σ δ → Except Fault (Rig ρ σ δ)
  | 0, g => .ok g
  | fuel + 1, g => do
    let g' ← g.step E now
    if g'.control.phase = g.control.phase ∨ !g'.control.phase.isTransient then return g'
    advance E now fuel g'

/-- Apply the queued commands in order. -/
def drain (g : Rig ρ σ δ) : Rig ρ σ δ :=
  g.control.queue.foldl (fun g c => (g.apply c).2) { g with control := { g.control with queue := [] } }

/-- Enter the error of the sensors if one has failed. -/
def heedFailure (E : Equipment ρ σ δ) (g : Rig ρ σ δ) : Rig ρ σ δ :=
  if g.control.sensorFailed ∧ g.control.phase ≠ .lidarError then g.fail E .lidarError else g

/-- Note when the phase was entered. -/
def watchPhase (now : Instant) (g : Rig ρ σ δ) : Rig ρ σ δ :=
  if g.control.phase ≠ g.control.lastPhase ∨ g.control.entered.isNone then
    { g with control := { g.control with lastPhase := g.control.phase, entered := some now } }
  else g

/-- Show the phase on the lamps. -/
def updateLeds (E : Equipment ρ σ δ) (now : Instant) (g : Rig ρ σ δ) : Except Fault (Rig ρ σ δ) := do
  let g := g.watchPhase now
  let elapsed := (g.control.entered.getD now).elapsed now
  let fast := Phase.blink elapsed (← g.control.params.fastBlinkPeriod.needed)
  let slow := Phase.blink elapsed (← g.control.params.errorBlinkPeriod.needed)
  let level := g.control.phase.lamps fast slow
  return [Led.continuousScanning, .stopScan, .copyData].foldl (fun g led => g.showLed E led (level led)) g

/-- How long to wait for the next tick. -/
def wait (g : Rig ρ σ δ) : Except Fault Duration :=
  if g.control.phase.isError then g.control.params.errorBlinkPeriod.needed else g.control.params.tickPeriod.needed

/-- One tick at an instant. The time to wait for the next one. -/
def tick (E : Equipment ρ σ δ) (now : Instant) (g : Rig ρ σ δ) : Except Fault (Duration × Rig ρ σ δ) := do
  let g ← ((g.drain).heedFailure E).advance E now stepLimit
  let g ← g.updateLeds E now
  return (← g.wait, g)

end Rig

end CaptureRig

import CaptureRig.Clock.Instant
import CaptureRig.Registry
import CaptureRig.Rig.Equipment
import CaptureRig.Scan.Params
import CaptureRig.Scan.Phase

namespace CaptureRig

/-- Instants at which the controller has something to do. -/
structure Deadlines where
  /-- The beginning of the chunk that is being captured. -/
  chunkStart : Option Instant := none
  /-- The end of the wait before a stop scan. -/
  stopScanInitial : Option Instant := none
  /-- The end of a stop scan. -/
  stopScan : Option Instant := none
  deriving Repr, DecidableEq

structure Control where
  params : ScanParams
  /-- Whether there are lamps to light. -/
  indicator : Bool := true
  phase : Phase := .waitForResources
  /-- Commands for the next tick. -/
  queue : List Command := []
  /-- Whether the failure of a sensor has been reported. -/
  sensorFailed : Bool := false
  /-- Allocated once the mandatory clients are attached. -/
  session : Option ScanSession := none
  deadlines : Deadlines := {}
  /-- The phase at the end of the last tick, and when the ticks that ended in it began. -/
  lastPhase : Phase := .waitForResources
  entered : Option Instant := none
  /-- The level sent last to each lamp. -/
  shown : Led → Option Bool := fun _ => none

/-- Statistics of the commits. -/
structure CommitStats where
  commits : Nat := 0
  /-- How often the output directory has been synced. -/
  barriers : Nat := 0
  persistFailures : Nat := 0
  lastChunk : Nat := 0
  lastMicros : Nat := 0
  deriving Repr, DecidableEq

/-- What is noted of a run, where `ρ` refers to instruments and `δ` is what they hand over. -/
inductive Call (ρ δ : Type) where
  | started (client : ρ)
  | stopped (client : ρ)
  /-- The clock of the rig has been handed over. -/
  | provided (client : ρ)
  | froze (client : ρ) (dump : δ)
  /-- A dump has been written, and the storage left like this. -/
  | persisted (client : ρ) (dump : δ) (dir : String) (index : Nat) (outcome : Persisted) (left : Storage.Tree)
  | lamp (led : Led) (on : Bool)
  | allocated (dirs : Option SessionDirs)
  /-- A commit has been tried, with or without success. -/
  | committed (dir : String) (index : Nat) (stop done : Bool)
  /-- The phase has changed. -/
  | moved (source target : Phase)
  deriving Repr, DecidableEq

structure Rig (ρ σ δ : Type) where
  control : Control
  instruments : σ
  registry : Registry ρ := {}
  files : Storage.Tree := {}
  stats : CommitStats := {}
  /-- What has been noted, in order. -/
  calls : List (Call ρ δ) := []

namespace Rig

variable {ρ σ δ : Type}

def note (g : Rig ρ σ δ) (c : Call ρ δ) : Rig ρ σ δ := { g with calls := g.calls ++ [c] }

@[simp] theorem note_control (g : Rig ρ σ δ) (c : Call ρ δ) : (g.note c).control = g.control := rfl

@[simp] theorem note_instruments (g : Rig ρ σ δ) (c : Call ρ δ) : (g.note c).instruments = g.instruments := rfl

@[simp] theorem note_registry (g : Rig ρ σ δ) (c : Call ρ δ) : (g.note c).registry = g.registry := rfl

@[simp] theorem note_files (g : Rig ρ σ δ) (c : Call ρ δ) : (g.note c).files = g.files := rfl

@[simp] theorem note_stats (g : Rig ρ σ δ) (c : Call ρ δ) : (g.note c).stats = g.stats := rfl

@[simp] theorem note_calls (g : Rig ρ σ δ) (c : Call ρ δ) : (g.note c).calls = g.calls ++ [c] := rfl

/-- Start every logger, in order of attachment. -/
def startAll (E : Equipment ρ σ δ) (g : Rig ρ σ δ) : Rig ρ σ δ :=
  g.registry.loggers.foldl (fun g r => { g with instruments := E.start r g.instruments }.note (.started r)) g

/-- Stop every logger, in order of attachment. -/
def stopAll (E : Equipment ρ σ δ) (g : Rig ρ σ δ) : Rig ρ σ δ :=
  g.registry.loggers.foldl (fun g r => { g with instruments := E.stop r g.instruments }.note (.stopped r)) g

/-- Attach a client. If it is accepted and stamps its data, it is given the clock of the rig. -/
def attach (E : Equipment ρ σ δ) (h : Handle ρ) (g : Rig ρ σ δ) : Bool × Rig ρ σ δ :=
  match g.registry.attach h with
  | (false, _) => (false, g)
  | (true, registry) =>
    let g := { g with registry }
    match h.timestampConsumer with
    | none => (true, g)
    | some r => (true, { g with instruments := E.provide r g.instruments }.note (.provided r))

end Rig

end CaptureRig

import CaptureRig.Json.Value

namespace CaptureRig

/-- Which capabilities a client declares. -/
structure Capabilities where
  /-- Starts and stops logging. -/
  logger : Bool := false
  /-- Hands over its data when a chunk is committed. -/
  dumpable : Bool := false
  /-- Contributes to the status document. -/
  reporter : Bool := false
  /-- Stamps its data with the clock of the rig. -/
  timestampConsumer : Bool := false
  deriving Repr, DecidableEq

def Capabilities.json (c : Capabilities) : Json :=
  .object [("dumpable", .bool c.dumpable), ("logger", .bool c.logger), ("reporter", .bool c.reporter),
    ("timestamp_consumer", .bool c.timestampConsumer)]

/-- A client to attach: its name, and the instrument that serves each capability. -/
structure Handle (ρ : Type) where
  name : String
  logger : Option ρ := none
  dumpable : Option ρ := none
  reporter : Option ρ := none
  timestampConsumer : Option ρ := none

namespace Handle

variable {ρ : Type}

def capabilities (h : Handle ρ) : Capabilities :=
  { logger := h.logger.isSome, dumpable := h.dumpable.isSome, reporter := h.reporter.isSome
    timestampConsumer := h.timestampConsumer.isSome }

/-- A client with one instrument for all the capabilities it declares. -/
def of (name : String) (c : Capabilities) (instrument : ρ) : Handle ρ :=
  let serve (declared : Bool) : Option ρ := if declared then some instrument else none
  { name, logger := serve c.logger, dumpable := serve c.dumpable, reporter := serve c.reporter
    timestampConsumer := serve c.timestampConsumer }

end Handle

/-- All that is attached, in the order of attachment. -/
structure Registry (ρ : Type) where
  attached : List (String × Capabilities) := []
  loggers : List ρ := []
  dumpables : List (String × ρ) := []
  reporters : List ρ := []
  timestampConsumers : List ρ := []

namespace Registry

variable {ρ : Type}

def isAttached (r : Registry ρ) (name : String) : Bool := r.attached.any (·.1 == name)

def hasAll (r : Registry ρ) (names : List String) : Bool := names.all r.isAttached

/-- Attach a client, unless one of its name is attached already. -/
def attach (r : Registry ρ) (h : Handle ρ) : Bool × Registry ρ :=
  if r.isAttached h.name then (false, r)
  else
    (true,
      { attached := r.attached ++ [(h.name, h.capabilities)]
        loggers := r.loggers ++ h.logger.toList
        dumpables := r.dumpables ++ (h.dumpable.map fun d => (h.name, d)).toList
        reporters := r.reporters ++ h.reporter.toList
        timestampConsumers := r.timestampConsumers ++ h.timestampConsumer.toList })

end Registry

end CaptureRig

import CaptureRig.Proofs.Scan.Commit

namespace CaptureRig

variable {α : Type}

/-- The way of capture whose records are taken in during a phase. -/
def Phase.capture? : Phase → Option ScanMode
  | .scanning | .stopping => some .continuous
  | .stopScanInProgress | .stoppingStopScan => some .stopScan
  | _ => none

theorem Phase.capture_of_isError {p : Phase} (error : p.isError = true) : p.capture? = none := by
  cases p <;> first | rfl | cases error

/-- Where the records of a stream are, and what decides about them. -/
structure Custody (α : Type) where
  phase : Phase
  session : Option ScanSession
  logging : Bool
  /-- Whether the client is started and stopped with the others. -/
  logger : Bool
  /-- Whether the client is frozen with the others. -/
  dumpable : Bool
  buffer : List α
  /-- The records that have been handed over, each with the directory it was to be written to. -/
  handed : List (String × α)

namespace Custody

/-- Every record is accounted for: those filed have been handed over for the directory of the way of capture that they
belong to, those pending are in the buffer. -/
structure Keeps (filed pending : List (ScanMode × α)) (c : Custody α) : Prop where
  handed : ∀ s, c.session = some s → c.handed = filed.map fun p => (s.dir p.1, p.2)
  unfiled : c.session = none → c.handed = [] ∧ filed = []
  unallocated : c.phase = .waitForResources → c.session = none
  buffer : pending.map (·.2) = c.buffer
  current : ∀ p ∈ pending, c.phase.capture? = some p.1 ∨ c.phase.isError = true
  quiet : c.phase.capture? = none → c.logging = false
  listed : c.logging = true → c.logger = true
  paired : c.logger = true → c.dumpable = true
  owned : c.buffer ≠ [] → c.dumpable = true

def moveTo (target : Phase) (c : Custody α) : Custody α := { c with phase := target }

def start (c : Custody α) : Custody α := { c with logging := c.logging || c.logger }

def stop (c : Custody α) : Custody α := { c with logging := c.logging && !c.logger }

/-- All that is in the buffer is handed over. -/
def store (dir : String) (stop : Bool) (c : Custody α) : Custody α :=
  { c with
    logging := c.logging && !(stop && c.logger)
    buffer := []
    handed := c.handed ++ c.buffer.map fun a => (dir, a) }

namespace Keeps

variable {filed pending : List (ScanMode × α)} {c : Custody α} (keeps : Keeps filed pending c)

include keeps

theorem pending_nil (idle : c.phase.capture? = none) (running : c.phase.isError = false) : pending = [] := by
  rw [List.eq_nil_iff_forall_not_mem]
  intro p member
  rcases keeps.current p member with mode | error
  · rw [idle] at mode
    cases mode
  · rw [running] at error
    cases error

theorem mode_of_mem {mode : ScanMode} (capture : c.phase.capture? = some mode) {p : ScanMode × α}
    (member : p ∈ pending) : p.1 = mode := by
  rcases keeps.current p member with same | error
  · exact Option.some.inj (same.symm.trans capture)
  · cases capture.symm.trans (Phase.capture_of_isError error)

theorem moveTo {target : Phase} (ahead : target ≠ .waitForResources)
    (current : ∀ p ∈ pending, target.capture? = some p.1 ∨ target.isError = true)
    (quiet : target.capture? = none → c.logging = false) : Keeps filed pending (c.moveTo target) where
  handed := keeps.handed
  unfiled := keeps.unfiled
  unallocated waiting := absurd waiting ahead
  buffer := keeps.buffer
  current := current
  quiet := quiet
  listed := keeps.listed
  paired := keeps.paired
  owned := keeps.owned

theorem stop_logging : c.stop.logging = false := by
  cases logging : c.logging with
  | false => simp [Custody.stop, logging]
  | true => simp [Custody.stop, logging, keeps.listed logging]

theorem stop : Keeps filed pending c.stop where
  handed := keeps.handed
  unfiled := keeps.unfiled
  unallocated := keeps.unallocated
  buffer := keeps.buffer
  current := keeps.current
  quiet _ := keeps.stop_logging
  listed logging := by
    rw [keeps.stop_logging] at logging
    cases logging
  paired := keeps.paired
  owned := keeps.owned

/-- An error is entered with everything stopped, and what has been accepted stays in the buffer. -/
theorem fail {target : Phase} (error : target.isError = true) : Keeps filed pending (c.moveTo target).stop :=
  keeps.stop.moveTo (by rintro rfl; cases error) (fun _ _ => Or.inr error) fun _ => keeps.stop_logging

/-- The start of a capture finds nothing pending. -/
theorem begin {target : Phase} {mode : ScanMode} (idle : c.phase.capture? = none) (running : c.phase.isError = false)
    (capture : target.capture? = some mode) : Keeps filed pending (c.start.moveTo target) where
  handed := keeps.handed
  unfiled := keeps.unfiled
  unallocated := by
    rintro rfl
    cases capture
  buffer := keeps.buffer
  current p member := by
    rw [keeps.pending_nil idle running] at member
    cases member
  quiet none := by cases capture.symm.trans none
  listed logging := by
    rcases Bool.or_eq_true_iff.mp logging with before | now
    · exact keeps.listed before
    · exact now
  paired := keeps.paired
  owned := keeps.owned

/-- A chunk takes what is pending into the directory for the way of capture that is under way. -/
theorem store {s : ScanSession} {mode : ScanMode} (present : c.session = some s)
    (capture : c.phase.capture? = some mode) (stop : Bool) :
    Keeps (filed ++ pending) [] (c.store (s.dir mode) stop) where
  handed s' present' := by
    cases present.symm.trans present'
    have batch : (c.buffer.map fun a => (s.dir mode, a)) = pending.map fun p => (s.dir p.1, p.2) := by
      rw [← keeps.buffer, List.map_map]
      refine List.map_congr_left fun p member => ?_
      simp only [Function.comp, keeps.mode_of_mem capture member]
    rw [List.map_append, ← keeps.handed s present, ← batch]
    rfl
  unfiled none := by cases present.symm.trans none
  unallocated := keeps.unallocated
  buffer := rfl
  current p member := by cases member
  quiet none := by cases capture.symm.trans none
  listed logging := keeps.listed (Bool.and_eq_true_iff.mp logging).1
  paired := keeps.paired
  owned some := absurd rfl some

theorem store_logging (dir : String) : (c.store dir true).logging = false := keeps.stop_logging

/-- A chunk is counted for the way of capture it belongs to. -/
theorem count {s : ScanSession} (present : c.session = some s) (mode : ScanMode) :
    Keeps filed pending { c with session := some (s.committed mode) } where
  handed s' present' := by
    cases present'
    simp only [s.dir_committed mode]
    exact keeps.handed s present
  unfiled none := by cases none
  unallocated waiting := by cases present.symm.trans (keeps.unallocated waiting)
  buffer := keeps.buffer
  current := keeps.current
  quiet := keeps.quiet
  listed := keeps.listed
  paired := keeps.paired
  owned := keeps.owned

theorem allocate (waiting : c.phase = .waitForResources) (dirs : SessionDirs) :
    Keeps filed pending ({ c with session := some { dirs } }.moveTo .idle) where
  handed s _ := by
    obtain ⟨none, nothing⟩ := keeps.unfiled (keeps.unallocated waiting)
    rw [nothing]
    exact none
  unfiled none := by cases none
  unallocated idle := by cases idle
  buffer := keeps.buffer
  current p member := by
    rw [keeps.pending_nil (by rw [waiting]; rfl) (by rw [waiting]; rfl)] at member
    cases member
  quiet _ := keeps.quiet (by rw [waiting]; rfl)
  listed := keeps.listed
  paired := keeps.paired
  owned := keeps.owned

/-- What is accepted while logging is pending from then on, as part of the capture that is under way. -/
theorem take {mode : ScanMode} (capture : c.phase.capture? = some mode) (logging : c.logging = true) (more : List α) :
    Keeps filed (pending ++ more.map fun a => (mode, a)) { c with buffer := c.buffer ++ more } where
  handed := keeps.handed
  unfiled := keeps.unfiled
  unallocated := keeps.unallocated
  buffer := by simp [keeps.buffer, Function.comp_def]
  current p member := by
    rcases List.mem_append.mp member with old | new
    · exact keeps.current p old
    · obtain ⟨a, _, rfl⟩ := List.mem_map.mp new
      exact Or.inl capture
  quiet := keeps.quiet
  listed := keeps.listed
  paired := keeps.paired
  owned _ := keeps.paired (keeps.listed logging)

/-- A client is attached that can be frozen if it can be started. -/
theorem attach {logger dumpable : Bool} (pair : logger = true → dumpable = true) :
    Keeps filed pending { c with logger := c.logger || logger, dumpable := c.dumpable || dumpable } where
  handed := keeps.handed
  unfiled := keeps.unfiled
  unallocated := keeps.unallocated
  buffer := keeps.buffer
  current := keeps.current
  quiet := keeps.quiet
  listed logging := by simp only [keeps.listed logging, Bool.true_or]
  paired listed := by
    rcases Bool.or_eq_true_iff.mp listed with before | now
    · simp only [keeps.paired before, Bool.true_or]
    · simp only [pair now, Bool.or_true]
  owned some := by simp only [keeps.owned some, Bool.true_or]

end Keeps

end Custody

end CaptureRig

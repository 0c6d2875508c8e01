import CaptureRig.Proofs.Scan.Deadline
import CaptureRig.Proofs.Scan.Lifecycle

namespace CaptureRig

/-- The instant of a tick, be it one that is broken off. -/
def Event.instant? {ρ κ : Type} : Event ρ κ → Option Instant
  | .tick now | .broken now => some now
  | _ => none

/-- Whether a call is beside the course of a scan: the clock is handed to a client, or a lamp set. -/
def Call.isAside {ρ δ : Type} : Call ρ δ → Bool
  | .provided _ | .lamp .. => true
  | _ => false

/-- A call at the end of a scan starts no client, and writes no dump but to one directory under one number. -/
def Call.Closes {ρ δ : Type} (dir : String) (index : Nat) (c : Call ρ δ) : Prop :=
  (∀ r, c ≠ .started r) ∧ ∀ place, c.place? = some place → place = (dir, index)

namespace Rig

variable {ρ σ δ κ : Type} {E : Equipment ρ σ δ} {act : κ → σ → σ}

/-- What has been done in the course of the scans, in order. -/
def course (g : Rig ρ σ δ) : List (Call ρ δ) := g.calls.filter fun c => !c.isAside

/-- The instants of the ticks of a run, in order. -/
def instants (past : List (Rig ρ σ δ × Event ρ κ)) : List Instant := past.filterMap (·.2.instant?)

theorem attempts_course (g : Rig ρ σ δ) : g.attempts = g.course.filter Call.isCommit := by
  rw [course, List.filter_filter, attempts]
  refine List.filter_congr fun c _ => ?_
  cases c <;> rfl

theorem course_startAll (g : Rig ρ σ δ) : (g.startAll E).course = g.course ++ g.registry.loggers.map .started := by
  have beside : (g.registry.loggers.map Call.started).filter (fun c : Call ρ δ => !c.isAside) =
      g.registry.loggers.map .started := List.filter_eq_self.mpr (by simp [Call.isAside])
  rw [course, startAll_eq, List.filter_append, beside, course]

theorem course_moveTo {target : Phase} {g : Rig ρ σ δ} (away : g.control.phase ≠ target) :
    (g.moveTo target).course = g.course ++ [.moved g.control.phase target] := by
  rw [course, moveTo_calls, if_neg away, List.filter_append, course]
  rfl

/-- From one rig to another the phase, the deadlines and the session stay, and nothing is done in the course of the
scans. -/
structure Pause (g g' : Rig ρ σ δ) : Prop where
  calls : Notes (fun c => c.isAside = true) g g'
  phase : g'.control.phase = g.control.phase
  deadlines : g'.control.deadlines = g.control.deadlines
  session : g'.control.session = g.control.session
  stats : g'.stats = g.stats
  fixed : g'.control.fixed = g.control.fixed

namespace Pause

variable {g h g' : Rig ρ σ δ}

theorem refl (g : Rig ρ σ δ) : Pause g g := ⟨.of_same rfl, rfl, rfl, rfl, rfl, rfl⟩

theorem trans (first : Pause g h) (second : Pause h g') : Pause g g' where
  calls := first.calls.trans second.calls
  phase := second.phase.trans first.phase
  deadlines := second.deadlines.trans first.deadlines
  session := second.session.trans first.session
  stats := second.stats.trans first.stats
  fixed := second.fixed.trans first.fixed

theorem course (pause : Pause g g') : g'.course = g.course := pause.calls.filter_eq (by simp)

theorem attempts (pause : Pause g g') : g'.attempts = g.attempts := by
  rw [attempts_course, pause.course, ← attempts_course]

theorem inert (pause : Pause g g') : Inert g g' where
  calls := pause.calls.mono fun c beside => by cases c <;> first | rfl | cases beside
  session := pause.session
  stats := pause.stats

theorem sound (pause : Pause g g') (sound : g.control.sensorFailed = false) : g'.control.sensorFailed = false :=
  (congrArg (·.2.2) pause.fixed).trans sound

theorem withQueue (queue : List Command) (g : Rig ρ σ δ) : Pause g (g.withQueue queue) :=
  ⟨.of_same rfl, rfl, rfl, rfl, rfl, rfl⟩

theorem lamps (g : Rig ρ σ δ) : KeptByLamps E (Pause g) where
  lamp led on pause := pause.trans
    { calls := (showLed_notes E led on _).mono (by rintro _ rfl; rfl)
      phase := showLed_phase E led on _
      deadlines := by rw [showLed_control]
      session := showLed_session E led on _
      stats := showLed_stats E led on _
      fixed := by rw [showLed_control]; rfl }
  watch _ _ pause := pause.trans ⟨.of_same rfl, rfl, rfl, rfl, rfl, rfl⟩

theorem attach (k : Handle ρ) (g : Rig ρ σ δ) : Pause g (g.attach E k).2 := by
  have control := attach_control E k g
  refine ⟨?_, by rw [control], by rw [control], by rw [control], attach_stats E k g, by rw [control]⟩
  rcases attach_cases E k g with refused | ⟨_, _, attached, _⟩
  · rw [refused]
    exact .of_same rfl
  · exact ⟨_, by rw [attached], by simp [Call.isAside]⟩

end Pause

/-- What happens to a rig brings neither a failure nor a command that is accepted. -/
def Quiet (g : Rig ρ σ δ) : Event ρ κ → Prop
  | .tick _ | .broken _ => g.chosen = none
  | .command c => c.isOpen g.control.phase = false
  | .failure => False
  | _ => True

/-- In a phase that is closed to all commands, everything is quiet but a failure. -/
theorem quiet_of_closed {g : Rig ρ σ δ} (closed : ∀ c : Command, c.isOpen g.control.phase = false) {e : Event ρ κ}
    (healthy : e ≠ .failure) : g.Quiet e := by
  have none : g.chosen = none := List.find?_eq_none.mpr fun c _ => by simp [closed c]
  cases e with
  | tick | broken => exact none
  | command c => exact closed c
  | failure => exact absurd rfl healthy
  | _ => trivial

theorem Quiet.pause {g g' : Rig ρ σ δ} {e : Event ρ κ} (quiet : g.Quiet e) (timeless : e.instant? = none)
    (now : g.happen E act e = .ok g') : Pause g g' := by
  cases e with
  | tick | broken => cases timeless
  | command c =>
    cases now
    rw [apply_closed quiet]
    exact .refl g
  | send c =>
    cases now
    exact .withQueue _ g
  | failure => exact quiet.elim
  | attach k =>
    cases now
    exact .attach k g
  | input | storage =>
    cases now
    exact ⟨.of_same rfl, rfl, rfl, rfl, rfl, rfl⟩

theorem Quiet.chosen {g : Rig ρ σ δ} {e : Event ρ κ} (quiet : g.Quiet e) {now : Instant} (ticks : e.instant? = some now) :
    g.chosen = none := by
  cases e with
  | tick | broken => exact quiet
  | _ => cases ticks

/-- A tick is its work, and perhaps the lamps. -/
theorem happen_work {g g' : Rig ρ σ δ} {e : Event ρ κ} {now : Instant} (ticks : e.instant? = some now)
    (done : g.happen E act e = .ok g') : ∃ settled, g.work E now = .ok settled ∧ Pause settled g' := by
  cases e with
  | tick =>
    cases ticks
    obtain ⟨settled, worked, leds, _⟩ := tick_eq_ok.mp (happen_tick done).choose_spec
    exact ⟨settled, worked, (Pause.lamps settled).updateLeds leds (.refl settled)⟩
  | broken =>
    cases ticks
    exact ⟨g', done, .refl g'⟩
  | _ => cases ticks

section Work

variable {g g' : Rig ρ σ δ} {now : Instant}

theorem heedFailure_sound (sound : g.control.sensorFailed = false) : g.heedFailure E = g := if_neg (by simp [sound])

theorem heeded_quiet (sound : g.control.sensorFailed = false) (closed : g.chosen = none) :
    g.drain.heedFailure E = g.withQueue [] := by
  rw [drain_eq, closed]
  exact heedFailure_sound sound

theorem heeded_accepted (sound : g.control.sensorFailed = false) {c : Command} (accepted : g.chosen = some c) :
    ∃ target, c.target? g.control.phase = some target ∧
      g.drain.heedFailure E = (g.withQueue []).moveTo target := by
  have opened : c.isOpen g.control.phase = true := List.find?_some accepted
  obtain ⟨target, leads⟩ := Option.isSome_iff_exists.mp opened
  have drained : g.drain = (g.withQueue []).moveTo target := by
    have leads' : c.target? (g.withQueue []).control.phase = some target := leads
    rw [drain_eq, accepted]
    simp only [apply, leads']
  rw [drained]
  exact ⟨target, leads, heedFailure_sound (by rw [moveTo_control]; exact sound)⟩

/-- The step of a tick that stays in its phase, or comes to one that waits, is all of its work. -/
theorem work_of_step (step : (g.drain.heedFailure E).step E now = .ok g')
    (rests : g'.control.phase = (g.drain.heedFailure E).control.phase ∨ g'.control.phase.isTransient = false) :
    g.work E now = .ok g' := by
  have stop : g'.control.phase = (g.drain.heedFailure E).control.phase ∨ (!g'.control.phase.isTransient) = true := by
    simpa using rests
  rw [work, stepLimit, advance, step]
  simp only [bind, Except.bind, if_pos stop]
  rfl

end Work

/-- What is quiet is a pause, unless it is a tick that finds something to do. -/
theorem Quiet.still {g g' : Rig ρ σ δ} {e : Event ρ κ} (quiet : g.Quiet e) (sound : g.control.sensorFailed = false)
    (still : ∀ now, e.instant? = some now → (g.withQueue []).step E now = .ok (g.withQueue []))
    (done : g.happen E act e = .ok g') : Pause g g' := by
  cases ticks : e.instant? with
  | none => exact quiet.pause ticks done
  | some now =>
    obtain ⟨settled, worked, shown⟩ := happen_work ticks done
    have heeded := heeded_quiet (E := E) sound (quiet.chosen ticks)
    have idle : g.work E now = .ok (g.withQueue []) :=
      work_of_step (by rw [heeded, still now ticks]) (Or.inl (by rw [heeded]))
    cases worked.symm.trans idle
    exact (Pause.withQueue [] g).trans shown

/-- In a phase that is closed to all commands a run is a pause, unless one of its ticks finds something to do. -/
theorem Run.pause {later : List (Rig ρ σ δ × Event ρ κ)} {g₀ g' : Rig ρ σ δ} (on : Run E act g₀ later g')
    (closed : ∀ c : Command, c.isOpen g₀.control.phase = false) (sound : g₀.control.sensorFailed = false)
    (healthy : ∀ h, (h, Event.failure) ∉ later)
    (still : ∀ h, Pause g₀ h → ∀ now ∈ instants later, h.step E now = .ok h) : Pause g₀ g' := by
  induction on with
  | start => exact .refl g₀
  | @next later g e g' _ done ih =>
    have pause : Pause g₀ g := ih (fun h member => healthy h (List.mem_append_left _ member))
      fun h paused now member => still h paused now (by
        rw [instants, List.filterMap_append]
        exact List.mem_append_left _ member)
    have quiet : g.Quiet e := quiet_of_closed (pause.phase ▸ closed) fun failure =>
      healthy g (failure ▸ List.mem_append_right _ List.mem_cons_self)
    refine pause.trans (quiet.still (pause.sound sound) (fun now ticks => ?_) done)
    refine still _ (pause.trans (.withQueue [] g)) now (List.mem_filterMap.mpr ⟨(g, e), ?_, ticks⟩)
    exact List.mem_append_right _ List.mem_cons_self

theorem commitChunk_deadlines {mode : ScanMode} {stop done : Bool} {g g' : Rig ρ σ δ}
    (run : g.commitChunk E mode stop = (done, g')) : g'.control.deadlines = g.control.deadlines := by
  cases done with
  | true =>
    obtain ⟨_, _, control, _⟩ := commitChunk_done run
    rw [control]
  | false => rw [(commitChunk_failed run).1]

theorem moveTo_closes (dir : String) (index : Nat) (target : Phase) (g : Rig ρ σ δ) :
    Notes (Call.Closes dir index) g (g.moveTo target) :=
  (moveTo_notes target g).mono (by rintro _ ⟨_, _, rfl⟩; exact ⟨nofun, nofun⟩)

theorem fail_closes (dir : String) (index : Nat) (target : Phase) (g : Rig ρ σ δ) :
    Notes (Call.Closes dir index) g (g.fail E target) :=
  (moveTo_closes dir index target g).trans
    ((stopAll_notes E _).mono (by rintro _ ⟨_, rfl⟩; exact ⟨nofun, nofun⟩))

/-- A scan ends with one last commit, in the phase that tells how it went. All dumps are written as the chunk of that
commit. -/
theorem commitThen_ends (mode : ScanMode) {g : Rig ρ σ δ} {s : ScanSession} (present : g.control.session = some s) :
    ∃ done, (g.commitThen E mode .idle).attempts = g.attempts ++ [.committed (s.dir mode) s.nextChunk true done] ∧
      (g.commitThen E mode .idle).control.phase = (if done then .idle else .storageError) ∧
      (g.commitThen E mode .idle).control.deadlines = g.control.deadlines ∧
      Notes (Call.Closes (s.dir mode) s.nextChunk) g (g.commitThen E mode .idle) := by
  cases tried : g.commitChunk E mode true with
  | mk done h =>
    have notes : Notes (Call.Closes (s.dir mode) s.nextChunk) g h :=
      (commitChunk_notes present tried).mono fun c kind => by
        rcases kind with called | commit | ⟨_, _, rfl⟩
        · exact ⟨called.not_started, fun _ => called.place⟩
        · cases c with
          | committed => exact ⟨nofun, nofun⟩
          | _ => cases commit
        · exact ⟨nofun, nofun⟩
    have attempts := attempts_chunk present tried
    have deadlines := commitChunk_deadlines tried
    refine ⟨done, ?_⟩
    cases done with
    | true =>
      have ended : g.commitThen E mode .idle = h.moveTo .idle := by simp only [commitThen, tried]
      rw [ended, attempts_moveTo, moveTo_control]
      exact ⟨attempts, rfl, deadlines, notes.trans (moveTo_closes _ _ .idle h)⟩
    | false =>
      have lost : g.commitThen E mode .idle = h.fail E .storageError := by simp only [commitThen, tried]
      rw [lost, attempts_fail, fail_control]
      exact ⟨attempts, rfl, deadlines, notes.trans (fail_closes _ _ .storageError h)⟩

end Rig

end CaptureRig

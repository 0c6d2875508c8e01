import CaptureRig.Proofs.Outcome
import CaptureRig.Proofs.Scan.Commit

namespace CaptureRig

/-- The phase in which the last chunk of a scan is committed. -/
def ScanMode.ending : ScanMode → Phase
  | .continuous => .stopping
  | .stopScan => .stoppingStopScan

theorem Binary64.needed_eq_ok {period : Binary64} {d : Duration} :
    period.needed = .ok d ↔ period.duration? = some d := by
  unfold Binary64.needed
  split <;> rename_i h <;> simp [h]

theorem Instant.after_eq_ok {i later : Instant} {d : Duration} : i.after d = .ok later ↔ i.later? d = some later := by
  unfold Instant.after
  split <;> rename_i h <;> simp [h]

namespace Rig

variable {ρ σ δ : Type} (E : Equipment ρ σ δ)

@[simp] theorem moveTo_control (target : Phase) (g : Rig ρ σ δ) :
    (g.moveTo target).control = { g.control with phase := target } := by
  unfold moveTo
  split
  · rename_i same
    rw [← same]
  · rfl

@[simp] theorem moveTo_registry (target : Phase) (g : Rig ρ σ δ) : (g.moveTo target).registry = g.registry := by
  unfold moveTo
  split <;> rfl

@[simp] theorem moveTo_instruments (target : Phase) (g : Rig ρ σ δ) :
    (g.moveTo target).instruments = g.instruments := by
  unfold moveTo
  split <;> rfl

@[simp] theorem moveTo_files (target : Phase) (g : Rig ρ σ δ) : (g.moveTo target).files = g.files := by
  unfold moveTo
  split <;> rfl

@[simp] theorem moveTo_stats (target : Phase) (g : Rig ρ σ δ) : (g.moveTo target).stats = g.stats := by
  unfold moveTo
  split <;> rfl

theorem moveTo_calls (target : Phase) (g : Rig ρ σ δ) :
    (g.moveTo target).calls =
      g.calls ++ if g.control.phase = target then [] else [.moved g.control.phase target] := by
  unfold moveTo
  split
  · rw [List.append_nil]
  · rfl

theorem moveTo_notes (target : Phase) (g : Rig ρ σ δ) : Notes (fun c => ∃ p q, c = .moved p q) g (g.moveTo target) := by
  refine ⟨_, moveTo_calls target g, fun c member => ?_⟩
  split at member
  · cases member
  · exact ⟨_, _, List.mem_singleton.mp member⟩

theorem moveTo_decisions (target : Phase) (g : Rig ρ σ δ) :
    (g.moveTo target).decisions =
      g.decisions ++ if g.control.phase = target then [] else [.moved g.control.phase target] := by
  rw [decisions, moveTo_calls, List.filter_append]
  split <;> rfl

@[simp] theorem fail_control (target : Phase) (g : Rig ρ σ δ) :
    (g.fail E target).control = { g.control with phase := target } := by
  rw [fail, stopAll_control, moveTo_control]

@[simp] theorem fail_registry (target : Phase) (g : Rig ρ σ δ) : (g.fail E target).registry = g.registry := by
  rw [fail, stopAll_registry, moveTo_registry]

@[simp] theorem fail_files (target : Phase) (g : Rig ρ σ δ) : (g.fail E target).files = g.files := by
  rw [fail, stopAll_files, moveTo_files]

@[simp] theorem fail_stats (target : Phase) (g : Rig ρ σ δ) : (g.fail E target).stats = g.stats := by
  rw [fail, stopAll_stats, moveTo_stats]

theorem fail_decisions (target : Phase) (g : Rig ρ σ δ) :
    (g.fail E target).decisions = (g.moveTo target).decisions := by
  rw [fail, stopAll_decisions]

/-- An attachment is refused, or adds to the registry what the handle declares, and perhaps hands over the clock. -/
theorem attach_cases (h : Handle ρ) (g : Rig ρ σ δ) :
    (g.attach E h).2 = g ∨
      ∃ registry instruments, (g.attach E h).2 =
          { g with registry, instruments, calls := g.calls ++ (h.timestampConsumer.map .provided).toList } ∧
        registry.loggers = g.registry.loggers ++ h.logger.toList ∧
        registry.dumpables = g.registry.dumpables ++ (h.dumpable.map fun d => (h.name, d)).toList ∧
        (instruments = g.instruments ∨ ∃ r, instruments = E.provide r g.instruments) := by
  by_cases known : g.registry.isAttached h.name = true
  · left
    simp only [attach, Registry.attach, known, if_true]
  right
  have accepted : g.registry.attach h = (true, (g.registry.attach h).2) := by simp [Registry.attach, known]
  have loggers : (g.registry.attach h).2.loggers = g.registry.loggers ++ h.logger.toList := by
    simp [Registry.attach, known]
  have dumpables : (g.registry.attach h).2.dumpables =
      g.registry.dumpables ++ (h.dumpable.map fun d => (h.name, d)).toList := by
    simp [Registry.attach, known]
  unfold attach
  rw [accepted]
  dsimp only
  cases h.timestampConsumer with
  | none => exact ⟨_, g.instruments, by rw [Option.map_none, Option.toList_none, List.append_nil], loggers, dumpables,
      Or.inl rfl⟩
  | some r => exact ⟨_, E.provide r g.instruments, rfl, loggers, dumpables, Or.inr ⟨r, rfl⟩⟩

variable {E} in
theorem attach_refused {h : Handle ρ} {g : Rig ρ σ δ} (refused : (g.attach E h).1 = false) : (g.attach E h).2 = g := by
  unfold attach at refused ⊢
  generalize g.registry.attach h = answer at refused ⊢
  obtain ⟨accepted, registry⟩ := answer
  cases accepted with
  | false => rfl
  | true => cases stamps : h.timestampConsumer <;> rw [stamps] at refused <;> cases refused

theorem attach_eq (h : Handle ρ) (g : Rig ρ σ δ) :
    ∃ registry instruments added, (g.attach E h).2 =
      { g with registry, instruments, calls := g.calls ++ added } ∧ ∀ c ∈ added, c.decides = false := by
  rcases attach_cases E h g with refused | ⟨registry, instruments, attached, _⟩
  · exact ⟨g.registry, g.instruments, [], by rw [refused, List.append_nil], by simp⟩
  · exact ⟨registry, instruments, _, attached, by simp [Call.decides]⟩

@[simp] theorem attach_control (h : Handle ρ) (g : Rig ρ σ δ) : (g.attach E h).2.control = g.control := by
  obtain ⟨registry, instruments, added, same, _⟩ := attach_eq E h g
  rw [same]

@[simp] theorem attach_stats (h : Handle ρ) (g : Rig ρ σ δ) : (g.attach E h).2.stats = g.stats := by
  obtain ⟨registry, instruments, added, same, _⟩ := attach_eq E h g
  rw [same]

@[simp] theorem attach_decisions (h : Handle ρ) (g : Rig ρ σ δ) : (g.attach E h).2.decisions = g.decisions := by
  obtain ⟨registry, instruments, added, same, quiet⟩ := attach_eq E h g
  have calls : (g.attach E h).2.calls = g.calls ++ added := by rw [same]
  exact decisions_append calls quiet

/-- The rig with the start of its chunk set, if it was not. -/
def resumed (now : Instant) (g : Rig ρ σ δ) : Rig ρ σ δ :=
  g.setDeadlines { g.control.deadlines with chunkStart := some (g.control.deadlines.chunkStart.getD now) }

def chunkAge (now : Instant) (g : Rig ρ σ δ) : Duration := (g.control.deadlines.chunkStart.getD now).elapsed now

/-- The rig with the beginning and the end of its stop scan set. -/
def timed (initial final : Instant) (g : Rig ρ σ δ) : Rig ρ σ δ :=
  g.setDeadlines { g.control.deadlines with stopScanInitial := some initial, stopScan := some final }

/-- The rig with the directories of its session. -/
def inSession (dirs : SessionDirs) (g : Rig ρ σ δ) : Rig ρ σ δ :=
  { g with control := { g.control with session := some { dirs } } }

/-- The work of one step, unless it finds nothing to do. -/
inductive Deed (now : Instant) (g : Rig ρ σ δ) : Rig ρ σ δ → Prop
  | allocated {dirs i t} (waiting : g.control.phase = .waitForResources)
      (complete : g.registry.hasAll g.control.params.mandatoryClients = true)
      (granted : E.allocate g.instruments g.files = .ok (some dirs, i, t)) :
      Deed now g ((({ g with instruments := i, files := t }.note (.allocated (some dirs))).inSession dirs).moveTo .idle)
  | refused {i t} (waiting : g.control.phase = .waitForResources)
      (complete : g.registry.hasAll g.control.params.mandatoryClients = true)
      (denied : E.allocate g.instruments g.files = .ok (none, i, t)) :
      Deed now g (({ g with instruments := i, files := t }.note (.allocated none)).fail E .storageError)
  | launched (starting : g.control.phase = .startingScan) :
      Deed now g (((g.startAll E).setDeadlines { g.control.deadlines with chunkStart := some now }).moveTo .scanning)
  | waited {interval} (scanning : g.control.phase = .scanning)
      (period : g.control.params.commitInterval.duration? = some interval) (early : g.chunkAge now < interval) :
      Deed now g (g.resumed now)
  | filed {interval g'} (scanning : g.control.phase = .scanning)
      (period : g.control.params.commitInterval.duration? = some interval) (due : interval ≤ g.chunkAge now)
      (done : (g.resumed now).commitChunk E .continuous false = (true, g')) :
      Deed now g (g'.setDeadlines { g'.control.deadlines with chunkStart := some now })
  | dropped {interval g'} (scanning : g.control.phase = .scanning)
      (period : g.control.params.commitInterval.duration? = some interval) (due : interval ≤ g.chunkAge now)
      (failed : (g.resumed now).commitChunk E .continuous false = (false, g')) :
      Deed now g (g'.fail E .storageError)
  | ended {mode : ScanMode} {g'} (ending : g.control.phase = mode.ending)
      (done : g.commitChunk E mode true = (true, g')) : Deed now g (g'.moveTo .idle)
  | lost {mode : ScanMode} {g'} (ending : g.control.phase = mode.ending)
      (failed : g.commitChunk E mode true = (false, g')) : Deed now g (g'.fail E .storageError)
  | armed {preRoll capture initial final} (starting : g.control.phase = .startingStopScan)
      (before : g.control.params.stopScanPreRoll.duration? = some preRoll) (first : now.later? preRoll = some initial)
      (length : g.control.params.stopScanDuration.duration? = some capture)
      (second : initial.later? capture = some final) :
      Deed now g ((g.timed initial final).moveTo .stopScanInitialProgress)
  | begun (waiting : g.control.phase = .stopScanInitialProgress)
      (due : due g.control.deadlines.stopScanInitial now = true) :
      Deed now g ((g.startAll E).moveTo .stopScanInProgress)
  | expired (capturing : g.control.phase = .stopScanInProgress)
      (due : due g.control.deadlines.stopScan now = true) : Deed now g (g.moveTo .stoppingStopScan)

variable {E}

theorem awaitResources_deed {now : Instant} {g g' : Rig ρ σ δ} (waiting : g.control.phase = .waitForResources)
    (run : g.awaitResources E = .ok g') : g' = g ∨ Deed E now g g' := by
  unfold awaitResources at run
  split at run
  · rename_i complete
    obtain ⟨⟨dirs, i, t⟩, answer, rest⟩ := bind_eq_ok.mp run
    cases dirs with
    | none =>
      cases pure_eq_ok.mp rest
      exact Or.inr (.refused waiting complete answer)
    | some dirs =>
      cases pure_eq_ok.mp rest
      exact Or.inr (.allocated waiting complete answer)
  · cases run
    exact Or.inl rfl

theorem continueScan_deed {now : Instant} {g g' : Rig ρ σ δ} (scanning : g.control.phase = .scanning)
    (run : g.continueScan E now = .ok g') : Deed E now g g' := by
  obtain ⟨interval, period, rest⟩ := bind_eq_ok.mp run
  have period := Binary64.needed_eq_ok.mp period
  dsimp only at rest
  split at rest
  · rename_i due
    split at rest
    · rename_i done
      cases pure_eq_ok.mp rest
      exact .filed scanning period due done
    · rename_i failed
      cases pure_eq_ok.mp rest
      exact .dropped scanning period due failed
  · rename_i early
    cases pure_eq_ok.mp rest
    exact .waited scanning period (Nat.lt_of_not_le early)

theorem commitThen_deed {now : Instant} {mode : ScanMode} {g : Rig ρ σ δ} (ending : g.control.phase = mode.ending) :
    Deed E now g (g.commitThen E mode .idle) := by
  unfold commitThen
  split
  · rename_i done
    exact .ended ending done
  · rename_i failed
    exact .lost ending failed

theorem armStopScan_deed {now : Instant} {g g' : Rig ρ σ δ} (starting : g.control.phase = .startingStopScan)
    (run : g.armStopScan now = .ok g') : Deed E now g g' := by
  obtain ⟨preRoll, before, run⟩ := bind_eq_ok.mp run
  obtain ⟨initial, first, run⟩ := bind_eq_ok.mp run
  obtain ⟨capture, length, run⟩ := bind_eq_ok.mp run
  obtain ⟨final, second, run⟩ := bind_eq_ok.mp run
  cases pure_eq_ok.mp run
  exact .armed starting (Binary64.needed_eq_ok.mp before) (Instant.after_eq_ok.mp first)
    (Binary64.needed_eq_ok.mp length) (Instant.after_eq_ok.mp second)

/-- A step is one deed, or finds nothing to do in a phase that waits. -/
theorem step_deed {now : Instant} {g g' : Rig ρ σ δ} (run : g.step E now = .ok g') :
    g' = g ∧ g.control.phase.isTransient = false ∨ Deed E now g g' := by
  unfold step at run
  split at run
  case h_1 waiting =>
    refine (awaitResources_deed waiting run).imp_left fun same => ⟨same, ?_⟩
    rw [waiting]
    rfl
  case h_2 starting =>
    cases run
    simp only [startAll_control]
    exact Or.inr (.launched starting)
  case h_3 scanning => exact Or.inr (continueScan_deed scanning run)
  case h_4 stopping =>
    cases run
    exact Or.inr (commitThen_deed stopping)
  case h_5 starting => exact Or.inr (armStopScan_deed starting run)
  case h_6 waiting =>
    cases run
    split
    · rename_i due
      exact Or.inr (.begun waiting due)
    · exact Or.inl ⟨rfl, by rw [waiting]; rfl⟩
  case h_7 capturing =>
    cases run
    split
    · rename_i due
      exact Or.inr (.expired capturing due)
    · exact Or.inl ⟨rfl, by rw [capturing]; rfl⟩
  case h_8 stopping =>
    cases run
    exact Or.inr (commitThen_deed stopping)
  all_goals
    rename_i resting
    cases run
    exact Or.inl ⟨rfl, by rw [resting]; rfl⟩

/-- Of the control, a deed changes the phase, the session, the deadlines and what the lamps show, nothing else. -/
theorem Deed.control {now : Instant} {g g' : Rig ρ σ δ} (deed : Deed E now g g') :
    ∃ phase session deadlines shown, g'.control = { g.control with phase, session, deadlines, shown } := by
  cases deed with
  | filed _ _ _ done | ended _ done =>
    obtain ⟨_, _, control, _⟩ := commitChunk_done done
    simp only [setDeadlines, moveTo_control]
    rw [control]
    exact ⟨_, _, _, _, rfl⟩
  | dropped _ _ _ failed | lost _ failed =>
    rw [fail_control, (commitChunk_failed failed).1]
    exact ⟨_, _, _, _, rfl⟩
  | waited => exact ⟨_, _, _, _, rfl⟩
  | refused =>
    rw [fail_control]
    exact ⟨_, _, _, _, rfl⟩
  | launched | begun =>
    simp only [moveTo_control, setDeadlines, startAll_control]
    exact ⟨_, _, _, _, rfl⟩
  | allocated | armed | expired =>
    rw [moveTo_control]
    exact ⟨_, _, _, _, rfl⟩

theorem Deed.registry {now : Instant} {g g' : Rig ρ σ δ} (deed : Deed E now g g') : g'.registry = g.registry := by
  cases deed with
  | filed _ _ _ done =>
    obtain ⟨_, _, _, registry, _⟩ := commitChunk_done done
    exact registry
  | ended _ done =>
    obtain ⟨_, _, _, registry, _⟩ := commitChunk_done done
    exact (moveTo_registry _ _).trans registry
  | dropped _ _ _ failed | lost _ failed => exact (fail_registry E _ _).trans (commitChunk_failed failed).2.1
  | waited => rfl
  | refused => exact fail_registry E _ _
  | launched | begun => exact (moveTo_registry _ _).trans (startAll_registry E g)
  | allocated | armed | expired => exact moveTo_registry _ _

variable (E) in
/-- The work of a tick, before the lamps show the phase it has come to. -/
def work (now : Instant) (g : Rig ρ σ δ) : Except Fault (Rig ρ σ δ) :=
  ((g.drain).heedFailure E).advance E now stepLimit

theorem tick_eq_ok {now : Instant} {wait : Duration} {g g' : Rig ρ σ δ} :
    g.tick E now = .ok (wait, g') ↔
      ∃ settled, g.work E now = .ok settled ∧ settled.updateLeds E now = .ok g' ∧ g'.wait = .ok wait := by
  have parts : g.tick E now = (do
      let g ← g.work E now
      let g ← g.updateLeds E now
      return (← g.wait, g)) :=
    rfl
  simp only [parts, bind_eq_ok, pure_eq_ok, Prod.mk.injEq]
  constructor
  · rintro ⟨settled, worked, shown, leds, duration, waits, rfl, rfl⟩
    exact ⟨settled, worked, leds, waits⟩
  · rintro ⟨settled, worked, leds, waits⟩
    exact ⟨settled, worked, g', leds, wait, waits, rfl, rfl⟩

variable (E) in
/-- The lamps as the phase has them, where the fast and the slow blinking have their periods. -/
def showPhase (now : Instant) (fast slow : Duration) (g : Rig ρ σ δ) : Rig ρ σ δ :=
  let g := g.watchPhase now
  let elapsed := (g.control.entered.getD now).elapsed now
  let level := g.control.phase.lamps (Phase.blink elapsed fast) (Phase.blink elapsed slow)
  [Led.continuousScanning, .stopScan, .copyData].foldl (fun g led => g.showLed E led (level led)) g

theorem watchPhase_control (now : Instant) (g : Rig ρ σ δ) :
    ∃ lastPhase entered, g.watchPhase now = { g with control := { g.control with lastPhase, entered } } := by
  unfold watchPhase
  split
  · exact ⟨_, _, rfl⟩
  · exact ⟨g.control.lastPhase, g.control.entered, rfl⟩

/-- The lamps can be shown if both periods of the blinking are durations. -/
theorem updateLeds_eq_ok {now : Instant} {g g' : Rig ρ σ δ} :
    g.updateLeds E now = .ok g' ↔
      ∃ fast slow, g.control.params.fastBlinkPeriod.duration? = some fast ∧
        g.control.params.errorBlinkPeriod.duration? = some slow ∧ g' = g.showPhase E now fast slow := by
  have params : (g.watchPhase now).control.params = g.control.params := by
    obtain ⟨_, _, watched⟩ := watchPhase_control now g
    rw [watched]
  unfold updateLeds
  simp only [bind_eq_ok, pure_eq_ok, Binary64.needed_eq_ok, params]
  constructor
  · rintro ⟨fast, isFast, slow, isSlow, rfl⟩
    exact ⟨fast, slow, isFast, isSlow, rfl⟩
  · rintro ⟨fast, slow, isFast, isSlow, rfl⟩
    exact ⟨fast, isFast, slow, isSlow, rfl⟩

variable (E) in
/-- What neither commands nor failures break. -/
structure KeptByOrders (I : Rig ρ σ δ → Prop) : Prop where
  command : ∀ {g c target}, Command.target? c g.control.phase = some target → I g → I (g.moveTo target)
  failure : ∀ {g}, g.control.sensorFailed = true → g.control.phase ≠ .lidarError → I g → I (g.fail E .lidarError)
  queue : ∀ {g} queue, I g → I { g with control := { g.control with queue } }

variable (E) in
structure KeptByLamps (I : Rig ρ σ δ → Prop) : Prop where
  lamp : ∀ {g} led on, I g → I (g.showLed E led on)
  watch : ∀ {g} lastPhase entered, I g → I { g with control := { g.control with lastPhase, entered } }

variable (E) in
/-- What nothing that happens within a tick breaks. -/
structure Kept (I : Rig ρ σ δ → Prop) : Prop extends KeptByOrders E I, KeptByLamps E I where
  deed : ∀ {now g g'}, Deed E now g g' → I g → I g'

section Orders

variable {I : Rig ρ σ δ → Prop} (kept : KeptByOrders E I)

include kept

theorem KeptByOrders.apply {g : Rig ρ σ δ} (c : Command) (holds : I g) : I (g.apply c).2 := by
  unfold Rig.apply
  split
  · rename_i opened
    exact kept.command opened holds
  · exact holds

theorem KeptByOrders.drain {g : Rig ρ σ δ} (holds : I g) : I g.drain := by
  have empty := kept.queue [] holds
  unfold Rig.drain
  generalize g.control.queue = commands
  generalize ({ g with control := { g.control with queue := [] } } : Rig ρ σ δ) = g at empty
  induction commands generalizing g with
  | nil => exact empty
  | cons c rest ih => exact ih _ (kept.apply c empty)

theorem KeptByOrders.heedFailure {g : Rig ρ σ δ} (holds : I g) : I (g.heedFailure E) := by
  unfold Rig.heedFailure
  split
  · rename_i reported
    exact kept.failure reported.1 reported.2 holds
  · exact holds

theorem KeptByOrders.heeded {g : Rig ρ σ δ} (holds : I g) : I (g.drain.heedFailure E) :=
  kept.heedFailure (kept.drain holds)

end Orders

theorem KeptByLamps.updateLeds {I : Rig ρ σ δ → Prop} (kept : KeptByLamps E I) {now : Instant} {g g' : Rig ρ σ δ}
    (run : g.updateLeds E now = .ok g') (holds : I g) : I g' := by
  have watched : I (g.watchPhase now) := by
    unfold Rig.watchPhase
    split
    · exact kept.watch _ _ holds
    · exact holds
  obtain ⟨fast, slow, _, _, rfl⟩ := updateLeds_eq_ok.mp run
  exact kept.lamp _ _ (kept.lamp _ _ (kept.lamp _ _ watched))

theorem updateLeds_frame {now : Instant} {g g' : Rig ρ σ δ} (run : g.updateLeds E now = .ok g') :
    (∃ lastPhase entered shown, g'.control = { g.control with lastPhase, entered, shown }) ∧
      g'.registry = g.registry ∧ g'.files = g.files ∧ g'.stats = g.stats := by
  have kept : KeptByLamps E fun h : Rig ρ σ δ =>
      (∃ lastPhase entered shown, h.control = { g.control with lastPhase, entered, shown }) ∧
        h.registry = g.registry ∧ h.files = g.files ∧ h.stats = g.stats :=
    { lamp := by
        rintro h led on ⟨⟨_, _, _, control⟩, rest⟩
        rw [showLed_registry, showLed_files, showLed_stats]
        exact ⟨⟨_, _, _, by rw [showLed_control, control]⟩, rest⟩
      watch := by
        rintro h _ _ ⟨⟨_, _, _, control⟩, rest⟩
        exact ⟨⟨_, _, _, by rw [control]⟩, rest⟩ }
  exact kept.updateLeds run ⟨⟨_, _, _, rfl⟩, rfl, rfl, rfl⟩

section Deeds

variable {I : Rig ρ σ δ → Prop} {now : Instant} (kept : ∀ {g g'}, Deed E now g g' → I g → I g')

include kept

theorem step_kept {g g' : Rig ρ σ δ} (run : g.step E now = .ok g') (holds : I g) : I g' := by
  rcases step_deed run with ⟨rfl, _⟩ | deed
  · exact holds
  · exact kept deed holds

/-- What no deed breaks is kept by the loop of a tick. -/
theorem advance_kept {fuel : Nat} {g g' : Rig ρ σ δ} (run : g.advance E now fuel = .ok g') (holds : I g) : I g' := by
  induction fuel generalizing g with
  | zero =>
    cases run
    exact holds
  | succ fuel ih =>
    obtain ⟨next, one, rest⟩ := bind_eq_ok.mp run
    have later := step_kept kept one holds
    split at rest
    · cases pure_eq_ok.mp rest
      exact later
    · exact ih rest later

end Deeds

namespace Kept

variable {I : Rig ρ σ δ → Prop} (kept : Kept E I)

include kept

theorem work {now : Instant} {g g' : Rig ρ σ δ} (run : g.work E now = .ok g') (holds : I g) : I g' :=
  advance_kept kept.deed run (kept.heeded holds)

theorem tick {now : Instant} {wait : Duration} {g g' : Rig ρ σ δ} (run : g.tick E now = .ok (wait, g'))
    (holds : I g) : I g' := by
  obtain ⟨settled, work, leds, _⟩ := tick_eq_ok.mp run
  exact kept.updateLeds leds (kept.work work holds)

end Kept

end Rig

/-- What of the control nothing changes within a tick. -/
def Control.fixed (c : Control) : ScanParams × Bool × Bool := (c.params, c.indicator, c.sensorFailed)

namespace Rig

variable {ρ σ δ : Type} {E : Equipment ρ σ δ}

theorem fixed_kept (x : ScanParams × Bool × Bool) : Kept E fun g : Rig ρ σ δ => g.control.fixed = x where
  command _ same := by rwa [moveTo_control]
  failure _ _ same := by rwa [fail_control]
  queue _ same := same
  lamp led on same := by rwa [showLed_control]
  watch _ _ same := same
  deed deed same := by
    obtain ⟨_, _, _, _, control⟩ := deed.control
    rw [control]
    exact same

theorem registry_kept (r : Registry ρ) : Kept E fun g : Rig ρ σ δ => g.registry = r where
  command _ same := (moveTo_registry _ _).trans same
  failure _ _ same := (fail_registry E _ _).trans same
  queue _ same := same
  lamp led on same := (showLed_registry E led on _).trans same
  watch _ _ same := same
  deed deed same := deed.registry.trans same

end Rig

end CaptureRig

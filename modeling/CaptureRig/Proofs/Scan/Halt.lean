import CaptureRig.Proofs.Scan.Drain
import CaptureRig.Proofs.Scan.Transition

namespace CaptureRig

/-- Whether a call gets work done: it starts a logger, freezes a client, writes its data, asks for a session or commits
a chunk. -/
def Call.works {ρ δ : Type} : Call ρ δ → Bool
  | .started _ | .froze .. | .persisted .. | .allocated _ | .committed .. => true
  | .stopped _ | .provided _ | .lamp .. | .moved .. => false

theorem Command.closed_of_error {p : Phase} (error : p.isError = true) (c : Command) : c.isOpen p = false := by
  cases p <;> cases error <;> cases c <;> rfl

namespace Rig

variable {ρ σ δ κ : Type} {E : Equipment ρ σ δ} {act : κ → σ → σ}

/-- A rig that is in an error, or is told to enter one at its next tick. -/
def Failing (g : Rig ρ σ δ) : Prop := g.control.sensorFailed = true ∨ g.control.phase.isError = true

/-- The error that the next tick of a failing rig ends in. -/
def fate (g : Rig ρ σ δ) : Phase := if g.control.sensorFailed then .lidarError else g.control.phase

/-- From one rig to another no work has been done, and no chunk counted. -/
structure Inert (g g' : Rig ρ σ δ) : Prop where
  calls : Notes (fun c => c.works = false) g g'
  session : g'.control.session = g.control.session
  stats : g'.stats = g.stats

namespace Inert

variable {g h h' : Rig ρ σ δ}

theorem refl (g : Rig ρ σ δ) : Inert g g := ⟨.of_same rfl, rfl, rfl⟩

theorem trans (first : Inert g h) (second : Inert h h') : Inert g h' :=
  ⟨first.calls.trans second.calls, second.session.trans first.session, second.stats.trans first.stats⟩

theorem moveTo (target : Phase) (g : Rig ρ σ δ) : Inert g (g.moveTo target) := by
  refine ⟨(moveTo_notes target g).mono fun c moved => ?_, by rw [moveTo_control], moveTo_stats target g⟩
  obtain ⟨_, _, rfl⟩ := moved
  rfl

theorem stopAll (g : Rig ρ σ δ) : Inert g (g.stopAll E) := by
  refine ⟨(stopAll_notes E g).mono fun c stopped => ?_, by rw [stopAll_control], stopAll_stats E g⟩
  obtain ⟨_, rfl⟩ := stopped
  rfl

theorem fail (target : Phase) (g : Rig ρ σ δ) : Inert g (g.fail E target) := (moveTo target g).trans (stopAll _)

theorem showLed (led : Led) (on : Bool) (g : Rig ρ σ δ) : Inert g (g.showLed E led on) := by
  refine ⟨(showLed_notes E led on g).mono fun c lamp => ?_, showLed_session E led on g, showLed_stats E led on g⟩
  rw [lamp]
  rfl

theorem attach (k : Handle ρ) (g : Rig ρ σ δ) : Inert g (g.attach E k).2 := by
  rcases attach_cases E k g with refused | ⟨registry, instruments, attached, _⟩
  · rw [refused]
    exact refl g
  · have provided : Notes (fun c => c.works = false) g (g.attach E k).2 :=
      ⟨_, by rw [attached], by simp [Call.works]⟩
    exact ⟨provided, by rw [attached], by rw [attached]⟩

theorem orders (g : Rig ρ σ δ) : KeptByOrders E (Inert g) where
  command _ inert := inert.trans (moveTo _ _)
  failure _ _ inert := inert.trans (fail _ _)
  queue _ inert := inert.trans ⟨.of_same rfl, rfl, rfl⟩

theorem lamps (g : Rig ρ σ δ) : KeptByLamps E (Inert g) where
  lamp led on inert := inert.trans (showLed led on _)
  watch _ _ inert := inert.trans ⟨.of_same rfl, rfl, rfl⟩

end Inert

theorem step_error {g : Rig ρ σ δ} (error : g.control.phase.isError = true) (now : Instant) : g.step E now = .ok g := by
  unfold step
  split
  case h_9 | h_10 | h_11 => rfl
  all_goals
    rename_i phase
    rw [phase] at error
    cases error

theorem drain_error {g : Rig ρ σ δ} (error : g.control.phase.isError = true) : g.drain = g.withQueue [] := by
  have closed : g.chosen = none := List.find?_eq_none.mpr fun c _ => by simp [Command.closed_of_error error c]
  rw [drain_eq, closed]

/-- A report is heeded before any work is done, whatever the commands in the queue have come to. -/
theorem heeded_phase {g : Rig ρ σ δ} (failing : g.Failing) : (g.drain.heedFailure E).control.phase = g.fate := by
  have reported : g.drain.control.sensorFailed = g.control.sensorFailed :=
    congrArg (·.2.2) ((fixed_kept (E := E) g.control.fixed).drain rfl)
  unfold heedFailure fate
  rw [reported]
  cases failed : g.control.sensorFailed with
  | true =>
    split
    · rw [fail_control]
      rfl
    · rename_i there
      simpa using there
  | false =>
    have error : g.control.phase.isError = true := by simpa [Failing, failed] using failing
    rw [if_neg (by simp), drain_error error]
    rfl

theorem Failing.fate_isError {g : Rig ρ σ δ} (failing : g.Failing) : g.fate.isError = true := by
  unfold fate
  cases failed : g.control.sensorFailed with
  | true => rfl
  | false => simpa [Failing, failed] using failing

/-- The work of a tick on a failing rig is to heed the failure, and cannot go wrong. -/
theorem Failing.work_eq {g : Rig ρ σ δ} (failing : g.Failing) (now : Instant) :
    g.work E now = .ok (g.drain.heedFailure E) := by
  have phase : (g.drain.heedFailure E).control.phase = g.fate := heeded_phase failing
  have still : (g.drain.heedFailure E).step E now = .ok (g.drain.heedFailure E) :=
    step_error (phase ▸ failing.fate_isError) now
  rw [work, stepLimit, advance, still]
  simp only [bind, Except.bind, true_or, if_true]
  rfl

theorem Failing.work_inert {g g' : Rig ρ σ δ} (failing : g.Failing) {now : Instant} (run : g.work E now = .ok g') :
    Inert g g' ∧ g'.control.phase = g.fate := by
  rw [failing.work_eq] at run
  cases run
  exact ⟨(Inert.orders g).heeded (.refl g), heeded_phase failing⟩

theorem Failing.tick_inert {g g' : Rig ρ σ δ} (failing : g.Failing) {now : Instant} {wait : Duration}
    (run : g.tick E now = .ok (wait, g')) : Inert g g' ∧ g'.control.phase = g.fate := by
  obtain ⟨settled, worked, leds, _⟩ := tick_eq_ok.mp run
  obtain ⟨inert, phase⟩ := failing.work_inert worked
  exact ⟨(Inert.lamps g).updateLeds leds inert, (phase_lamps g.fate).updateLeds leds phase⟩

/-- A tick on a failing rig comes to an end if the periods of the blinking are durations. -/
theorem Failing.tick_ends {g : Rig ρ σ δ} (failing : g.Failing) (now : Instant) {fast slow : Duration}
    (isFast : g.control.params.fastBlinkPeriod.duration? = some fast)
    (isSlow : g.control.params.errorBlinkPeriod.duration? = some slow) : ∃ g', g.tick E now = .ok (slow, g') := by
  have worked := failing.work_eq (E := E) now
  have params : (g.drain.heedFailure E).control.params = g.control.params :=
    congrArg (·.1) ((fixed_kept g.control.fixed).work worked rfl)
  have leds : (g.drain.heedFailure E).updateLeds E now = .ok ((g.drain.heedFailure E).showPhase E now fast slow) :=
    updateLeds_eq_ok.mpr ⟨fast, slow, params ▸ isFast, params ▸ isSlow, rfl⟩
  refine ⟨_, tick_eq_ok.mpr ⟨_, worked, leds, ?_⟩⟩
  have phase := (phase_lamps g.fate).updateLeds leds (heeded_phase failing)
  have shown : ((g.drain.heedFailure E).showPhase E now fast slow).control.params = g.control.params :=
    congrArg (·.1) ((fixed_kept g.control.fixed).updateLeds leds ((fixed_kept g.control.fixed).work worked rfl))
  rw [wait, phase, failing.fate_isError, if_pos rfl, shown]
  exact Binary64.needed_eq_ok.mpr isSlow

/-- What becomes of a failing rig: no work is done, it fails still, and an error is left only for the one that a report
leads to. -/
structure Doomed (g g' : Rig ρ σ δ) : Prop extends Inert g g' where
  failing : g'.Failing
  reported : g.control.sensorFailed = true → g'.control.sensorFailed = true
  error : g.control.phase.isError = true →
    g'.control.phase = g.control.phase ∨ g'.control.phase = .lidarError ∧ g'.control.sensorFailed = true

theorem Doomed.trans {g h h' : Rig ρ σ δ} (first : Doomed g h) (second : Doomed h h') : Doomed g h' where
  toInert := first.toInert.trans second.toInert
  failing := second.failing
  reported failed := second.reported (first.reported failed)
  error error := by
    rcases first.error error with same | ⟨lidar, failed⟩
    · rcases second.error (same ▸ error) with same' | left
      · exact Or.inl (same'.trans same)
      · exact Or.inr left
    · rcases second.error (lidar ▸ rfl) with same' | left
      · exact Or.inr ⟨same'.trans lidar, second.reported failed⟩
      · exact Or.inr left

theorem Failing.of_same {g g' : Rig ρ σ δ} (failing : g.Failing) (inert : Inert g g')
    (phase : g'.control.phase = g.control.phase)
    (reported : g.control.sensorFailed = true → g'.control.sensorFailed = true) : Doomed g g' where
  toInert := inert
  failing := failing.imp reported fun error => phase ▸ error
  reported := reported
  error _ := Or.inl phase

theorem Failing.of_fate {g g' : Rig ρ σ δ} (failing : g.Failing) (inert : Inert g g') (phase : g'.control.phase = g.fate)
    (fixed : g'.control.fixed = g.control.fixed) : Doomed g g' where
  toInert := inert
  failing := Or.inr (phase ▸ failing.fate_isError)
  reported failed := (congrArg (·.2.2) fixed : g'.control.sensorFailed = g.control.sensorFailed).trans failed
  error _ := by
    have same : g'.control.sensorFailed = g.control.sensorFailed := congrArg (·.2.2) fixed
    rw [phase, fate, same]
    cases g.control.sensorFailed with
    | true => exact Or.inr ⟨rfl, rfl⟩
    | false => exact Or.inl rfl

theorem Failing.happen {g g' : Rig ρ σ δ} (failing : g.Failing) {e : Event ρ κ} (now : g.happen E act e = .ok g') :
    Doomed g g' := by
  cases e with
  | tick =>
    obtain ⟨wait, run⟩ := happen_tick now
    obtain ⟨inert, phase⟩ := failing.tick_inert run
    exact failing.of_fate inert phase ((fixed_kept g.control.fixed).tick run rfl)
  | broken =>
    obtain ⟨inert, phase⟩ := failing.work_inert now
    exact failing.of_fate inert phase ((fixed_kept g.control.fixed).work now rfl)
  | command c =>
    cases now
    by_cases error : g.control.phase.isError = true
    · rw [apply_closed (Command.closed_of_error error c)]
      exact failing.of_same (.refl g) rfl id
    · have reported := failing.resolve_right error
      have fixed := (fixed_kept (E := E) g.control.fixed).apply c rfl
      have failed : (g.apply c).2.control.sensorFailed = true := (congrArg (·.2.2) fixed).trans reported
      exact ⟨(Inert.orders (E := E) g).apply c (.refl g), Or.inl failed, fun _ => failed, fun e => absurd e error⟩
  | attach h =>
    cases now
    have control := attach_control E h g
    exact failing.of_same (.attach h g) (by rw [control]) (by rw [control]; exact id)
  | failure =>
    cases now
    exact failing.of_same ⟨.of_same rfl, rfl, rfl⟩ rfl fun _ => rfl
  | send | input | storage =>
    cases now
    exact failing.of_same ⟨.of_same rfl, rfl, rfl⟩ rfl id

theorem Failing.run {g g' : Rig ρ σ δ} (failing : g.Failing) {later : List (Rig ρ σ δ × Event ρ κ)}
    (run : Run E act g later g') : Doomed g g' := by
  induction run with
  | start => exact failing.of_same (.refl g) rfl id
  | next _ now ih => exact ih.trans (ih.failing.happen now)

/-- The failure of a sensor is known exactly when it has been reported. -/
theorem reported_iff {past : List (Rig ρ σ δ × Event ρ κ)} {g₀ g : Rig ρ σ δ} (run : Run E act g₀ past g) :
    g.control.sensorFailed = true ↔ g₀.control.sensorFailed = true ∨ ∃ h, (h, Event.failure) ∈ past := by
  induction run with
  | start => simp
  | @next past g e g' _ now ih =>
    have fixed (same : g'.control.fixed = g.control.fixed) : g'.control.sensorFailed = g.control.sensorFailed :=
      congrArg (·.2.2) same
    have unsaid (other : e ≠ .failure) (same : g'.control.sensorFailed = g.control.sensorFailed) :
        g'.control.sensorFailed = true ↔
          g₀.control.sensorFailed = true ∨ ∃ h, (h, Event.failure) ∈ past ++ [(g, e)] := by
      rw [same, ih]
      simp [other.symm]
    cases e with
    | tick => exact unsaid (by simp) (fixed ((fixed_kept _).tick (happen_tick now).choose_spec rfl))
    | broken => exact unsaid (by simp) (fixed ((fixed_kept _).work now rfl))
    | command c =>
      cases now
      exact unsaid (by simp) (fixed ((fixed_kept (E := E) _).apply c rfl))
    | attach h =>
      cases now
      exact unsaid (by simp) (by rw [attach_control])
    | failure =>
      cases now
      simp [reportFailure]
    | send | input | storage =>
      cases now
      exact unsaid (by simp) rfl

/-- Once a rig is in an error, at the end of a tick or at any other point of a run, it is in that error ever after, but
that the report of a failing sensor leads from the storage error to that of the sensors. A tick after such a report does
its work whatever the phase and the queue, and ends in the error of the sensors. From the report on, and from an error
on, no work is done and every tick comes to an end that can show the lamps. In an error every command is rejected. -/
theorem failure_final {params : ScanParams} {indicator : Bool} {instruments : σ} {files : Storage.Tree}
    {past later : List (Rig ρ σ δ × Event ρ κ)} {g g' : Rig ρ σ δ}
    (run : Run E act (fresh params indicator instruments files) past g) (on : Run E act g later g') :
    (g.control.phase.isError = true →
      g'.control.phase = g.control.phase ∨
        g.control.phase = .storageError ∧ g'.control.phase = .lidarError ∧
          ∃ h, (h, Event.failure) ∈ past ++ later) ∧
    ((∃ h, (h, Event.failure) ∈ past) → ∀ now,
      (∃ settled, g.work E now = .ok settled ∧ settled.control.phase = .lidarError) ∧
        ∀ wait t, g.tick E now = .ok (wait, t) → t.control.phase = .lidarError) ∧
    ((∃ h, (h, Event.failure) ∈ past) ∨ g.control.phase.isError = true →
      Inert g g' ∧ ∀ now fast slow, g.control.params.fastBlinkPeriod.duration? = some fast →
        g.control.params.errorBlinkPeriod.duration? = some slow → ∃ t, g.tick E now = .ok (slow, t)) ∧
    (g.control.phase.isError = true → ∀ c, g.apply c = (false, g)) := by
  have known : (∃ h, (h, Event.failure) ∈ past) → g.control.sensorFailed = true :=
    fun reported => (reported_iff run).mpr (Or.inr reported)
  refine ⟨fun error => ?_, fun reported now => ?_, fun failing => ?_, fun error c =>
    apply_closed (Command.closed_of_error error c)⟩
  · have doomed : Doomed g g' := Failing.run (Or.inr error) on
    rcases doomed.error error with same | ⟨lidar, failed⟩
    · exact Or.inl same
    · cases phase : g.control.phase with
      | lidarError => exact Or.inl lidar
      | storageError =>
        have reported := ((reported_iff (run.trans on)).mp failed).resolve_left (by simp [fresh])
        exact Or.inr ⟨rfl, lidar, reported⟩
      | _ =>
        rw [phase] at error
        cases error
  · have failed := known reported
    have failing : g.Failing := Or.inl failed
    have lidar : g.fate = .lidarError := by rw [fate, failed, if_pos rfl]
    refine ⟨⟨_, failing.work_eq now, (heeded_phase failing).trans lidar⟩, fun wait t ticked => ?_⟩
    exact (failing.tick_inert ticked).2.trans lidar
  · have failing : g.Failing := failing.imp_left known
    exact ⟨(failing.run on).toInert, fun now fast slow isFast isSlow => failing.tick_ends now isFast isSlow⟩

/-- A continuous scan whose directory is missing. -/
def strayScan : List (Event Instrument (Instruments → Instruments)) :=
  [.tick 0, .send .startScan, .tick 0, .tick (millis 10000)]

/-- Commands and an attachment after an error, and the report of a failing sensor with another command behind it. -/
def lateReport : List (Event Instrument (Instruments → Instruments)) :=
  [.send .startScan, .attach (.of "gnss" { logger := true, dumpable := true } .gnss), .tick (millis 11000),
    .command .triggerStopScan, .failure, .send .startScan, .tick (millis 12000)]

/-- The storage error is left for that of the sensors after the report, and all that is asked for in between is dropped. -/
theorem failure_final_late :
    ∃ past g later g', Run Instruments.equipment (fun f i => f i)
        (fresh { mandatoryClients := [] } true benchInstruments {}) past g ∧
      past.map (·.2) = strayScan ∧ g.control.phase = .storageError ∧
      Run Instruments.equipment (fun f i => f i) g later g' ∧ later.map (·.2) = lateReport ∧
      g'.control.phase = .lidarError ∧ Inert g g' ∧ g.apply .startScan = (false, g) := by
  let play (g : Station) := play Instruments.equipment (fun (f : Instruments → Instruments) i => f i) g
  have played : ((play (fresh { mandatoryClients := [] } true benchInstruments {}) strayScan).toOption.bind fun g =>
      (play g lateReport).toOption.map fun g' => (g.control.phase, g'.control.phase)) =
      some (.storageError, .lidarError) := by decide +kernel
  obtain ⟨g, first, rest⟩ := Option.bind_eq_some_iff.mp played
  obtain ⟨g', second, seen⟩ := Option.map_eq_some_iff.mp rest
  obtain ⟨storage, lidar⟩ : _ ∧ _ := by simpa only [Prod.mk.injEq] using seen
  obtain ⟨past, events, run⟩ := Run.start.play (toOption_eq_some.mp first)
  obtain ⟨later, more, on⟩ := Run.start.play (toOption_eq_some.mp second)
  have error : g.control.phase.isError = true := by rw [storage]; rfl
  obtain ⟨_, _, inert, rejected⟩ := failure_final run on
  exact ⟨past, g, later, g', run, events, storage, on, more, lidar, (inert (Or.inr error)).1, rejected error _⟩

end Rig

end CaptureRig

import CaptureRig.Proofs.Scan.Halt

namespace CaptureRig

namespace ScanParams

variable {p : ScanParams}

theorem usable_iff {value : Binary64} {nonZero : Bool} :
    usable value nonZero = true ↔ ∃ d, value.duration? = some d ∧ (nonZero = true → d ≠ 0) := by
  unfold usable
  split
  · rename_i none
    simp [none]
  · rename_i d some
    cases nonZero <;> simp [some]

theorem validate_eq_ok : p.validate = .ok () ↔ ∀ entry ∈ p.periods, usable entry.2.1 entry.2.2 = true := by
  unfold validate
  split
  · rename_i name value nonZero first
    have refused : usable value nonZero = false := by simpa using List.find?_some first
    refine ⟨nofun, fun all => ?_⟩
    cases refused.symm.trans (all _ (List.mem_of_find?_eq_some first))
  · rename_i none
    simpa using none

/-- The durations that the periods convert to. -/
structure Timing (p : ScanParams) where
  tick : Duration
  errorBlink : Duration
  fastBlink : Duration
  commit : Duration
  preRoll : Duration
  capture : Duration
  isTick : p.tickPeriod.duration? = some tick
  isErrorBlink : p.errorBlinkPeriod.duration? = some errorBlink
  isFastBlink : p.fastBlinkPeriod.duration? = some fastBlink
  isCommit : p.commitInterval.duration? = some commit
  isPreRoll : p.stopScanPreRoll.duration? = some preRoll
  isCapture : p.stopScanDuration.duration? = some capture
  tick_ne_zero : tick ≠ 0
  errorBlink_ne_zero : errorBlink ≠ 0
  fastBlink_ne_zero : fastBlink ≠ 0

/-- All parameters that are valid, and no others, have durations. -/
theorem validate_iff : p.validate = .ok () ↔ Nonempty p.Timing := by
  simp only [validate_eq_ok, periods, List.forall_mem_cons, usable_iff]
  constructor
  · rintro ⟨⟨tick, isTick, tickNot⟩, ⟨error, isError, errorNot⟩, ⟨fast, isFast, fastNot⟩, ⟨commit, isCommit, _⟩,
      ⟨preRoll, isPreRoll, _⟩, ⟨capture, isCapture, _⟩, _⟩
    exact ⟨⟨tick, error, fast, commit, preRoll, capture, isTick, isError, isFast, isCommit, isPreRoll, isCapture,
      tickNot trivial, errorNot trivial, fastNot trivial⟩⟩
  · rintro ⟨t⟩
    exact ⟨⟨_, t.isTick, fun _ => t.tick_ne_zero⟩, ⟨_, t.isErrorBlink, fun _ => t.errorBlink_ne_zero⟩,
      ⟨_, t.isFastBlink, fun _ => t.fastBlink_ne_zero⟩, ⟨_, t.isCommit, nofun⟩, ⟨_, t.isPreRoll, nofun⟩,
      ⟨_, t.isCapture, nofun⟩, nofun⟩

end ScanParams

theorem Instant.after_eq (i : Instant) (d : Duration) :
    i.after d = if i + d < limit then .ok (i + d) else .error .instantOverflow := by
  unfold after later?
  split <;> rename_i shown <;> split at shown <;> simp_all

namespace Rig

variable {ρ σ δ κ : Type} {E : Equipment ρ σ δ} {act : κ → σ → σ}

/-- Both deadlines of a stop scan can be shown if the later of them can. -/
theorem armStopScan_eq {preRoll capture : Duration} {g : Rig ρ σ δ}
    (before : g.control.params.stopScanPreRoll.duration? = some preRoll)
    (length : g.control.params.stopScanDuration.duration? = some capture) (now : Instant) :
    g.armStopScan now =
      if now + preRoll + capture < Instant.limit then
        .ok ((g.timed (now + preRoll) (now + preRoll + capture)).moveTo .stopScanInitialProgress)
      else .error .instantOverflow := by
  simp only [armStopScan, Binary64.needed_eq_ok.mpr before, Binary64.needed_eq_ok.mpr length, bind, Except.bind,
    Instant.after_eq]
  by_cases shown : now + preRoll + capture < Instant.limit
  · have first : now + preRoll < Instant.limit := Nat.lt_of_le_of_lt (Nat.le_add_right ..) shown
    simp only [if_pos first, if_pos shown]
    rfl
  · by_cases first : now + preRoll < Instant.limit
    · simp only [if_pos first, if_neg shown]
    · simp only [if_neg first, if_neg shown]

theorem continueScan_ok {interval : Duration} {g : Rig ρ σ δ}
    (period : g.control.params.commitInterval.duration? = some interval) (now : Instant) :
    ∃ g', g.continueScan E now = .ok g' := by
  simp only [continueScan, setDeadlines, Binary64.needed_eq_ok.mpr period, bind, Except.bind]
  split
  · split <;> exact ⟨_, rfl⟩
  · exact ⟨_, rfl⟩

theorem awaitResources_ok {g : Rig ρ σ δ} (answers : ∃ answer, E.allocate g.instruments g.files = .ok answer) :
    ∃ g', g.awaitResources E = .ok g' := by
  obtain ⟨⟨dirs, i, t⟩, answer⟩ := answers
  simp only [awaitResources, answer, bind, Except.bind]
  split
  · cases dirs <;> exact ⟨_, rfl⟩
  · exact ⟨g, rfl⟩

variable (E) in
/-- A tick of this rig starts a stop scan. -/
def Arms (g : Rig ρ σ δ) : Prop := (g.drain.heedFailure E).control.phase = .startingStopScan

theorem Arms.work_eq {g : Rig ρ σ δ} (arms : g.Arms E) (now : Instant) :
    g.work E now = (g.drain.heedFailure E).armStopScan now := by
  have starting : (g.drain.heedFailure E).control.phase = .startingStopScan := arms
  rw [work, stepLimit, advance_of_transient (by rw [starting]; rfl)]
  simp only [step, starting]

theorem heeded_params (g : Rig ρ σ δ) : (g.drain.heedFailure E).control.params = g.control.params :=
  congrArg (·.1) ((fixed_kept g.control.fixed).heeded rfl)

theorem tick_congr {now : Instant} {g h : Rig ρ σ δ} (same : g.work E now = h.work E now) :
    g.tick E now = h.tick E now := by
  have parts (g : Rig ρ σ δ) : g.tick E now = g.work E now >>= fun g => g.updateLeds E now >>= fun g =>
      g.wait >>= fun w => pure (w, g) := rfl
  rw [parts, parts, same]

/-- When the work is done, the lamps can be shown and the time to wait is known. -/
theorem tick_of_work {p : ScanParams} (t : p.Timing) {now : Instant} {g settled : Rig ρ σ δ}
    (same : g.control.params = p) (worked : g.work E now = .ok settled) : ∃ wait g', g.tick E now = .ok (wait, g') := by
  have fixed := (fixed_kept g.control.fixed).work worked rfl
  have params : settled.control.params = p := (congrArg (·.1) fixed).trans same
  have leds : settled.updateLeds E now = .ok (settled.showPhase E now t.fastBlink t.errorBlink) :=
    updateLeds_eq_ok.mpr ⟨_, _, params ▸ t.isFastBlink, params ▸ t.isErrorBlink, rfl⟩
  have shown : (settled.showPhase E now t.fastBlink t.errorBlink).control.params = p :=
    (congrArg (·.1) ((fixed_kept g.control.fixed).updateLeds leds fixed)).trans same
  have waits : ∃ wait, (settled.showPhase E now t.fastBlink t.errorBlink).wait = .ok wait := by
    rw [wait, shown]
    split
    · exact ⟨_, Binary64.needed_eq_ok.mpr t.isErrorBlink⟩
    · exact ⟨_, Binary64.needed_eq_ok.mpr t.isTick⟩
  obtain ⟨wait, waits⟩ := waits
  exact ⟨wait, _, tick_eq_ok.mpr ⟨settled, worked, leds, waits⟩⟩

section Answering

variable {p : ScanParams} (t : p.Timing) (answers : ∀ i t, ∃ answer, E.allocate i t = .ok answer) {g : Rig ρ σ δ}
  (same : g.control.params = p)

include t answers same

/-- Only the step that starts a stop scan can go wrong. -/
theorem step_ok (now : Instant) (other : g.control.phase ≠ .startingStopScan) : ∃ g', g.step E now = .ok g' := by
  unfold step
  split
  case h_1 => exact awaitResources_ok (answers _ _)
  case h_3 => exact continueScan_ok (by rw [same, t.isCommit]) now
  case h_5 starting => exact absurd starting other
  all_goals exact ⟨_, rfl⟩

theorem advance_ok (now : Instant) (other : g.control.phase ≠ .startingStopScan) :
    ∃ g', g.advance E now stepLimit = .ok g' := by
  obtain ⟨next, first⟩ := step_ok t answers same now other
  rw [advance_limit (by decide)]
  unfold advance
  simp only [first, bind, Except.bind]
  split
  · exact ⟨next, rfl⟩
  · rename_i goesOn
    obtain ⟨moves, transient⟩ := not_or.mp goesOn
    have transient : next.control.phase.isTransient = true := by simpa using transient
    obtain ⟨_, rfl⟩ := step_transient first moves transient
    rw [advance_of_transient transient]
    exact step_ok t answers (by rw [moveTo_control]; exact same) now (by simp)

theorem work_ok {now : Instant} (inTime : g.Arms E → now + t.preRoll + t.capture < Instant.limit) :
    ∃ g', g.work E now = .ok g' := by
  have kept : (g.drain.heedFailure E).control.params = p := (heeded_params g).trans same
  by_cases arms : g.Arms E
  · rw [arms.work_eq, armStopScan_eq (by rw [kept, t.isPreRoll]) (by rw [kept, t.isCapture]), if_pos (inTime arms)]
    exact ⟨_, rfl⟩
  · exact advance_ok t answers kept now arms

theorem tick_ok {now : Instant} (inTime : g.Arms E → now + t.preRoll + t.capture < Instant.limit) :
    ∃ wait g', g.tick E now = .ok (wait, g') := by
  obtain ⟨settled, worked⟩ := work_ok t answers same inTime
  exact tick_of_work t same worked

/-- A tick gets stuck if and only if it starts a stop scan whose end is later than the clock can show. -/
theorem tick_eq_error {now : Instant} {fault : Fault} :
    g.tick E now = .error fault ↔
      fault = .instantOverflow ∧ g.Arms E ∧ Instant.limit ≤ now + t.preRoll + t.capture := by
  by_cases late : g.Arms E ∧ Instant.limit ≤ now + t.preRoll + t.capture
  · have kept : (g.drain.heedFailure E).control.params = p := (heeded_params g).trans same
    have work : g.work E now = .error .instantOverflow := by
      rw [late.1.work_eq, armStopScan_eq (by rw [kept, t.isPreRoll]) (by rw [kept, t.isCapture]), if_neg (Nat.not_lt.mpr late.2)]
    have stuck : g.tick E now = .error .instantOverflow := by
      have parts : g.tick E now = g.work E now >>= fun g => g.updateLeds E now >>= fun g =>
          g.wait >>= fun w => pure (w, g) := rfl
      rw [parts, work]
      rfl
    simp [stuck, late, eq_comm]
  · have inTime : g.Arms E → now + t.preRoll + t.capture < Instant.limit :=
      fun arms => Nat.lt_of_not_le fun beyond => late ⟨arms, beyond⟩
    obtain ⟨wait, g', done⟩ := tick_ok t answers same inTime
    simp [done, late]

end Answering

theorem happen_ok {p : ScanParams} (t : p.Timing) (answers : ∀ i t, ∃ answer, E.allocate i t = .ok answer)
    {g : Rig ρ σ δ} (same : g.control.params = p) {e : Event ρ κ}
    (inTime : ∀ now, e = .tick now ∨ e = .broken now → now + t.preRoll + t.capture < Instant.limit) :
    ∃ g', g.happen E act e = .ok g' := by
  cases e with
  | tick now =>
    obtain ⟨wait, g', done⟩ := tick_ok t answers same fun _ => inTime now (Or.inl rfl)
    exact ⟨g', by rw [happen, done]; rfl⟩
  | broken now => exact work_ok t answers same fun _ => inTime now (Or.inr rfl)
  | _ => exact ⟨_, rfl⟩

/-- A run goes on as long as the end of a stop scan could be shown at each of its ticks. -/
theorem play_ok {p : ScanParams} (t : p.Timing) (answers : ∀ i t, ∃ answer, E.allocate i t = .ok answer)
    {events : List (Event ρ κ)}
    (inTime : ∀ now, .tick now ∈ events ∨ .broken now ∈ events → now + t.preRoll + t.capture < Instant.limit)
    {g : Rig ρ σ δ} (same : g.control.params = p) : ∃ g', play E act g events = .ok g' := by
  induction events generalizing g with
  | nil => exact ⟨g, rfl⟩
  | cons e rest ih =>
    have first : ∀ now, e = .tick now ∨ e = .broken now → now + t.preRoll + t.capture < Instant.limit := by
      rintro now (rfl | rfl)
      · exact inTime now (Or.inl List.mem_cons_self)
      · exact inTime now (Or.inr List.mem_cons_self)
    have others : ∀ now, .tick now ∈ rest ∨ .broken now ∈ rest → now + t.preRoll + t.capture < Instant.limit :=
      fun now ticks => inTime now (ticks.imp (List.mem_cons_of_mem e) (List.mem_cons_of_mem e))
    obtain ⟨next, now⟩ : ∃ next, g.happen E act e = .ok next := happen_ok t answers same first
    obtain ⟨g', played⟩ := ih others ((params_lasting p).happen now same)
    exact ⟨g', by rw [play, List.foldlM_cons, now]; exact played⟩

/-- Parameters that have been validated have durations, of which those of the loop and of the blinking are not zero. A
tick at any point of a run then comes to an end, but for the tick that starts a stop scan whose end is later than the
clock can show. Whatever else happens is done, so that a run goes on as long as the clock can show an end. -/
theorem validated_ticks {params : ScanParams} {indicator : Bool} {instruments : σ} {files : Storage.Tree}
    (valid : params.validate = .ok ()) (answers : ∀ i t, ∃ answer, E.allocate i t = .ok answer) :
    ∃ t : params.Timing,
      (∀ past g, Run E act (fresh params indicator instruments files) past g → ∀ now fault,
        g.tick E now = .error fault ↔
          fault = .instantOverflow ∧ g.Arms E ∧ Instant.limit ≤ now + t.preRoll + t.capture) ∧
      ∀ events : List (Event ρ κ),
        (∀ now, .tick now ∈ events ∨ .broken now ∈ events → now + t.preRoll + t.capture < Instant.limit) →
          ∃ g', play E act (fresh (ρ := ρ) (δ := δ) params indicator instruments files) events = .ok g' := by
  obtain ⟨t⟩ := ScanParams.validate_iff.mp valid
  refine ⟨t, fun past g run now fault => ?_, fun events inTime => ?_⟩
  · exact tick_eq_error t answers ((params_lasting params).run run rfl)
  · exact play_ok t answers inTime rfl

/-- Instruments that are always given the same session. -/
def benchEquipment : Equipment Instrument Instruments Chunk.Dump :=
  { Instruments.equipment with allocate := fun i t => .ok (some ⟨0, "usb/continuous", "usb/stop"⟩, i, t) }

/-- A stop scan that is to start. -/
def triggeredStopScan : List (Event Instrument (Instruments → Instruments)) := [.tick 0, .command .triggerStopScan]

/-- With a pre-roll that is just short of what the clock can show, a stop scan can be started early but not late. -/
theorem validated_ticks_late :
    ∃ past g, Run benchEquipment (fun (f : Instruments → Instruments) i => f i)
        (fresh { mandatoryClients := [], stopScanPreRoll := .ofDecimal false 9 18 } true benchInstruments benchTree)
        past g ∧
      past.map (·.2) = triggeredStopScan ∧
      (∀ fault, g.tick benchEquipment (millis 100) ≠ .error fault) ∧
      g.tick benchEquipment (1000000000000000000 * nanosPerSecond) = .error .instantOverflow := by
  let act (f : Instruments → Instruments) (i : Instruments) : Instruments := f i
  let params : ScanParams := { mandatoryClients := [], stopScanPreRoll := .ofDecimal false 9 18 }
  have played : (play benchEquipment act (fresh params true benchInstruments benchTree) triggeredStopScan).toOption.map
      (fun g => (g.drain.heedFailure benchEquipment).control.phase) = some .startingStopScan := by decide +kernel
  obtain ⟨g, whole, arms⟩ := Option.map_eq_some_iff.mp played
  obtain ⟨past, events, run⟩ := Run.start.play (toOption_eq_some.mp whole)
  have valid : params.validate = .ok () := ScanParams.validate_eq_ok.mpr (by decide +kernel)
  have answers : ∀ i t, ∃ answer, benchEquipment.allocate i t = .ok answer := fun i t => ⟨_, rfl⟩
  obtain ⟨t, stuck, _⟩ := validated_ticks valid answers
  have preRoll : t.preRoll = 9000000000000000000 * nanosPerSecond :=
    Option.some.inj (t.isPreRoll.symm.trans (by decide +kernel))
  have capture : t.capture = 30 * nanosPerSecond := Option.some.inj (t.isCapture.symm.trans (by decide +kernel))
  refine ⟨past, g, run, events, fun fault ticked => ?_, (stuck _ _ run _ _).mpr ⟨rfl, arms, ?_⟩⟩
  · obtain ⟨_, _, late⟩ := (stuck _ _ run _ _).mp ticked
    rw [preRoll, capture] at late
    exact absurd late (by decide)
  · rw [preRoll, capture]
    decide

/-- A pre-roll that is a duration but later than the clock can show at any time: the parameters are valid, and the tick
that starts the stop scan gets stuck. -/
theorem overlong_pre_roll :
    ({ mandatoryClients := [], stopScanPreRoll := .ofDecimal false 15 18 } : ScanParams).validate = .ok () ∧
      ∃ past g, Run Instruments.equipment (fun (f : Instruments → Instruments) i => f i)
          (fresh { mandatoryClients := [], stopScanPreRoll := .ofDecimal false 15 18 } true benchInstruments benchTree)
          past g ∧
        past.map (·.2) = triggeredStopScan ∧ millis 100 < Instant.limit ∧
        g.tick Instruments.equipment (millis 100) = .error .instantOverflow := by
  have played : ((play Instruments.equipment (fun (f : Instruments → Instruments) i => f i)
      (fresh { mandatoryClients := [], stopScanPreRoll := .ofDecimal false 15 18 } true benchInstruments benchTree)
      triggeredStopScan).toOption.bind fun g =>
        match g.tick Instruments.equipment (millis 100) with
        | .ok _ => none
        | .error fault => some fault) = some .instantOverflow := by decide +kernel
  obtain ⟨g, whole, stuck⟩ := Option.bind_eq_some_iff.mp played
  obtain ⟨past, events, run⟩ := Run.start.play (toOption_eq_some.mp whole)
  refine ⟨ScanParams.validate_eq_ok.mpr (by decide +kernel), past, g, run, events, by decide, ?_⟩
  split at stuck
  · cases stuck
  · rename_i ticked
    cases stuck
    exact ticked

end Rig

end CaptureRig

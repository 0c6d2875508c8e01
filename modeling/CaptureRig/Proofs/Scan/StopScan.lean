import CaptureRig.Proofs.Scan.Pause

namespace CaptureRig

namespace Rig

variable {ρ σ δ κ : Type} {E : Equipment ρ σ δ} {act : κ → σ → σ}

/-- A stop scan between two deadlines waits for one of them in a phase, with no failure reported. -/
structure Captures (first last : Instant) (phase : Phase) (g : Rig ρ σ δ) : Prop where
  under : phase = .stopScanInitialProgress ∨ phase = .stopScanInProgress
  phase : g.control.phase = phase
  first : g.control.deadlines.stopScanInitial = some first
  last : g.control.deadlines.stopScan = some last
  sound : g.control.sensorFailed = false

variable (E) in
/-- Commands have no effect on the rig, neither at once nor from the queue, and its ticks come to an end. -/
structure Deaf (g : Rig ρ σ δ) : Prop where
  rejects : ∀ c, g.apply c = (false, g)
  ignores : ∀ queue now, (g.withQueue queue).work E now = g.work E now ∧
    (g.withQueue queue).tick E now = g.tick E now
  works : ∀ now, ∃ settled, g.work E now = .ok settled
  ticks : g.control.params.Timing → ∀ now, ∃ wait g', g.tick E now = .ok (wait, g')

variable (E act) in
/-- A run in which no sensor fails and no tick is as late as a deadline. -/
structure RunBefore (deadline : Instant) (g : Rig ρ σ δ) (later : List (Rig ρ σ δ × Event ρ κ)) (g' : Rig ρ σ δ) :
    Prop where
  run : Run E act g later g'
  healthy : ∀ h, (h, Event.failure) ∉ later
  early : ∀ now ∈ instants later, now < deadline

theorem RunBefore.of_events {deadline : Instant} {g g' : Rig ρ σ δ} {later : List (Rig ρ σ δ × Event ρ κ)}
    {events : List (Event ρ κ)} (run : Run E act g later g') (same : later.map (·.2) = events)
    (healthy : Event.failure ∉ events) (early : ∀ now ∈ events.filterMap Event.instant?, now < deadline) :
    RunBefore E act deadline g later g' where
  run := run
  healthy _ member := healthy (same ▸ List.mem_map_of_mem member)
  early now member := early now (by rwa [← same, List.filterMap_map])

/-- Until a deadline of a stop scan there is nothing to do. -/
inductive Pending (first last now : Instant) : Phase → Prop
  | start (early : now < first) : Pending first last now .stopScanInitialProgress
  | finish (early : now < last) : Pending first last now .stopScanInProgress

namespace Captures

variable {first last now : Instant} {phase : Phase} {g g' : Rig ρ σ δ}

theorem of_pause (captures : Captures first last phase g) (pause : Pause g g') : Captures first last phase g' where
  under := captures.under
  phase := pause.phase.trans captures.phase
  first := (congrArg (·.stopScanInitial) pause.deadlines).trans captures.first
  last := (congrArg (·.stopScan) pause.deadlines).trans captures.last
  sound := pause.sound captures.sound

theorem closed (captures : Captures first last phase g) (c : Command) : c.isOpen g.control.phase = false := by
  rw [captures.phase]
  rcases captures.under with rfl | rfl <;> cases c <;> rfl

theorem step_pending (captures : Captures first last phase g) (pending : Pending first last now phase) :
    g.step E now = .ok g := by
  cases pending with
  | start early => simp [step, captures.phase, captures.first, due, Nat.not_le.mpr early]
  | finish early => simp [step, captures.phase, captures.last, due, Nat.not_le.mpr early]

theorem heeded (captures : Captures first last phase g) : g.drain.heedFailure E = g.withQueue [] :=
  heeded_quiet captures.sound (List.find?_eq_none.mpr fun c _ => by simp [captures.closed c])

theorem work_begins (captures : Captures first last .stopScanInitialProgress g) (due : first ≤ now) :
    g.work E now = .ok (((g.withQueue []).startAll E).moveTo .stopScanInProgress) := by
  have heeded := captures.heeded (E := E)
  have begun : (g.withQueue []).step E now = .ok (((g.withQueue []).startAll E).moveTo .stopScanInProgress) := by
    simp [step, withQueue, captures.phase, captures.first, Rig.due, due]
  exact work_of_step (by rw [heeded, begun]) (Or.inr (by rw [moveTo_control]; rfl))

/-- The capture ends and its chunk is committed within the same tick. -/
theorem work_ends (captures : Captures first last .stopScanInProgress g) (due : last ≤ now) :
    g.work E now = .ok (((g.withQueue []).moveTo .stoppingStopScan).commitThen E .stopScan .idle) := by
  have expired : (g.withQueue []).step E now = .ok ((g.withQueue []).moveTo .stoppingStopScan) := by
    simp [step, withQueue, captures.phase, captures.last, Rig.due, due]
  have stopping : ((g.withQueue []).moveTo .stoppingStopScan).control.phase = .stoppingStopScan := by rw [moveTo_control]
  have goesOn : ¬(((g.withQueue []).moveTo .stoppingStopScan).control.phase = (g.withQueue []).control.phase ∨
      (!((g.withQueue []).moveTo .stoppingStopScan).control.phase.isTransient) = true) := by
    have capturing : (g.withQueue []).control.phase = .stopScanInProgress := captures.phase
    rw [stopping, capturing]
    decide
  rw [work, captures.heeded, stepLimit, advance, expired]
  simp only [bind, Except.bind, if_neg goesOn]
  rw [advance_of_transient (by rw [stopping]; rfl)]
  simp only [step, stopping]

theorem works (captures : Captures first last phase g) (now : Instant) : ∃ settled, g.work E now = .ok settled := by
  have idle (pending : Pending first last now phase) : g.work E now = .ok (g.withQueue []) := by
    have heeded := captures.heeded (E := E)
    have still : (g.withQueue []).step E now = .ok (g.withQueue []) :=
      (captures.of_pause (.withQueue [] g)).step_pending pending
    exact work_of_step (by rw [heeded, still]) (Or.inl (by rw [heeded]))
  rcases captures.under with rfl | rfl
  · rcases Nat.lt_or_ge now first with early | due
    · exact ⟨_, idle (.start early)⟩
    · exact ⟨_, captures.work_begins due⟩
  · rcases Nat.lt_or_ge now last with early | due
    · exact ⟨_, idle (.finish early)⟩
    · exact ⟨_, captures.work_ends due⟩

theorem deaf (captures : Captures first last phase g) : Deaf E g where
  rejects c := apply_closed (captures.closed c)
  ignores queue now := by
    have same : (g.withQueue queue).work E now = g.work E now := by
      rw [work, work, captures.heeded, (captures.of_pause (.withQueue queue g)).heeded]
      rfl
    exact ⟨same, tick_congr same⟩
  works := captures.works
  ticks t now := by
    obtain ⟨settled, worked⟩ := captures.works (E := E) now
    exact tick_of_work t rfl worked

/-- Until its next deadline is over, a stop scan pauses. -/
theorem pause {deadline : Instant} {later : List (Rig ρ σ δ × Event ρ κ)} (captures : Captures first last phase g)
    (pending : ∀ now < deadline, Pending first last now phase) (before : RunBefore E act deadline g later g') :
    Pause g g' := by
  refine before.run.pause captures.closed captures.sound before.healthy fun h pause now member => ?_
  exact (captures.of_pause pause).step_pending (pending now (before.early now member))

end Captures

/-- A tick that starts a stop scan has no failure to heed. -/
theorem Arms.sound {g : Rig ρ σ δ} (arms : g.Arms E) : g.control.sensorFailed = false := by
  refine Bool.eq_false_iff.mpr fun failed => ?_
  have failing : g.Failing := Or.inl failed
  have error := failing.fate_isError
  rw [← heeded_phase (E := E) failing, arms] at error
  cases error

/-- What the tick that starts a stop scan comes to before the lamps show it. -/
theorem Arms.captures {g : Rig ρ σ δ} (arms : g.Arms E) (first last : Instant) :
    let armed := ((g.drain.heedFailure E).timed first last).moveTo .stopScanInitialProgress
    Captures first last .stopScanInitialProgress armed ∧ Inert g armed ∧ armed.attempts = g.attempts := by
  have sound : (g.drain.heedFailure E).control.sensorFailed = false :=
    (congrArg (·.2.2) ((fixed_kept (E := E) g.control.fixed).heeded rfl)).trans arms.sound
  have inert : Inert g (g.drain.heedFailure E) := (Inert.orders g).heeded (.refl g)
  have set : Inert (g.drain.heedFailure E) ((g.drain.heedFailure E).timed first last) := ⟨.of_same rfl, rfl, rfl⟩
  have attempts : (g.drain.heedFailure E).attempts = g.attempts := (attempts_orders _).heeded rfl
  refine ⟨⟨Or.inl rfl, by rw [moveTo_control], by rw [moveTo_control]; rfl, by rw [moveTo_control]; rfl, ?_⟩,
    (inert.trans set).trans (.moveTo _ _), (attempts_moveTo _ _).trans attempts⟩
  rw [moveTo_control]
  exact sound

/-- What the tick that begins the capture comes to before the lamps show it. -/
theorem Captures.begun {first last : Instant} {g : Rig ρ σ δ}
    (captures : Captures first last .stopScanInitialProgress g) :
    let begun := ((g.withQueue []).startAll E).moveTo .stopScanInProgress
    Captures first last .stopScanInProgress begun ∧ begun.attempts = g.attempts ∧
      begun.course = g.course ++ g.registry.loggers.map .started ++
        [.moved .stopScanInitialProgress .stopScanInProgress] := by
  have waiting : ((g.withQueue []).startAll E).control.phase = .stopScanInitialProgress := by
    rw [startAll_control]
    exact captures.phase
  have course : ((g.withQueue []).startAll E).course = g.course ++ g.registry.loggers.map .started :=
    course_startAll (g.withQueue [])
  refine ⟨⟨Or.inr rfl, by rw [moveTo_control], ?_, ?_, ?_⟩, ?_, ?_⟩
  · rw [moveTo_control, startAll_control]
    exact captures.first
  · rw [moveTo_control, startAll_control]
    exact captures.last
  · rw [moveTo_control, startAll_control]
    exact captures.sound
  · exact (attempts_moveTo _ _).trans (attempts_of_decisions (startAll_decisions E _))
  · rw [course_moveTo (by rw [waiting]; decide), course, waiting]

/-- What the tick that ends the capture comes to before the lamps show it. -/
theorem stopScan_ends {g : Rig ρ σ δ} {s : ScanSession} (present : g.control.session = some s) :
    let ended := ((g.withQueue []).moveTo .stoppingStopScan).commitThen E .stopScan .idle
    ∃ done, ended.attempts = g.attempts ++ [.committed (s.dir .stopScan) s.nextChunk true done] ∧
      Notes (Call.Closes (s.dir .stopScan) s.nextChunk) g ended ∧
      ended.control.deadlines = g.control.deadlines ∧
      ended.control.phase = if done then .idle else .storageError := by
  have expired := moveTo_closes (s.dir .stopScan) s.nextChunk .stoppingStopScan (g.withQueue [])
  have lodged : ((g.withQueue []).moveTo .stoppingStopScan).control.session = some s := by
    rw [moveTo_control]
    exact present
  obtain ⟨done, attempts, phase, deadlines, notes⟩ := commitThen_ends (E := E) .stopScan lodged
  refine ⟨done, ?_, expired.trans notes, ?_, phase⟩
  · rw [attempts, attempts_moveTo]
    rfl
  · rw [deadlines, moveTo_control]
    rfl

/-- The tick that finds a stop scan about to start fixes its two deadlines for good and does no work. Until the first of
them the rig waits. The first tick that finds it over starts every logger once, and then the capture goes on until the
second. The first tick after that one which finds this over makes the one commit of the stop scan, the last of its
loggers, into the directory of stop scans, writes every dump there under the number of that commit, and ends in a phase
that tells how it went. In between no command has any effect, and every tick comes to an end. -/
theorem stop_scan_timeline {params : ScanParams} {indicator : Bool} {instruments : σ} {files : Storage.Tree}
    {past : List (Rig ρ σ δ × Event ρ κ)} {g : Rig ρ σ δ}
    (run : Run E act (fresh params indicator instruments files) past g) (arms : g.Arms E)
    {preRoll capture : Duration} (before : params.stopScanPreRoll.duration? = some preRoll)
    (length : params.stopScanDuration.duration? = some capture) {now : Instant}
    (shown : now + preRoll + capture < Instant.limit) :
    let first := now + preRoll
    let last := now + preRoll + capture
    (∃ settled, g.work E now = .ok settled) ∧
    (params.Timing → ∃ wait g₀, g.tick E now = .ok (wait, g₀)) ∧
    ∀ e₀ g₀, e₀.instant? = some now → g.happen E act e₀ = .ok g₀ →
      Inert g g₀ ∧
      ∀ waiting h₁, RunBefore E act first g₀ waiting h₁ →
        Captures first last .stopScanInitialProgress h₁ ∧ Deaf E h₁ ∧ h₁.course = g₀.course ∧
        ∀ e₁ t₁ g₁, e₁.instant? = some t₁ → first ≤ t₁ → h₁.happen E act e₁ = .ok g₁ →
          g₁.course = g₀.course ++ h₁.registry.loggers.map .started ++
            [.moved .stopScanInitialProgress .stopScanInProgress] ∧
          ∀ capturing h₂, RunBefore E act last g₁ capturing h₂ →
            Captures first last .stopScanInProgress h₂ ∧ Deaf E h₂ ∧ h₂.course = g₁.course ∧
            ∀ e₂ t₂ g₂, e₂.instant? = some t₂ → last ≤ t₂ → h₂.happen E act e₂ = .ok g₂ →
              ∃ s done, h₂.control.session = some s ∧
                g₂.attempts = g.attempts ++ [.committed (s.dir .stopScan) s.nextChunk true done] ∧
                Notes (Call.Closes (s.dir .stopScan) s.nextChunk) h₂ g₂ ∧
                g₂.control.deadlines = h₂.control.deadlines ∧
                g₂.control.phase = if done then .idle else .storageError := by
  intro first last
  have params' : g.control.params = params := (params_lasting params).run run rfl
  have kept : (g.drain.heedFailure E).control.params = params := (heeded_params g).trans params'
  have armed : g.work E now =
      .ok (((g.drain.heedFailure E).timed first last).moveTo .stopScanInitialProgress) := by
    rw [arms.work_eq, armStopScan_eq (by rw [kept, before]) (by rw [kept, length]), if_pos shown]
  refine ⟨⟨_, armed⟩, fun t => tick_of_work t params' armed, fun e₀ g₀ ticks₀ entered => ?_⟩
  obtain ⟨start, inert, untried⟩ := arms.captures first last
  obtain ⟨settled₀, worked₀, shown₀⟩ := happen_work ticks₀ entered
  cases armed.symm.trans worked₀
  refine ⟨inert.trans shown₀.inert, fun waiting h₁ waits => ?_⟩
  have pause₁ : Pause g₀ h₁ := (start.of_pause shown₀).pause (fun _ => .start) waits
  have captures₁ : Captures first last .stopScanInitialProgress h₁ := (start.of_pause shown₀).of_pause pause₁
  refine ⟨captures₁, captures₁.deaf, pause₁.course, fun e₁ t₁ g₁ ticks₁ due₁ begins => ?_⟩
  obtain ⟨begun, untried₁, course₁⟩ := captures₁.begun (E := E)
  obtain ⟨settled₁, worked₁, shown₁⟩ := happen_work ticks₁ begins
  cases (captures₁.work_begins due₁).symm.trans worked₁
  refine ⟨by rw [shown₁.course, course₁, pause₁.course], fun capturing h₂ goesOn => ?_⟩
  have pause₂ : Pause g₁ h₂ := (begun.of_pause shown₁).pause (fun _ => .finish) goesOn
  have captures₂ : Captures first last .stopScanInProgress h₂ := (begun.of_pause shown₁).of_pause pause₂
  refine ⟨captures₂, captures₂.deaf, pause₂.course, fun e₂ t₂ g₂ ticks₂ due₂ ends => ?_⟩
  obtain ⟨settled₂, worked₂, shown₂⟩ := happen_work ticks₂ ends
  cases (captures₂.work_ends due₂).symm.trans worked₂
  have reached := ((((run.next entered).trans waits.run).next begins).trans goesOn.run)
  have lodged := (tenured_run reached).of_runs (by rw [captures₂.phase]; rfl)
  obtain ⟨s, present⟩ := Option.isSome_iff_exists.mp (by rwa [Option.isSome_map] at lodged)
  obtain ⟨done, attempts, notes, deadlines, phase⟩ := stopScan_ends (E := E) present
  refine ⟨s, done, present, ?_, notes.trans (shown₂.calls.mono fun c beside => ?_), ?_, shown₂.phase.trans phase⟩
  · rw [shown₂.attempts, attempts, pause₂.attempts, shown₁.attempts, untried₁, pause₁.attempts, shown₀.attempts, untried]
  · cases c with
    | provided | lamp => exact ⟨nofun, nofun⟩
    | _ => cases beside
  · rw [shown₂.deadlines, deadlines]

/-- A stop scan that is to start, with one client. -/
def loneStopScan : List (Event Instrument (Instruments → Instruments)) :=
  [.tick 0, .attach (.of "gnss" { logger := true, dumpable := true } .gnss), .command .triggerStopScan]

/-- A stop scan of five and thirty seconds of which a tick is late by more than both: it begins and ends all the same, and
the commands in between come to nothing. -/
theorem stop_scan_timeline_late :
    ∃ past g g₀ waiting h₁ g₁ capturing h₂ g₂,
      Run Instruments.equipment (fun f i => f i) (fresh { mandatoryClients := [] } true benchInstruments benchTree) past g ∧
      past.map (·.2) = loneStopScan ∧
      g.happen Instruments.equipment (fun (f : Instruments → Instruments) i => f i) (.tick (millis 100)) = .ok g₀ ∧
      RunBefore Instruments.equipment (fun (f : Instruments → Instruments) i => f i) (millis 5100) g₀ waiting h₁ ∧
      waiting.map (·.2) = [.send .startScan, .tick (millis 5000), .send .stopScan] ∧
      h₁.happen Instruments.equipment (fun (f : Instruments → Instruments) i => f i) (.tick (millis 40000)) = .ok g₁ ∧
      RunBefore Instruments.equipment (fun (f : Instruments → Instruments) i => f i) (millis 35100) g₁ capturing h₂ ∧
      capturing.map (·.2) = [.command .triggerContinuousScanning] ∧
      h₂.happen Instruments.equipment (fun (f : Instruments → Instruments) i => f i) (.tick (millis 40000)) = .ok g₂ ∧
      h₁.control.phase = .stopScanInitialProgress ∧
      g₁.course = g₀.course ++ [.started .gnss, .moved .stopScanInitialProgress .stopScanInProgress] ∧
      h₂.course = g₁.course ∧ g₂.attempts = g.attempts ++ [.committed "usb/stop" 0 true true] ∧
      g₂.control.phase = .idle := by
  let act (f : Instruments → Instruments) (i : Instruments) : Instruments := f i
  let play (g : Station) := play Instruments.equipment act g
  let happen (g : Station) := happen Instruments.equipment act g
  have played : ((play (fresh { mandatoryClients := [] } true benchInstruments benchTree) loneStopScan).toOption.bind
      fun g => (happen g (.tick (millis 100))).toOption.bind fun g₀ =>
        (play g₀ [.send .startScan, .tick (millis 5000), .send .stopScan]).toOption.bind fun h₁ =>
          (happen h₁ (.tick (millis 40000))).toOption.bind fun g₁ =>
            (play g₁ [.command .triggerContinuousScanning]).toOption.bind fun h₂ =>
              (happen h₂ (.tick (millis 40000))).toOption.map fun g₂ =>
                ((g.drain.heedFailure Instruments.equipment).control.phase, h₁.registry.loggers, h₂.control.session,
                  g₂.control.phase)) =
      some (.startingStopScan, [.gnss], some { dirs := ⟨0, "usb/continuous", "usb/stop"⟩ }, .idle) := by decide +kernel
  obtain ⟨g, first, rest⟩ := Option.bind_eq_some_iff.mp played
  obtain ⟨g₀, entered, rest⟩ := Option.bind_eq_some_iff.mp rest
  obtain ⟨h₁, second, rest⟩ := Option.bind_eq_some_iff.mp rest
  obtain ⟨g₁, begins, rest⟩ := Option.bind_eq_some_iff.mp rest
  obtain ⟨h₂, third, rest⟩ := Option.bind_eq_some_iff.mp rest
  obtain ⟨g₂, ends, seen⟩ := Option.map_eq_some_iff.mp rest
  obtain ⟨arms, loggers, session, idle⟩ : _ ∧ _ ∧ _ ∧ _ := by simpa only [Prod.mk.injEq] using seen
  obtain ⟨past, events, run⟩ := Run.start.play (toOption_eq_some.mp first)
  obtain ⟨waiting, wait, on⟩ := Run.start.play (toOption_eq_some.mp second)
  obtain ⟨capturing, capture, goesOn⟩ := Run.start.play (toOption_eq_some.mp third)
  have waits : RunBefore Instruments.equipment act (millis 5100) g₀ waiting h₁ :=
    .of_events on wait (by simp) (by decide)
  have captures : RunBefore Instruments.equipment act (millis 35100) g₁ capturing h₂ :=
    .of_events goesOn capture (by simp) (by decide)
  have preRoll : ({ mandatoryClients := [] } : ScanParams).stopScanPreRoll.duration? = some (millis 5000) := by
    decide +kernel
  have length : ({ mandatoryClients := [] } : ScanParams).stopScanDuration.duration? = some (millis 30000) := by
    decide +kernel
  have shown : millis 100 + millis 5000 + millis 30000 < Instant.limit := by decide
  obtain ⟨_, _, timeline⟩ := stop_scan_timeline run arms preRoll length shown
  obtain ⟨_, timeline⟩ := timeline _ _ rfl (toOption_eq_some.mp entered)
  obtain ⟨captures₁, _, _, timeline⟩ := timeline _ _ waits
  obtain ⟨started, timeline⟩ := timeline _ _ _ rfl (by decide) (toOption_eq_some.mp begins)
  obtain ⟨_, _, same, timeline⟩ := timeline _ _ captures
  obtain ⟨s, done, present, attempts, _, _, phase⟩ := timeline _ _ _ rfl (by decide) (toOption_eq_some.mp ends)
  cases session.symm.trans present
  cases done with
  | false => cases idle.symm.trans phase
  | true =>
    refine ⟨past, g, g₀, waiting, h₁, g₁, capturing, h₂, g₂, run, events, toOption_eq_some.mp entered, waits, wait,
      toOption_eq_some.mp begins, captures, capture, toOption_eq_some.mp ends, captures₁.phase, ?_, same, attempts, idle⟩
    rw [started, loggers, List.append_assoc]
    rfl

end Rig

end CaptureRig

import CaptureRig.Proofs.Scan.Pause

namespace CaptureRig

/-- Of some instants, those chosen greedily so that each is the next at least an interval after the one chosen last. -/
def cadence (interval : Duration) (last : Instant) : List Instant → List Instant
  | [] => []
  | now :: later =>
    if interval ≤ last.elapsed now then now :: cadence interval now later else cadence interval last later

theorem cadence_append (interval : Duration) (last now : Instant) (ticks : List Instant) :
    cadence interval last (ticks ++ [now]) =
      let chosen := cadence interval last ticks
      if interval ≤ (chosen.getLastD last).elapsed now then chosen ++ [now] else chosen := by
  induction ticks generalizing last with
  | nil => rfl
  | cons tick rest ih =>
    simp only [List.cons_append, cadence]
    split
    · rw [ih tick]
      dsimp only
      rw [List.getLastD_cons]
      split <;> rfl
    · exact ih last

theorem Command.target_ne_scanning {c : Command} {p q : Phase} (opened : c.target? p = some q) : q ≠ .scanning := by
  cases c <;> cases p <;> cases opened <;> decide

namespace Rig

variable {ρ σ δ κ : Type} {E : Equipment ρ σ δ} {act : κ → σ → σ}

variable (E act) in
/-- The instants of the ticks of a run that try a commit. -/
def committing (past : List (Rig ρ σ δ × Event ρ κ)) : List Instant :=
  past.filterMap fun (g, e) =>
    match g.happen E act e with
    | .ok g' => if g'.commitCount = g.commitCount then none else e.instant?
    | .error _ => none

/-- A continuous scan goes on, with its last chunk begun at an instant and no failure reported. -/
structure Scans (interval : Duration) (start : Instant) (g : Rig ρ σ δ) : Prop where
  phase : g.control.phase = .scanning
  start : g.control.deadlines.chunkStart = some start
  sound : g.control.sensorFailed = false
  period : g.control.params.commitInterval.duration? = some interval
  lodged : g.control.session.isSome = true

/-- A tick makes the commit of a chunk that goes well, and stops no logger. -/
structure CommitsOne (g g' : Rig ρ σ δ) : Prop where
  attempt : ∃ s, g.control.session = some s ∧
    g'.attempts = g.attempts ++ [.committed (s.dir .continuous) s.nextChunk false true]
  calls : Notes (fun c => ∀ r, c ≠ .stopped r) g g'

/-- A commit is tried and fails. -/
def FailsOne (g g' : Rig ρ σ δ) : Prop :=
  ∃ dir index stop, g'.attempts = g.attempts ++ [.committed dir index stop false]

namespace Scans

variable {interval : Duration} {start now : Instant} {g g' : Rig ρ σ δ}

theorem of_pause (scans : Scans interval start g) (pause : Pause g g') : Scans interval start g' where
  phase := pause.phase.trans scans.phase
  start := (congrArg (·.chunkStart) pause.deadlines).trans scans.start
  sound := pause.sound scans.sound
  period := by
    have params : g'.control.params = g.control.params := congrArg (·.1) pause.fixed
    rw [params, scans.period]
  lodged := by rw [pause.session, scans.lodged]

theorem step_eq (scans : Scans interval start g) (now : Instant) :
    g.step E now =
      if interval ≤ start.elapsed now then
        match g.commitChunk E .continuous false with
        | (true, h) => .ok (h.setDeadlines { h.control.deadlines with chunkStart := some now })
        | (false, h) => .ok (h.fail E .storageError)
      else .ok g := by
  have same : g.setDeadlines { g.control.deadlines with chunkStart := some start } = g := by
    rw [setDeadlines, ← scans.start]
  have needed := Binary64.needed_eq_ok.mpr scans.period
  simp only [step, scans.phase, continueScan, scans.start, Option.getD_some, same, needed, bind, Except.bind]
  split
  · cases g.commitChunk E .continuous false with
    | mk done h => cases done <;> rfl
  · rfl

/-- A chunk that is due is committed, and the next one begins. -/
theorem commits (scans : Scans interval start g) (quiet : g.chosen = none) (due : interval ≤ start.elapsed now)
    {settled : Rig ρ σ δ} (worked : g.work E now = .ok settled) (unfailed : ¬FailsOne g settled) :
    Scans interval now settled ∧ CommitsOne g settled := by
  have heeded := heeded_quiet (E := E) scans.sound quiet
  have step := (scans.of_pause (.withQueue [] g)).step_eq (E := E) now
  rw [if_pos due] at step
  obtain ⟨s, present⟩ := Option.isSome_iff_exists.mp scans.lodged
  cases tried : (g.withQueue []).commitChunk E .continuous false with
  | mk done h =>
    have attempts : h.attempts = g.attempts ++ [.committed (s.dir .continuous) s.nextChunk false done] :=
      attempts_chunk (g := g.withQueue []) present tried
    have unstopped : Notes (fun c => ∀ r, c ≠ .stopped r) (g.withQueue []) h :=
      (commitChunk_notes (g := g.withQueue []) present tried).mono fun c kind => by
        rcases kind with called | commit | ⟨_, _, rfl⟩
        · cases called with
          | stopped asked => cases asked
          | _ => exact nofun
        · rintro r rfl
          cases commit
        · exact nofun
    rw [tried] at step
    cases done with
    | false =>
      have lost : g.work E now = .ok (h.fail E .storageError) :=
        work_of_step (by rw [heeded, step]) (Or.inr (by rw [fail_control]; rfl))
      cases worked.symm.trans lost
      refine absurd ⟨s.dir .continuous, s.nextChunk, false, ?_⟩ unfailed
      rw [attempts_fail, attempts]
    | true =>
      obtain ⟨_, _, control, _⟩ := commitChunk_done tried
      have phase : h.control.phase = .scanning := by
        rw [control]
        exact scans.phase
      have filed : g.work E now = .ok (h.setDeadlines { h.control.deadlines with chunkStart := some now }) :=
        work_of_step (by rw [heeded, step]) (Or.inr (by simp [setDeadlines, phase, Phase.isTransient]))
      cases worked.symm.trans filed
      refine ⟨⟨phase, rfl, ?_, ?_, ?_⟩, ⟨s, present, attempts⟩, unstopped⟩
      · rw [setDeadlines, control]
        exact scans.sound
      · rw [setDeadlines, control]
        exact scans.period
      · rw [setDeadlines, control]
        rfl

/-- A command that is accepted ends the scan, whether a chunk is due or not. -/
theorem work_ends (scans : Scans interval start g) {c : Command} (accepted : g.chosen = some c) (now : Instant) :
    g.work E now = .ok (((g.withQueue []).moveTo .stopping).commitThen E .continuous .idle) := by
  obtain ⟨target, leads, heeded⟩ := heeded_accepted (E := E) scans.sound accepted
  have stopping : target = .stopping := by
    rw [scans.phase] at leads
    cases c <;> cases leads <;> rfl
  have phase : ((g.withQueue []).moveTo .stopping).control.phase = .stopping := by rw [moveTo_control]
  rw [work, heeded, stopping, stepLimit, advance_of_transient (by rw [phase]; rfl)]
  simp only [step, phase]

theorem works (scans : Scans interval start g) (now : Instant) : ∃ settled, g.work E now = .ok settled := by
  cases quiet : g.chosen with
  | some c => exact ⟨_, scans.work_ends quiet now⟩
  | none =>
    have heeded := heeded_quiet (E := E) scans.sound quiet
    obtain ⟨next, step⟩ := continueScan_ok (E := E) (g := g.withQueue []) scans.period now
    have phase : (g.withQueue []).control.phase = .scanning := scans.phase
    have stepped : (g.withQueue []).step E now = .ok next := by simp only [Rig.step, phase, step]
    refine ⟨next, work_of_step (by rw [heeded, stepped]) ?_⟩
    rw [heeded, phase]
    rcases step_deed stepped with ⟨rfl, _⟩ | deed
    · exact Or.inl phase
    cases deed with
    | waited scanning => exact Or.inl scanning
    | filed scanning _ _ done => exact Or.inl ((commitChunk_moves done).2.trans scanning)
    | expired capturing => cases phase.symm.trans capturing
    | _ => exact Or.inr (by simp [Phase.isTransient])

/-- Whatever happens while no command is accepted is a pause, or a tick at which a chunk is due. -/
theorem happens (scans : Scans interval start g) {e : Event ρ κ} (quiet : g.Quiet e)
    (done : g.happen E act e = .ok g') (unfailed : ¬FailsOne g g') :
    (Pause g g' ∧ ∀ now, e.instant? = some now → ¬interval ≤ start.elapsed now) ∨
      ∃ now, e.instant? = some now ∧ interval ≤ start.elapsed now ∧ Scans interval now g' ∧ CommitsOne g g' := by
  cases ticks : e.instant? with
  | none => exact Or.inl ⟨quiet.pause ticks done, nofun⟩
  | some now =>
    by_cases due : interval ≤ start.elapsed now
    · obtain ⟨settled, worked, shown⟩ := happen_work ticks done
      rw [FailsOne, shown.attempts] at unfailed
      obtain ⟨goesOn, attempt, calls⟩ := scans.commits (quiet.chosen ticks) due worked unfailed
      refine Or.inr ⟨now, rfl, due, goesOn.of_pause shown, ?_, ?_⟩
      · rwa [shown.attempts]
      · exact calls.trans (shown.calls.mono (by rintro _ beside r rfl; cases beside))
    · refine Or.inl ⟨quiet.still scans.sound (fun t same => ?_) done, fun t same => ?_⟩
      · cases ticks.symm.trans same
        rw [(scans.of_pause (.withQueue [] g)).step_eq, if_neg due]
      · cases same
        exact due

end Scans

theorem committing_pause {g g' : Rig ρ σ δ} {e : Event ρ κ} (pause : Pause g g') (done : g.happen E act e = .ok g') :
    committing E act [(g, e)] = [] := by
  have same : g'.commitCount = g.commitCount := by rw [commitCount_eq, pause.attempts, ← commitCount_eq]
  simp [committing, done, same]

theorem CommitsOne.committing {g g' : Rig ρ σ δ} {e : Event ρ κ} {now : Instant} (one : CommitsOne g g')
    (ticks : e.instant? = some now) (done : g.happen E act e = .ok g') : committing E act [(g, e)] = [now] := by
  obtain ⟨s, _, attempts⟩ := one.attempt
  have more : g'.commitCount = g.commitCount + 1 := by
    rw [commitCount_eq, attempts, List.length_append, ← commitCount_eq]
    rfl
  simp [Rig.committing, done, more, ticks]

/-- A run of a scan keeps the cadence as long as no command is accepted and no commit fails. -/
theorem Scans.run {interval : Duration} {start : Instant} {g g' : Rig ρ σ δ}
    {later : List (Rig ρ σ δ × Event ρ κ)} (scans : Scans interval start g) (on : Run E act g later g')
    (quiet : ∀ h e, (h, e) ∈ later → h.Quiet e)
    (unfailed : ∀ h e h', (h, e) ∈ later → h.happen E act e = .ok h' → ¬FailsOne h h') :
    Scans interval ((cadence interval start (instants later)).getLastD start) g' ∧
      committing E act later = cadence interval start (instants later) ∧
      ∀ h e h', (h, e) ∈ later → h.happen E act e = .ok h' → h'.attempts = h.attempts ∨ CommitsOne h h' := by
  induction on with
  | start => exact ⟨scans, rfl, fun _ _ _ member => absurd member List.not_mem_nil⟩
  | @next later h e h' _ done ih =>
    obtain ⟨goesOn, ticked, each⟩ := ih (fun h e member => quiet h e (List.mem_append_left _ member))
      fun h e h' member => unfailed h e h' (List.mem_append_left _ member)
    have here : (h, e) ∈ later ++ [(h, e)] := List.mem_append_right _ List.mem_cons_self
    have split : committing E act (later ++ [(h, e)]) = committing E act later ++ committing E act [(h, e)] :=
      List.filterMap_append
    have times : instants (later ++ [(h, e)]) = instants later ++ e.instant?.toList := by
      rw [instants, List.filterMap_append]
      cases e <;> rfl
    have last (same : h'.attempts = h.attempts ∨ CommitsOne h h') : ∀ k d k', (k, d) ∈ later ++ [(h, e)] →
        k.happen E act d = .ok k' → k'.attempts = k.attempts ∨ CommitsOne k k' := by
      intro k d k' member happened
      rcases List.mem_append.mp member with member | member
      · exact each k d k' member happened
      · cases List.mem_singleton.mp member
        cases done.symm.trans happened
        exact same
    rw [split, ticked, times]
    -- The chunk last begun is the last one chosen so far, so both judge the next tick by the same instant.
    rcases goesOn.happens (quiet h e here) done (unfailed h e h' here done) with ⟨pause, early⟩ | ⟨now, ticks, due, begun, one⟩
    · rw [committing_pause pause done, List.append_nil]
      have same : cadence interval start (instants later ++ e.instant?.toList) =
          cadence interval start (instants later) := by
        cases ticks : e.instant? with
        | none => rw [Option.toList_none, List.append_nil]
        | some now => exact (cadence_append ..).trans (if_neg (early now ticks))
      rw [same]
      exact ⟨goesOn.of_pause pause, rfl, last (Or.inl pause.attempts)⟩
    · rw [one.committing ticks done, ticks, Option.toList_some, cadence_append]
      dsimp only
      rw [if_pos due, List.getLastD_concat]
      exact ⟨begun, rfl, last (Or.inr one)⟩

/-- No command and no failure leads straight to a scan that goes on. -/
theorem Readied.not_scanning {g h : Rig ρ σ δ} (readied : Readied E g h) (elsewhere : g.control.phase ≠ .scanning) :
    h.control.phase ≠ .scanning := by
  have orders : KeptByOrders E fun h : Rig ρ σ δ => h.control.phase = .scanning → g.control.phase = .scanning :=
    { command := fun opened _ there => by
        rw [moveTo_control] at there
        exact absurd there (Command.target_ne_scanning opened)
      failure := fun _ _ _ there => by
        rw [fail_control] at there
        cases there
      queue := fun _ same => same }
  cases readied with
  | heeded => exact fun there => elsewhere (orders.heeded id there)
  | expired => simp

/-- The tick that enters a continuous scan commits nothing, and begins its first chunk. -/
theorem scan_entered {g g₀ : Rig ρ σ δ} {e : Event ρ κ} {now : Instant} (ticks : e.instant? = some now)
    (elsewhere : g.control.phase ≠ .scanning) (entered : g.happen E act e = .ok g₀)
    (scanning : g₀.control.phase = .scanning) :
    g₀.attempts = g.attempts ∧ g₀.control.deadlines.chunkStart = some now ∧ g₀.control.sensorFailed = false := by
  obtain ⟨settled, worked, shown⟩ := happen_work ticks entered
  have there : settled.control.phase = .scanning := shown.phase.symm.trans scanning
  obtain ⟨_, h, readied, last⟩ := work_last worked
  have untried : h.attempts = g.attempts := by
    have heeded : (g.drain.heedFailure E).attempts = g.attempts := (attempts_orders _).heeded rfl
    cases readied with
    | heeded => exact heeded
    | expired => rw [attempts_moveTo, heeded]
  have sound : settled.control.sensorFailed = false := by
    refine Bool.eq_false_iff.mpr fun failed => ?_
    have reported : settled.control.sensorFailed = g.control.sensorFailed :=
      congrArg (·.2.2) ((fixed_kept g.control.fixed).work worked rfl)
    have failing : g.Failing := Or.inl (reported ▸ failed)
    have error := failing.fate_isError
    rw [← (failing.work_inert worked).2, there] at error
    cases error
  have begun : settled.attempts = h.attempts ∧ settled.control.deadlines.chunkStart = some now := by
    rcases step_deed last with ⟨rfl, _⟩ | deed
    · exact absurd there (readied.not_scanning elsewhere)
    cases deed with
    | launched =>
      rw [attempts_moveTo, moveTo_control]
      exact ⟨attempts_of_decisions (startAll_decisions E h), rfl⟩
    | waited before | filed before => exact absurd before (readied.not_scanning elsewhere)
    | _ => simp at there
  exact ⟨by rw [shown.attempts, begun.1, untried], by rw [shown.deadlines, begun.2], shown.sound sound⟩

/-- The tick that enters a continuous scan commits nothing. Of the ticks that follow, as long as no command is accepted
and no commit fails, those commit that are chosen greedily, each the next at least an interval after the one before it;
a chunk begins when the last one was committed, and the loggers go on. A tick that accepts a command makes one commit,
the last, whether a chunk is due or not, and ends in a phase that tells how it went. Every tick comes to an end. -/
theorem commits_cadenced {params : ScanParams} {indicator : Bool} {instruments : σ} {files : Storage.Tree}
    {past later : List (Rig ρ σ δ × Event ρ κ)} {g g₀ g' : Rig ρ σ δ} {e₀ : Event ρ κ} {start : Instant}
    (run : Run E act (fresh params indicator instruments files) past g) (ticks : e₀.instant? = some start)
    (elsewhere : g.control.phase ≠ .scanning) (entered : g.happen E act e₀ = .ok g₀)
    (scanning : g₀.control.phase = .scanning) {interval : Duration}
    (period : params.commitInterval.duration? = some interval) (on : Run E act g₀ later g')
    (quiet : ∀ h e, (h, e) ∈ later → h.Quiet e)
    (unfailed : ∀ h e h', (h, e) ∈ later → h.happen E act e = .ok h' → ¬FailsOne h h') :
    let chosen := cadence interval start (instants later)
    (g₀.attempts = g.attempts ∧ g₀.control.deadlines.chunkStart = some start) ∧
    (committing E act later = chosen ∧ g'.control.phase = .scanning ∧
      g'.control.deadlines.chunkStart = some (chosen.getLastD start)) ∧
    (∀ h e h', (h, e) ∈ later → h.happen E act e = .ok h' → h'.attempts = h.attempts ∨ CommitsOne h h') ∧
    (∀ c, g'.chosen = some c → ∀ e now g'', e.instant? = some now → g'.happen E act e = .ok g'' →
      ∃ s done, g'.control.session = some s ∧
        g''.attempts = g'.attempts ++ [.committed (s.dir .continuous) s.nextChunk true done] ∧
        g''.control.phase = if done then .idle else .storageError) ∧
    (∀ now, ∃ settled, g'.work E now = .ok settled) ∧
    (params.Timing → ∀ now, ∃ wait t, g'.tick E now = .ok (wait, t)) := by
  intro chosen
  have reached := run.next entered
  have params₀ : g₀.control.params = params := (params_lasting params).run reached rfl
  have params' : g'.control.params = params := (params_lasting params).run on params₀
  obtain ⟨untried, begun, sound⟩ := scan_entered ticks elsewhere entered scanning
  have lodged := (tenured_run reached).of_runs (by rw [scanning]; rfl)
  have scans : Scans interval start g₀ :=
    ⟨scanning, begun, sound, by rw [params₀, period], by rwa [Option.isSome_map] at lodged⟩
  obtain ⟨goesOn, committed, each⟩ := scans.run on quiet unfailed
  refine ⟨⟨untried, begun⟩, ⟨committed, goesOn.phase, goesOn.start⟩, each, ?_, goesOn.works, fun t now => ?_⟩
  · intro c accepted e now g'' ticks ends
    obtain ⟨settled, worked, shown⟩ := happen_work ticks ends
    cases (goesOn.work_ends accepted now).symm.trans worked
    obtain ⟨s, present⟩ := Option.isSome_iff_exists.mp goesOn.lodged
    have present' : ((g'.withQueue []).moveTo .stopping).control.session = some s := by
      rw [moveTo_control]
      exact present
    obtain ⟨done, attempts, phase, _⟩ := commitThen_ends (E := E) .continuous present'
    refine ⟨s, done, present, ?_, shown.phase.trans phase⟩
    rw [shown.attempts, attempts, attempts_moveTo]
    rfl
  · obtain ⟨settled, worked⟩ := goesOn.works (E := E) now
    exact tick_of_work t params' worked

/-- A continuous scan that is to start, with one client. -/
def loneScan : List (Event Instrument (Instruments → Instruments)) :=
  [.tick 0, .attach (.of "gnss" { logger := true, dumpable := true } .gnss), .send .startScan]

/-- With ten seconds between chunks, one tick is just too early, one late by more than two chunks, and one goes back in
time. Two of them commit, and so does the tick that stops the scan, though a chunk is due at it as well. -/
theorem commits_cadenced_late :
    ∃ past g g₀ later g' g'',
      Run Instruments.equipment (fun f i => f i) (fresh { mandatoryClients := [] } true benchInstruments benchTree) past g ∧
      past.map (·.2) = loneScan ∧
      g.happen Instruments.equipment (fun (f : Instruments → Instruments) i => f i) (.tick (millis 300)) = .ok g₀ ∧
      Run Instruments.equipment (fun (f : Instruments → Instruments) i => f i) g₀ later g' ∧
      instants later = [millis 10200, millis 45000, millis 40000, millis 55000] ∧
      committing Instruments.equipment (fun (f : Instruments → Instruments) i => f i) later =
        [millis 45000, millis 55000] ∧
      g'.control.deadlines.chunkStart = some (millis 55000) ∧ g'.chosen = some .stopScan ∧
      g'.happen Instruments.equipment (fun (f : Instruments → Instruments) i => f i) (.tick (millis 70000)) = .ok g'' ∧
      g''.attempts = g'.attempts ++ [.committed "usb/continuous" 2 true true] ∧ g''.control.phase = .idle := by
  let act (f : Instruments → Instruments) (i : Instruments) : Instruments := f i
  let ticked (now : Instant) (g : Station) := (g.happen Instruments.equipment act (.tick now)).toOption
  let chunk (index : Nat) : Call Instrument Chunk.Dump := .committed "usb/continuous" index false true
  have played : ((play Instruments.equipment act (fresh { mandatoryClients := [] } true benchInstruments benchTree)
      loneScan).toOption.bind fun g => (ticked (millis 300) g).bind fun g₀ => (ticked (millis 10200) g₀).bind fun h₁ =>
        (ticked (millis 45000) h₁).bind fun h₂ => (ticked (millis 40000) h₂).bind fun h₃ =>
          (ticked (millis 55000) h₃).bind fun h₄ => (ticked (millis 70000) (h₄.send .stopScan)).map fun g'' =>
            ([g.control.phase, g₀.control.phase, h₄.control.phase, g''.control.phase],
              [g₀.chosen.isNone, h₁.chosen.isNone, h₂.chosen.isNone, h₃.chosen.isNone],
              decide ([g₀.attempts, h₁.attempts, h₂.attempts, h₃.attempts, h₄.attempts] = [[], [], [chunk 0], [chunk 0],
                [chunk 0, chunk 1]]), h₄.control.session)) =
      some ([.idle, .scanning, .scanning, .idle], [true, true, true, true], true,
        some { dirs := ⟨0, "usb/continuous", "usb/stop"⟩, continuousChunks := 2 }) := by decide +kernel
  obtain ⟨g, first, rest⟩ := Option.bind_eq_some_iff.mp played
  obtain ⟨g₀, entered, rest⟩ := Option.bind_eq_some_iff.mp rest
  obtain ⟨h₁, tick₁, rest⟩ := Option.bind_eq_some_iff.mp rest
  obtain ⟨h₂, tick₂, rest⟩ := Option.bind_eq_some_iff.mp rest
  obtain ⟨h₃, tick₃, rest⟩ := Option.bind_eq_some_iff.mp rest
  obtain ⟨h₄, tick₄, rest⟩ := Option.bind_eq_some_iff.mp rest
  obtain ⟨g'', ends, seen⟩ := Option.map_eq_some_iff.mp rest
  obtain ⟨⟨idle, scanning, goesOn, resting⟩, ⟨quiet₀, quiet₁, quiet₂, quiet₃⟩,
      ⟨tried₀, tried₁, tried₂, tried₃, tried₄⟩, session⟩ :
      (_ ∧ _ ∧ _ ∧ _) ∧ (_ ∧ _ ∧ _ ∧ _) ∧ (_ ∧ _ ∧ _ ∧ _ ∧ _) ∧ _ := by
    simpa only [Prod.mk.injEq, List.cons.injEq, and_true, Option.isNone_iff_eq_none, decide_eq_true_eq] using seen
  have accepted : (h₄.send .stopScan).chosen = some .stopScan := by
    have empty : h₄.control.queue = [] := happen_queue rfl (toOption_eq_some.mp tick₄)
    rw [Rig.chosen, send, goesOn, empty]
    rfl
  obtain ⟨past, events, run⟩ := Run.start.play (toOption_eq_some.mp first)
  have on : Run Instruments.equipment act g₀ _ (h₄.send .stopScan) :=
    ((((Run.start.next (toOption_eq_some.mp tick₁)).next (toOption_eq_some.mp tick₂)).next
      (toOption_eq_some.mp tick₃)).next (toOption_eq_some.mp tick₄)).next (e := .send .stopScan) rfl
  have each : ∀ h e, (h, e) ∈ ([] ++ [(g₀, .tick (millis 10200))] ++ [(h₁, .tick (millis 45000))] ++
      [(h₂, .tick (millis 40000))] ++ [(h₃, .tick (millis 55000))] ++ [(h₄, .send .stopScan)] :
        List (Station × Event Instrument (Instruments → Instruments))) →
      h.Quiet e ∧ ∀ h', h.happen Instruments.equipment act e = .ok h' → ¬FailsOne h h' := by
    simp only [List.nil_append, List.cons_append, List.mem_cons, List.not_mem_nil, or_false, Prod.mk.injEq]
    rintro h e (⟨rfl, rfl⟩ | ⟨rfl, rfl⟩ | ⟨rfl, rfl⟩ | ⟨rfl, rfl⟩ | ⟨rfl, rfl⟩)
    · refine ⟨quiet₀, ?_⟩
      rintro h' done ⟨dir, index, stop, failed⟩
      cases (toOption_eq_some.mp tick₁).symm.trans done
      simp [tried₀, tried₁] at failed
    · refine ⟨quiet₁, ?_⟩
      rintro h' done ⟨dir, index, stop, failed⟩
      cases (toOption_eq_some.mp tick₂).symm.trans done
      simp [tried₁, tried₂, chunk] at failed
    · refine ⟨quiet₂, ?_⟩
      rintro h' done ⟨dir, index, stop, failed⟩
      cases (toOption_eq_some.mp tick₃).symm.trans done
      simp [tried₂, tried₃] at failed
    · refine ⟨quiet₃, ?_⟩
      rintro h' done ⟨dir, index, stop, failed⟩
      cases (toOption_eq_some.mp tick₄).symm.trans done
      simp [tried₃, tried₄, chunk] at failed
    · refine ⟨trivial, ?_⟩
      rintro h' done ⟨dir, index, stop, failed⟩
      cases done
      have same : (h.send .stopScan).attempts = h.attempts := rfl
      simp [same] at failed
  have ticks : (.tick (millis 300) : Event Instrument (Instruments → Instruments)).instant? = some (millis 300) := rfl
  have period : ({ mandatoryClients := [] } : ScanParams).commitInterval.duration? = some (millis 10000) := by
    decide +kernel
  obtain ⟨_, ⟨committed, _, begun⟩, _, stops, _⟩ := commits_cadenced run ticks (by rw [idle]; decide)
    (toOption_eq_some.mp entered) scanning period on (fun h e member => (each h e member).1)
    fun h e h' member => (each h e member).2 h'
  obtain ⟨s, done, present, attempts, phase⟩ := stops _ accepted _ _ _ rfl (toOption_eq_some.mp ends)
  cases session.symm.trans present
  cases done with
  | false => cases resting.symm.trans phase
  | true =>
    exact ⟨past, g, g₀, _, _, g'', run, events, toOption_eq_some.mp entered, on, rfl, committed, begun, accepted,
      toOption_eq_some.mp ends, attempts, resting⟩

end Rig

end CaptureRig

import CaptureRig.Proofs.Scan.Run

namespace CaptureRig

/-- The table of transitions. -/
inductive Phase.Follows : Phase → Phase → Prop
  | ready : Follows .waitForResources .idle
  | start : Follows .idle .startingScan
  | startStopScan : Follows .idle .startingStopScan
  | started : Follows .startingScan .scanning
  | stop : Follows .scanning .stopping
  | stopped : Follows .stopping .idle
  | armed : Follows .startingStopScan .stopScanInitialProgress
  | begun : Follows .stopScanInitialProgress .stopScanInProgress
  | captured : Follows .stopScanInProgress .stoppingStopScan
  | finished : Follows .stoppingStopScan .idle
  | storage {p : Phase} (writing : p ∈ [.waitForResources, .scanning, .stopping, .stoppingStopScan]) :
      Follows p .storageError
  | sensor {p : Phase} : Follows p .lidarError

/-- Changes of phase that join up, each an entry of the table. -/
inductive Phase.Trail (first : Phase) : List (Phase × Phase) → Phase → Prop
  | start : Trail first [] first
  | next {moves p q} (trail : Trail first moves p) (follows : Follows p q) : Trail first (moves ++ [(p, q)]) q

/-- The change of phase that a call tells of. -/
def Call.move? {ρ δ : Type} : Call ρ δ → Option (Phase × Phase)
  | .moved source target => some (source, target)
  | _ => none

theorem Command.target_follows {c : Command} {p q : Phase} (opened : c.target? p = some q) : p.Follows q := by
  cases c <;> cases p <;> cases opened <;> constructor

namespace Rig

open Phase

variable {ρ σ δ κ : Type} {E : Equipment ρ σ δ} {act : κ → σ → σ}

def moves (g : Rig ρ σ δ) : List (Phase × Phase) := g.calls.filterMap Call.move?

theorem moves_eq (g : Rig ρ σ δ) : g.moves = g.decisions.filterMap Call.move? :=
  (filterMap_decisions (fun c quiet => by cases c <;> first | rfl | cases quiet) g).symm

theorem moves_note (g : Rig ρ σ δ) (c : Call ρ δ) (still : c.move? = none) : (g.note c).moves = g.moves := by
  simp [moves, still]

theorem moves_of_decisions {g g' : Rig ρ σ δ} (same : g'.decisions = g.decisions) : g'.moves = g.moves := by
  rw [moves_eq, same, ← moves_eq]

theorem commitChunk_moves {mode : ScanMode} {stop done : Bool} {g g' : Rig ρ σ δ}
    (run : g.commitChunk E mode stop = (done, g')) :
    g'.moves = g.moves ∧ g'.control.phase = g.control.phase := by
  cases done with
  | true =>
    obtain ⟨session, _, control, _, decisions, _⟩ := commitChunk_done run
    refine ⟨?_, by rw [control]⟩
    rw [moves_eq, decisions, List.filterMap_append, ← moves_eq]
    exact List.append_nil _
  | false =>
    obtain ⟨control, _, _, ⟨_, rfl⟩ | ⟨session, _, decisions⟩⟩ := commitChunk_failed run
    · exact ⟨rfl, rfl⟩
    refine ⟨?_, by rw [control]⟩
    rw [moves_eq, decisions, List.filterMap_append, ← moves_eq]
    exact List.append_nil _

variable (E) in
/-- The rig has come from a phase to the present one by entries of the table alone. -/
def Conforms (first : Phase) (g : Rig ρ σ δ) : Prop := Trail first g.moves g.control.phase

namespace Conforms

variable {first : Phase} {g g' : Rig ρ σ δ}

theorem of_same (conforms : Conforms first g) (moves : g'.moves = g.moves)
    (phase : g'.control.phase = g.control.phase) : Conforms first g' := by
  unfold Conforms
  rw [moves, phase]
  exact conforms

theorem moveTo {target : Phase} (conforms : Conforms first g) (follows : g.control.phase.Follows target) :
    Conforms first (g.moveTo target) := by
  unfold Conforms
  rw [moves, moveTo_calls, moveTo_control]
  by_cases same : g.control.phase = target
  · rw [if_pos same, List.append_nil, ← same]
    exact conforms
  · rw [if_neg same, List.filterMap_append]
    exact conforms.next follows

theorem fail {target : Phase} (conforms : Conforms first g) (follows : g.control.phase.Follows target) :
    Conforms first (g.fail E target) :=
  (conforms.moveTo follows).of_same (moves_of_decisions (fail_decisions E target g)) (by simp)

end Conforms

theorem Deed.conforms {first : Phase} {now : Instant} {g g' : Rig ρ σ δ} (deed : Deed E now g g')
    (conforms : Conforms first g) : Conforms first g' := by
  cases deed with
  | allocated waiting =>
    apply Conforms.moveTo
    · exact conforms.of_same (moves_note _ _ rfl) rfl
    · change g.control.phase.Follows .idle
      rw [waiting]
      exact .ready
  | refused waiting =>
    apply Conforms.fail
    · exact conforms.of_same (moves_note _ _ rfl) rfl
    · exact .storage (by simp [waiting])
  | launched starting =>
    apply Conforms.moveTo
    · exact conforms.of_same (moves_of_decisions (startAll_decisions E g)) (by simp [setDeadlines])
    · simp only [setDeadlines, startAll_control, starting]
      exact .started
  | waited => exact conforms
  | filed scanning _ _ done =>
    obtain ⟨moves, phase⟩ := commitChunk_moves done
    exact conforms.of_same moves phase
  | dropped scanning _ _ failed =>
    obtain ⟨moves, phase⟩ := commitChunk_moves failed
    have scanning : _ = Phase.scanning := phase.trans scanning
    exact (conforms.of_same moves phase).fail (.storage (by simp [scanning]))
  | @ended mode _ ending done =>
    obtain ⟨moves, phase⟩ := commitChunk_moves done
    refine (conforms.of_same moves phase).moveTo ?_
    rw [phase, ending]
    cases mode
    · exact .stopped
    · exact .finished
  | @lost mode _ ending failed =>
    obtain ⟨moves, phase⟩ := commitChunk_moves failed
    refine (conforms.of_same moves phase).fail (.storage ?_)
    rw [phase, ending]
    cases mode <;> simp [ScanMode.ending]
  | armed starting =>
    apply Conforms.moveTo
    · exact conforms
    · simp only [timed, setDeadlines, starting]
      exact .armed
  | begun waiting =>
    apply Conforms.moveTo
    · exact conforms.of_same (moves_of_decisions (startAll_decisions E g)) (by simp)
    · rw [startAll_control, waiting]
      exact .begun
  | expired capturing => exact conforms.moveTo (capturing ▸ .captured)

theorem conforms_lasting (first : Phase) : Lasting E act (Conforms first) where
  command opened conforms := conforms.moveTo (Command.target_follows opened)
  failure _ _ conforms := conforms.fail .sensor
  deed deed conforms := deed.conforms conforms
  lamp led on conforms := conforms.of_same (moves_of_decisions (showLed_decisions ..)) (by simp)
  queue _ conforms := conforms
  watch _ _ conforms := conforms
  report conforms := conforms
  attach h conforms := conforms.of_same (moves_of_decisions (attach_decisions E h _)) (by simp)
  input _ conforms := conforms
  storage _ conforms := conforms

variable (E) in
/-- The loop of a tick ends by its break after a number of steps. -/
inductive Settles (now : Instant) : Nat → Rig ρ σ δ → Rig ρ σ δ → Prop
  | rests {g g'} (step : g.step E now = .ok g')
      (rests : g'.control.phase = g.control.phase ∨ g'.control.phase.isTransient = false) : Settles now 1 g g'
  | goesOn {n g g' g''} (step : g.step E now = .ok g') (moves : g'.control.phase ≠ g.control.phase)
      (transient : g'.control.phase.isTransient = true) (later : Settles now n g' g'') : Settles now (n + 1) g g''

/-- Only the end of a stop scan is done in two steps, of which the first does nothing else. -/
theorem step_transient {now : Instant} {g g' : Rig ρ σ δ} (run : g.step E now = .ok g')
    (moves : g'.control.phase ≠ g.control.phase) (transient : g'.control.phase.isTransient = true) :
    g.control.phase = .stopScanInProgress ∧ g' = g.moveTo .stoppingStopScan := by
  rcases step_deed run with ⟨rfl, _⟩ | deed
  · exact absurd rfl moves
  cases deed with
  | expired capturing => exact ⟨capturing, rfl⟩
  | waited => exact absurd rfl moves
  | filed _ _ _ done => exact absurd (commitChunk_moves done).2 moves
  | _ =>
    simp only [moveTo_control, fail_control] at transient
    cases transient

/-- A phase with nothing to wait for is left at once, for one that waits. -/
theorem step_rests {now : Instant} {g g' : Rig ρ σ δ} (run : g.step E now = .ok g')
    (transient : g.control.phase.isTransient = true) : g'.control.phase.isTransient = false := by
  rcases step_deed run with ⟨_, resting⟩ | deed
  · rw [resting] at transient
    cases transient
  cases deed with
  | waited scanning | filed scanning | expired scanning =>
    rw [scanning] at transient
    cases transient
  | _ => simp [isTransient]

theorem advance_of_transient {now : Instant} {g : Rig ρ σ δ} (transient : g.control.phase.isTransient = true)
    (limit : Nat) : g.advance E now (limit + 1) = g.step E now := by
  unfold advance
  cases run : g.step E now with
  | error => rfl
  | ok g' =>
    have rests := step_rests run transient
    simp only [bind, Except.bind, rests, Bool.not_false, or_true, if_true]
    rfl

/-- A limit of two steps or more makes no difference. -/
theorem advance_limit {now : Instant} {limit : Nat} (enough : 2 ≤ limit) (g : Rig ρ σ δ) :
    g.advance E now limit = g.advance E now 2 := by
  obtain ⟨more, rfl⟩ := Nat.exists_eq_add_of_le' enough
  unfold advance
  cases g.step E now with
  | error => rfl
  | ok g' =>
    simp only [bind, Except.bind]
    split
    · rfl
    · rename_i goesOn
      have transient : g'.control.phase.isTransient = true := by simpa using (not_or.mp goesOn).2
      rw [advance_of_transient transient, advance_of_transient transient]

theorem advance_settles {now : Instant} {limit : Nat} {g g' : Rig ρ σ δ} (enough : 2 ≤ limit)
    (run : g.advance E now limit = .ok g') : ∃ n ≤ 2, Settles E now n g g' := by
  rw [advance_limit enough] at run
  obtain ⟨next, first, run⟩ := bind_eq_ok.mp run
  split at run
  · rename_i rests
    cases pure_eq_ok.mp run
    exact ⟨1, by decide, .rests first (by simpa using rests)⟩
  · rename_i goesOn
    obtain ⟨moves, transient⟩ := not_or.mp goesOn
    have transient : next.control.phase.isTransient = true := by simpa using transient
    rw [advance_of_transient transient] at run
    exact ⟨2, Nat.le_refl 2, .goesOn first moves transient (.rests run (Or.inr (step_rests run transient)))⟩

theorem Settles.resting {now : Instant} {n : Nat} {g g' : Rig ρ σ δ} (settles : Settles E now n g g') :
    g'.control.phase.isTransient = false := by
  induction settles with
  | @rests g g' step rests =>
    rcases rests with same | resting
    · cases transient : g.control.phase.isTransient with
      | true => exact step_rests step transient
      | false => rw [same, transient]
    · exact resting
  | goesOn _ _ _ _ ih => exact ih

variable (E) in
/-- The rig that the last step of a tick is made on: the queue and a report are heeded, and a stop scan whose time is
over has been left. -/
inductive Readied (g : Rig ρ σ δ) : Rig ρ σ δ → Prop
  | heeded : Readied g (g.drain.heedFailure E)
  | expired (capturing : (g.drain.heedFailure E).control.phase = .stopScanInProgress) :
      Readied g ((g.drain.heedFailure E).moveTo .stoppingStopScan)

theorem work_last {now : Instant} {g g' : Rig ρ σ δ} (run : g.work E now = .ok g') :
    g'.control.phase.isTransient = false ∧ ∃ h, Readied E g h ∧ h.step E now = .ok g' := by
  obtain ⟨_, _, settles⟩ := advance_settles (by decide) run
  refine ⟨settles.resting, ?_⟩
  cases settles with
  | rests step _ => exact ⟨_, .heeded, step⟩
  | goesOn step moves transient later =>
    obtain ⟨capturing, rfl⟩ := step_transient step moves transient
    cases later with
    | rests last _ => exact ⟨_, .expired capturing, last⟩
    | goesOn last _ transient' _ =>
      rw [step_rests last transient] at transient'
      cases transient'

/-- The notes of the commits that have been tried, in order. -/
def attempts (g : Rig ρ σ δ) : List (Call ρ δ) := g.calls.filter Call.isCommit

theorem attempts_eq (g : Rig ρ σ δ) : g.attempts = g.decisions.filter Call.isCommit := by
  rw [decisions, List.filter_filter, attempts]
  refine List.filter_congr fun c _ => ?_
  cases c <;> rfl

theorem attempts_of_decisions {g g' : Rig ρ σ δ} (same : g'.decisions = g.decisions) : g'.attempts = g.attempts := by
  rw [attempts_eq, same, ← attempts_eq]

theorem attempts_moveTo (target : Phase) (g : Rig ρ σ δ) : (g.moveTo target).attempts = g.attempts :=
  (moveTo_notes target g).filter_eq (by rintro _ ⟨_, _, rfl⟩; rfl)

theorem attempts_fail (target : Phase) (g : Rig ρ σ δ) : (g.fail E target).attempts = g.attempts :=
  (attempts_of_decisions (fail_decisions E target g)).trans (attempts_moveTo target g)

/-- In a session every commit of a chunk is tried. -/
theorem attempts_chunk {mode : ScanMode} {stop done : Bool} {g g' : Rig ρ σ δ} {s : ScanSession}
    (present : g.control.session = some s) (run : g.commitChunk E mode stop = (done, g')) :
    g'.attempts = g.attempts ++ [.committed (s.dir mode) s.nextChunk stop done] := by
  obtain ⟨before, work, after, calls, kind, lamps⟩ := commitChunk_calls present run
  have lit : (before ++ after).filter Call.isCommit = [] :=
    List.filter_eq_nil_iff.mpr fun c member => by obtain ⟨_, _, rfl⟩ := lamps c member; exact nofun
  have worked : work.filter Call.isCommit = [] :=
    List.filter_eq_nil_iff.mpr fun c member => Bool.not_eq_true _ ▸ (kind c member).not_commit
  obtain ⟨first, last⟩ := List.append_eq_nil_iff.mp (List.filter_append .. ▸ lit)
  simp only [attempts, calls, List.filter_append, first, worked, List.filter_cons, last, Call.isCommit, if_true,
    List.append_nil]

/-- The controller notes a commit that it has tried, which it does not without a session. -/
theorem attempts_commitChunk {mode : ScanMode} {stop done : Bool} {g g' : Rig ρ σ δ}
    (run : g.commitChunk E mode stop = (done, g')) :
    g'.attempts = g.attempts ∨ ∃ s, g.control.session = some s ∧
      g'.attempts = g.attempts ++ [.committed (s.dir mode) s.nextChunk stop done] := by
  cases present : g.control.session with
  | none =>
    simp only [commitChunk, present, Prod.mk.injEq] at run
    exact Or.inl (by rw [run.2])
  | some s => exact Or.inr ⟨s, rfl, attempts_chunk present run⟩

def commitCount (g : Rig ρ σ δ) : Nat := g.calls.countP Call.isCommit

theorem commitCount_eq (g : Rig ρ σ δ) : g.commitCount = g.attempts.length := List.countP_eq_length_filter

variable (E) in
/-- What a deed makes of the commit of a chunk, if it was counted and if not. -/
inductive Sequel : Bool → Rig ρ σ δ → Rig ρ σ δ → Prop
  | goesOn {g : Rig ρ σ δ} (deadlines : Deadlines) : Sequel true g (g.setDeadlines deadlines)
  | ends {g : Rig ρ σ δ} : Sequel true g (g.moveTo .idle)
  | fails {g : Rig ρ σ δ} : Sequel false g (g.fail E .storageError)

theorem Sequel.attempts {done : Bool} {g g' : Rig ρ σ δ} (sequel : Sequel E done g g') :
    g'.attempts = g.attempts := by
  cases sequel with
  | goesOn => rfl
  | ends => exact attempts_moveTo _ _
  | fails => exact attempts_fail _ _

/-- A deed tries no commit, or that of a chunk and what follows from it. -/
theorem Deed.commits {now : Instant} {g g' : Rig ρ σ δ} (deed : Deed E now g g') :
    g'.attempts = g.attempts ∨
      ∃ deadlines mode stop done h, (g.setDeadlines deadlines).commitChunk E mode stop = (done, h) ∧
        Sequel E done h g' := by
  cases deed with
  | allocated =>
    left
    rw [attempts_moveTo]
    simp [Rig.attempts, inSession, Call.isCommit]
  | refused =>
    left
    rw [attempts_fail]
    simp [Rig.attempts, Call.isCommit]
  | launched | begun =>
    left
    rw [attempts_moveTo]
    exact attempts_of_decisions (startAll_decisions E g)
  | waited => exact Or.inl rfl
  | filed _ _ _ done => exact Or.inr ⟨_, _, _, _, _, done, .goesOn _⟩
  | dropped _ _ _ failed => exact Or.inr ⟨_, _, _, _, _, failed, .fails⟩
  | ended _ done => exact Or.inr ⟨g.control.deadlines, _, _, _, _, done, .ends⟩
  | lost _ failed => exact Or.inr ⟨g.control.deadlines, _, _, _, _, failed, .fails⟩
  | armed | expired => exact Or.inl (attempts_moveTo _ _)

theorem step_commitCount {now : Instant} {g g' : Rig ρ σ δ} (run : g.step E now = .ok g') :
    g'.commitCount ≤ g.commitCount + 1 := by
  rw [commitCount_eq, commitCount_eq]
  rcases step_deed run with ⟨rfl, _⟩ | deed
  · exact Nat.le_succ _
  rcases deed.commits with none | ⟨deadlines, _, _, _, h, tried, sequel⟩
  · rw [none]
    exact Nat.le_succ _
  · rw [sequel.attempts]
    rcases attempts_commitChunk tried with none | ⟨s, _, noted⟩
    · rw [none]
      exact Nat.le_succ _
    · rw [noted, List.length_append]
      exact Nat.le_refl _

theorem Settles.commitCount_le {now : Instant} {n : Nat} {g g' : Rig ρ σ δ} (settles : Settles E now n g g') :
    g'.commitCount ≤ g.commitCount + 1 := by
  induction settles with
  | rests step _ => exact step_commitCount step
  | goesOn step moves transient _ ih =>
    rwa [(step_transient step moves transient).2, commitCount_eq (moveTo ..), attempts_moveTo, ← commitCount_eq] at ih

theorem attempts_orders (calls : List (Call ρ δ)) : KeptByOrders E fun g : Rig ρ σ δ => g.attempts = calls where
  command _ same := (attempts_moveTo _ _).trans same
  failure _ _ same := (attempts_fail _ _).trans same
  queue _ same := same

theorem attempts_lamps (calls : List (Call ρ δ)) : KeptByLamps E fun g : Rig ρ σ δ => g.attempts = calls where
  lamp led on same := (attempts_of_decisions (showLed_decisions E led on _)).trans same
  watch _ _ same := same

theorem phase_lamps (p : Phase) : KeptByLamps E fun g : Rig ρ σ δ => g.control.phase = p where
  lamp led on same := (showLed_phase E led on _).trans same
  watch _ _ same := same

/-- The break of the loop, after as many steps, is what a tick comes to. -/
theorem tick_settles {now : Instant} {wait : Duration} {g g' : Rig ρ σ δ} (run : g.tick E now = .ok (wait, g')) :
    g'.control.phase.isTransient = false ∧
      (∃ n ≤ 2, ∃ settled, Settles E now n (g.drain.heedFailure E) settled ∧ g.work E now = .ok settled) ∧
      ∃ added, g'.calls = g.calls ++ added ∧ added.countP Call.isCommit ≤ 1 := by
  obtain ⟨added, calls⟩ := (noted_piecewise g.calls).toKept.tick run List.prefix_rfl
  obtain ⟨settled, work, leds, _⟩ := tick_eq_ok.mp run
  obtain ⟨n, few, settles⟩ := advance_settles (by decide) work
  have phase : g'.control.phase = settled.control.phase := (phase_lamps _).updateLeds leds rfl
  have before : (g.drain.heedFailure E).attempts = g.attempts :=
    (attempts_orders _).heeded rfl
  have after : g'.attempts = settled.attempts := (attempts_lamps _).updateLeds leds rfl
  have once : settled.commitCount ≤ g.commitCount + 1 := by
    have counted := settles.commitCount_le
    rwa [commitCount_eq (g.drain.heedFailure E), before, ← commitCount_eq] at counted
  refine ⟨by rw [phase, settles.resting], ⟨n, few, settled, settles, work⟩, added, calls.symm, ?_⟩
  rw [commitCount_eq settled, ← after, ← commitCount_eq, commitCount, ← calls, List.countP_append] at once
  exact Nat.le_of_add_le_add_left once

theorem happen_rests {e : Event ρ κ} (ticks : e.isTick = true) {g g' : Rig ρ σ δ} (now : g.happen E act e = .ok g') :
    g'.control.phase.isTransient = false := by
  cases e with
  | tick => exact (tick_settles (happen_tick now).choose_spec).1
  | broken => exact (work_last now).1
  | _ => cases ticks

/-- Every change of phase in a run is an entry of the table. Every tick that comes to an end, from whatever rig, ends
in a phase that waits; its loop ends by the break within two steps, whatever limit of at least two is set on them; and
it commits at most once. -/
theorem transitions_conform {params : ScanParams} {indicator : Bool} {instruments : σ} {files : Storage.Tree}
    {past : List (Rig ρ σ δ × Event ρ κ)} {g : Rig ρ σ δ}
    (run : Run E act (fresh params indicator instruments files) past g) :
    Trail .waitForResources g.moves g.control.phase ∧
      ∀ (now : Instant) (wait : Duration) (h h' : Rig ρ σ δ), h.tick E now = .ok (wait, h') →
        h'.control.phase.isTransient = false ∧
        (∃ n ≤ 2, ∃ settled, Settles E now n (h.drain.heedFailure E) settled ∧ h.work E now = .ok settled) ∧
        (∀ limit, 2 ≤ limit → (h.drain.heedFailure E).advance E now limit = h.work E now) ∧
        ∃ added, h'.calls = h.calls ++ added ∧ added.countP Call.isCommit ≤ 1 := by
  refine ⟨(conforms_lasting .waitForResources).run run .start, ?_⟩
  intro now wait h h' ticked
  obtain ⟨resting, settles, once⟩ := tick_settles ticked
  refine ⟨resting, settles, ?_, once⟩
  intro limit enough
  exact (advance_limit enough _).trans (advance_limit (by decide) _).symm

/-- A stop scan without mandatory clients, up to the tick that is to end it. -/
def strayStopScan : List (Event Instrument (Instruments → Instruments)) :=
  [.tick 0, .send .triggerStopScan, .tick 0, .tick (millis 5000)]

/-- The last chunk of a stop scan gets lost with its directory: two steps, one commit, and the storage error. -/
theorem transitions_conform_stray :
    ∃ past g wait g', Run Instruments.equipment (fun f i => f i) (fresh { mandatoryClients := [] } true benchInstruments {})
        past g ∧
      past.map (·.2) = strayStopScan ∧ g.control.phase = .stopScanInProgress ∧
      g.tick Instruments.equipment (millis 35000) = .ok (wait, g') ∧ g'.control.phase = .storageError ∧
      Trail .waitForResources g.moves g.control.phase ∧ g'.control.phase.isTransient = false := by
  have played : ((play Instruments.equipment (fun f i => f i)
      (fresh { mandatoryClients := [] } true benchInstruments {}) strayStopScan).toOption.bind fun g =>
        (g.tick Instruments.equipment (millis 35000)).toOption.map fun (_, g') => (g.control.phase, g'.control.phase)) =
      some (.stopScanInProgress, .storageError) := by decide +kernel
  obtain ⟨g, before, last⟩ := Option.bind_eq_some_iff.mp played
  obtain ⟨⟨wait, g'⟩, ticked, phases⟩ := Option.map_eq_some_iff.mp last
  obtain ⟨past, events, run⟩ := Run.start.play (toOption_eq_some.mp before)
  have ticked := toOption_eq_some.mp ticked
  obtain ⟨trail, ticks⟩ := transitions_conform run
  exact ⟨past, g, wait, g', run, events, congrArg Prod.fst phases, ticked, congrArg Prod.snd phases, trail,
    (ticks _ _ _ _ ticked).1⟩

end Rig

end CaptureRig

import CaptureRig.Proofs.Scan.Halt
import CaptureRig.Proofs.Scan.Numbering

namespace CaptureRig

/-- The answer to a request for a session that a call tells of. -/
def Call.answer? {ρ δ : Type} : Call ρ δ → Option (Option SessionDirs)
  | .allocated dirs => some dirs
  | _ => none

/-- The phases in which there is work to do, and a session to do it in. -/
def Phase.runs (p : Phase) : Bool := p != .waitForResources && !p.isError

theorem Phase.runs_iff {p : Phase} : p.runs = true ↔ p ∉ [.waitForResources, .lidarError, .storageError] := by
  cases p <;> decide

theorem Command.runs_of_target {c : Command} {p q : Phase} (opened : c.target? p = some q) :
    p.runs = true ∧ q ≠ .waitForResources := by
  cases c <;> cases p <;> cases opened <;> decide

theorem Phase.Commits.runs {p : Phase} {mode : ScanMode} {stop : Bool} (commits : p.Commits mode stop) :
    p.runs = true := by
  simp [Phase.runs, commits.not_waiting, commits.not_error]

theorem Registry.isAttached_attach {ρ : Type} (r : Registry ρ) (h : Handle ρ) (name : String) :
    (r.attach h).2.isAttached name = true ↔ r.isAttached name = true ∨ h.name = name := by
  unfold attach
  split
  · rename_i known
    refine ⟨Or.inl, ?_⟩
    rintro (attached | rfl)
    · exact attached
    · exact known
  · simp [isAttached]

/-- How the answers to the requests for a session, the directories of the session and the phase go together. -/
inductive Tenure : List (Option SessionDirs) → Option SessionDirs → Phase → Prop
  | unasked {p} (idle : p.runs = false) : Tenure [] none p
  | lodged {dirs p} (left : p ≠ .waitForResources) : Tenure [some dirs] (some dirs) p
  | denied {p} (error : p.isError = true) : Tenure [none] none p

namespace Tenure

variable {answers : List (Option SessionDirs)} {dirs : Option SessionDirs} {p q : Phase}
  (tenure : Tenure answers dirs p)

include tenure

theorem length_le : answers.length ≤ 1 := by cases tenure <;> simp

theorem of_waiting (waiting : p = .waitForResources) : answers = [] ∧ dirs = none := by
  cases tenure with
  | unasked => exact ⟨rfl, rfl⟩
  | lodged left => exact absurd waiting left
  | denied error =>
    rw [waiting] at error
    cases error

theorem of_runs (runs : p.runs = true) : dirs.isSome = true := by
  cases tenure with
  | unasked idle => cases idle.symm.trans runs
  | lodged => rfl
  | denied error => simp [Phase.runs, error] at runs

theorem of_lodged {d : SessionDirs} (lodged : dirs = some d) : answers = [some d] := by
  cases tenure with
  | unasked => cases lodged
  | lodged => rw [lodged]
  | denied => cases lodged

theorem of_granted {d : SessionDirs} (granted : some d ∈ answers) : dirs = some d ∧ p ≠ .waitForResources := by
  cases tenure with
  | unasked => cases granted
  | lodged left => exact ⟨(List.mem_singleton.mp granted).symm, left⟩
  | denied => cases List.mem_singleton.mp granted

theorem of_denied (denied : none ∈ answers) : dirs = none ∧ p.isError = true := by
  cases tenure with
  | unasked => cases denied
  | lodged => cases List.mem_singleton.mp denied
  | denied error => exact ⟨rfl, error⟩

/-- Work goes from phase to phase in the session that there is. -/
theorem goOn (runs : p.runs = true) (left : q ≠ .waitForResources) : Tenure answers dirs q := by
  cases tenure with
  | unasked idle => cases idle.symm.trans runs
  | lodged => exact .lodged left
  | denied error => simp [Phase.runs, error] at runs

theorem fail (error : q.isError = true) : Tenure answers dirs q := by
  cases tenure with
  | unasked => exact .unasked (by simp [Phase.runs, error])
  | lodged =>
    refine .lodged ?_
    rintro rfl
    cases error
  | denied => exact .denied error

end Tenure

namespace Rig

variable {ρ σ δ κ : Type} {E : Equipment ρ σ δ} {act : κ → σ → σ}

/-- The answers to the requests for a session, in order. -/
def allocations (g : Rig ρ σ δ) : List (Option SessionDirs) := g.calls.filterMap Call.answer?

theorem allocations_eq (g : Rig ρ σ δ) : g.allocations = g.decisions.filterMap Call.answer? :=
  (filterMap_decisions (fun c quiet => by cases c <;> first | rfl | cases quiet) g).symm

/-- From one rig to another no session has been asked for, and the directories are the same. -/
structure Settled (g g' : Rig ρ σ δ) : Prop where
  answers : g'.allocations = g.allocations
  dirs : g'.control.session.map (·.dirs) = g.control.session.map (·.dirs)

namespace Settled

variable {g h h' : Rig ρ σ δ}

theorem trans (first : Settled g h) (second : Settled h h') : Settled g h' :=
  ⟨second.answers.trans first.answers, second.dirs.trans first.dirs⟩

theorem of_decisions (decisions : h.decisions = g.decisions) (session : h.control.session = g.control.session) :
    Settled g h :=
  ⟨by rw [allocations_eq, decisions, ← allocations_eq], by rw [session]⟩

theorem moveTo (target : Phase) (g : Rig ρ σ δ) : Settled g (g.moveTo target) :=
  ⟨(moveTo_notes target g).filterMap_eq (by rintro _ ⟨_, _, rfl⟩; rfl), by rw [moveTo_control]⟩

theorem fail (target : Phase) (g : Rig ρ σ δ) : Settled g (g.fail E target) :=
  (moveTo target g).trans (of_decisions (fail_decisions E target g) (by rw [fail_control, moveTo_control]))

theorem commitChunk {mode : ScanMode} {stop done : Bool} (run : g.commitChunk E mode stop = (done, h)) :
    Settled g h := by
  have noted {s : ScanSession}
      (decisions : h.decisions = g.decisions ++ [.committed (s.dir mode) s.nextChunk stop done]) :
      h.allocations = g.allocations := by
    rw [allocations_eq, decisions, List.filterMap_append, ← allocations_eq]
    exact List.append_nil _
  cases done with
  | true =>
    obtain ⟨s, present, control, _, decisions, _⟩ := commitChunk_done run
    refine ⟨noted decisions, ?_⟩
    rw [control, present]
    cases mode <;> rfl
  | false =>
    obtain ⟨control, _, _, ⟨_, rfl⟩ | ⟨s, _, decisions⟩⟩ := commitChunk_failed run
    · exact ⟨rfl, rfl⟩
    · exact ⟨noted decisions, by rw [control]⟩

end Settled

variable (E) in
/-- From one rig to another a session has been asked for: the answer is noted, and either the session is begun or the
storage error entered. -/
structure Answered (g g' : Rig ρ σ δ) (dirs : Option SessionDirs) : Prop where
  asked : ∃ i t, E.allocate g.instruments g.files = .ok (dirs, i, t)
  noted : g'.allocations = g.allocations ++ [dirs]
  session : g'.control.session = (dirs.map fun d => { dirs := d }).or g.control.session
  phase : g'.control.phase = if dirs.isSome then .idle else .storageError

/-- A deed either answers the request for a session, or is work in the session that there is. -/
theorem Deed.tenure_cases {now : Instant} {g g' : Rig ρ σ δ} (deed : Deed E now g g') :
    (g.control.phase = .waitForResources ∧ g.registry.hasAll g.control.params.mandatoryClients = true ∧
        ∃ dirs, Answered E g g' dirs) ∨
      (g.control.phase.runs = true ∧ g'.control.phase ≠ .waitForResources ∧ Settled g g') := by
  cases deed with
  | allocated waiting complete granted =>
    refine Or.inl ⟨waiting, complete, _, ⟨_, _, granted⟩, ?_, by rw [moveTo_control]; rfl, by rw [moveTo_control]; rfl⟩
    rw [(Settled.moveTo _ _).answers]
    simp [allocations, inSession, Call.answer?]
  | refused waiting complete denied =>
    refine Or.inl ⟨waiting, complete, _, ⟨_, _, denied⟩, ?_, by rw [fail_control]; rfl, by rw [fail_control]; rfl⟩
    rw [(Settled.fail _ _).answers]
    simp [allocations, Call.answer?]
  | launched starting | begun starting =>
    refine Or.inr ⟨by rw [starting]; rfl, by simp, Settled.trans ?_ (.moveTo _ _)⟩
    exact .of_decisions (startAll_decisions E g) (by simp [setDeadlines])
  | waited scanning => exact Or.inr ⟨by rw [scanning]; rfl, by simp [resumed, setDeadlines, scanning], rfl, rfl⟩
  | filed scanning _ _ done =>
    have settled := Settled.commitChunk done
    have phase : _ = Phase.scanning := (commitChunk_moves done).2.trans scanning
    refine Or.inr ⟨by rw [scanning]; rfl, ?_, settled.answers, settled.dirs⟩
    simp [setDeadlines, phase]
  | dropped scanning _ _ failed =>
    have settled := (Settled.commitChunk failed).trans (.fail (E := E) .storageError _)
    exact Or.inr ⟨by rw [scanning]; rfl, by simp, settled.answers, settled.dirs⟩
  | @ended mode _ ending done =>
    have runs : g.control.phase.runs = true := by rw [ending]; cases mode <;> rfl
    exact Or.inr ⟨runs, by simp, (Settled.commitChunk done).trans (.moveTo _ _)⟩
  | @lost mode _ ending failed =>
    have runs : g.control.phase.runs = true := by rw [ending]; cases mode <;> rfl
    exact Or.inr ⟨runs, by simp, (Settled.commitChunk failed).trans (.fail _ _)⟩
  | @armed _ _ initial final starting =>
    have settled := Settled.moveTo .stopScanInitialProgress (g.timed initial final)
    exact Or.inr ⟨by rw [starting]; rfl, by simp, settled.answers, settled.dirs⟩
  | expired capturing => exact Or.inr ⟨by rw [capturing]; rfl, by simp, .moveTo _ _⟩

/-- The answers, the session and the phase of the rig go together. -/
def Tenured (g : Rig ρ σ δ) : Prop := Tenure g.allocations (g.control.session.map (·.dirs)) g.control.phase

theorem Tenured.of_settled {g g' : Rig ρ σ δ} (settled : Settled g g')
    (tenure : Tenure g.allocations (g.control.session.map (·.dirs)) g'.control.phase) : Tenured g' := by
  rwa [Tenured, settled.answers, settled.dirs]

theorem Deed.tenured {now : Instant} {g g' : Rig ρ σ δ} (deed : Deed E now g g') (tenured : Tenured g) :
    Tenured g' := by
  rcases deed.tenure_cases with ⟨waiting, _, dirs, answered⟩ | ⟨runs, left, settled⟩
  · obtain ⟨unasked, unlodged⟩ := tenured.of_waiting waiting
    have none : g.control.session = none := Option.map_eq_none_iff.mp unlodged
    rw [Tenured, answered.noted, answered.session, answered.phase, unasked, none]
    cases dirs with
    | none => exact .denied rfl
    | some dirs => exact .lodged nofun
  · exact .of_settled settled (tenured.goOn runs left)

theorem tenured_kept : Kept E (Tenured : Rig ρ σ δ → Prop) where
  command opened tenured := by
    obtain ⟨runs, next⟩ := Command.runs_of_target opened
    exact .of_settled (.moveTo _ _) (tenured.goOn runs (by rwa [moveTo_control]))
  failure _ _ tenured := .of_settled (.fail _ _) (tenured.fail (by rw [fail_control]; rfl))
  queue _ tenured := tenured
  lamp led on tenured := by
    refine .of_settled (.of_decisions (showLed_decisions E led on _) (showLed_session E led on _)) ?_
    rwa [showLed_phase]
  watch _ _ tenured := tenured
  deed deed tenured := deed.tenured tenured

theorem tenured_lasting : Lasting E act (Tenured : Rig ρ σ δ → Prop) where
  toKept := tenured_kept
  report tenured := tenured
  attach h tenured := by
    refine .of_settled (.of_decisions (attach_decisions E h _) (by rw [attach_control])) ?_
    rwa [attach_control]
  input _ tenured := tenured
  storage _ tenured := tenured

theorem fresh_tenured (params : ScanParams) (indicator : Bool) (instruments : σ) (files : Storage.Tree) :
    Tenured (fresh (ρ := ρ) (δ := δ) params indicator instruments files) :=
  .unasked rfl

/-- The rig waits with all mandatory clients attached, and no failure of a sensor has been reported to it. -/
structure Ready (g : Rig ρ σ δ) : Prop where
  waiting : g.control.phase = .waitForResources
  complete : g.registry.hasAll g.control.params.mandatoryClients = true
  sound : g.control.sensorFailed = false

/-- Neither commands nor failures lead to the wait for clients. -/
theorem heeded_waiting {g : Rig ρ σ δ} (waiting : (g.drain.heedFailure E).control.phase = .waitForResources) :
    g.control.phase = .waitForResources ∧ g.control.sensorFailed = false := by
  have orders : KeptByOrders E fun h : Rig ρ σ δ =>
      h.control.phase = .waitForResources → g.control.phase = .waitForResources :=
    { command := fun opened _ there => by
        rw [moveTo_control] at there
        exact absurd there (Command.runs_of_target opened).2
      failure := fun _ _ _ there => by
        rw [fail_control] at there
        cases there
      queue := fun _ same => same }
  refine ⟨orders.heeded id waiting, Bool.eq_false_iff.mpr fun failed => ?_⟩
  have failing : g.Failing := Or.inl failed
  have error := failing.fate_isError
  rw [← heeded_phase failing, waiting] at error
  cases error

/-- A rig that waits with nothing reported disregards its queue. -/
theorem Ready.heeded {g : Rig ρ σ δ} (ready : g.Ready) : g.drain.heedFailure E = g.withQueue [] := by
  have closed : g.chosen = none := List.find?_eq_none.mpr fun c _ => by
    rw [ready.waiting]
    cases c <;> decide
  rw [drain_eq, closed]
  exact if_neg (by simp [withQueue, ready.sound])

theorem Readied.settled {g h : Rig ρ σ δ} (readied : Readied E g h) : Settled g h := by
  have orders : KeptByOrders E (Settled g) :=
    { command := fun _ settled => settled.trans (.moveTo _ _)
      failure := fun _ _ settled => settled.trans (.fail _ _)
      queue := fun _ settled => ⟨settled.answers, settled.dirs⟩ }
  have heeded : Settled g (g.drain.heedFailure E) := orders.heeded ⟨rfl, rfl⟩
  cases readied with
  | heeded => exact heeded
  | expired => exact heeded.trans (.moveTo _ _)

/-- The work of a tick that finds all in place is to ask for a session. -/
theorem Ready.work {g g' : Rig ρ σ δ} (ready : g.Ready) {now : Instant} (run : g.work E now = .ok g') :
    ∃ dirs, Answered E g g' dirs := by
  obtain ⟨_, h, readied, last⟩ := work_last run
  have heeded : h = g.withQueue [] := by
    cases readied with
    | heeded => exact ready.heeded
    | expired capturing =>
      rw [ready.heeded] at capturing
      cases ready.waiting.symm.trans capturing
  have step : (g.withQueue []).step E now = (g.withQueue []).awaitResources E := by
    simp only [step, withQueue, ready.waiting]
  have complete : (g.withQueue []).registry.hasAll (g.withQueue []).control.params.mandatoryClients = true :=
    ready.complete
  rw [heeded, step, awaitResources, if_pos complete] at last
  obtain ⟨⟨dirs, i, t⟩, answer, rest⟩ := bind_eq_ok.mp last
  have deed : Deed E now (g.withQueue []) g' := by
    cases dirs with
    | none =>
      cases pure_eq_ok.mp rest
      exact .refused ready.waiting complete answer
    | some dirs =>
      cases pure_eq_ok.mp rest
      exact .allocated ready.waiting complete answer
  rcases deed.tenure_cases with ⟨_, _, dirs, answered⟩ | ⟨runs, _⟩
  · exact ⟨dirs, answered.asked, answered.noted, answered.session, answered.phase⟩
  · have waiting : (g.withQueue []).control.phase = .waitForResources := ready.waiting
    rw [waiting] at runs
    cases runs

/-- No other tick asks for a session. -/
theorem work_unready {g g' : Rig ρ σ δ} (unready : ¬g.Ready) {now : Instant} (run : g.work E now = .ok g') :
    g'.allocations = g.allocations := by
  obtain ⟨_, h, readied, last⟩ := work_last run
  rw [← readied.settled.answers]
  rcases step_deed last with ⟨rfl, _⟩ | deed
  · rfl
  rcases deed.tenure_cases with ⟨waiting, complete, _⟩ | ⟨_, _, settled⟩
  · refine absurd ?_ unready
    cases readied with
    | heeded =>
      have params : (g.drain.heedFailure E).control.params = g.control.params :=
        congrArg (·.1) ((fixed_kept g.control.fixed).heeded rfl)
      rw [params, (registry_kept g.registry).heeded rfl] at complete
      exact ⟨(heeded_waiting waiting).1, complete, (heeded_waiting waiting).2⟩
    | expired =>
      rw [moveTo_control] at waiting
      cases waiting
  · exact settled.answers

theorem settled_lamps (g : Rig ρ σ δ) : KeptByLamps E fun h : Rig ρ σ δ =>
    h.allocations = g.allocations ∧ h.control.session = g.control.session ∧ h.control.phase = g.control.phase where
  lamp led on same := by
    rw [allocations_eq, showLed_decisions, ← allocations_eq, showLed_session, showLed_phase]
    exact same
  watch _ _ same := same

theorem happen_ready {g g' : Rig ρ σ δ} (ready : g.Ready) {e : Event ρ κ} (ticks : e.isTick = true)
    (now : g.happen E act e = .ok g') : ∃ dirs, Answered E g g' dirs := by
  cases e with
  | tick =>
    obtain ⟨wait, run⟩ := happen_tick now
    obtain ⟨settled, worked, leds, _⟩ := tick_eq_ok.mp run
    obtain ⟨dirs, answered⟩ := ready.work worked
    obtain ⟨noted, session, phase⟩ := (settled_lamps settled).updateLeds leds ⟨rfl, rfl, rfl⟩
    exact ⟨dirs, answered.asked, noted.trans answered.noted, session.trans answered.session, phase.trans answered.phase⟩
  | broken => exact ready.work now
  | _ => cases ticks

theorem happen_unready {g g' : Rig ρ σ δ} {e : Event ρ κ} (unready : ¬(e.isTick = true ∧ g.Ready))
    (now : g.happen E act e = .ok g') : g'.allocations = g.allocations := by
  cases e with
  | tick =>
    obtain ⟨wait, run⟩ := happen_tick now
    obtain ⟨settled, worked, leds, _⟩ := tick_eq_ok.mp run
    rw [((settled_lamps settled).updateLeds leds ⟨rfl, rfl, rfl⟩).1]
    exact work_unready (fun ready => unready ⟨rfl, ready⟩) worked
  | broken => exact work_unready (fun ready => unready ⟨rfl, ready⟩) now
  | command c =>
    cases now
    unfold apply
    split
    · exact (Settled.moveTo _ _).answers
    · rfl
  | attach h =>
    cases now
    rw [allocations_eq, attach_decisions, ← allocations_eq]
  | _ =>
    cases now
    rfl

theorem attach_registry (h : Handle ρ) (g : Rig ρ σ δ) : (g.attach E h).2.registry = (g.registry.attach h).2 := by
  by_cases known : g.registry.isAttached h.name = true
  · simp [attach, Registry.attach, known]
  · simp only [attach, Registry.attach, known]
    cases h.timestampConsumer <;> rfl

/-- The clients that are attached are those that have been, with or without success, under their names. -/
theorem attached_iff {past : List (Rig ρ σ δ × Event ρ κ)} {g₀ g : Rig ρ σ δ} (run : Run E act g₀ past g)
    (name : String) :
    g.registry.isAttached name = true ↔
      g₀.registry.isAttached name = true ∨ ∃ h k, (h, Event.attach k) ∈ past ∧ k.name = name := by
  induction run with
  | start => simp
  | @next past g e g' _ now ih =>
    have kept (other : ∀ k, e ≠ .attach k) (same : g'.registry = g.registry) :
        g'.registry.isAttached name = true ↔ g₀.registry.isAttached name = true ∨
          ∃ h k, (h, Event.attach k) ∈ past ++ [(g, e)] ∧ k.name = name := by
      rw [same, ih]
      simp [fun k => (other k).symm]
    cases e with
    | tick => exact kept nofun ((registry_kept _).tick (happen_tick now).choose_spec rfl)
    | broken => exact kept nofun ((registry_kept _).work now rfl)
    | command c =>
      cases now
      exact kept nofun ((registry_kept (E := E) _).apply c rfl)
    | attach k =>
      cases now
      have added : (∃ h l, (h, Event.attach l) ∈ past ++ [(g, .attach k)] ∧ l.name = name) ↔
          (∃ h l, (h, Event.attach l) ∈ past ∧ l.name = name) ∨ k.name = name := by
        constructor
        · rintro ⟨h, l, member, named⟩
          rcases List.mem_append.mp member with old | new
          · exact Or.inl ⟨h, l, old, named⟩
          · cases List.mem_singleton.mp new
            exact Or.inr named
        · rintro (⟨h, l, member, named⟩ | named)
          · exact ⟨h, l, List.mem_append_left _ member, named⟩
          · exact ⟨g, k, List.mem_append_right _ (List.mem_singleton_self _), named⟩
      rw [attach_registry, Registry.isAttached_attach, ih, added, or_assoc]
    | failure | send | input | storage =>
      cases now
      exact kept nofun rfl

variable (E) in
/-- A rig that a step of a tick may be made on, be it the first of the tick or one that follows others. -/
inductive Midway (now : Instant) (g : Rig ρ σ δ) : Rig ρ σ δ → Prop
  | first : Midway now g (g.drain.heedFailure E)
  | next {h h'} (midway : Midway now g h) (step : h.step E now = .ok h') : Midway now g h'

theorem Midway.tenured {now : Instant} {g h : Rig ρ σ δ} (midway : Midway E now g h) (tenured : Tenured g) :
    Tenured h := by
  induction midway with
  | first => exact tenured_kept.heeded tenured
  | next _ step ih => exact step_kept Deed.tenured step ih

/-- The next tick is to ask for a session: the rig waits, each mandatory client has been attached, and no failure of a
sensor has been reported. -/
def Asks (params : ScanParams) (past : List (Rig ρ σ δ × Event ρ κ)) (g : Rig ρ σ δ) : Prop :=
  g.control.phase = .waitForResources ∧
    (∀ name ∈ params.mandatoryClients, ∃ h k, (h, Event.attach k) ∈ past ∧ k.name = name) ∧
    ∀ h, (h, Event.failure) ∉ past

section Course

variable {params : ScanParams} {indicator : Bool} {instruments : σ} {files : Storage.Tree}
  {past : List (Rig ρ σ δ × Event ρ κ)} {g : Rig ρ σ δ}
  (run : Run E act (fresh params indicator instruments files) past g)

include run

theorem ready_iff : g.Ready ↔ Asks params past g := by
  have same : g.control.params = params := (params_lasting params).run run rfl
  have complete : g.registry.hasAll g.control.params.mandatoryClients = true ↔
      ∀ name ∈ params.mandatoryClients, ∃ h k, (h, Event.attach k) ∈ past ∧ k.name = name := by
    rw [same, Registry.hasAll, List.all_eq_true]
    refine forall₂_congr fun name _ => ?_
    rw [attached_iff run]
    simp [fresh, Registry.isAttached]
  have sound : g.control.sensorFailed = false ↔ ∀ h, (h, Event.failure) ∉ past := by
    rw [← Bool.not_eq_true, reported_iff run]
    simp [fresh]
  constructor
  · rintro ⟨waiting, attached, unreported⟩
    exact ⟨waiting, complete.mp attached, sound.mp unreported⟩
  · rintro ⟨waiting, attached, unreported⟩
    exact ⟨waiting, complete.mpr attached, sound.mpr unreported⟩

theorem tenured_run : Tenured g := tenured_lasting.run run (fresh_tenured ..)

theorem chunks_eq {s : ScanSession} (present : g.control.session = some s) (mode : ScanMode) :
    s.chunks mode = g.trials.countP fun t => t.done && t.mode = mode :=
  (numbered_lasting.run run (fresh_numbered ..)).chunks s present mode

/-- The session is the same ever after, but that its chunks become more. -/
theorem session_stays {s : ScanSession} (present : g.control.session = some s)
    {later : List (Rig ρ σ δ × Event ρ κ)} {g' : Rig ρ σ δ} (on : Run E act g later g') :
    g'.control.phase ≠ .waitForResources ∧ ∃ s', g'.control.session = some s' ∧ s'.dirs = s.dirs ∧
      ∀ mode, s.chunks mode ≤ s'.chunks mode := by
  have noted : g.calls <+: g'.calls := (noted_lasting g.calls).run on List.prefix_rfl
  have granted : some s.dirs ∈ g'.allocations := by
    have answers := (tenured_run run).of_lodged (d := s.dirs) (by rw [present]; rfl)
    refine (noted.filterMap Call.answer?).subset ?_
    rw [← allocations, answers]
    exact List.mem_singleton_self _
  obtain ⟨lodged, left⟩ := (tenured_run (run.trans on)).of_granted granted
  obtain ⟨s', present', dirs⟩ := Option.map_eq_some_iff.mp lodged
  refine ⟨left, s', present', dirs, fun mode => ?_⟩
  rw [chunks_eq run present, chunks_eq (run.trans on) present']
  obtain ⟨more, calls⟩ := noted
  rw [trials, trials, ← calls, Call.trials_append, List.countP_append]
  exact Nat.le_add_right ..

end Course

/-- A session is asked for at most once, and by the first tick that begins while the rig waits, with each mandatory
client attached and no failure reported. Either it is begun, and is then the session ever after, with chunks that only
become more, or the storage error is entered and there is none ever after. Whatever else happens, every phase but the
wait and the errors has a session, also between the steps of a tick, so that no commit is tried without one. -/
theorem session_lifecycle {params : ScanParams} {indicator : Bool} {instruments : σ} {files : Storage.Tree}
    {past : List (Rig ρ σ δ × Event ρ κ)} {g : Rig ρ σ δ}
    (run : Run E act (fresh params indicator instruments files) past g) :
    g.allocations.length ≤ 1 ∧
      (∀ e g', g.happen E act e = .ok g' →
        (e.isTick = true ∧ Asks params past g → g.allocations = [] ∧ ∃ dirs i t,
          E.allocate g.instruments g.files = .ok (dirs, i, t) ∧ g'.allocations = [dirs] ∧
            g'.control.session = dirs.map ({ dirs := · }) ∧
            g'.control.phase = if dirs.isSome then .idle else .storageError) ∧
        (¬(e.isTick = true ∧ Asks params past g) → g'.allocations = g.allocations)) ∧
      (∀ later g', Run E act g later g' →
        (∀ s, g.control.session = some s →
          g'.control.phase ≠ .waitForResources ∧ ∃ s', g'.control.session = some s' ∧ s'.dirs = s.dirs ∧
            ∀ mode, s.chunks mode ≤ s'.chunks mode) ∧
        (none ∈ g.allocations → g'.control.session = none ∧ g'.control.phase.isError = true)) ∧
      (g.control.phase ∉ [.waitForResources, .lidarError, .storageError] → g.control.session.isSome = true) ∧
      ∀ now h, Midway E now g h → ∀ mode stop, h.control.phase.Commits mode stop → h.control.session.isSome = true := by
  have tenured := tenured_run run
  refine ⟨tenured.length_le, fun e g' now => ⟨?_, fun unready => ?_⟩, fun later g' on =>
    ⟨fun s present => session_stays run present on, fun denied => ?_⟩, fun runs => ?_,
    fun now h midway mode stop commits => ?_⟩
  · rintro ⟨ticks, asks⟩
    have ready := (ready_iff run).mpr asks
    obtain ⟨unasked, unlodged⟩ := tenured.of_waiting ready.waiting
    obtain ⟨dirs, ⟨i, t, answer⟩, noted, session, phase⟩ := happen_ready ready ticks now
    rw [unasked] at noted
    rw [Option.map_eq_none_iff.mp unlodged, Option.or_none] at session
    exact ⟨unasked, dirs, i, t, answer, noted, session, phase⟩
  · rw [← ready_iff run] at unready
    exact happen_unready unready now
  · have noted : g.calls <+: g'.calls := (noted_lasting g.calls).run on List.prefix_rfl
    obtain ⟨unlodged, error⟩ := (tenured_run (run.trans on)).of_denied ((noted.filterMap _).subset denied)
    exact ⟨Option.map_eq_none_iff.mp unlodged, error⟩
  · have lodged := tenured.of_runs (Phase.runs_iff.mpr runs)
    rwa [Option.isSome_map] at lodged
  · have lodged := (midway.tenured tenured).of_runs commits.runs
    rwa [Option.isSome_map] at lodged

/-- Two clients that are attached late, with commands that come too early. -/
def lateClients : List (Event Instrument (Instruments → Instruments)) :=
  [.tick 0, .attach (.of "lidar" { logger := true, dumpable := true } .lidar), .command .startScan,
    .send .triggerStopScan, .tick (millis 100), .attach (.of "gnss" { logger := true, dumpable := true } .gnss)]

/-- A continuous scan of one chunk. -/
def firstScan : List (Event Instrument (Instruments → Instruments)) :=
  [.send .startScan, .tick (millis 300), .tick (millis 10300)]

/-- The commands that came too early are dropped. The session is asked for by the tick after the second attachment, and
is the same after a chunk has been committed in it. -/
theorem session_lifecycle_late :
    ∃ past g g' later g'' s, Run Instruments.equipment (fun f i => f i)
        (fresh { mandatoryClients := ["lidar", "gnss"] } true benchInstruments benchTree) past g ∧
      past.map (·.2) = lateClients ∧ g.allocations = [] ∧
      g.happen Instruments.equipment (fun (f : Instruments → Instruments) i => f i) (.tick (millis 200)) = .ok g' ∧
      g'.allocations = [some s.dirs] ∧ g'.control.session = some s ∧ s.continuousChunks = 0 ∧
      Run Instruments.equipment (fun f i => f i) g' later g'' ∧ later.map (·.2) = firstScan ∧
      g''.control.session = some { s with continuousChunks := 1 } ∧ g''.control.phase ≠ .waitForResources := by
  let act (f : Instruments → Instruments) (i : Instruments) : Instruments := f i
  let play (g : Station) := play Instruments.equipment act g
  let start : Station := fresh { mandatoryClients := ["lidar", "gnss"] } true benchInstruments benchTree
  have played : ((play start lateClients).toOption.bind fun g =>
      (g.happen Instruments.equipment act (.tick (millis 200))).toOption.bind fun g' =>
        (play g' firstScan).toOption.map fun g'' =>
          (g.control.phase, g.registry.hasAll g.control.params.mandatoryClients, g.control.sensorFailed,
            g'.control.phase, g''.control.session)) =
      some (.waitForResources, true, false, .idle,
        some { dirs := ⟨0, "usb/continuous", "usb/stop"⟩, continuousChunks := 1 }) := by decide +kernel
  obtain ⟨g, first, rest⟩ := Option.bind_eq_some_iff.mp played
  obtain ⟨g', second, rest⟩ := Option.bind_eq_some_iff.mp rest
  obtain ⟨g'', third, seen⟩ := Option.map_eq_some_iff.mp rest
  obtain ⟨waiting, complete, sound, idle, session⟩ : _ ∧ _ ∧ _ ∧ _ ∧ _ := by simpa only [Prod.mk.injEq] using seen
  obtain ⟨past, events, run⟩ := Run.start.play (toOption_eq_some.mp first)
  obtain ⟨later, more, on⟩ := Run.start.play (toOption_eq_some.mp third)
  have now := toOption_eq_some.mp second
  obtain ⟨_, answers, _⟩ := session_lifecycle run
  obtain ⟨unasked, dirs, _, _, _, noted, begun, phase⟩ :=
    (answers _ _ now).1 ⟨rfl, (ready_iff run).mp ⟨waiting, complete, sound⟩⟩
  cases dirs with
  | none => cases idle.symm.trans phase
  | some dirs =>
    obtain ⟨_, _, stays, _⟩ := session_lifecycle (run.next now)
    obtain ⟨left, s, present, same, _⟩ := (stays later g'' on).1 { dirs } begun
    cases session.symm.trans present
    exact ⟨past, g, g', later, g'', { dirs }, run, events, unasked, now, noted, begun, rfl, on, more,
      by rw [session, ← same], left⟩

end Rig

end CaptureRig

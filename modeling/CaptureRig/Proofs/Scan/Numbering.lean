import CaptureRig.Proofs.Scan.Run

namespace CaptureRig

/-- A commit that has been tried, and the phase it was tried in. -/
structure Trial where
  phase : Phase
  dir : String
  index : Nat
  stop : Bool
  done : Bool
  deriving Repr, DecidableEq

/-- The way of capture whose chunk was to be committed. -/
def Trial.mode (t : Trial) : ScanMode := if t.phase = .stoppingStopScan then .stopScan else .continuous

/-- The phases in which a chunk is committed, the way of capture it belongs to, and whether the loggers are stopped. -/
inductive Phase.Commits : Phase → ScanMode → Bool → Prop
  | running : Commits .scanning .continuous false
  | ending (mode : ScanMode) : Commits mode.ending mode true

namespace Phase.Commits

variable {p : Phase} {mode : ScanMode} {stop : Bool} (commits : p.Commits mode stop)

include commits

theorem not_error : p.isError = false := by
  cases commits with
  | running => rfl
  | ending mode => cases mode <;> rfl

theorem not_waiting : p ≠ .waitForResources := by
  cases commits with
  | running => decide
  | ending mode => cases mode <;> decide

theorem mode_eq {dir : String} {index : Nat} {done : Bool} : (Trial.mode ⟨p, dir, index, stop, done⟩) = mode := by
  cases commits with
  | running => rfl
  | ending mode => cases mode <;> rfl

end Phase.Commits

def ScanSession.chunks (s : ScanSession) : ScanMode → Nat
  | .continuous => s.continuousChunks
  | .stopScan => s.stopScanChunks

theorem ScanSession.chunks_committed (s : ScanSession) (mode other : ScanMode) :
    (s.committed mode).chunks other = s.chunks other + if mode = other then 1 else 0 := by
  cases mode <;> cases other <;> rfl

namespace Call

variable {ρ δ : Type}

def phaseAfter (p : Phase) : Call ρ δ → Phase
  | .moved _ target => target
  | _ => p

/-- The commits tried, told from calls the first of which was made in a given phase. -/
def trials : Phase → List (Call ρ δ) → List Trial
  | _, [] => []
  | p, .committed dir index stop done :: calls => ⟨p, dir, index, stop, done⟩ :: trials p calls
  | p, c :: calls => trials (c.phaseAfter p) calls

theorem trials_append (p : Phase) (calls more : List (Call ρ δ)) :
    trials p (calls ++ more) = trials p calls ++ trials (calls.foldl phaseAfter p) more := by
  induction calls generalizing p with
  | nil => rfl
  | cons c calls ih => cases c <;> simp [trials, phaseAfter, ih]

theorem trials_decisions (p : Phase) (calls : List (Call ρ δ)) : trials p (calls.filter decides) = trials p calls := by
  induction calls generalizing p with
  | nil => rfl
  | cons c calls ih => cases c <;> simp [List.filter_cons, trials, phaseAfter, decides, ih]

theorem phaseAfter_decisions (p : Phase) (calls : List (Call ρ δ)) :
    (calls.filter decides).foldl phaseAfter p = calls.foldl phaseAfter p := by
  induction calls generalizing p with
  | nil => rfl
  | cons c calls ih => cases c <;> simp [List.filter_cons, phaseAfter, decides, ih]

theorem length_trials (p : Phase) (calls : List (Call ρ δ)) : (trials p calls).length = calls.countP isCommit := by
  induction calls generalizing p with
  | nil => rfl
  | cons c calls ih => cases c <;> simp [trials, List.countP_cons, isCommit, ih]

/-- Every dump that is written among the calls is written as the chunk of the commit that is tried next. -/
def Assigned (p : Phase) (calls : List (Call ρ δ)) : Prop :=
  ∀ k c place, calls[k]? = some c → c.place? = some place →
    ∃ t, (trials p calls)[(calls.take k).countP isCommit]? = some t ∧ place = (t.dir, t.index)

namespace Assigned

variable {p : Phase} {calls more : List (Call ρ δ)}

theorem of_unwritten (unwritten : ∀ c ∈ calls, c.place? = none) : Assigned p calls := by
  intro k c place entry wrote
  cases (unwritten c (List.mem_of_getElem? entry)).symm.trans wrote

theorem append (first : Assigned p calls) (second : Assigned (calls.foldl phaseAfter p) more) :
    Assigned p (calls ++ more) := by
  intro k c place entry wrote
  rw [trials_append]
  by_cases before : k < calls.length
  · rw [List.getElem?_append_left before] at entry
    obtain ⟨t, tried, same⟩ := first k c place entry wrote
    rw [List.take_append_of_le_length (Nat.le_of_lt before)]
    exact ⟨t, List.getElem?_append_left (List.getElem?_eq_some_iff.mp tried).1 ▸ tried, same⟩
  · have after : calls.length ≤ k := Nat.le_of_not_lt before
    rw [List.getElem?_append_right after] at entry
    obtain ⟨t, tried, same⟩ := second _ c place entry wrote
    refine ⟨t, ?_, same⟩
    rw [List.take_append, List.take_of_length_le after, List.countP_append, ← length_trials p,
      List.getElem?_append_right (Nat.le_add_right ..), Nat.add_sub_cancel_left]
    exact tried

/-- The dumps that are written before a commit is noted are assigned to it. -/
theorem of_commit {dir : String} {index : Nat} {stop : Bool} (called : ∀ c ∈ calls, c.OfCommit stop dir index)
    (done : Bool) : Assigned p (calls ++ [.committed dir index stop done]) := by
  intro k c place entry wrote
  have untried (part : List (Call ρ δ)) (within : ∀ c ∈ part, c ∈ calls) : part.countP isCommit = 0 :=
    List.countP_eq_zero.mpr fun c member => by simp [(called c (within c member)).not_commit]
  have none : trials p calls = [] :=
    List.eq_nil_of_length_eq_zero (by rw [length_trials, untried calls fun _ => id])
  rw [trials_append, none, List.nil_append]
  by_cases before : k < calls.length
  · rw [List.getElem?_append_left before] at entry
    rw [List.take_append_of_le_length (Nat.le_of_lt before), untried _ fun c => List.mem_of_mem_take]
    exact ⟨_, rfl, (called c (List.mem_of_getElem? entry)).place wrote⟩
  · rw [List.getElem?_append_right (Nat.le_of_not_lt before)] at entry
    cases List.mem_singleton.mp (List.mem_of_getElem? entry)
    cases wrote

end Assigned

end Call

/-- What of a rig concerns the numbers of chunks: among others the commits that have been tried, and the phase that
the notes of the rig come to. -/
structure Ledger where
  phase : Phase
  noted : Phase
  session : Option ScanSession
  stats : CommitStats
  trials : List Trial

namespace Ledger

/-- The books of the commits are in order. -/
structure Tallied (l : Ledger) : Prop where
  noted : l.noted = l.phase
  barriers : l.stats.barriers = l.stats.commits
  commits : l.stats.commits = l.trials.countP (·.done)
  lastChunk : l.stats.commits ≠ 0 → l.stats.lastChunk + 1 = l.stats.commits
  indices : l.trials.map (·.index) = List.range l.trials.length
  others : ∀ t ∈ l.trials.dropLast, t.done = true
  commit : ∀ t ∈ l.trials, t.phase.Commits t.mode t.stop
  unallocated : l.phase = .waitForResources → l.session = none
  untried : l.session = none → l.trials = []
  placed : ∀ s, l.session = some s → ∀ t ∈ l.trials, t.dir = s.dir t.mode
  chunks : ∀ s, l.session = some s → ∀ mode, s.chunks mode = l.trials.countP fun t => t.done && t.mode = mode

/-- The books are in order, and no commit can follow one that failed. -/
structure Numbered (l : Ledger) : Prop extends Tallied l where
  halted : ∀ t ∈ l.trials, t.done = false → l.phase.isError = true

def moveTo (target : Phase) (l : Ledger) : Ledger := { l with phase := target, noted := target }

theorem Tallied.moveTo {l : Ledger} (tallied : Tallied l) {target : Phase} (ahead : target ≠ .waitForResources) :
    Tallied (l.moveTo target) where
  noted := rfl
  barriers := tallied.barriers
  commits := tallied.commits
  lastChunk := tallied.lastChunk
  indices := tallied.indices
  others := tallied.others
  commit := tallied.commit
  unallocated waiting := absurd waiting ahead
  untried := tallied.untried
  placed := tallied.placed
  chunks := tallied.chunks

theorem Numbered.moveTo {l : Ledger} (numbered : Numbered l) {target : Phase} (ahead : target ≠ .waitForResources)
    (final : l.phase.isError = true → target.isError = true) : Numbered (l.moveTo target) where
  toTallied := numbered.toTallied.moveTo ahead
  halted t member failed := final (numbered.halted t member failed)

theorem Tallied.fail {l : Ledger} (tallied : Tallied l) {target : Phase} (error : target.isError = true) :
    Numbered (l.moveTo target) where
  toTallied := tallied.moveTo (by rintro rfl; cases error)
  halted _ _ _ := error

/-- A session is begun, with nothing committed in it. -/
theorem Numbered.allocate {l : Ledger} (numbered : Numbered l) (unallocated : l.session = none) (dirs : SessionDirs) :
    Numbered ({ l with session := some { dirs } }.moveTo .idle) := by
  have untried : l.trials = [] := numbered.untried unallocated
  refine
    { noted := rfl
      barriers := numbered.barriers
      commits := numbered.commits
      lastChunk := numbered.lastChunk
      indices := numbered.indices
      others := numbered.others
      commit := numbered.commit
      unallocated := by simp [Ledger.moveTo]
      untried := fun _ => untried
      placed := ?_
      chunks := ?_
      halted := ?_ }
  · simp [Ledger.moveTo, untried]
  · intro s begun mode
    cases begun
    cases mode <;> simp [Ledger.moveTo, untried, ScanSession.chunks]
  · simp [Ledger.moveTo, untried]

/-- One more commit is tried in the present phase, with the number and directory the session gives it. -/
def enter (s : ScanSession) (mode : ScanMode) (stop done : Bool) (stats : CommitStats) (l : Ledger) : Ledger :=
  { l with
    trials := l.trials ++ [⟨l.phase, s.dir mode, s.nextChunk, stop, done⟩]
    session := some (if done then s.committed mode else s)
    stats }

section Enter

variable {l : Ledger} {s : ScanSession} {mode : ScanMode} {stop : Bool}

/-- The next number is that of the chunks that have been committed. -/
theorem Tallied.nextChunk_eq (tallied : Tallied l) (present : l.session = some s) :
    s.nextChunk = l.stats.commits := by
  have both : s.nextChunk = s.chunks .continuous + s.chunks .stopScan := rfl
  rw [both, tallied.chunks s present, tallied.chunks s present, tallied.commits]
  induction l.trials with
  | nil => rfl
  | cons t rest ih =>
    simp only [List.countP_cons, ← ih]
    cases t.done <;> cases t.mode <;> simp <;> omega

/-- As long as no commit has failed, as many have been tried. -/
theorem Tallied.commits_eq (tallied : Tallied l) (done : ∀ t ∈ l.trials, t.done = true) :
    l.stats.commits = l.trials.length :=
  tallied.commits.trans (List.countP_eq_length.mpr done)

/-- Where a commit is due, none before has failed. -/
theorem Numbered.all_done (numbered : Numbered l) (legal : l.phase.Commits mode stop) :
    ∀ t ∈ l.trials, t.done = true := by
  intro t member
  cases done : t.done with
  | true => rfl
  | false =>
    have error := numbered.halted t member done
    rw [legal.not_error] at error
    cases error

/-- What has been committed is what has been tried, or all of it but the last. -/
theorem Tallied.done_prefix (tallied : Tallied l) : l.trials.filter (·.done) <+: l.trials := by
  have others := tallied.others
  rcases List.eq_nil_or_concat l.trials with none | ⟨before, last, split⟩
  · rw [none]
    exact List.prefix_rfl
  rw [split, List.concat_eq_append] at others ⊢
  rw [List.dropLast_concat] at others
  rw [List.filter_append, List.filter_eq_self.mpr others]
  refine List.prefix_append_right_inj before |>.mpr ?_
  cases done : last.done <;> simp [done]

/-- The chunks that have been committed are numbered from zero, also if a last one was not. -/
theorem Tallied.done_indices (tallied : Tallied l) :
    (l.trials.filter (·.done)).map (·.index) = List.range l.stats.commits := by
  have fewer : (l.trials.filter (·.done)).length ≤ l.trials.length := List.length_filter_le ..
  have first := tallied.done_prefix.map (·.index)
  rw [tallied.indices, List.prefix_iff_eq_take, List.take_range, List.length_map, Nat.min_eq_left fewer] at first
  rw [first, tallied.commits, List.countP_eq_length_filter]

theorem Tallied.enter (tallied : Tallied l) (present : l.session = some s) (all : ∀ t ∈ l.trials, t.done = true)
    (legal : l.phase.Commits mode stop) {done : Bool} {stats : CommitStats}
    (barriers : stats.barriers = l.stats.barriers + if done then 1 else 0)
    (commits : stats.commits = l.stats.commits + if done then 1 else 0)
    (lastChunk : stats.lastChunk = if done then s.nextChunk else l.stats.lastChunk) :
    Tallied (l.enter s mode stop done stats) where
  noted := tallied.noted
  barriers := by
    simp only [Ledger.enter]
    rw [barriers, commits, tallied.barriers]
  commits := by
    simp only [Ledger.enter, List.countP_append]
    rw [commits, tallied.commits]
    cases done <;> rfl
  lastChunk some := by
    simp only [Ledger.enter] at some ⊢
    cases done with
    | true => simp [lastChunk, commits, tallied.nextChunk_eq present]
    | false =>
      rw [lastChunk, commits]
      rw [commits] at some
      exact tallied.lastChunk some
  indices := by
    simp only [Ledger.enter, List.map_append, tallied.indices, List.length_append, List.range_add]
    simp [tallied.nextChunk_eq present, tallied.commits_eq all]
  others := by
    simpa only [Ledger.enter, List.dropLast_concat] using all
  commit t member := by
    rcases List.mem_append.mp member with old | new
    · exact tallied.commit t old
    · cases List.mem_singleton.mp new
      rw [legal.mode_eq]
      exact legal
  unallocated waiting := absurd waiting legal.not_waiting
  untried none := by cases none
  placed s' present' t member := by
    have dirs : ∀ other, s'.dir other = s.dir other := by
      intro other
      cases present'
      cases done
      · rfl
      · exact s.dir_committed mode other
    rw [dirs]
    rcases List.mem_append.mp member with old | new
    · exact tallied.placed s present t old
    · cases List.mem_singleton.mp new
      rw [legal.mode_eq]
  chunks s' present' other := by
    cases present'
    simp only [Ledger.enter, List.countP_append, List.countP_singleton, legal.mode_eq]
    rw [← tallied.chunks s present]
    cases done
    · rfl
    · simp [s.chunks_committed]

end Enter

end Ledger

namespace Rig

open Ledger

variable {ρ σ δ κ : Type} {E : Equipment ρ σ δ} {act : κ → σ → σ}

def trials (g : Rig ρ σ δ) : List Trial := Call.trials .waitForResources g.calls

def ledger (g : Rig ρ σ δ) : Ledger where
  phase := g.control.phase
  noted := g.calls.foldl Call.phaseAfter .waitForResources
  session := g.control.session
  stats := g.stats
  trials := g.trials

/-- The ledger of a rig follows from its decisions. -/
theorem ledger_eq {g g' : Rig ρ σ δ} {more : List (Call ρ δ)} (decisions : g'.decisions = g.decisions ++ more) :
    g'.ledger =
      { phase := g'.control.phase
        noted := more.foldl Call.phaseAfter g.ledger.noted
        session := g'.control.session
        stats := g'.stats
        trials := g.trials ++ Call.trials g.ledger.noted more } := by
  have noted : g'.calls.foldl Call.phaseAfter .waitForResources = more.foldl Call.phaseAfter g.ledger.noted := by
    rw [← Call.phaseAfter_decisions, ← Rig.decisions, decisions, List.foldl_append, Rig.decisions,
      Call.phaseAfter_decisions]
    rfl
  have trials : g'.trials = g.trials ++ Call.trials g.ledger.noted more := by
    rw [Rig.trials, ← Call.trials_decisions, ← Rig.decisions, decisions, Call.trials_append, Rig.decisions,
      Call.trials_decisions, Call.phaseAfter_decisions]
    rfl
  rw [ledger, noted, trials]

theorem ledger_of_same {g g' : Rig ρ σ δ} (decisions : g'.decisions = g.decisions)
    (phase : g'.control.phase = g.control.phase) (session : g'.control.session = g.control.session)
    (stats : g'.stats = g.stats) : g'.ledger = g.ledger := by
  have decisions : g'.decisions = g.decisions ++ [] := by rw [decisions, List.append_nil]
  rw [ledger_eq decisions, phase, session, stats, Call.trials, List.append_nil]
  rfl

/-- The answer to a request for a session is no commit. -/
theorem ledger_answered {g g' : Rig ρ σ δ} {dirs : Option SessionDirs}
    (decisions : g'.decisions = g.decisions ++ [.allocated dirs]) (phase : g'.control.phase = g.control.phase)
    (stats : g'.stats = g.stats) : g'.ledger = { g.ledger with session := g'.control.session } := by
  rw [ledger_eq decisions, phase, stats]
  simp only [Call.trials, List.append_nil, List.foldl_cons, List.foldl_nil, Call.phaseAfter]
  rfl

theorem ledger_moveTo {g : Rig ρ σ δ} (noted : g.ledger.noted = g.ledger.phase) (target : Phase) :
    (g.moveTo target).ledger = g.ledger.moveTo target := by
  rw [ledger_eq (moveTo_decisions target g), moveTo_control, moveTo_stats, noted]
  split
  · rename_i same
    simp only [Call.trials, List.append_nil, List.foldl_nil]
    simp only [ledger, Ledger.moveTo, same]
  · simp only [Call.trials, List.append_nil, List.foldl_cons, List.foldl_nil, Call.phaseAfter]
    rfl

theorem ledger_fail {g : Rig ρ σ δ} (noted : g.ledger.noted = g.ledger.phase) (target : Phase) :
    (g.fail E target).ledger = g.ledger.moveTo target := by
  rw [← ledger_moveTo noted]
  exact ledger_of_same (fail_decisions E target g) (by simp) (by simp) (by simp)

/-- A commit is entered with the number and directory of the session it belongs to. -/
theorem ledger_enter {mode : ScanMode} {stop done : Bool} {g g' : Rig ρ σ δ} {s : ScanSession}
    (noted : g.ledger.noted = g.ledger.phase) (phase : g'.control.phase = g.control.phase)
    (session : g'.control.session = some (if done then s.committed mode else s))
    (decisions : g'.decisions = g.decisions ++ [.committed (s.dir mode) s.nextChunk stop done]) :
    g'.ledger = g.ledger.enter s mode stop done g'.stats := by
  rw [ledger_eq decisions, phase, session, noted]
  simp only [Ledger.enter, Call.trials, List.foldl_cons, List.foldl_nil, Call.phaseAfter]
  rw [noted]
  rfl

/-- A commit that succeeds is entered with the numbers and counts it changes. -/
theorem commitChunk_numbered {mode : ScanMode} {stop : Bool} {g g' : Rig ρ σ δ} (numbered : Numbered g.ledger)
    (legal : g.control.phase.Commits mode stop) (run : g.commitChunk E mode stop = (true, g')) :
    Numbered g'.ledger := by
  obtain ⟨s, present, control, _, decisions, commits, barriers, lastChunk⟩ := commitChunk_done run
  have all := numbered.all_done legal
  have entered : g'.ledger = g.ledger.enter s mode stop true g'.stats :=
    ledger_enter numbered.noted (by rw [control]) (by rw [control]; rfl) decisions
  have tallied : Tallied (g.ledger.enter s mode stop true g'.stats) :=
    numbered.enter present all legal barriers commits lastChunk
  rw [entered]
  refine ⟨tallied, ?_⟩
  intro t member failed
  rcases List.mem_append.mp member with old | new
  · rw [all t old] at failed
    cases failed
  · cases List.mem_singleton.mp new
    cases failed

/-- A commit that fails is entered as the last. -/
theorem commitChunk_numbered_fail {mode : ScanMode} {stop : Bool} {g g' : Rig ρ σ δ} (numbered : Numbered g.ledger)
    (legal : g.control.phase.Commits mode stop) (run : g.commitChunk E mode stop = (false, g')) :
    Numbered (g'.fail E .storageError).ledger := by
  obtain ⟨control, _, stats, ⟨_, rfl⟩ | ⟨s, present, decisions⟩⟩ := commitChunk_failed run
  · rw [ledger_fail numbered.noted]
    exact numbered.toTallied.fail rfl
  have entered : g'.ledger = g.ledger.enter s mode stop false g'.stats :=
    ledger_enter numbered.noted (by rw [control]) (by rw [control, present]; rfl) decisions
  have tallied : Tallied g'.ledger := by
    rw [entered, stats]
    exact numbered.enter present (numbered.all_done legal) legal rfl rfl rfl
  rw [ledger_fail tallied.noted]
  exact tallied.fail rfl

theorem numbered_moveTo {g : Rig ρ σ δ} (numbered : Numbered g.ledger) (running : g.control.phase.isError = false)
    {target : Phase} (ahead : target ≠ .waitForResources) : Numbered (g.moveTo target).ledger := by
  rw [ledger_moveTo numbered.noted]
  refine numbered.moveTo ahead ?_
  intro error
  cases running.symm.trans error

theorem Deed.numbered {now : Instant} {g g' : Rig ρ σ δ} (deed : Deed E now g g') (numbered : Numbered g.ledger) :
    Numbered g'.ledger := by
  cases deed with
  | @allocated dirs i t waiting =>
    have begun : (({ g with instruments := i, files := t }.note (.allocated (some dirs))).inSession dirs).ledger =
        { g.ledger with session := some { dirs } } :=
      ledger_answered (decisions_note { g with instruments := i, files := t } _) rfl rfl
    rw [ledger_moveTo (by rw [begun]; exact numbered.noted), begun]
    exact numbered.allocate (numbered.unallocated waiting) dirs
  | @refused i t waiting =>
    have noted : ({ g with instruments := i, files := t }.note (.allocated none)).ledger = g.ledger :=
      ledger_answered (decisions_note { g with instruments := i, files := t } _) rfl rfl
    rw [ledger_fail (by rw [noted]; exact numbered.noted), noted]
    exact numbered.fail rfl
  | launched starting =>
    have same : ((g.startAll E).setDeadlines { g.control.deadlines with chunkStart := some now }).ledger = g.ledger :=
      ledger_of_same (startAll_decisions E g) (by simp [setDeadlines]) (by simp [setDeadlines]) (by simp [setDeadlines])
    refine numbered_moveTo (same ▸ numbered) ?_ (by decide)
    simp [setDeadlines, starting, Phase.isError]
  | waited => exact numbered
  | filed scanning _ _ done =>
    have filed := commitChunk_numbered (g := g.resumed now) numbered (scanning ▸ .running) done
    exact filed
  | dropped scanning _ _ failed =>
    exact commitChunk_numbered_fail (g := g.resumed now) numbered (scanning ▸ .running) failed
  | @ended mode _ ending done =>
    have legal : g.control.phase.Commits mode true := ending ▸ .ending mode
    obtain ⟨s, _, control, _⟩ := commitChunk_done done
    refine numbered_moveTo (commitChunk_numbered numbered legal done) ?_ (by decide)
    rw [control]
    exact legal.not_error
  | @lost mode _ ending failed => exact commitChunk_numbered_fail numbered (ending ▸ .ending mode) failed
  | @armed _ _ initial final starting =>
    refine numbered_moveTo (g := g.timed initial final) numbered ?_ (by decide)
    simp [timed, setDeadlines, starting, Phase.isError]
  | begun waiting =>
    have same : (g.startAll E).ledger = g.ledger := ledger_of_same (startAll_decisions E g) (by simp) (by simp) (by simp)
    refine numbered_moveTo (same ▸ numbered) ?_ (by decide)
    simp [waiting, Phase.isError]
  | expired capturing => exact numbered_moveTo numbered (capturing ▸ rfl) (by decide)

theorem numbered_lasting : Lasting E act fun g => Numbered g.ledger where
  command {g c target} opened numbered := by
    refine numbered_moveTo numbered ?_ ?_
    · generalize g.control.phase = p at opened
      cases c <;> cases p <;> first | rfl | cases opened
    · rintro rfl
      generalize g.control.phase = p at opened
      cases c <;> cases p <;> cases opened
  failure _ _ numbered := by
    rw [ledger_fail numbered.noted]
    exact numbered.fail rfl
  deed deed numbered := deed.numbered numbered
  lamp led on numbered := by
    rw [ledger_of_same (showLed_decisions E led on _) (by simp) (by simp) (by simp)]
    exact numbered
  queue _ numbered := numbered
  watch _ _ numbered := numbered
  report numbered := numbered
  attach h numbered := by
    rw [ledger_of_same (attach_decisions E h _) (by simp) (by simp) (by simp)]
    exact numbered
  input _ numbered := numbered
  storage _ numbered := numbered

theorem fresh_numbered (params : ScanParams) (indicator : Bool) (instruments : σ) (files : Storage.Tree) :
    Numbered (fresh (ρ := ρ) (δ := δ) params indicator instruments files).ledger where
  noted := rfl
  barriers := rfl
  commits := rfl
  lastChunk some := absurd rfl some
  indices := rfl
  others t member := by cases member
  commit t member := by cases member
  unallocated _ := rfl
  untried _ := rfl
  placed s present := by cases present
  chunks s present := by cases present
  halted t member := by cases member

/-- A commit by the controller takes on the dumps that are written in it. -/
theorem assigned_commitChunk {p : Phase} {mode : ScanMode} {stop done : Bool} {g g' : Rig ρ σ δ}
    (run : g.commitChunk E mode stop = (done, g')) (assigned : Call.Assigned p g.calls) : Call.Assigned p g'.calls := by
  cases present : g.control.session with
  | none =>
    simp only [commitChunk, present, Prod.mk.injEq] at run
    exact run.2 ▸ assigned
  | some s =>
    obtain ⟨before, work, after, calls, called, lamps⟩ := commitChunk_calls present run
    have unwritten (part : List (Call ρ δ)) (within : ∀ c ∈ part, c ∈ before ++ after) : ∀ c ∈ part, c.place? = none := by
      intro c member
      obtain ⟨_, _, rfl⟩ := lamps c (within c member)
      rfl
    have parts : g'.calls =
        g.calls ++ before ++ (work ++ [.committed (s.dir mode) s.nextChunk stop done]) ++ after := by
      simp [calls]
    rw [parts]
    exact ((assigned.append (.of_unwritten (unwritten before fun _ => List.mem_append_left after))).append
      (.of_commit called done)).append (.of_unwritten (unwritten after fun _ => List.mem_append_right before))

theorem assigned_lasting : Lasting E act fun g => Call.Assigned .waitForResources g.calls := by
  have longer {calls : List (Call ρ δ)} {c : Call ρ δ} (none : c.place? = none)
      (assigned : Call.Assigned .waitForResources calls) : Call.Assigned .waitForResources (calls ++ [c]) :=
    assigned.append (.of_unwritten (by simpa using none))
  exact Piecewise.toLasting (I := fun _ => Call.Assigned .waitForResources)
    { start := fun _ => longer rfl
      stop := fun _ => longer rfl
      provide := fun _ => longer rfl
      setLed := fun _ _ => longer rfl
      move := fun _ _ => longer rfl
      allocate := fun _ => longer rfl
      commit := assigned_commitChunk } fun _ _ _ assigned => assigned

/-- At every point of a run the commits are counted as often as their syncs and as the chunks of the session. The k-th
commit that succeeded had the number k and went to the directory for the way of capture that the phase then was of, with
only the chunks of that way counted. A commit that failed was the last to be tried, with the next number. Every dump that
a client has written went to the directory of the commit that was tried next, under the number of that commit. -/
theorem chunks_numbered {params : ScanParams} {indicator : Bool} {instruments : σ} {files : Storage.Tree}
    {past : List (Rig ρ σ δ × Event ρ κ)} {g : Rig ρ σ δ}
    (run : Run E act (fresh params indicator instruments files) past g) :
    g.stats.commits = g.stats.barriers ∧
      g.stats.commits = (g.control.session.map fun s => s.continuousChunks + s.stopScanChunks).getD 0 ∧
      (0 < g.stats.commits → g.stats.lastChunk = g.stats.commits - 1) ∧
      (g.trials.filter (·.done)).map (·.index) = List.range g.stats.commits ∧
      (∀ t ∈ g.trials, t.phase.Commits t.mode t.stop ∧
        ∃ s, g.control.session = some s ∧ t.dir = s.dir t.mode) ∧
      (∀ s, g.control.session = some s →
        ∀ mode, s.chunks mode = g.trials.countP fun t => t.done && t.mode = mode) ∧
      g.trials.map (·.index) = List.range g.trials.length ∧
      (∀ t ∈ g.trials.dropLast, t.done = true) ∧
      (∀ t ∈ g.trials, t.done = false → g.control.phase.isError = true) ∧
      ∀ before r dump dir index outcome left after,
        g.calls = before ++ .persisted r dump dir index outcome left :: after →
        ∃ t, g.trials[before.countP Call.isCommit]? = some t ∧ t.dir = dir ∧ t.index = index := by
  have numbered : Numbered g.ledger := numbered_lasting.run run (fresh_numbered ..)
  have assigned : Call.Assigned .waitForResources g.calls := assigned_lasting.run run (.of_unwritten nofun)
  refine ⟨numbered.barriers.symm, ?_, ?_, numbered.done_indices, ?_, numbered.chunks, numbered.indices,
    numbered.others, numbered.halted, ?_⟩
  · cases present : g.control.session with
    | none =>
      have untried : g.trials = [] := numbered.untried present
      have commits : g.stats.commits = _ := numbered.commits
      rw [commits]
      simp [ledger, untried]
    | some s => exact (numbered.nextChunk_eq present).symm
  · intro some
    have last : g.stats.lastChunk + 1 = g.stats.commits := numbered.lastChunk (Nat.ne_of_gt some)
    omega
  · intro t member
    refine ⟨numbered.commit t member, ?_⟩
    cases present : g.control.session with
    | none =>
      have untried : g.trials = [] := numbered.untried present
      rw [untried] at member
      cases member
    | some s => exact ⟨s, rfl, numbered.placed s present t member⟩
  · intro before r dump dir index outcome left after calls
    have entry : g.calls[before.length]? = some (.persisted r dump dir index outcome left) := by simp [calls]
    obtain ⟨t, tried, same⟩ := assigned _ _ _ entry rfl
    rw [calls, List.take_left, ← calls] at tried
    exact ⟨t, tried, (congrArg (·.1) same).symm, (congrArg (·.2) same).symm⟩

/-- A continuous scan of two chunks, a stop scan, and a continuous scan whose directory has been taken away. The receiver
hears something in the first chunk and in the stop scan. -/
def mixedScans : List (Event Instrument (Instruments → Instruments)) :=
  let heard : Event Instrument (Instruments → Instruments) := .input fun i => { i with gnss := i.gnss.ingest 0 "$A" }
  [.tick 0, .attach (.of "gnss" { logger := true, dumpable := true } .gnss), .send .startScan, .tick 0, heard,
    .tick (millis 10000), .send .stopScan, .tick (millis 11000), .send .triggerStopScan, .tick (millis 12000),
    .tick (millis 17000), heard, .tick (millis 47000), .send .startScan, .tick (millis 48000), .storage {},
    .send .stopScan, .tick (millis 49000)]

/-- Four commits in two directories share one sequence of numbers, and the last of them, which failed, does not count. Two
of them had something to write. -/
theorem chunks_numbered_mixed :
    ∃ past g, Run Instruments.equipment (fun f i => f i) (fresh { mandatoryClients := [] } true benchInstruments benchTree)
        past g ∧
      past.map (·.2) = mixedScans ∧
      g.trials.map (fun t => (t.dir, t.index, t.done)) =
        [("usb/continuous", 0, true), ("usb/continuous", 1, true), ("usb/stop", 2, true), ("usb/continuous", 3, false)] ∧
      g.control.phase = .storageError ∧ g.stats.commits = 3 ∧ g.stats.barriers = 3 ∧
      (g.trials.filter (·.done)).map (·.index) = List.range g.stats.commits ∧
      g.calls.filterMap Call.place? = [("usb/continuous", 0), ("usb/stop", 2)] := by
  have played : (play Instruments.equipment (fun f i => f i)
      (fresh { mandatoryClients := [] } true benchInstruments benchTree) mixedScans).toOption.map
        (fun g => (g.trials.map (fun t => (t.dir, t.index, t.done)), g.control.phase, g.stats.commits,
          g.calls.filterMap Call.place?)) =
      some ([("usb/continuous", 0, true), ("usb/continuous", 1, true), ("usb/stop", 2, true),
        ("usb/continuous", 3, false)], .storageError, 3, [("usb/continuous", 0), ("usb/stop", 2)]) := by decide +kernel
  obtain ⟨g, whole, seen⟩ := Option.map_eq_some_iff.mp played
  obtain ⟨past, events, run⟩ := Run.start.play (toOption_eq_some.mp whole)
  obtain ⟨trials, phase, commits, places⟩ : _ ∧ _ ∧ _ ∧ _ := by simpa only [Prod.mk.injEq] using seen
  obtain ⟨barriers, _, _, indices, _⟩ := chunks_numbered run
  exact ⟨past, g, run, events, trials, phase, commits, barriers ▸ commits, indices, places⟩

end Rig

end CaptureRig

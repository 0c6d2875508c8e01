import CaptureRig.Proofs.Record.Logging
import CaptureRig.Proofs.Scan.Lamp

namespace CaptureRig

namespace Chunk

/-- Why a path is refused as the directory of a chunk. -/
inductive Refusal (t : Storage.Tree) : String → CommitError → Prop
  | empty : Refusal t "" .emptyDirectory
  | inaccessible {dir cause} (named : dir ≠ "") (lost : t.lookup dir = .error cause) :
      Refusal t dir (.inaccessible dir cause)
  | notADirectory {dir n} (named : dir ≠ "") (found : t.lookup dir = .ok n) (file : n.isDirectory = false) :
      Refusal t dir (.notADirectory dir)
  | readOnly {dir n} (named : dir ≠ "") (found : t.lookup dir = .ok n) (directory : n.isDirectory = true)
      (locked : n.readOnly = true) : Refusal t dir (.readOnly dir)

theorem checkDirectory_eq_error {t : Storage.Tree} {dir : String} {e : CommitError} :
    checkDirectory t dir = .error e ↔ Refusal t dir e := by
  constructor
  · intro refused
    unfold checkDirectory at refused
    split at refused
    · rename_i empty
      have unnamed : dir = "" := by simpa using empty
      cases refused
      exact unnamed ▸ .empty
    rename_i named
    have named : dir ≠ "" := by simpa using named
    split at refused
    · rename_i cause lost
      cases refused
      exact .inaccessible named lost
    rename_i n found
    split at refused
    · rename_i file
      cases refused
      exact .notADirectory named found (by simpa using file)
    rename_i directory
    split at refused
    · rename_i locked
      cases refused
      exact .readOnly named found (by simpa using directory) locked
    · cases refused
  · intro refusal
    cases refusal with
    | empty => rfl
    | inaccessible named lost => simp [checkDirectory, named, lost]
    | notADirectory named found file => simp [checkDirectory, named, found, file]
    | readOnly named found directory locked => simp [checkDirectory, named, found, directory, locked]

theorem checkDirectory_eq_ok {t : Storage.Tree} {dir : String} :
    checkDirectory t dir = .ok () ↔ ∀ e, ¬Refusal t dir e := by
  cases checked : checkDirectory t dir with
  | ok => simp [← checkDirectory_eq_error, checked]
  | error e => simp [← checkDirectory_eq_error, checked]

end Chunk

namespace Rig

open Chunk

variable {ρ σ δ κ : Type} {E : Equipment ρ σ δ} {act : κ → σ → σ} {g g' h : Rig ρ σ δ}

/-- Nothing but the phase, the queue and the deadlines is different, and only changes of phase are noted. -/
structure Poised (g h : Rig ρ σ δ) : Prop where
  control : ∃ phase queue deadlines, h.control = { g.control with phase, queue, deadlines }
  instruments : h.instruments = g.instruments
  registry : h.registry = g.registry
  files : h.files = g.files
  stats : h.stats = g.stats
  moves : Notes (fun c => ∃ p q, c = .moved p q) g h

namespace Poised

theorem refl (g : Rig ρ σ δ) : Poised g g :=
  ⟨⟨_, _, _, rfl⟩, rfl, rfl, rfl, rfl, .of_same rfl⟩

theorem moveTo (poised : Poised g h) (target : Phase) : Poised g (h.moveTo target) where
  control := by
    obtain ⟨_, queue, deadlines, control⟩ := poised.control
    exact ⟨target, queue, deadlines, by rw [moveTo_control, control]⟩
  instruments := (moveTo_instruments target h).trans poised.instruments
  registry := (moveTo_registry target h).trans poised.registry
  files := (moveTo_files target h).trans poised.files
  stats := (moveTo_stats target h).trans poised.stats
  moves := poised.moves.trans (moveTo_notes target h)

theorem plan (poised : Poised g h) (queue : List Command) (deadlines : Deadlines) :
    Poised g { h with control := { h.control with queue, deadlines } } where
  control := by
    obtain ⟨phase, _, _, control⟩ := poised.control
    exact ⟨phase, queue, deadlines, by rw [control]⟩
  instruments := poised.instruments
  registry := poised.registry
  files := poised.files
  stats := poised.stats
  moves := poised.moves

/-- Heeding the queue leaves a rig poised, unless a report is heeded too. -/
theorem orders (g : Rig ρ σ δ) : KeptByOrders E fun h => h.control.phase ≠ .lidarError → Poised g h where
  command opened poised _ := by
    refine (poised fun lidar => ?_).moveTo _
    rw [lidar] at opened
    cases Command.running_of_target opened
  failure _ _ _ heeded := by
    rw [fail_control] at heeded
    exact absurd rfl heeded
  queue queue poised heeded := (poised heeded).plan queue _

theorem attempts (poised : Poised g h) : h.attempts = g.attempts :=
  poised.moves.filter_eq (by rintro _ ⟨_, _, rfl⟩; rfl)

end Poised

/-- A tick tries no commit, or from a rig that is poised the commit of a chunk, with what follows from it. -/
theorem work_commits {now : Instant} (run : g.work E now = .ok g') :
    g'.attempts = g.attempts ∨
      g.control.phase.isError = false ∧ ∃ h mode stop done h', Poised g h ∧
        h.commitChunk E mode stop = (done, h') ∧ Sequel E done h' g' := by
  have quiet : (g.drain.heedFailure E).attempts = g.attempts := (attempts_orders _).heeded rfl
  cases error : g.control.phase.isError with
  | true =>
    have failing : g.Failing := Or.inr error
    cases (failing.work_eq now).symm.trans run
    exact Or.inl quiet
  | false =>
    obtain ⟨_, h, readied, step⟩ := work_last run
    -- A report leads to an error, in which no commit is tried, so only commands can have been heeded before one.
    have heeded : (g.drain.heedFailure E).control.phase ≠ .lidarError → Poised g (g.drain.heedFailure E) :=
      (Poised.orders g).heeded fun _ => .refl g
    have found : h.attempts = g.attempts ∧ (h.control.phase.isError = false → Poised g h) := by
      cases readied with
      | heeded =>
        refine ⟨quiet, fun running => heeded fun lidar => ?_⟩
        rw [lidar] at running
        cases running
      | expired capturing =>
        refine ⟨(attempts_moveTo _ _).trans quiet, fun _ => (heeded fun lidar => ?_).moveTo _⟩
        rw [lidar] at capturing
        cases capturing
    rcases step_deed step with ⟨rfl, _⟩ | deed
    · exact Or.inl found.1
    rcases deed.commits with none | ⟨deadlines, mode, stop, done, h', tried, sequel⟩
    · exact Or.inl (none.trans found.1)
    · exact Or.inr ⟨rfl, _, mode, stop, done, h', (found.2 deed.running).plan _ deadlines, tried, sequel⟩

theorem work_lastPhase {now : Instant} (run : g.work E now = .ok g') :
    g'.control.lastPhase = g.control.lastPhase := by
  have orders : KeptByOrders E fun h : Rig ρ σ δ => h.control.lastPhase = g.control.lastPhase :=
    { command := fun _ same => by rwa [moveTo_control]
      failure := fun _ _ same => by rwa [fail_control]
      queue := fun _ same => same }
  refine advance_kept (I := fun h => h.control.lastPhase = g.control.lastPhase) (fun deed same => ?_) run
    (orders.heeded rfl)
  obtain ⟨_, _, _, _, control⟩ := deed.control
  rw [control]
  exact same

/-- A rig whose copy lamp has been lit for the commit of a chunk, and that has gone on with it without counting it. -/
structure Lit (g h : Rig ρ σ δ) : Prop where
  control : ∃ phase queue deadlines shown, h.control = { g.control with phase, queue, deadlines, shown }
  stats : h.stats = g.stats
  shown : h.control.shown .copyData = some true
  copies : h.copies = g.copies ++ if g.control.indicator then [true] else []

theorem Poised.lit (poised : Poised g h) (unlit : g.control.shown .copyData ≠ some true) :
    Lit g (h.showLed E .copyData true) where
  control := by
    obtain ⟨phase, queue, deadlines, control⟩ := poised.control
    exact ⟨phase, queue, deadlines, _, by rw [showLed_control, control]⟩
  stats := (showLed_stats ..).trans poised.stats
  shown := showLed_shown ..
  copies := by
    obtain ⟨_, _, _, control⟩ := poised.control
    have before : h.copies = g.copies := copies_of_notes poised.moves (by rintro _ ⟨_, _, rfl⟩; rfl)
    rw [copies_showLed (by rwa [control]), before, control]

theorem Lit.stored (lit : Lit g h) (dir : String) (index : Nat) (stop : Bool) : Lit g (h.stored E dir index stop) where
  control := by rw [stored_control]; exact lit.control
  stats := (stored_stats ..).trans lit.stats
  shown := by rw [stored_control]; exact lit.shown
  copies := (copies_stored ..).trans lit.copies

section Alike

variable (instruments : h.instruments = g.instruments)

include instruments

theorem freezeEach_alike (clients : List (String × ρ)) :
    (freezeEach E clients h).1 = (freezeEach E clients g).1 ∧
      (freezeEach E clients h).2.instruments = (freezeEach E clients g).2.instruments := by
  induction clients generalizing g h with
  | nil => exact ⟨rfl, instruments⟩
  | cons entry rest ih =>
    let next (g' : Rig ρ σ δ) : Rig ρ σ δ :=
      { g' with instruments := (E.freeze entry.2 g.instruments).2 }.note (.froze entry.2 (E.freeze entry.2 g.instruments).1)
    have step := ih (g := next g) (h := next h) rfl
    simp only [freezeEach, instruments]
    exact ⟨congrArg _ step.1, step.2⟩

theorem persistEach_alike (files : h.files = g.files) (dir : String) (index : Nat) (frozen : List (Frozen ρ δ)) :
    (persistEach E dir index frozen h).2.files = (persistEach E dir index frozen g).2.files := by
  induction frozen generalizing g h with
  | nil => exact files
  | cons f rest ih =>
    simp only [persistEach]
    exact ih (by simpa using instruments) (by simp only [note_files, instruments, files])

/-- What a commit stores, and whether that can be synced, depends on the instruments, the registry and the storage. -/
theorem stored_sync_alike (registry : h.registry = g.registry) (files : h.files = g.files) (dir : String) (index : Nat)
    (stop : Bool) : (h.stored E dir index stop).sync E dir = (g.stored E dir index stop).sync E dir := by
  obtain ⟨dumps, frozen⟩ := freezeEach_alike (E := E) instruments g.registry.dumpables
  have gathered : (h.gathered E stop).instruments = (g.gathered E stop).instruments := by
    simp only [Rig.gathered, registry]
    cases stop with
    | false => exact frozen
    | true =>
      have attached (k : Rig ρ σ δ) : (freezeEach E g.registry.dumpables k).2.registry = k.registry := by
        rw [freezeEach_eq]
      simp only [if_true, stopAll_eq, attached, registry, frozen]
  have same : h.gatheredDumps E = g.gatheredDumps E := by rw [gatheredDumps, registry, dumps, gatheredDumps]
  have stored : (h.stored E dir index stop).files = (g.stored E dir index stop).files := by
    rw [Rig.stored, Rig.stored, same]
    exact persistEach_alike gathered (by rw [gathered_files, gathered_files, files]) dir index _
  have left (k : Rig ρ σ δ) : (k.stored E dir index stop).instruments = (k.gathered E stop).instruments := by
    rw [Rig.stored, persistEach_eq]
  rw [Rig.sync, Rig.sync, left, left, gathered, stored]

end Alike

theorem Poised.showLed_instruments (poised : Poised g h) (led : Led) (on : Bool) :
    (h.showLed E led on).instruments = (g.showLed E led on).instruments := by
  obtain ⟨_, _, _, control⟩ := poised.control
  simp only [Rig.showLed, control, poised.instruments]
  split
  · exact poised.instruments
  split <;> rfl

section Abandoned

variable [DecidableEq ρ]

variable (E act) in
/-- What is left of a rig by a tick whose commit failed: nothing is counted, the lamp has been lit and put out, and all
the loggers are stopped. -/
structure Abandoned (g g' : Rig ρ σ δ) : Prop where
  session : g'.control.session = g.control.session
  stats : g'.stats = g.stats
  phase : g'.control.phase = .storageError
  unlit : g'.control.shown .copyData = some false
  copies : g'.copies = g.copies ++ if g.control.indicator then [true, false] else []
  stopped : ∀ L : Logger E act, L.client ∈ g'.registry.loggers → L.logging g'.instruments = false

theorem Lit.abandoned (lit : Lit g h) (dir : String) (index : Nat) (stop : Bool) :
    Abandoned E act g ((h.concluded E dir index stop false).fail E .storageError) := by
  obtain ⟨_, _, _, _, control⟩ := lit.control
  have shown : (h.concluded E dir index stop false).control.shown .copyData = some false := showLed_shown ..
  have copies : (h.concluded E dir index stop false).copies =
      h.copies ++ if h.control.indicator then [false] else [] := by
    have noted : (h.note (.committed dir index stop false)).copies = h.copies :=
      copies_of_notes (.of_note rfl h) (by rintro _ rfl; rfl)
    rw [concluded, copies_showLed (by rw [note_control, lit.shown]; decide), noted, note_control]
  refine ⟨?_, ?_, ?_, ?_, ?_, fun L member => ?_⟩
  · rw [fail_control, concluded, showLed_control, note_control, control]
  · rw [fail_stats, concluded, showLed_stats, note_stats, lit.stats]
  · rw [fail_control]
  · rw [fail_control]
    exact shown
  · rw [copies_fail, copies, lit.copies, control]
    cases g.control.indicator <;> simp
  · rw [fail_registry] at member
    have attached : L.attached (h.concluded E dir index stop false) = true := decide_eq_true member
    have logs := L.logs_fail .storageError (h.concluded E dir index stop false)
    rwa [attached, Bool.not_true, Bool.and_false] at logs

theorem Abandoned.updateLeds (abandoned : Abandoned E act g h) (new : h.control.lastPhase ≠ .storageError)
    {now : Instant} (run : h.updateLeds E now = .ok g') : Abandoned E act g g' := by
  obtain ⟨⟨_, _, _, control⟩, registry, _, stats⟩ := updateLeds_frame run
  obtain ⟨fast, slow, _, _, shown⟩ := updateLeds_eq_ok.mp run
  refine ⟨?_, stats.trans abandoned.stats, ?_, ?_, ?_, fun L member => ?_⟩
  · rw [control]
    exact abandoned.session
  · rw [control]
    exact abandoned.phase
  · rw [shown]
    exact showPhase_unlit fun _ => new
  · rw [shown, copies_showPhase (fun _ => new) abandoned.unlit, abandoned.copies]
  · rw [registry] at member
    exact (L.logs_lamps false).updateLeds run (abandoned.stopped L member)

end Abandoned

variable (E) in
/-- What a refused commit leaves alone, also if its tick goes on to stop the loggers and to change the lamps: the
files, the clients with their data, and all that neither of these touches in the instruments. -/
structure Spared (g g' : Rig ρ σ δ) : Prop where
  files : g'.files = g.files
  calls : Notes (fun c => c.works = true → c.isCommit = true) g g'
  held : ∀ {β : Type} (held : σ → β), (∀ r i, held (E.stop r i) = held i) →
    (∀ led on i, held (E.setLed led on i) = held i) → held g'.instruments = held g.instruments

namespace Spared

theorem of_same (calls : Notes (fun c => c.works = true → c.isCommit = true) g g') (files : g'.files = g.files)
    (instruments : g'.instruments = g.instruments) : Spared E g g' :=
  ⟨files, calls, fun _ _ _ => by rw [instruments]⟩

theorem refl (g : Rig ρ σ δ) : Spared E g g := of_same (.of_same rfl) rfl rfl

theorem trans (first : Spared E g h) (second : Spared E h g') : Spared E g g' :=
  ⟨second.files.trans first.files, first.calls.trans second.calls,
    fun get stop lamp => (second.held get stop lamp).trans (first.held get stop lamp)⟩

theorem of_poised (poised : Poised g h) : Spared E g h :=
  of_same (poised.moves.mono (by rintro _ ⟨_, _, rfl⟩; exact nofun)) poised.files poised.instruments

theorem showLed (led : Led) (on : Bool) (g : Rig ρ σ δ) : Spared E g (g.showLed E led on) where
  files := showLed_files ..
  calls := (showLed_notes E led on g).mono (by rintro _ rfl; exact nofun)
  held get _ lamp := by
    rcases showLed_instruments E led on g with unlit | lit
    · rw [unlit]
    · rw [lit, lamp]

theorem stopAll (g : Rig ρ σ δ) : Spared E g (g.stopAll E) where
  files := stopAll_files E g
  calls := (stopAll_notes E g).mono (by rintro _ ⟨_, rfl⟩; exact nofun)
  held get stop _ := by
    rw [stopAll_eq]
    dsimp only
    generalize g.instruments = i
    induction g.registry.loggers generalizing i with
    | nil => rfl
    | cons r rest ih => exact (ih (E.stop r i)).trans (stop r i)

theorem lamps (g : Rig ρ σ δ) : KeptByLamps E (Spared E g) where
  lamp led on spared := spared.trans (showLed led on _)
  watch _ _ spared := spared.trans (of_same (.of_same rfl) rfl rfl)

theorem refused (dir : String) (index : Nat) (stop : Bool) (g : Rig ρ σ δ) :
    Spared E g (((g.showLed E .copyData true).concluded E dir index stop false).fail E .storageError) := by
  have lit : Spared E g (g.showLed E .copyData true) := showLed ..
  have noted : Spared E (g.showLed E .copyData true) ((g.showLed E .copyData true).concluded E dir index stop false) :=
    (of_same (.of_note (fun _ => rfl) _) rfl rfl).trans (showLed ..)
  have failed (h : Rig ρ σ δ) : Spared E h (h.fail E .storageError) :=
    (of_poised ((Poised.refl h).moveTo .storageError)).trans (stopAll _)
  exact (lit.trans noted).trans (failed _)

end Spared

variable [DecidableEq ρ]

variable (E act) in
/-- How a tick has dealt with the commit of a chunk into a directory. -/
structure Verdict (g g' : Rig ρ σ δ) (dir : String) (index : Nat) (stop done : Bool) : Prop where
  planned : ∃ s mode, g.control.session = some s ∧ dir = s.dir mode ∧ index = s.nextChunk
  failed : done = false ↔ (∃ e, Refusal g.files dir e) ∨
    ∃ cause, ((g.showLed E .copyData true).commit E dir index stop).2.sync E dir = .error cause
  abandoned : done = false → Abandoned E act g g'
  spared : ∀ e, Refusal g.files dir e → Spared E g g'

theorem Poised.verdict (poised : Poised g h) (unlit : g.control.shown .copyData ≠ some true) {mode : ScanMode}
    {s : ScanSession} (present : h.control.session = some s) {stop done : Bool} {h' : Rig ρ σ δ}
    (tried : h.commitChunk E mode stop = (done, h')) (sequel : Sequel E done h' g') :
    Verdict E act g g' (s.dir mode) s.nextChunk stop done := by
  obtain ⟨_, _, _, control⟩ := poised.control
  have session : g.control.session = some s := (congrArg (·.session) control).symm.trans present
  have lit : Lit g (h.showLed E .copyData true) := poised.lit unlit
  have synced (checked : checkDirectory g.files (s.dir mode) = .ok ()) :
      ((g.showLed E .copyData true).commit E (s.dir mode) s.nextChunk stop).2.sync E (s.dir mode) =
        ((h.showLed E .copyData true).stored E (s.dir mode) s.nextChunk stop).sync E (s.dir mode) := by
    rw [commit_sync E ((showLed_files E .copyData true g).symm ▸ checked)]
    refine (stored_sync_alike (poised.showLed_instruments .copyData true) ?_ ?_ _ _ stop).symm
    · rw [showLed_registry, showLed_registry, poised.registry]
    · rw [showLed_files, showLed_files, poised.files]
  -- Of the four ways in which the commit can end, the first has no session.
  cases commitChunk_end tried with
  | unallocated absent => cases absent.symm.trans present
  | @refused _ e present' refused =>
    cases present'.symm.trans present
    have refusal : Refusal g.files (s.dir mode) e := checkDirectory_eq_error.mp (poised.files ▸ refused)
    cases sequel with
    | fails =>
      refine ⟨⟨s, mode, session, rfl, rfl⟩, iff_of_true rfl (Or.inl ⟨e, refusal⟩), fun _ => lit.abandoned _ _ _, ?_⟩
      exact fun _ _ => (Spared.of_poised poised).trans (.refused ..)
  | @unsynced _ e present' checked lost =>
    cases present'.symm.trans present
    have checked : checkDirectory g.files (s.dir mode) = .ok () := poised.files ▸ checked
    have accepted : ∀ e, ¬Refusal g.files (s.dir mode) e := checkDirectory_eq_ok.mp checked
    cases sequel with
    | fails =>
      exact ⟨⟨s, mode, session, rfl, rfl⟩, iff_of_true rfl (Or.inr ⟨e, (synced checked).trans lost⟩),
        fun _ => (lit.stored _ _ _).abandoned _ _ _, fun e refusal => absurd refusal (accepted e)⟩
  | counted present' checked done =>
    cases present'.symm.trans present
    have checked : checkDirectory g.files (s.dir mode) = .ok () := poised.files ▸ checked
    have accepted : ∀ e, ¬Refusal g.files (s.dir mode) e := checkDirectory_eq_ok.mp checked
    refine ⟨⟨s, mode, session, rfl, rfl⟩, iff_of_false nofun ?_, nofun, fun e refusal => absurd refusal (accepted e)⟩
    rintro (⟨e, refusal⟩ | ⟨cause, lost⟩)
    · exact accepted e refusal
    · cases done.symm.trans ((synced checked).symm.trans lost)

theorem Verdict.updateLeds {dir : String} {index : Nat} {stop done : Bool}
    (verdict : Verdict E act g h dir index stop done) (new : h.control.lastPhase ≠ .storageError) {now : Instant}
    (run : h.updateLeds E now = .ok g') : Verdict E act g g' dir index stop done where
  planned := verdict.planned
  failed := verdict.failed
  abandoned failed := (verdict.abandoned failed).updateLeds new run
  spared e refusal := (verdict.spared e refusal).trans ((Spared.lamps h).updateLeds run (.refl h))

variable (E act) in
/-- A tick tries no commit, or one that there is a verdict on. -/
def Judged (g g' : Rig ρ σ δ) : Prop :=
  g'.attempts = g.attempts ∨ ∃ dir index stop done,
    g'.attempts = g.attempts ++ [.committed dir index stop done] ∧ Verdict E act g g' dir index stop done

theorem work_judged (calm : g.Calm) {now : Instant} (run : g.work E now = .ok g') :
    Judged E act g g' ∧ (g'.attempts ≠ g.attempts → g'.control.lastPhase ≠ .storageError) := by
  rcases work_commits run with none | ⟨running, h, mode, stop, done, h', poised, tried, sequel⟩
  · exact ⟨Or.inl none, fun some => absurd none some⟩
  obtain ⟨unlit, unseen⟩ := calm running
  have lastPhase : g'.control.lastPhase = g.control.lastPhase := work_lastPhase run
  refine ⟨?_, fun _ => lastPhase ▸ unseen⟩
  rcases attempts_commitChunk tried with none | ⟨s, present, noted⟩
  · exact Or.inl (sequel.attempts.trans (none.trans poised.attempts))
  · refine Or.inr ⟨s.dir mode, s.nextChunk, stop, done, ?_, poised.verdict unlit present tried sequel⟩
    rw [sequel.attempts, noted, poised.attempts]

theorem judged_ticks (calm : g.Calm) {e : Event ρ κ} (ticks : e.isTick = true) (now : g.happen E act e = .ok g') :
    Judged E act g g' := by
  cases e with
  | tick =>
    obtain ⟨settled, work, leds, _⟩ := tick_eq_ok.mp (happen_tick now).choose_spec
    have same : g'.attempts = settled.attempts := (attempts_lamps _).updateLeds leds rfl
    have judged : Judged E act g settled ∧ _ := work_judged calm work
    obtain ⟨none | ⟨dir, index, stop, done, noted, verdict⟩, new⟩ := judged
    · exact Or.inl (same.trans none)
    · have unseen : settled.control.lastPhase ≠ .storageError := new (by simp [noted])
      exact Or.inr ⟨dir, index, stop, done, same.trans noted, verdict.updateLeds unseen leds⟩
  | broken => exact (work_judged calm now).1
  | _ => cases ticks

variable (E act) in
/-- A path that is empty, inaccessible, no directory or read only is refused with an error that says so, and the rig is
left as it was: no client is frozen, stopped or written, nothing is counted. A commit whose directory cannot be synced
at last, be it gone or in its place, fails for that and counts nothing. In every run, the commit that a tick tries fails
exactly in these two cases, and then the session and the statistics are as before the tick, the rig is in the storage
error with its copy lamp put out again and all loggers stopped; and if the commit was refused, what the clients have
kept is untouched. -/
theorem failed_commits_clean :
    (∀ (g : Rig ρ σ δ) (dir : String) (index : Nat) (stop : Bool) (e : CommitError), Refusal g.files dir e →
      g.commit E dir index stop = (.error e, g)) ∧
    (∀ (g : Rig ρ σ δ) (dir : String) (index : Nat) (stop : Bool) (cause : Storage.AccessError),
      (∀ e, ¬Refusal g.files dir e) → (g.commit E dir index stop).2.sync E dir = .error cause →
      (g.commit E dir index stop).1 = .error (.syncFailed dir cause) ∧ (g.commit E dir index stop).2.stats = g.stats) ∧
    ∀ {params : ScanParams} {indicator : Bool} {instruments : σ} {files : Storage.Tree}
      {past : List (Rig ρ σ δ × Event ρ κ)} {g g' : Rig ρ σ δ} {e : Event ρ κ},
      Run E act (fresh params indicator instruments files) past g → e.isTick = true → g.happen E act e = .ok g' →
      ∃ added, g'.calls = g.calls ++ added ∧ ∀ dir index stop done, Call.committed dir index stop done ∈ added →
        Verdict E act g g' dir index stop done := by
  refine ⟨fun g dir index stop e refusal => commit_refused E (checkDirectory_eq_error.mpr refusal) index stop, ?_, ?_⟩
  · intro g dir index stop cause accepted lost
    have checked := checkDirectory_eq_ok.mpr accepted
    rw [commit_sync E checked] at lost
    rw [commit_checked E checked, lost]
    exact ⟨rfl, stored_stats ..⟩
  · intro _ _ _ _ past g g' e run ticks now
    obtain ⟨added, calls⟩ := (noted_lasting g.calls).happen now List.prefix_rfl
    refine ⟨added, calls.symm, fun dir index stop done member => ?_⟩
    have tried : Call.committed dir index stop done ∈ added.filter Call.isCommit := List.mem_filter.mpr ⟨member, rfl⟩
    have attempts : g'.attempts = g.attempts ++ added.filter Call.isCommit := by
      rw [Rig.attempts, ← calls, List.filter_append, Rig.attempts]
    rcases judged_ticks (Calm.run run) ticks now with none | ⟨dir', index', stop', done', noted, verdict⟩
    · rw [List.self_eq_append_right.mp (none.symm.trans attempts)] at tried
      cases tried
    · rw [List.append_cancel_left (attempts.symm.trans noted)] at tried
      cases List.mem_singleton.mp tried
      exact verdict

/-- A scan with a sentence in the buffer of the receiver, whose directories vanish. -/
def vanishingScan : List (Event Instrument Intake) :=
  [.tick 0, .attach (.of "gnss" { logger := true, dumpable := true } .gnss), .send .startScan, .tick 0,
    .input (.sentence 2 "$A"), .storage {}]

/-- A scan with a sensor that removes the directory it is to write to. -/
def shreddedScan : List (Event Instrument Intake) :=
  [.tick 0, .attach (.of "shredder" { dumpable := true } (.sensor "shredder")), .send .startScan, .tick 0]

def shredder : Rehearsal.Sensor := { reportName := "shredder", records := ["a"], behaviour := .removesDirectory }

/-- A scan to a medium that fails: the directory of the chunk can be looked at, but no longer synced. -/
def failingScan : List (Event Instrument Intake) :=
  [.tick 0, .attach (.of "gnss" { logger := true, dumpable := true } .gnss), .send .startScan, .tick 0,
    .input (.sentence 2 "$A"), .storage { benchTree with flaws := [(["usb", "continuous"], ⟨.inputOutput, 0⟩)] }]

/-- The chunk of the first scan is refused and its sentence is kept. Those of the others are not counted: a directory is
gone after the writing, and another one is in its place, but cannot be synced. -/
theorem failed_commits_clean_stray :
    (∃ past g g', Run Instruments.equipment Intake.act
        (fresh { mandatoryClients := [] } true benchInstruments benchTree) past g ∧
      past.map (·.2) = vanishingScan ∧ g.happen Instruments.equipment Intake.act (.tick (millis 10000)) = .ok g' ∧
      (∃ cause, g.commit Instruments.equipment "usb/continuous" 0 false =
        (.error (.inaccessible "usb/continuous" cause), g)) ∧
      Abandoned Instruments.equipment Intake.act g g' ∧ g'.instruments.gnss.buffer = [⟨2, "$A"⟩]) ∧
    (∃ past g g', Run Instruments.equipment Intake.act
        (fresh { mandatoryClients := [] } true (benchInstruments.addSensor "shredder" shredder) benchTree) past g ∧
      past.map (·.2) = shreddedScan ∧ g.happen Instruments.equipment Intake.act (.tick (millis 10000)) = .ok g' ∧
      (∃ cause, (g.commit Instruments.equipment "usb/continuous" 0 false).1 =
        .error (.syncFailed "usb/continuous" cause)) ∧
      Abandoned Instruments.equipment Intake.act g g') ∧
    ∃ past g g', Run Instruments.equipment Intake.act
        (fresh { mandatoryClients := [] } true benchInstruments benchTree) past g ∧
      past.map (·.2) = failingScan ∧ g.happen Instruments.equipment Intake.act (.tick (millis 10000)) = .ok g' ∧
      (g'.files.lookup "usb/continuous").isOk = true ∧
      (∃ cause, (g.commit Instruments.equipment "usb/continuous" 0 false).1 =
        .error (.syncFailed "usb/continuous" cause)) ∧
      Abandoned Instruments.equipment Intake.act g g' := by
  obtain ⟨refused, unsynced, ticked⟩ := failed_commits_clean Instruments.equipment Intake.act
  have only {g g' : Station} {added} {c : Call Instrument Chunk.Dump} (calls : g'.calls = g.calls ++ added)
      (before : g.attempts = []) (after : g'.attempts = [c]) : c ∈ added := by
    have new : added.filter Call.isCommit = [c] := by
      rw [attempts, calls, List.filter_append, ← attempts, before] at after
      exact after
    exact (List.mem_filter.mp (new ▸ List.mem_singleton_self c)).1
  have accepted {g : Station} (checked : (checkDirectory g.files "usb/continuous").isOk = true) :
      ∀ e, ¬Refusal g.files "usb/continuous" e := by
    refine checkDirectory_eq_ok.mp ?_
    cases result : checkDirectory g.files "usb/continuous" with
    | ok => rfl
    | error e =>
      rw [result] at checked
      cases checked
  -- The two scans that are not synced, which differ in whether the directory is there at last.
  have unsyncable (instruments : Instruments) (events : List (Event Instrument Intake)) (stands : Bool)
      (played : ((play Instruments.equipment Intake.act
        (fresh { mandatoryClients := [] } true instruments benchTree) events).toOption.bind fun g =>
          (g.happen Instruments.equipment Intake.act (.tick (millis 10000))).toOption.map fun g' =>
            ((g.attempts, g'.attempts), (checkDirectory g.files "usb/continuous").isOk,
              ((g.commit Instruments.equipment "usb/continuous" 0 false).2.sync
                Instruments.equipment "usb/continuous").isOk,
              (g'.files.lookup "usb/continuous").isOk)) =
        some (([], [.committed "usb/continuous" 0 false false]), true, false, stands)) :
      ∃ past g g', Run Instruments.equipment Intake.act
          (fresh { mandatoryClients := [] } true instruments benchTree) past g ∧
        past.map (·.2) = events ∧ g.happen Instruments.equipment Intake.act (.tick (millis 10000)) = .ok g' ∧
        (g'.files.lookup "usb/continuous").isOk = stands ∧
        (∃ cause, (g.commit Instruments.equipment "usb/continuous" 0 false).1 =
          .error (.syncFailed "usb/continuous" cause)) ∧
        Abandoned Instruments.equipment Intake.act g g' := by
    obtain ⟨g, first, rest⟩ := Option.bind_eq_some_iff.mp played
    obtain ⟨g', last, seen⟩ := Option.map_eq_some_iff.mp rest
    have last := toOption_eq_some.mp last
    obtain ⟨⟨before, after⟩, checked, lost, found⟩ : (_ ∧ _) ∧ _ ∧ _ ∧ _ := by
      simpa only [Prod.mk.injEq] using seen
    obtain ⟨past, events, run⟩ := Run.start.play (toOption_eq_some.mp first)
    obtain ⟨added, calls, verdicts⟩ := ticked run rfl last
    have verdict := verdicts _ _ _ _ (only calls before after)
    cases synced : (g.commit Instruments.equipment "usb/continuous" 0 false).2.sync
        Instruments.equipment "usb/continuous" with
    | ok =>
      rw [synced] at lost
      cases lost
    | error cause =>
      have failed := (unsynced g _ 0 false cause (accepted checked) synced).1
      exact ⟨past, g, g', run, events, last, found, ⟨cause, failed⟩, verdict.abandoned rfl⟩
  refine ⟨?_, ?_, unsyncable benchInstruments failingScan true (by decide +kernel)⟩
  · have played : ((play Instruments.equipment Intake.act
        (fresh { mandatoryClients := [] } true benchInstruments benchTree) vanishingScan).toOption.bind fun g =>
          (g.happen Instruments.equipment Intake.act (.tick (millis 10000))).toOption.map fun g' =>
            ((g.attempts, g'.attempts), (g.files.lookup "usb/continuous").isOk, g.instruments.gnss.buffer)) =
        some (([], [.committed "usb/continuous" 0 false false]), false, [⟨2, "$A"⟩]) := by decide +kernel
    obtain ⟨g, first, rest⟩ := Option.bind_eq_some_iff.mp played
    obtain ⟨g', last, seen⟩ := Option.map_eq_some_iff.mp rest
    have last := toOption_eq_some.mp last
    obtain ⟨⟨before, after⟩, lost, kept⟩ : (_ ∧ _) ∧ _ ∧ _ := by simpa only [Prod.mk.injEq] using seen
    obtain ⟨past, events, run⟩ := Run.start.play (toOption_eq_some.mp first)
    obtain ⟨added, calls, verdicts⟩ := ticked run rfl last
    have verdict := verdicts _ _ _ _ (only calls before after)
    cases found : g.files.lookup "usb/continuous" with
    | ok n =>
      rw [found] at lost
      cases lost
    | error cause =>
      have refusal : Refusal g.files "usb/continuous" (.inaccessible "usb/continuous" cause) :=
        .inaccessible (by decide) found
      have spared := (verdict.spared _ refusal).held (·.gnss.buffer) (fun r i => by cases r <;> rfl) fun _ _ _ => rfl
      exact ⟨past, g, g', run, events, last, ⟨cause, refused g _ 0 false _ refusal⟩, verdict.abandoned rfl,
        spared.trans kept⟩
  · obtain ⟨past, g, g', run, events, last, _, failed⟩ :=
      unsyncable (benchInstruments.addSensor "shredder" shredder) shreddedScan false (by decide +kernel)
    exact ⟨past, g, g', run, events, last, failed⟩

end Rig

end CaptureRig

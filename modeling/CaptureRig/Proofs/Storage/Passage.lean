import CaptureRig.Proofs.Scan.Numbering
import CaptureRig.Proofs.Storage.Allocation
import CaptureRig.Proofs.Storage.Estate

namespace CaptureRig

open Storage

/-- Nothing has been done to the manifest, the directories of sessions and what is in them. -/
def Storage.Aside (root : String) (t t' : Tree) : Prop :=
  ∀ p, p = manifestPlace root ∨ (∃ mode id, sessionPlace root mode id <+: p) → t'.node? p = t.node? p

/-- What one deed, command or event makes of an estate. -/
inductive Estate.Passes (e : Estate) : Estate → Prop
  | same : Passes e e
  | granted {dirs t} (free : e.session = none)
      (done : ∀ n, Counts e.files e.root n → Attempted e.root n e.files (.ok dirs) t) :
      Passes e { e with session := some { dirs }, files := t, sessions := e.sessions ++ [dirs] }
  | denied {t} (failed : ∀ n, Counts e.files e.root n → ∃ error, Attempted e.root n e.files (.error error) t) :
      Passes e { e with files := t }
  /-- A commit is tried, with as many before it as its number says. -/
  | tried {mode session session' e'} (present : e.session = some session) (same : session'.dirs = session.dirs)
      (wrote : e.Wrote (session.dir mode) e.tries e') :
      Passes e { e' with session := some session', tries := e'.tries + 1 }
  | beside {t} (aside : Aside e.root e.files t) : Passes e { e with files := t }

theorem Instruments.allocate_attempted {i j : Instruments} {t u : Tree} {dirs : Option SessionDirs}
    (free : i.fixedDirs = none) (run : i.allocate t = .ok (dirs, j, u)) :
    j.site = i.site ∧ ∃ result : Except AllocError SessionDirs, dirs = result.toOption ∧
      ∀ n, Counts t i.medium.root n → Attempted i.medium.root n t result u := by
  unfold Instruments.allocate at run
  rw [free] at run
  obtain ⟨⟨result, medium, u'⟩, asked, run⟩ := bind_eq_ok.mp run
  cases pure_eq_ok.mp run
  obtain ⟨⟨answer, u''⟩, attempt, rest⟩ := bind_eq_ok.mp asked
  cases answer with
  | ok dirs =>
    cases pure_eq_ok.mp rest
    exact ⟨Prod.ext rfl free.symm, .ok dirs, rfl, fun n counts => attempt_attempted counts attempt⟩
  | error e =>
    cases pure_eq_ok.mp rest
    exact ⟨Prod.ext rfl free.symm, .error e, rfl, fun n counts => attempt_attempted counts attempt⟩

namespace Rig

open Ledger

section Deeds

variable {s s' : Station} (numbered : Numbered s.ledger) (real : s.estate.real = true)

include numbered

/-- Before a commit its number is that of the commits tried so far. -/
theorem nextChunk_eq_tries {mode : ScanMode} {stop : Bool} (legal : s.control.phase.Commits mode stop)
    {session : ScanSession} (present : s.control.session = some session) :
    session.nextChunk = s.estate.tries := by
  have next : session.nextChunk = s.stats.commits := numbered.nextChunk_eq present
  have tried : s.stats.commits = s.trials.length := numbered.commits_eq (numbered.all_done legal)
  rw [next, tried]
  exact Call.length_trials _ _

include real

theorem commitChunk_passes {mode : ScanMode} {stop done : Bool} (legal : s.control.phase.Commits mode stop)
    (run : s.commitChunk Instruments.equipment mode stop = (done, s')) : s.estate.Passes s'.estate := by
  rcases estate_commitChunk real run with ⟨_, rfl⟩ | ⟨session, e, present, wrote, entered⟩
  · exact .same
  rw [nextChunk_eq_tries numbered legal present] at wrote
  rw [entered]
  refine .tried present ?_ wrote
  cases done
  · rfl
  · cases mode <;> rfl

theorem Deed.passes {now : Instant} (free : s.estate.fixed = none) (deed : Deed Instruments.equipment now s s') :
    s.estate.Passes s'.estate := by
  cases deed with
  | @allocated dirs i t waiting _ granted =>
    obtain ⟨site, result, answer, attempted⟩ := Instruments.allocate_attempted free granted
    cases result with
    | error e => cases answer
    | ok dirs' =>
      cases answer
      have reached : estate (({ s with instruments := i, files := t }.note (.allocated (some dirs))).inSession dirs) =
          { s.estate with session := some { dirs }, files := t, sessions := s.estate.sessions ++ [dirs] } := by
        simp [estate, inSession, Call.filings, Call.sessions, commitCount, Call.filing?, Call.session?, Call.isCommit,
          site]
      rw [estate_moveTo, reached]
      exact .granted (numbered.unallocated waiting) attempted
  | @refused i t waiting _ denied =>
    obtain ⟨site, result, answer, attempted⟩ := Instruments.allocate_attempted free denied
    cases result with
    | ok dirs' => cases answer
    | error e =>
      have reached : estate ({ s with instruments := i, files := t }.note (.allocated none)) =
          { s.estate with files := t } := by
        simp [estate, Call.filings, Call.sessions, commitCount, Call.filing?, Call.session?, Call.isCommit, site]
      rw [estate_fail, reached]
      exact .denied fun n counts => ⟨e, attempted n counts⟩
  | launched =>
    rw [estate_moveTo]
    exact (estate_startAll s).symm ▸ .same
  | waited => exact .same
  | filed scanning _ _ done =>
    have legal : s.control.phase.Commits .continuous false := scanning ▸ .running
    have passed := commitChunk_passes (s := s.resumed now) numbered real legal done
    exact passed
  | dropped scanning _ _ failed =>
    rw [estate_fail]
    have legal : s.control.phase.Commits .continuous false := scanning ▸ .running
    have passed := commitChunk_passes (s := s.resumed now) numbered real legal failed
    exact passed
  | ended ending done =>
    rw [estate_moveTo]
    exact commitChunk_passes numbered real (ending ▸ .ending _) done
  | lost ending failed =>
    rw [estate_fail]
    exact commitChunk_passes numbered real (ending ▸ .ending _) failed
  | armed =>
    rw [estate_moveTo]
    exact .same
  | begun =>
    rw [estate_moveTo, estate_startAll]
    exact .same
  | expired =>
    rw [estate_moveTo]
    exact .same

end Deeds

/-- What no passage of the estate breaks, for a station of the rig's own instruments and no fixed directories. -/
structure Inherited (J : Estate → Prop) : Prop where
  fixed : ∀ {e}, J e → e.fixed = none
  real : ∀ {e}, J e → e.real = true
  passes : ∀ {e e'}, e.Passes e' → J e → J e'

theorem numbered_station : Lasting Instruments.equipment Intake.act fun s : Station => Numbered s.ledger :=
  numbered_lasting

/-- Events that leave the storage aside, and attach only what is real. -/
def Permitted (root : String) (s : Station) : Event Instrument Intake → Prop
  | .attach h => ∀ d, h.dumpable = some d → d.isReal = true
  | .storage t => Aside root s.files t
  | _ => True

section Inherited

variable {J : Estate → Prop} (inherited : Inherited J)

include inherited

theorem Inherited.kept : Kept Instruments.equipment fun s : Station => Numbered s.ledger ∧ J s.estate where
  command opened holds := ⟨numbered_station.command opened holds.1, (estate_moveTo _ _).symm ▸ holds.2⟩
  failure reported other holds := ⟨numbered_station.failure reported other holds.1, (estate_fail _ _).symm ▸ holds.2⟩
  queue _ holds := holds
  lamp led on holds := ⟨numbered_station.lamp led on holds.1, (estate_showLed led on _).symm ▸ holds.2⟩
  watch _ _ holds := holds
  deed deed holds := ⟨deed.numbered holds.1,
    inherited.passes (deed.passes holds.1 (inherited.real holds.2) (inherited.fixed holds.2)) holds.2⟩

theorem Inherited.happen {s s' : Station} {e : Event Instrument Intake} (permitted : Permitted s.estate.root s e)
    (now : s.happen Instruments.equipment Intake.act e = .ok s') (holds : Numbered s.ledger ∧ J s.estate) :
    Numbered s'.ledger ∧ J s'.estate := by
  refine ⟨numbered_station.happen now holds.1, ?_⟩
  cases e with
  | tick => exact (inherited.kept.tick (happen_tick now).choose_spec holds).2
  | broken => exact (inherited.kept.work now holds).2
  | command c =>
    cases now
    exact (inherited.kept.apply c holds).2
  | send | failure =>
    cases now
    exact holds.2
  | attach h =>
    cases now
    rcases estate_attach h s with same | joined
    · exact same.symm ▸ holds.2
    · have real : h.dumpable.all Instrument.isReal = true := by
        cases declared : h.dumpable with
        | none => rfl
        | some d => exact permitted d declared
      rw [joined, real, Bool.and_true]
      exact holds.2
  | input k =>
    cases now
    rw [estate_intake]
    exact holds.2
  | storage t =>
    cases now
    exact inherited.passes (.beside permitted) holds.2

end Inherited

end Rig

end CaptureRig

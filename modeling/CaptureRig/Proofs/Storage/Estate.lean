import CaptureRig.Proofs.Record.Intake
import CaptureRig.Proofs.Scan.Transition
import CaptureRig.Proofs.Storage.Filing

namespace CaptureRig

open Storage

def Call.filing? {ρ : Type} : Call ρ Chunk.Dump → Option Filing
  | .persisted _ dump dir index _ _ => some ⟨dir, index, dump⟩
  | _ => none

/-- The dumps that were to be written, in order. -/
def Call.filings {ρ : Type} (calls : List (Call ρ Chunk.Dump)) : List Filing := calls.filterMap Call.filing?

def Call.session? {ρ δ : Type} : Call ρ δ → Option SessionDirs
  | .allocated dirs => dirs
  | _ => none

/-- The sessions that have been allocated, in order. -/
def Call.sessions {ρ δ : Type} (calls : List (Call ρ δ)) : List SessionDirs := calls.filterMap Call.session?

structure Estate where
  session : Option ScanSession
  root : String
  fixed : Option SessionDirs
  /-- Whether only instruments of the rig itself are frozen. -/
  real : Bool
  files : Tree
  sessions : List SessionDirs
  filings : List Filing
  tries : Nat

/-- Dumps have been written into a directory as the chunk of a number, and nothing else has changed. -/
inductive Estate.Wrote (dir : String) (index : Nat) (e : Estate) : Estate → Prop
  | intro (new : List Filing) (files : Tree) (own : ∀ f ∈ new, f.dir = dir ∧ f.index = index ∧ f.isRecorded)
      (away : ∀ p, (∀ f ∈ new, p ∉ f.places) → files.node? p = e.files.node? p) :
      Wrote dir index e { e with files, filings := e.filings ++ new }

namespace Estate.Wrote

variable {dir : String} {index : Nat} {e e' e'' : Estate}

theorem refl (dir : String) (index : Nat) (e : Estate) : e.Wrote dir index e := by
  have none : e.Wrote dir index { e with files := e.files, filings := e.filings ++ [] } :=
    .intro [] e.files (fun _ member => by cases member) fun _ _ => rfl
  rwa [List.append_nil] at none

theorem trans (first : e.Wrote dir index e') (second : e'.Wrote dir index e'') : e.Wrote dir index e'' := by
  obtain ⟨new, files, own, away⟩ := first
  obtain ⟨new', files', own', away'⟩ := second
  have both : e.Wrote dir index { e with files := files', filings := e.filings ++ (new ++ new') } := by
    refine .intro (new ++ new') files' ?_ ?_
    · intro f member
      exact (List.mem_append.mp member).elim (own f) (own' f)
    · intro p outside
      rw [away' p fun f member => outside f (List.mem_append_right _ member)]
      exact away p fun f member => outside f (List.mem_append_left _ member)
  rwa [← List.append_assoc] at both

end Estate.Wrote

namespace Instruments

/-- What decides where sessions are allocated. -/
def site (i : Instruments) : String × Option SessionDirs := (i.medium.root, i.fixedDirs)

theorem site_start (r : Instrument) (i : Instruments) : (i.start r).site = i.site := by
  cases r <;> rfl

theorem site_stop (r : Instrument) (i : Instruments) : (i.stop r).site = i.site := by
  cases r <;> rfl

theorem site_provide (r : Instrument) (i : Instruments) : (i.provide r).site = i.site := by
  cases r with
  | sensor name => exact i.provide_sensor (fun _ _ => rfl) name
  | _ => rfl

theorem site_freeze (r : Instrument) (i : Instruments) : (i.freeze r).2.site = i.site := by
  cases r with
  | sensor name => exact i.freeze_sensor (fun _ _ => rfl) name
  | _ => rfl

theorem site_foldl {change : Instrument → Instruments → Instruments} (kept : ∀ r i, (change r i).site = i.site)
    (clients : List Instrument) (i : Instruments) : (clients.foldl (fun i r => change r i) i).site = i.site := by
  induction clients generalizing i with
  | nil => rfl
  | cons r rest ih => exact (ih (change r i)).trans (kept r i)

end Instruments

namespace Rig

def estate (s : Station) : Estate where
  session := s.control.session
  root := s.instruments.site.1
  fixed := s.instruments.site.2
  real := s.registry.dumpables.all fun d => d.2.isReal
  files := s.files
  sessions := Call.sessions s.calls
  filings := Call.filings s.calls
  tries := s.commitCount

section Idle

variable {s s' : Station} {added : List (Call Instrument Chunk.Dump)} (calls : s'.calls = s.calls ++ added)
  (idle : ∀ c ∈ added, c.filing? = none ∧ c.session? = none ∧ c.isCommit = false)

include calls idle

/-- What touches neither sessions, commits nor files leaves the estate as it is. -/
theorem estate_of_idle (session : s'.control.session = s.control.session)
    (site : s'.instruments.site = s.instruments.site) (registry : s'.registry = s.registry) (files : s'.files = s.files) :
    s'.estate = s.estate := by
  have filings : added.filterMap Call.filing? = [] := List.filterMap_eq_nil_iff.mpr fun c member => (idle c member).1
  have sessions : added.filterMap Call.session? = [] :=
    List.filterMap_eq_nil_iff.mpr fun c member => (idle c member).2.1
  have tries : added.countP Call.isCommit = 0 := List.countP_eq_zero.mpr fun c member => by simp [(idle c member).2.2]
  simp only [estate, Call.filings, Call.sessions, commitCount, calls, session, site, registry, files,
    List.filterMap_append, List.countP_append, filings, sessions, tries, List.append_nil, Nat.add_zero]

end Idle

theorem estate_startAll (s : Station) : (s.startAll Instruments.equipment).estate = s.estate := by
  refine estate_of_idle (s := s) (by rw [startAll_eq]) ?_ (by simp) ?_ (by simp) (by simp)
  · simp [Call.filing?, Call.session?, Call.isCommit]
  · rw [startAll_eq]
    exact Instruments.site_foldl Instruments.site_start _ _

theorem estate_stopAll (s : Station) : (s.stopAll Instruments.equipment).estate = s.estate := by
  refine estate_of_idle (s := s) (by rw [stopAll_eq]) ?_ (by simp) ?_ (by simp) (by simp)
  · simp [Call.filing?, Call.session?, Call.isCommit]
  · rw [stopAll_eq]
    exact Instruments.site_foldl Instruments.site_stop _ _

theorem estate_moveTo (target : Phase) (s : Station) : (s.moveTo target).estate = s.estate := by
  refine estate_of_idle (moveTo_calls target s) ?_ (by simp) (by simp) (by simp) (by simp)
  intro c member
  split at member
  · cases member
  · rw [List.mem_singleton.mp member]
    exact ⟨rfl, rfl, rfl⟩

theorem estate_fail (target : Phase) (s : Station) : (s.fail Instruments.equipment target).estate = s.estate := by
  rw [fail, estate_stopAll, estate_moveTo]

theorem estate_showLed (led : Led) (on : Bool) (s : Station) :
    (s.showLed Instruments.equipment led on).estate = s.estate := by
  obtain ⟨shown, instruments, added, same, lamps⟩ := showLed_eq Instruments.equipment led on s
  have calls : (s.showLed Instruments.equipment led on).calls = s.calls ++ added := by rw [same]
  refine estate_of_idle calls ?_ (by simp) ?_ (by simp) (by simp)
  · intro c member
    rw [lamps c member]
    exact ⟨rfl, rfl, rfl⟩
  · rcases showLed_instruments Instruments.equipment led on s with unlit | lit
    · rw [unlit]
    · rw [lit]
      rfl

/-- An attachment matters only by what is frozen from then on. -/
theorem estate_attach (h : Handle Instrument) (s : Station) :
    (s.attach Instruments.equipment h).2.estate = s.estate ∨
      (s.attach Instruments.equipment h).2.estate =
        { s.estate with real := s.estate.real && h.dumpable.all Instrument.isReal } := by
  rcases attach_cases Instruments.equipment h s with refused | ⟨registry, instruments, attached, _, dumpables, clock⟩
  · exact Or.inl (by rw [refused])
  right
  have real : (registry.dumpables.all fun d => d.2.isReal) =
      ((s.registry.dumpables.all fun d => d.2.isReal) && h.dumpable.all Instrument.isReal) := by
    rw [dumpables, List.all_append]
    cases h.dumpable <;> simp
  have site : instruments.site = s.instruments.site := by
    rcases clock with rfl | ⟨r, rfl⟩
    · rfl
    · exact Instruments.site_provide r _
  have before : estate { s with instruments, calls := s.calls ++ (h.timestampConsumer.map .provided).toList } =
      s.estate :=
    estate_of_idle rfl (by simp [Call.filing?, Call.session?, Call.isCommit]) rfl site rfl rfl
  rw [attached, ← before]
  simp only [estate, real]
  rfl

theorem estate_intake (k : Intake) (s : Station) :
    estate { s with instruments := k.act s.instruments } = s.estate := by
  cases k <;> rfl

theorem site_freezeEach (clients : List (String × Instrument)) (s : Station) :
    (freezeEach Instruments.equipment clients s).2.instruments.site = s.instruments.site := by
  induction clients generalizing s with
  | nil => rfl
  | cons entry rest ih =>
    simp only [freezeEach]
    rw [ih]
    exact Instruments.site_freeze entry.2 s.instruments

/-- The instruments of the rig hand over what they record. -/
theorem freezeEach_real {clients : List (String × Instrument)} (real : ∀ d ∈ clients, d.2.isReal = true) (s : Station)
    {f : Chunk.Frozen Instrument Chunk.Dump} (member : f ∈ (freezeEach Instruments.equipment clients s).1) :
    f.client.isReal = true ∧ ∀ p, f.dump.payload = some p → p.isRecorded = true := by
  induction clients generalizing s with
  | nil => cases member
  | cons entry rest ih =>
    simp only [freezeEach] at member
    rcases List.mem_cons.mp member with rfl | later
    · have own := real entry (List.mem_cons_self ..)
      refine ⟨own, ?_⟩
      intro p payload
      obtain ⟨name, r⟩ := entry
      cases r with
      | sensor => cases own
      | panel | storage => cases payload
      | lidar | gnss | cameras =>
        cases payload
        rfl
    · exact ih (fun d member => real d (List.mem_cons_of_mem _ member)) _ later

/-- An instrument of the rig writes its dump and does nothing else to the files. -/
theorem persist_frame {r : Instrument} (real : r.isReal = true) (d : Chunk.Dump) (i : Instruments) (dir : String)
    (index : Nat) (t : Tree) {p : Place} (away : p ∉ Filing.places ⟨dir, index, d⟩) :
    (i.persist r d dir index t).2.node? p = t.node? p := by
  have frame := Filing.write_frame i.writer ⟨dir, index, d⟩ t away
  cases r with
  | sensor => cases real
  | _ =>
    unfold Instruments.persist
    dsimp only
    split
    all_goals
      rename_i written
      rw [written] at frame
      exact frame

theorem estate_persisted (r : Instrument) (d : Chunk.Dump) (dir : String) (index : Nat) (outcome : Persisted)
    (files left : Tree) (s : Station) :
    estate ({ s with files }.note (.persisted r d dir index outcome left)) =
      { s.estate with files, filings := Call.filings s.calls ++ [⟨dir, index, d⟩] } := by
  simp [estate, Call.filings, Call.sessions, commitCount, Call.filing?, Call.session?, Call.isCommit]

theorem estate_persistEach (dir : String) (index : Nat) {frozen : List (Chunk.Frozen Instrument Chunk.Dump)}
    (real : ∀ f ∈ frozen, f.client.isReal = true ∧ ∀ p, f.dump.payload = some p → p.isRecorded = true) (s : Station) :
    s.estate.Wrote dir index (persistEach Instruments.equipment dir index frozen s).2.estate := by
  induction frozen generalizing s with
  | nil => exact .refl dir index s.estate
  | cons f rest ih =>
    obtain ⟨own, recorded⟩ := real f (List.mem_cons_self ..)
    have one : s.estate.Wrote dir index
        { s.estate with
          files := (s.instruments.persist f.client f.dump dir index s.files).2
          filings := Call.filings s.calls ++ [⟨dir, index, f.dump⟩] } := by
      refine .intro [⟨dir, index, f.dump⟩] _ ?_ ?_
      · intro f' member
        cases List.mem_singleton.mp member
        exact ⟨rfl, rfl, recorded⟩
      · intro p away
        exact persist_frame own f.dump s.instruments dir index s.files (away _ (List.mem_singleton.mpr rfl))
    have more := ih (fun f' member => real f' (List.mem_cons_of_mem _ member))
      ({ s with files := (s.instruments.persist f.client f.dump dir index s.files).2 }.note
        (.persisted f.client f.dump dir index (s.instruments.persist f.client f.dump dir index s.files).1
          (s.instruments.persist f.client f.dump dir index s.files).2))
    rw [estate_persisted] at more
    exact one.trans more

theorem estate_gathered (stop : Bool) (s : Station) : (s.gathered Instruments.equipment stop).estate = s.estate := by
  have froze : (freezeEach Instruments.equipment s.registry.dumpables s).2.estate = s.estate := by
    refine estate_of_idle (s := s) (by rw [freezeEach_eq]) ?_ ?_ (site_freezeEach _ s) ?_ ?_
    · simp [Call.filing?, Call.session?, Call.isCommit]
    all_goals rw [freezeEach_eq]
  unfold gathered
  cases stop with
  | true => exact (estate_stopAll _).trans froze
  | false => exact froze

section Commit

variable {s : Station} (real : s.estate.real = true)

include real

theorem estate_stored (dir : String) (index : Nat) (stop : Bool) :
    s.estate.Wrote dir index (s.stored Instruments.equipment dir index stop).estate := by
  rw [← estate_gathered stop s]
  refine estate_persistEach dir index ?_ _
  intro f member
  exact freezeEach_real (List.all_eq_true.mp real) s (List.mem_filter.mp member).1

theorem estate_commit (dir : String) (index : Nat) (stop : Bool) :
    s.estate.Wrote dir index (s.commit Instruments.equipment dir index stop).2.estate := by
  rcases commit_cases Instruments.equipment dir index stop s with ⟨e, _, run⟩ | ⟨_, ⟨e, run⟩ | ⟨report, run⟩⟩
  · rw [run]
    exact .refl dir index s.estate
  · rw [run]
    exact estate_stored real dir index stop
  · rw [run]
    exact estate_stored real dir index stop

theorem estate_tried (dir : String) (index : Nat) (stop : Bool) :
    ∃ e, s.estate.Wrote dir index e ∧
      (s.tried Instruments.equipment dir index stop).2.estate = { e with tries := e.tries + 1 } := by
  have lit := estate_showLed .copyData true s
  refine ⟨_, lit ▸ estate_commit (s := s.showLed Instruments.equipment .copyData true) (lit ▸ real) dir index stop, ?_⟩
  simp only [tried]
  rw [estate_showLed]
  simp [estate, Call.filings, Call.sessions, commitCount, Call.filing?, Call.session?, Call.isCommit]

/-- A commit writes into the directory of its way of capture, under the next number. Without a session there is none. -/
theorem estate_commitChunk {mode : ScanMode} {stop done : Bool} {s' : Station}
    (run : s.commitChunk Instruments.equipment mode stop = (done, s')) :
    s.control.session = none ∧ s' = s ∨
      ∃ session e, s.control.session = some session ∧
        s.estate.Wrote (session.dir mode) session.nextChunk e ∧
        s'.estate =
          { e with session := some (if done then session.committed mode else session), tries := e.tries + 1 } := by
  cases present : s.control.session with
  | none =>
    simp only [commitChunk, present, Prod.mk.injEq] at run
    exact Or.inl ⟨rfl, run.2.symm⟩
  | some session =>
    right
    obtain ⟨e, wrote, tried⟩ := estate_tried real (session.dir mode) session.nextChunk stop
    refine ⟨session, e, rfl, wrote, ?_⟩
    have kept : e.session = some session := by
      cases wrote
      exact present
    rw [commitChunk_eq Instruments.equipment present] at run
    dsimp only at run
    split at run
    · cases run
      exact congrArg (fun e : Estate => { e with session := some (session.committed mode) }) tried
    · cases run
      rw [tried, if_neg Bool.false_ne_true, ← kept]

end Commit

end Rig

end CaptureRig

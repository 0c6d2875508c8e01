import CaptureRig.Scan.Controller

namespace CaptureRig

/-- The calls that tell of a decision, not of something done with an instrument. -/
def Call.decides {ρ δ : Type} : Call ρ δ → Bool
  | .allocated .. | .committed .. | .moved .. => true
  | _ => false

/-- Whether a call tells of a commit that has been tried. -/
def Call.isCommit {ρ δ : Type} : Call ρ δ → Bool
  | .committed .. => true
  | _ => false

/-- The directory that a dump has been written to, and the number it has been given. -/
def Call.place? {ρ δ : Type} : Call ρ δ → Option (String × Nat)
  | .persisted _ _ dir index _ _ => some (dir, index)
  | _ => none

/-- What a commit does with the clients: no start, a stop only if it is asked for, and dumps written to its directory
under its number. -/
inductive Call.OfCommit {ρ δ : Type} (stop : Bool) (dir : String) (index : Nat) : Call ρ δ → Prop
  | froze (r : ρ) (d : δ) : OfCommit stop dir index (.froze r d)
  | stopped (asked : stop = true) (r : ρ) : OfCommit stop dir index (.stopped r)
  | persisted (r : ρ) (d : δ) (outcome : Persisted) (left : Storage.Tree) :
      OfCommit stop dir index (.persisted r d dir index outcome left)

namespace Call.OfCommit

variable {ρ δ : Type} {stop : Bool} {dir : String} {index : Nat} {c : Call ρ δ} (called : c.OfCommit stop dir index)

include called

theorem not_commit : c.isCommit = false := by cases called <;> rfl

theorem not_started (r : ρ) : c ≠ .started r := by cases called <;> exact nofun

theorem place {place : String × Nat} (wrote : c.place? = some place) : place = (dir, index) := by
  cases called with
  | persisted =>
    cases wrote
    rfl
  | _ => cases wrote

end Call.OfCommit

theorem ScanSession.dir_committed (s : ScanSession) (mode other : ScanMode) :
    (s.committed mode).dir other = s.dir other := by
  cases mode <;> cases other <;> rfl

namespace Rig

open Chunk

variable {ρ σ δ : Type} (E : Equipment ρ σ δ)

/-- The decisions noted so far, in order. -/
def decisions (g : Rig ρ σ δ) : List (Call ρ δ) := g.calls.filter Call.decides

theorem decisions_note (g : Rig ρ σ δ) (c : Call ρ δ) :
    (g.note c).decisions = g.decisions ++ [c].filter Call.decides :=
  List.filter_append ..

theorem decisions_append {g g' : Rig ρ σ δ} {added : List (Call ρ δ)} (calls : g'.calls = g.calls ++ added)
    (quiet : ∀ c ∈ added, c.decides = false) : g'.decisions = g.decisions := by
  have none : added.filter Call.decides = [] := List.filter_eq_nil_iff.mpr (by simpa using quiet)
  rw [decisions, calls, List.filter_append, none, List.append_nil, decisions]

/-- From one rig to another, only calls of some kind have been noted. -/
def Notes (P : Call ρ δ → Prop) (g g' : Rig ρ σ δ) : Prop :=
  ∃ added, g'.calls = g.calls ++ added ∧ ∀ c ∈ added, P c

namespace Notes

variable {P Q : Call ρ δ → Prop} {g h g' : Rig ρ σ δ}

theorem of_same (same : g'.calls = g.calls) : Notes P g g' := ⟨[], by rw [same, List.append_nil], by simp⟩

theorem of_note {c : Call ρ δ} (holds : P c) (g : Rig ρ σ δ) : Notes P g (g.note c) := ⟨[c], rfl, by simpa using holds⟩

theorem mono (notes : Notes P g g') (weaker : ∀ c, P c → Q c) : Notes Q g g' := by
  obtain ⟨added, calls, kind⟩ := notes
  exact ⟨added, calls, fun c member => weaker c (kind c member)⟩

theorem trans (first : Notes P g h) (second : Notes P h g') : Notes P g g' := by
  obtain ⟨added, before, kind⟩ := first
  obtain ⟨more, after, kind'⟩ := second
  refine ⟨added ++ more, by rw [after, before, List.append_assoc], fun c member => ?_⟩
  exact (List.mem_append.mp member).elim (kind c) (kind' c)

theorem filterMap_eq {α : Type} (notes : Notes P g g') {read : Call ρ δ → Option α} (none : ∀ c, P c → read c = none) :
    g'.calls.filterMap read = g.calls.filterMap read := by
  obtain ⟨added, calls, kind⟩ := notes
  have nothing : added.filterMap read = [] := List.filterMap_eq_nil_iff.mpr fun c member => none c (kind c member)
  rw [calls, List.filterMap_append, nothing, List.append_nil]

theorem filter_eq (notes : Notes P g g') {keep : Call ρ δ → Bool} (none : ∀ c, P c → keep c = false) :
    g'.calls.filter keep = g.calls.filter keep := by
  obtain ⟨added, calls, kind⟩ := notes
  have nothing : added.filter keep = [] :=
    List.filter_eq_nil_iff.mpr fun c member => Bool.eq_false_iff.mp (none c (kind c member))
  rw [calls, List.filter_append, nothing, List.append_nil]

end Notes

/-- What is read off the decisions alone can be read off all that is noted. -/
theorem filterMap_decisions {α : Type} {read : Call ρ δ → Option α} (quiet : ∀ c, c.decides = false → read c = none)
    (g : Rig ρ σ δ) : g.decisions.filterMap read = g.calls.filterMap read := by
  rw [decisions, List.filterMap_filter]
  congr
  funext c
  cases decides : c.decides with
  | true => rfl
  | false => exact (quiet c decides).symm

theorem foldl_note (change : ρ → σ → σ) (call : ρ → Call ρ δ) (clients : List ρ) (g : Rig ρ σ δ) :
    clients.foldl (fun g r => { g with instruments := change r g.instruments }.note (call r)) g =
      { g with
        instruments := clients.foldl (fun i r => change r i) g.instruments
        calls := g.calls ++ clients.map call } := by
  induction clients generalizing g with
  | nil => simp only [List.foldl_nil, List.map_nil, List.append_nil]
  | cons r rest ih =>
    rw [List.foldl_cons, ih]
    simp only [note, List.foldl_cons, List.map_cons, List.append_assoc, List.singleton_append]

/-- A start reaches the loggers in order and touches nothing but the instruments. -/
theorem startAll_eq (g : Rig ρ σ δ) :
    g.startAll E = { g with
      instruments := g.registry.loggers.foldl (fun i r => E.start r i) g.instruments
      calls := g.calls ++ g.registry.loggers.map .started } :=
  foldl_note E.start .started g.registry.loggers g

theorem stopAll_eq (g : Rig ρ σ δ) :
    g.stopAll E = { g with
      instruments := g.registry.loggers.foldl (fun i r => E.stop r i) g.instruments
      calls := g.calls ++ g.registry.loggers.map .stopped } :=
  foldl_note E.stop .stopped g.registry.loggers g

theorem stopAll_notes (g : Rig ρ σ δ) : Notes (fun c => ∃ r, c = .stopped r) g (g.stopAll E) :=
  ⟨g.registry.loggers.map .stopped, by rw [stopAll_eq], by simp⟩

@[simp] theorem startAll_control (g : Rig ρ σ δ) : (g.startAll E).control = g.control := by rw [startAll_eq]

@[simp] theorem startAll_registry (g : Rig ρ σ δ) : (g.startAll E).registry = g.registry := by rw [startAll_eq]

@[simp] theorem startAll_files (g : Rig ρ σ δ) : (g.startAll E).files = g.files := by rw [startAll_eq]

@[simp] theorem startAll_stats (g : Rig ρ σ δ) : (g.startAll E).stats = g.stats := by rw [startAll_eq]

@[simp] theorem startAll_decisions (g : Rig ρ σ δ) : (g.startAll E).decisions = g.decisions :=
  decisions_append (by rw [startAll_eq]) (by simp [Call.decides])

@[simp] theorem stopAll_control (g : Rig ρ σ δ) : (g.stopAll E).control = g.control := by rw [stopAll_eq]

@[simp] theorem stopAll_registry (g : Rig ρ σ δ) : (g.stopAll E).registry = g.registry := by rw [stopAll_eq]

@[simp] theorem stopAll_files (g : Rig ρ σ δ) : (g.stopAll E).files = g.files := by rw [stopAll_eq]

@[simp] theorem stopAll_stats (g : Rig ρ σ δ) : (g.stopAll E).stats = g.stats := by rw [stopAll_eq]

@[simp] theorem stopAll_decisions (g : Rig ρ σ δ) : (g.stopAll E).decisions = g.decisions :=
  decisions_append (by rw [stopAll_eq]) (by simp [Call.decides])

/-- A lamp that is lit or put out changes what is shown, the instruments and the notes of lamps, nothing else. -/
theorem showLed_eq (led : Led) (on : Bool) (g : Rig ρ σ δ) :
    ∃ shown instruments added, g.showLed E led on =
      { g with control := { g.control with shown }, instruments, calls := g.calls ++ added } ∧
      ∀ c ∈ added, c = .lamp led on := by
  unfold showLed
  dsimp only
  split
  · exact ⟨g.control.shown, g.instruments, [], by rw [List.append_nil], by simp⟩
  split
  · exact ⟨_, _, [.lamp led on], rfl, by simp⟩
  · exact ⟨_, _, [], by rw [List.append_nil], by simp⟩

theorem showLed_notes (led : Led) (on : Bool) (g : Rig ρ σ δ) : Notes (· = .lamp led on) g (g.showLed E led on) := by
  obtain ⟨_, _, added, same, lamps⟩ := showLed_eq E led on g
  exact ⟨added, by rw [same], lamps⟩

theorem showLed_instruments (led : Led) (on : Bool) (g : Rig ρ σ δ) :
    (g.showLed E led on).instruments = g.instruments ∨
      (g.showLed E led on).instruments = E.setLed led on g.instruments := by
  unfold showLed
  dsimp only
  split
  · exact Or.inl rfl
  split
  · exact Or.inr rfl
  · exact Or.inl rfl

theorem showLed_control (led : Led) (on : Bool) (g : Rig ρ σ δ) :
    (g.showLed E led on).control = { g.control with shown := (g.showLed E led on).control.shown } := by
  obtain ⟨shown, instruments, added, same, _⟩ := showLed_eq E led on g
  rw [same]

@[simp] theorem showLed_phase (led : Led) (on : Bool) (g : Rig ρ σ δ) :
    (g.showLed E led on).control.phase = g.control.phase := by
  rw [showLed_control]

@[simp] theorem showLed_session (led : Led) (on : Bool) (g : Rig ρ σ δ) :
    (g.showLed E led on).control.session = g.control.session := by
  rw [showLed_control]

@[simp] theorem showLed_registry (led : Led) (on : Bool) (g : Rig ρ σ δ) :
    (g.showLed E led on).registry = g.registry := by
  obtain ⟨shown, instruments, added, same, _⟩ := showLed_eq E led on g
  rw [same]

@[simp] theorem showLed_files (led : Led) (on : Bool) (g : Rig ρ σ δ) : (g.showLed E led on).files = g.files := by
  obtain ⟨shown, instruments, added, same, _⟩ := showLed_eq E led on g
  rw [same]

@[simp] theorem showLed_stats (led : Led) (on : Bool) (g : Rig ρ σ δ) : (g.showLed E led on).stats = g.stats := by
  obtain ⟨shown, instruments, added, same, _⟩ := showLed_eq E led on g
  rw [same]

@[simp] theorem showLed_decisions (led : Led) (on : Bool) (g : Rig ρ σ δ) :
    (g.showLed E led on).decisions = g.decisions :=
  (showLed_notes E led on g).filter_eq (by rintro _ rfl; rfl)

/-- Freezing touches only the instruments, and notes each dump in turn. -/
theorem freezeEach_eq (clients : List (String × ρ)) (g : Rig ρ σ δ) :
    (freezeEach E clients g).2 =
      { g with
        instruments := (freezeEach E clients g).2.instruments
        calls := g.calls ++ (freezeEach E clients g).1.map fun f => .froze f.client f.dump } := by
  induction clients generalizing g with
  | nil => simp only [freezeEach, List.map_nil, List.append_nil]
  | cons entry rest ih =>
    simp only [freezeEach]
    rw [ih]
    simp only [note, List.map_cons, List.append_assoc, List.singleton_append]

/-- What comes of writing dumps one after another, and the storage as each of them leaves it. -/
def writings (dir : String) (index : Nat) (i : σ) : List (Frozen ρ δ) → Storage.Tree → List (Persisted × Storage.Tree)
  | [], _ => []
  | f :: rest, t =>
    let (outcome, left) := E.persist f.client f.dump i dir index t
    (outcome, left) :: writings dir index i rest left

/-- What is noted of the writing of dumps, given what came of it. -/
def persistCalls (dir : String) (index : Nat) (frozen : List (Frozen ρ δ)) (done : List (Persisted × Storage.Tree)) :
    List (Call ρ δ) :=
  (frozen.zip done).map fun (f, outcome, left) => .persisted f.client f.dump dir index outcome left

/-- Writing dumps touches only the files, and notes each dump with its outcome. -/
theorem persistEach_eq (dir : String) (index : Nat) (frozen : List (Frozen ρ δ)) (g : Rig ρ σ δ) :
    (persistEach E dir index frozen g).2 =
      { g with
        files := (persistEach E dir index frozen g).2.files
        calls := g.calls ++ persistCalls dir index frozen (writings E dir index g.instruments frozen g.files) } := by
  induction frozen generalizing g with
  | nil => simp only [persistEach, persistCalls, List.zip_nil_left, List.map_nil, List.append_nil]
  | cons f rest ih =>
    simp only [persistEach]
    rw [ih]
    simp only [note, persistCalls, writings, List.zip_cons_cons, List.map_cons, List.append_assoc,
      List.singleton_append]

theorem freezeEach_decisions (clients : List (String × ρ)) (g : Rig ρ σ δ) :
    (freezeEach E clients g).2.decisions = g.decisions :=
  decisions_append (by rw [freezeEach_eq]) (by simp [Call.decides])

theorem persistEach_decisions (dir : String) (index : Nat) (frozen : List (Frozen ρ δ)) (g : Rig ρ σ δ) :
    (persistEach E dir index frozen g).2.decisions = g.decisions := by
  refine decisions_append (by rw [persistEach_eq]) ?_
  intro c member
  obtain ⟨_, _, rfl⟩ := List.mem_map.mp member
  rfl

/-- The rig when the clients are frozen and, if that is asked for, stopped. -/
def gathered (stop : Bool) (g : Rig ρ σ δ) : Rig ρ σ δ :=
  let g' := (freezeEach E g.registry.dumpables g).2
  if stop then g'.stopAll E else g'

def gatheredDumps (g : Rig ρ σ δ) : List (Frozen ρ δ) :=
  (freezeEach E g.registry.dumpables g).1.filter fun f => E.size f.dump != 0

/-- The rig when the dumps of a commit have been written. -/
def stored (dir : String) (index : Nat) (stop : Bool) (g : Rig ρ σ δ) : Rig ρ σ δ :=
  (persistEach E dir index (g.gatheredDumps E) (g.gathered E stop)).2

@[simp] theorem gathered_control (stop : Bool) (g : Rig ρ σ δ) : (g.gathered E stop).control = g.control := by
  unfold gathered
  rw [freezeEach_eq]
  cases stop <;> simp

@[simp] theorem gathered_registry (stop : Bool) (g : Rig ρ σ δ) : (g.gathered E stop).registry = g.registry := by
  unfold gathered
  rw [freezeEach_eq]
  cases stop <;> simp

@[simp] theorem gathered_files (stop : Bool) (g : Rig ρ σ δ) : (g.gathered E stop).files = g.files := by
  unfold gathered
  rw [freezeEach_eq]
  cases stop <;> simp

@[simp] theorem gathered_stats (stop : Bool) (g : Rig ρ σ δ) : (g.gathered E stop).stats = g.stats := by
  unfold gathered
  rw [freezeEach_eq]
  cases stop <;> simp

@[simp] theorem gathered_decisions (stop : Bool) (g : Rig ρ σ δ) :
    (g.gathered E stop).decisions = g.decisions := by
  cases stop <;> simp [gathered, freezeEach_decisions]

@[simp] theorem stored_control (dir : String) (index : Nat) (stop : Bool) (g : Rig ρ σ δ) :
    (g.stored E dir index stop).control = g.control := by
  rw [stored, persistEach_eq, gathered_control]

@[simp] theorem stored_registry (dir : String) (index : Nat) (stop : Bool) (g : Rig ρ σ δ) :
    (g.stored E dir index stop).registry = g.registry := by
  rw [stored, persistEach_eq, gathered_registry]

@[simp] theorem stored_stats (dir : String) (index : Nat) (stop : Bool) (g : Rig ρ σ δ) :
    (g.stored E dir index stop).stats = g.stats := by
  rw [stored, persistEach_eq, gathered_stats]

@[simp] theorem stored_decisions (dir : String) (index : Nat) (stop : Bool) (g : Rig ρ σ δ) :
    (g.stored E dir index stop).decisions = g.decisions := by
  rw [stored, persistEach_decisions, gathered_decisions]

/-- Only what is done with the clients is noted, and a stop only if it is asked for. -/
theorem stored_notes (dir : String) (index : Nat) (stop : Bool) (g : Rig ρ σ δ) :
    Notes (Call.OfCommit stop dir index) g (g.stored E dir index stop) := by
  have froze : Notes (Call.OfCommit stop dir index) g (freezeEach E g.registry.dumpables g).2 := by
    refine ⟨_, by rw [freezeEach_eq], fun c member => ?_⟩
    obtain ⟨_, _, rfl⟩ := List.mem_map.mp member
    exact .froze ..
  have wrote : Notes (Call.OfCommit stop dir index) (g.gathered E stop) (g.stored E dir index stop) := by
    refine ⟨_, by rw [stored, persistEach_eq], fun c member => ?_⟩
    obtain ⟨_, _, rfl⟩ := List.mem_map.mp member
    exact .persisted ..
  refine Notes.trans ?_ wrote
  cases stop with
  | false => exact froze
  | true => exact froze.trans ((stopAll_notes E _).mono (by rintro _ ⟨r, rfl⟩; exact .stopped rfl r))

/-- What came of writing the dumps of a commit. -/
def outcomes (dir : String) (index : Nat) (stop : Bool) (g : Rig ρ σ δ) : List Outcome :=
  (persistEach E dir index (g.gatheredDumps E) (g.gathered E stop)).1

theorem commit_refused {dir : String} {g : Rig ρ σ δ} {e : CommitError} (refused : checkDirectory g.files dir = .error e)
    (index : Nat) (stop : Bool) : g.commit E dir index stop = (.error e, g) := by
  rw [commit, refused]

theorem commit_checked {dir : String} {g : Rig ρ σ δ} (checked : checkDirectory g.files dir = .ok ()) (index : Nat)
    (stop : Bool) :
    g.commit E dir index stop =
      match (g.stored E dir index stop).sync E dir with
      | .error e => (.error (.syncFailed dir e), g.stored E dir index stop)
      | .ok () =>
        (.ok ⟨index, filesOf (g.outcomes E dir index stop), failedOf (g.outcomes E dir index stop)⟩,
          countCommit E index (failedOf (g.outcomes E dir index stop)).length (g.stored E dir index stop)) := by
  rw [commit, checked]
  rfl

/-- A commit that is not refused is over with the storage and the instruments as they are synced. -/
theorem commit_sync {dir : String} {g : Rig ρ σ δ} (checked : checkDirectory g.files dir = .ok ()) (index : Nat)
    (stop : Bool) : (g.commit E dir index stop).2.sync E dir = (g.stored E dir index stop).sync E dir := by
  rw [commit_checked E checked]
  split <;> rfl

/-- A commit is refused with nothing touched, or everything is stored and then the directory is synced or not. -/
theorem commit_cases (dir : String) (index : Nat) (stop : Bool) (g : Rig ρ σ δ) :
    (∃ e, checkDirectory g.files dir = .error e ∧ g.commit E dir index stop = (.error e, g)) ∨
    checkDirectory g.files dir = .ok () ∧
      ((∃ e, g.commit E dir index stop = (.error (.syncFailed dir e), g.stored E dir index stop)) ∨
        ∃ report, g.commit E dir index stop =
          (.ok report, countCommit E index report.failed.length (g.stored E dir index stop))) := by
  cases checked : checkDirectory g.files dir with
  | error e => exact Or.inl ⟨e, rfl, commit_refused E checked index stop⟩
  | ok =>
    refine Or.inr ⟨rfl, ?_⟩
    rw [commit_checked E checked]
    split
    · rename_i e _
      exact Or.inl ⟨e, rfl⟩
    · exact Or.inr ⟨_, rfl⟩

@[simp] theorem commit_control (dir : String) (index : Nat) (stop : Bool) (g : Rig ρ σ δ) :
    (g.commit E dir index stop).2.control = g.control := by
  rcases commit_cases E dir index stop g with ⟨e, _, run⟩ | ⟨_, ⟨e, run⟩ | ⟨report, run⟩⟩
  · rw [run]
  · rw [run, stored_control]
  · rw [run, countCommit, stored_control]

@[simp] theorem commit_registry (dir : String) (index : Nat) (stop : Bool) (g : Rig ρ σ δ) :
    (g.commit E dir index stop).2.registry = g.registry := by
  rcases commit_cases E dir index stop g with ⟨e, _, run⟩ | ⟨_, ⟨e, run⟩ | ⟨report, run⟩⟩
  · rw [run]
  · rw [run, stored_registry]
  · rw [run, countCommit, stored_registry]

@[simp] theorem commit_decisions (dir : String) (index : Nat) (stop : Bool) (g : Rig ρ σ δ) :
    (g.commit E dir index stop).2.decisions = g.decisions := by
  rcases commit_cases E dir index stop g with ⟨e, _, run⟩ | ⟨_, ⟨e, run⟩ | ⟨report, run⟩⟩
  · rw [run]
  · rw [run, stored_decisions]
  · rw [run]
    exact stored_decisions E dir index stop g

theorem commit_stats_of_error {dir : String} {index : Nat} {stop : Bool} {g g' : Rig ρ σ δ} {e : CommitError}
    (run : g.commit E dir index stop = (.error e, g')) : g'.stats = g.stats := by
  rcases commit_cases E dir index stop g with ⟨_, _, other⟩ | ⟨_, ⟨_, other⟩ | ⟨_, other⟩⟩
  · cases run.symm.trans other
    rfl
  · cases run.symm.trans other
    exact stored_stats E dir index stop g
  · cases run.symm.trans other

theorem commit_stats_of_ok {dir : String} {index : Nat} {stop : Bool} {g g' : Rig ρ σ δ} {report : CommitReport}
    (run : g.commit E dir index stop = (.ok report, g')) :
    g'.stats.commits = g.stats.commits + 1 ∧ g'.stats.barriers = g.stats.barriers + 1 ∧
      g'.stats.lastChunk = index := by
  rcases commit_cases E dir index stop g with ⟨_, _, other⟩ | ⟨_, ⟨_, other⟩ | ⟨_, other⟩⟩
  · cases run.symm.trans other
  · cases run.symm.trans other
  · cases run.symm.trans other
    simp only [countCommit, stored_stats, and_self]

/-- A commit with the copy lamp lit meanwhile, and noted when it is over. -/
def tried (dir : String) (index : Nat) (stop : Bool) (g : Rig ρ σ δ) :
    Except CommitError CommitReport × Rig ρ σ δ :=
  let c := (g.showLed E .copyData true).commit E dir index stop
  (c.1, (c.2.note (.committed dir index stop c.1.isOk)).showLed E .copyData false)

theorem tried_control (dir : String) (index : Nat) (stop : Bool) (g : Rig ρ σ δ) :
    (g.tried E dir index stop).2.control =
      { g.control with shown := (g.tried E dir index stop).2.control.shown } := by
  simp only [tried]
  rw [showLed_control, note_control, commit_control, showLed_control]

theorem tried_registry (dir : String) (index : Nat) (stop : Bool) (g : Rig ρ σ δ) :
    (g.tried E dir index stop).2.registry = g.registry := by
  simp only [tried, showLed_registry, note_registry, commit_registry]

theorem tried_decisions (dir : String) (index : Nat) (stop : Bool) (g : Rig ρ σ δ) :
    (g.tried E dir index stop).2.decisions =
      g.decisions ++ [.committed dir index stop (g.tried E dir index stop).1.isOk] := by
  simp only [tried, showLed_decisions, decisions_note, commit_decisions]
  rfl

theorem commitChunk_eq {g : Rig ρ σ δ} {session : ScanSession} (present : g.control.session = some session)
    (mode : ScanMode) (stop : Bool) :
    g.commitChunk E mode stop =
      let c := g.tried E (session.dir mode) session.nextChunk stop
      match c.1 with
      | .ok _ => (true, { c.2 with control := { c.2.control with session := some (session.committed mode) } })
      | .error _ => (false, c.2) := by
  unfold commitChunk
  rw [present]
  rfl

variable {E}

/-- What the controller makes of a commit that went well. -/
theorem commitChunk_done {mode : ScanMode} {stop : Bool} {g g' : Rig ρ σ δ}
    (run : g.commitChunk E mode stop = (true, g')) :
    ∃ session, g.control.session = some session ∧
      g'.control = { g.control with session := some (session.committed mode), shown := g'.control.shown } ∧
      g'.registry = g.registry ∧
      g'.decisions = g.decisions ++ [.committed (session.dir mode) session.nextChunk stop true] ∧
      g'.stats.commits = g.stats.commits + 1 ∧ g'.stats.barriers = g.stats.barriers + 1 ∧
      g'.stats.lastChunk = session.nextChunk := by
  cases present : g.control.session with
  | none => simp [commitChunk, present] at run
  | some session =>
    rw [commitChunk_eq E present] at run
    have control := tried_control E (session.dir mode) session.nextChunk stop g
    have registry := tried_registry E (session.dir mode) session.nextChunk stop g
    have decisions := tried_decisions E (session.dir mode) session.nextChunk stop g
    cases result : (g.tried E (session.dir mode) session.nextChunk stop).1 with
    | error e => simp [result] at run
    | ok report =>
      simp only [result, Prod.mk.injEq, true_and] at run
      subst run
      rw [result] at decisions
      have stats := commit_stats_of_ok (E := E) (g := g.showLed E .copyData true) (Prod.ext result rfl)
      refine ⟨session, rfl, ?_, registry, decisions, ?_⟩
      · rw [control]
      · simpa [tried] using stats

/-- A commit that failed, or could not be tried without a session, changes no session and counts nothing. -/
theorem commitChunk_failed {mode : ScanMode} {stop : Bool} {g g' : Rig ρ σ δ}
    (run : g.commitChunk E mode stop = (false, g')) :
    g'.control = { g.control with shown := g'.control.shown } ∧ g'.registry = g.registry ∧ g'.stats = g.stats ∧
      (g.control.session = none ∧ g' = g ∨
        ∃ session, g.control.session = some session ∧
          g'.decisions = g.decisions ++ [.committed (session.dir mode) session.nextChunk stop false]) := by
  cases present : g.control.session with
  | none =>
    simp only [commitChunk, present, Prod.mk.injEq, true_and] at run
    subst run
    exact ⟨rfl, rfl, rfl, Or.inl ⟨rfl, rfl⟩⟩
  | some session =>
    rw [commitChunk_eq E present] at run
    have control := tried_control E (session.dir mode) session.nextChunk stop g
    have registry := tried_registry E (session.dir mode) session.nextChunk stop g
    have decisions := tried_decisions E (session.dir mode) session.nextChunk stop g
    cases result : (g.tried E (session.dir mode) session.nextChunk stop).1 with
    | ok report => simp [result] at run
    | error e =>
      simp only [result, Prod.mk.injEq, true_and] at run
      subst run
      rw [result] at decisions
      have stats := commit_stats_of_error (E := E) (g := g.showLed E .copyData true) (Prod.ext result rfl)
      exact ⟨control, registry, by simpa [tried] using stats, Or.inr ⟨session, rfl, decisions⟩⟩

variable (E) in
/-- The rig when a commit is over: it is noted, and the copy lamp is put out. -/
def concluded (dir : String) (index : Nat) (stop done : Bool) (g : Rig ρ σ δ) : Rig ρ σ δ :=
  (g.note (.committed dir index stop done)).showLed E .copyData false

/-- The ways in which the commit of a chunk by the controller ends: there is no session, the directory is refused before
anything is touched, it cannot be synced at last, or the chunk is counted. -/
inductive ChunkEnd (E : Equipment ρ σ δ) (mode : ScanMode) (stop : Bool) (g : Rig ρ σ δ) : Bool → Rig ρ σ δ → Prop
  | unallocated (none : g.control.session = none) : ChunkEnd E mode stop g false g
  | refused {s e} (present : g.control.session = some s) (refused : checkDirectory g.files (s.dir mode) = .error e) :
      ChunkEnd E mode stop g false
        ((g.showLed E .copyData true).concluded E (s.dir mode) s.nextChunk stop false)
  | unsynced {s e} (present : g.control.session = some s) (checked : checkDirectory g.files (s.dir mode) = .ok ())
      (lost : ((g.showLed E .copyData true).stored E (s.dir mode) s.nextChunk stop).sync E (s.dir mode) = .error e) :
      ChunkEnd E mode stop g false
        (((g.showLed E .copyData true).stored E (s.dir mode) s.nextChunk stop).concluded E (s.dir mode) s.nextChunk stop
          false)
  | counted {s failures h} (present : g.control.session = some s)
      (checked : checkDirectory g.files (s.dir mode) = .ok ())
      (synced : ((g.showLed E .copyData true).stored E (s.dir mode) s.nextChunk stop).sync E (s.dir mode) = .ok ())
      (same : h = (countCommit E s.nextChunk failures
        ((g.showLed E .copyData true).stored E (s.dir mode) s.nextChunk stop)).concluded E (s.dir mode) s.nextChunk stop
          true) :
      ChunkEnd E mode stop g true { h with control := { h.control with session := some (s.committed mode) } }

theorem commitChunk_end {mode : ScanMode} {stop done : Bool} {g g' : Rig ρ σ δ}
    (run : g.commitChunk E mode stop = (done, g')) : ChunkEnd E mode stop g done g' := by
  cases present : g.control.session with
  | none =>
    simp only [commitChunk, present, Prod.mk.injEq] at run
    obtain ⟨rfl, rfl⟩ := run
    exact .unallocated present
  | some s =>
    rw [commitChunk_eq E present] at run
    have files : (g.showLed E .copyData true).files = g.files := showLed_files ..
    simp only [tried] at run
    cases checked : checkDirectory g.files (s.dir mode) with
    | error e =>
      rw [commit_refused E (files.symm ▸ checked)] at run
      cases run
      exact .refused present checked
    | ok =>
      rw [commit_checked E (files.symm ▸ checked)] at run
      cases sync : ((g.showLed E .copyData true).stored E (s.dir mode) s.nextChunk stop).sync E (s.dir mode) with
      | error e =>
        rw [sync] at run
        cases run
        exact .unsynced present checked sync
      | ok =>
        rw [sync] at run
        cases run
        exact .counted present checked sync rfl

/-- In a session, the commit of a chunk notes what it does with the clients and then itself, with the copy lamp lit
before and put out again at last. -/
theorem commitChunk_calls {mode : ScanMode} {stop done : Bool} {g g' : Rig ρ σ δ} {s : ScanSession}
    (present : g.control.session = some s) (run : g.commitChunk E mode stop = (done, g')) :
    ∃ before work after, g'.calls = g.calls ++ before ++ work ++ .committed (s.dir mode) s.nextChunk stop done :: after ∧
      (∀ c ∈ work, c.OfCommit stop (s.dir mode) s.nextChunk) ∧ ∀ c ∈ before ++ after, ∃ led on, c = .lamp led on := by
  obtain ⟨before, lit, lamp⟩ := showLed_notes E .copyData true g
  have concludes {h : Rig ρ σ δ}
      (notes : Notes (Call.OfCommit stop (s.dir mode) s.nextChunk) (g.showLed E .copyData true) h) (done : Bool) :
      ∃ before work after, (h.concluded E (s.dir mode) s.nextChunk stop done).calls =
          g.calls ++ before ++ work ++ .committed (s.dir mode) s.nextChunk stop done :: after ∧
        (∀ c ∈ work, c.OfCommit stop (s.dir mode) s.nextChunk) ∧ ∀ c ∈ before ++ after, ∃ led on, c = .lamp led on := by
    obtain ⟨work, calls, kind⟩ := notes
    obtain ⟨after, out, lamp'⟩ :=
      showLed_notes E .copyData false (h.note (.committed (s.dir mode) s.nextChunk stop done))
    refine ⟨before, work, after, ?_, kind, fun c member => ?_⟩
    · rw [concluded, out, note_calls, calls, lit]
      simp only [List.append_assoc, List.singleton_append]
    · rcases List.mem_append.mp member with first | last
      · exact ⟨_, _, lamp c first⟩
      · exact ⟨_, _, lamp' c last⟩
  have stored := stored_notes E (s.dir mode) s.nextChunk stop (g.showLed E .copyData true)
  cases commitChunk_end run with
  | unallocated none => cases none.symm.trans present
  | refused present' =>
    cases present'.symm.trans present
    exact concludes (.of_same rfl) false
  | unsynced present' =>
    cases present'.symm.trans present
    exact concludes stored false
  | @counted _ failures h present' _ _ same =>
    cases present'.symm.trans present
    rw [same]
    exact concludes (h := countCommit E s.nextChunk failures _) (stored.trans (.of_same rfl)) true

theorem commitChunk_notes {mode : ScanMode} {stop done : Bool} {g g' : Rig ρ σ δ} {s : ScanSession}
    (present : g.control.session = some s) (run : g.commitChunk E mode stop = (done, g')) :
    Notes (fun c => c.OfCommit stop (s.dir mode) s.nextChunk ∨ c.isCommit = true ∨ ∃ led on, c = .lamp led on)
      g g' := by
  obtain ⟨before, work, after, calls, kind, lamps⟩ := commitChunk_calls present run
  refine ⟨before ++ work ++ .committed (s.dir mode) s.nextChunk stop done :: after, by simp [calls], fun c member => ?_⟩
  simp only [List.mem_append, List.mem_cons] at member lamps
  rcases member with (first | working) | rfl | last
  · exact Or.inr (Or.inr (lamps c (Or.inl first)))
  · exact Or.inl (kind c working)
  · exact Or.inr (Or.inl rfl)
  · exact Or.inr (Or.inr (lamps c (Or.inr last)))

/-- A commit of a chunk takes back nothing that was noted. -/
theorem commitChunk_noted {mode : ScanMode} {stop done : Bool} {g g' : Rig ρ σ δ}
    (run : g.commitChunk E mode stop = (done, g')) : g.calls <+: g'.calls := by
  cases present : g.control.session with
  | none =>
    simp only [commitChunk, present, Prod.mk.injEq] at run
    exact run.2 ▸ List.prefix_rfl
  | some s =>
    obtain ⟨_, calls, _⟩ := commitChunk_notes present run
    rw [calls]
    exact List.prefix_append ..

end Rig

end CaptureRig

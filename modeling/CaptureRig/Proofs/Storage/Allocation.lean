import CaptureRig.Chunk.Dump
import CaptureRig.Proofs.Storage.Locality
import CaptureRig.Proofs.Text.Numeral

namespace CaptureRig.Storage

open CaptureRig.Path

/-- The number that the file under a path tells: the one that its text is a numeral for, or zero if there is no file. -/
inductive Tree.Tells (t : Tree) (path : String) : Nat → Prop
  | nothing (absent : t.readText path = .error .notFound) : t.Tells path 0
  | numeral {text : String} {id : Nat} (read : t.readText path = .ok text) (told : Text.Numeral text.toList id)
      (below : id < idBound) : t.Tells path id

theorem Tree.Tells.lt {t : Tree} {path : String} {id : Nat} (tells : t.Tells path id) : id < idBound := by
  cases tells with
  | nothing => decide
  | numeral _ _ below => exact below

theorem Medium.nextId_eq_ok {m : Medium} {t : Tree} {id : Nat} :
    m.nextId t = .ok id ↔ t.Tells m.manifestPath id := by
  unfold Medium.nextId
  constructor
  · intro run
    split at run
    · rename_i absent
      cases run
      exact .nothing absent
    · cases run
    · rename_i text read
      split at run
      · rename_i found
        cases run
        obtain ⟨told, below⟩ := Text.natural?_trimmed_eq_some.mp found
        exact .numeral read told below
      · cases run
  · intro tells
    cases tells with
    | nothing absent => rw [absent]
    | numeral read told below =>
      have found := Text.natural?_trimmed_eq_some.mpr ⟨told, below⟩
      rw [read]
      dsimp only
      rw [found]

/-- A manifest tells one number. -/
theorem Tree.Tells.unique {m : Medium} {t : Tree} {i j : Nat} (first : t.Tells m.manifestPath i)
    (second : t.Tells m.manifestPath j) : i = j :=
  Except.ok.inj ((Medium.nextId_eq_ok.mpr first).symm.trans (Medium.nextId_eq_ok.mpr second))

/-- Directories of one session have been put where there was nothing, and nothing else has changed. -/
structure Raised (root : String) (id : Nat) (t t' : Tree) : Prop where
  flaws : t'.flaws = t.flaws
  nodes : ∀ p, t'.node? p = t.node? p ∨
    (∃ mode, p = sessionPlace root mode id) ∧ t.node? p = none ∧ t'.node? p = some .directory

theorem sessionPlace_ne_nil (root : String) (mode : ScanMode) (id : Nat) : sessionPlace root mode id ≠ [] :=
  List.append_ne_nil_of_right_ne_nil _ (by simp)

theorem manifestPlace_ne_nil (root : String) : manifestPlace root ≠ [] :=
  List.append_ne_nil_of_right_ne_nil _ (by simp)

theorem sessionPlace_ne_manifest (root : String) (mode : ScanMode) (id : Nat) :
    sessionPlace root mode id ≠ manifestPlace root := by
  intro same
  exact sessionName_ne_manifest mode id (List.cons.inj (List.append_cancel_left same)).1

namespace Raised

variable {root : String} {id : Nat} {t t' t'' : Tree}

theorem refl : Raised root id t t := ⟨rfl, fun _ => Or.inl rfl⟩

theorem trans (first : Raised root id t t') (second : Raised root id t' t'') : Raised root id t t'' := by
  refine ⟨second.flaws.trans first.flaws, fun p => ?_⟩
  rcases first.nodes p with same | ⟨place, absent, found⟩
  · rcases second.nodes p with same' | ⟨place, absent, found⟩
    · exact Or.inl (same'.trans same)
    · exact Or.inr ⟨place, same ▸ absent, found⟩
  · rcases second.nodes p with same | ⟨_, absent', _⟩
    · exact Or.inr ⟨place, absent, same.trans found⟩
    · rw [found] at absent'
      cases absent'

theorem of_made {mode : ScanMode} {failed : Option AccessError} (made : t.Made (sessionPlace root mode id) (failed, t')) :
    Raised root id t t' ∧
      (failed = none → ∃ n, t'.node? (sessionPlace root mode id) = some n ∧ n.isDirectory = true) := by
  cases made with
  | failed e => exact ⟨refl, nofun⟩
  | @there n found directory => exact ⟨refl, fun _ => ⟨n, found, directory⟩⟩
  | new absent =>
    have found := Tree.node?_set_self (t := t) (sessionPlace_ne_nil root mode id) .directory
    refine ⟨⟨rfl, fun p => ?_⟩, fun _ => ⟨.directory, found, rfl⟩⟩
    by_cases here : p = sessionPlace root mode id
    · subst here
      exact Or.inr ⟨⟨mode, rfl⟩, absent, found⟩
    · exact Or.inl (Tree.node?_set_of_ne here _)

variable (raised : Raised root id t t')

include raised

theorem grown : t.Extends t' := by
  intro p n found
  rcases raised.nodes p with same | ⟨_, absent, _⟩
  · exact same.trans found
  · rw [absent] at found
    cases found

theorem opened (opened : Open t root) : Open t' root := raised.grown.keepsDirectories.opened opened

theorem manifest : t'.node? (manifestPlace root) = t.node? (manifestPlace root) := by
  rcases raised.nodes (manifestPlace root) with same | ⟨⟨mode, clash⟩, _⟩
  · exact same
  · exact absurd clash.symm (sessionPlace_ne_manifest root mode id)

end Raised

theorem Tree.mem_of_node? {t : Tree} {p : Place} {n : Node} (below : p ≠ []) (found : t.node? p = some n) :
    (p, n) ∈ t.entries := by
  unfold node? at found
  rw [if_neg below] at found
  obtain ⟨⟨q, n'⟩, first, rfl⟩ := Option.map_eq_some_iff.mp found
  have here := List.find?_some first
  rw [decide_eq_true_eq] at here
  exact here ▸ List.mem_of_find?_eq_some first

/-- A file that is opened in an open directory is found there whatever is put into it, and the directory stays open. -/
theorem Tree.openFile_entry {t : Tree} {root name : String} {p : Place} (named : root ≠ "") (entry : IsEntry name)
    (opened : Open t root) (run : t.openFile (join root name) = .ok p) (content : Content) :
    Open (t.set p (.file content)) root ∧ (t.set p (.file content)).locate (join root name) = .ok p := by
  obtain ⟨_, located, free⟩ := openFile_eq run
  rw [locateFile_join named entry] at located
  have kept : t.KeepsDirectories (t.set p (.file content)) := .set free _
  exact ⟨kept.opened opened, kept.locate located⟩

theorem placeOf_manifest {m : Medium} (named : m.root ≠ "") : placeOf m.manifestPath = manifestPlace m.root :=
  placeOf_join isEntry_manifest named

/-- What an attempt to allocate a session comes to: a refusal, a failure with some of the directories made, a manifest
that is opened and does not take the next number, no next number, or the session of the number that the manifest tells. -/
inductive Medium.Attempt (m : Medium) (t : Tree) : Except Fault (Except AllocError SessionDirs × Tree) → Prop
  | refused (e : AllocError) : m.Attempt t (.ok (.error e, t))
  | failed {id t'} (e : AllocError) (named : m.root ≠ "") (opened : Open t m.root) (raised : Raised m.root id t t') :
      m.Attempt t (.ok (.error e, t'))
  | emptied {id t' cause} (named : m.root ≠ "") (opened : Open t m.root) (tells : t.Tells m.manifestPath id)
      (raised : Raised m.root id t t') (file : t'.openFile m.manifestPath = .ok (manifestPlace m.root))
      (short : t'.shortage? (manifestPlace m.root) (.text (manifestText (id + 1))) = some cause) :
      m.Attempt t (.ok (.error (.access cause), t'.set (manifestPlace m.root) (.file (.bytes []))))
  | stuck (tells : t.Tells m.manifestPath (idBound - 1)) : m.Attempt t (.error .idOverflow)
  | granted {id t'} (named : m.root ≠ "") (opened : Open t m.root) (tells : t.Tells m.manifestPath id)
      (below : id + 1 < idBound) (raised : Raised m.root id t t')
      (there : ∀ mode, ∃ n, t'.node? (sessionPlace m.root mode id) = some n ∧ n.isDirectory = true)
      (file : t'.openFile m.manifestPath = .ok (manifestPlace m.root)) :
      m.Attempt t (.ok (.ok (sessionDirs m.root id),
        t'.set (manifestPlace m.root) (.file (.text (manifestText (id + 1))))))

theorem Medium.attempt_cases (m : Medium) (t : Tree) : m.Attempt t (m.attempt t) := by
  unfold Medium.attempt
  split
  · exact .refused _
  rename_i filled
  have named : m.root ≠ "" := by simpa using filled
  split
  · exact .refused _
  rename_i writable
  have opened : Open t m.root := Tree.isWritable_open (by simpa [Medium.isWritable] using writable)
  split
  · exact .refused _
  rename_i id next
  have tells := Medium.nextId_eq_ok.mp next
  have made (mode : ScanMode) {u : Tree} (opened : Open u m.root) :
      u.Made (sessionPlace m.root mode id) (u.makeDirectory (join m.root (sessionName mode id))) :=
    Tree.makeDirectory_made named (isEntry_session mode id) opened
  have first : t.Made (sessionPlace m.root .continuous id) (t.makeDirectory (sessionDirs m.root id).continuous) :=
    made .continuous opened
  dsimp only
  split
  · rename_i e t₁ run
    rw [run] at first
    exact .failed _ named opened (Raised.of_made first).1
  rename_i t₁ run
  rw [run] at first
  obtain ⟨raised, found⟩ := Raised.of_made first
  have second : t₁.Made (sessionPlace m.root .stopScan id) (t₁.makeDirectory (sessionDirs m.root id).stopScan) :=
    made .stopScan (raised.opened opened)
  split
  · rename_i e t₂ run
    rw [run] at second
    exact .failed _ named opened (raised.trans (Raised.of_made second).1)
  rename_i t₂ run
  rw [run] at second
  obtain ⟨raised', found'⟩ := Raised.of_made second
  have both : ∀ mode, ∃ n, t₂.node? (sessionPlace m.root mode id) = some n ∧ n.isDirectory = true := by
    intro mode
    cases mode with
    | continuous =>
      obtain ⟨n, here, directory⟩ := found rfl
      exact ⟨n, raised'.grown _ n here, directory⟩
    | stopScan => exact found' rfl
  split
  · rename_i below
    have grown := raised.trans raised'
    rcases Tree.write_cases t₂ m.manifestPath (.text (manifestText (id + 1))) with ⟨e, _, closed⟩ | ⟨file, filled⟩
    · rw [closed]
      exact .failed _ named opened grown
    rw [placeOf_manifest named] at file filled
    cases short : t₂.shortage? (manifestPlace m.root) (.text (manifestText (id + 1))) with
    | none =>
      rw [filled, short, Tree.fitting_of_shortage short]
      exact .granted named opened tells below grown both file
    | some cause =>
      rw [filled, short, fitting_manifestText below short]
      exact .emptied named opened tells grown file short
  · rename_i above
    have last : id = idBound - 1 := by
      have := tells.lt
      omega
    exact .stuck (last ▸ tells)

/-- What an attempt to allocate a session comes to: it fails and is not counted, or it succeeds with the number of the
sessions so far and is counted. What is there stays in either case, but for the manifest. -/
inductive Attempted (root : String) (n : Nat) (t : Tree) : Except AllocError SessionDirs → Tree → Prop
  | failed {e t'} (kept : t.ExtendsBeside root t') (counts : Counts t' root n) : Attempted root n t (.error e) t'
  | granted {t'} (kept : t.ExtendsBeside root t') (counts : Counts t' root (n + 1)) :
      Attempted root n t (.ok (sessionDirs root n)) t'

theorem attempt_attempted {m : Medium} {t t' : Tree} {n : Nat} {result : Except AllocError SessionDirs}
    (counts : Counts t m.root n) (run : m.attempt t = .ok (result, t')) : Attempted m.root n t result t' := by
  have attempt := m.attempt_cases t
  rw [run] at attempt
  cases attempt with
  | refused => exact .failed ((Tree.Extends.refl t).beside _) counts
  | failed _ _ _ raised => exact .failed (raised.grown.beside _) (counts.of_same raised.manifest)
  | emptied _ _ _ raised =>
    exact .failed (raised.grown.beside_set _) (.emptied (Tree.node?_set_self (manifestPlace_ne_nil m.root) _))
  | granted named opened tells below raised =>
    cases counts.nextId_eq rfl named opened (Medium.nextId_eq_ok.mpr tells)
    exact .granted (raised.grown.beside_set _) (.held below (Tree.node?_set_self (manifestPlace_ne_nil m.root) _))

/-- The directory of a session that is not there, and what would be in it, cannot be reached. -/
theorem Tree.lookup_below_absent {t : Tree} {root name file : String} (named : root ≠ "") (entry : IsEntry name)
    (inner : IsEntry file) (opened : Open t root) (absent : t.node? (placeOf root ++ [name]) = none) (n : Node) :
    t.lookup (join (join root name) file) ≠ .ok n := by
  intro found
  obtain ⟨p, located, _⟩ := bind_eq_ok.mp found
  have filled : join root name ≠ "" := entry.join_ne_empty root
  unfold locate at located
  rw [inner.ending_join filled, if_pos rfl, inner.names_join filled, entry.names_join named] at located
  split at located
  · cases located
  unfold reach at located
  rw [List.getLast?_concat, List.dropLast_concat] at located
  obtain ⟨above, through, _⟩ := bind_eq_ok.mp located
  rw [descend_append opened.reached] at through
  obtain ⟨there, m, next, held, _, _⟩ := descend_cons_eq_ok through
  have place := Place.next_eq next
  rw [Place.along, List.foldl_cons, if_neg entry.up, List.foldl_nil] at place
  rw [place, absent] at held
  cases held

/-- The manifest is ahead of the directories of sessions: it tells a number beyond that of each. -/
def Tree.Ahead (t : Tree) (root : String) : Prop :=
  ∀ mode id n, t.node? (sessionPlace root mode id) = some n → n.isDirectory = true →
    ∃ next, t.Tells (join root manifestName) next ∧ id < next

namespace Medium

variable {m m' : Medium} {t t' : Tree} {dirs : SessionDirs}

/-- An answer to an attempt, and what is remembered of it. -/
theorem allocate_eq_ok {result : Except AllocError SessionDirs} :
    m.allocate t = .ok (result, m', t') ↔ m.attempt t = .ok (result, t') ∧
      m' = match result with
        | .ok dirs => { m with session := some dirs, lastError := none }
        | .error e => { m with lastError := some e.message } := by
  unfold allocate
  rw [bind_eq_ok]
  constructor
  · rintro ⟨⟨_ | dirs, u⟩, run, answer⟩ <;> cases answer <;> exact ⟨run, rfl⟩
  · rintro ⟨run, rfl⟩
    refine ⟨_, run, ?_⟩
    cases result <;> rfl

/-- After a session has been granted the manifest tells the next number, and beside it the directories of the session
are all that is new. -/
theorem Attempt.granted_tree (attempt : m.Attempt t (.ok (.ok dirs, t'))) :
    m.root ≠ "" ∧ Open t m.root ∧ t.Tells m.manifestPath dirs.id ∧ dirs = sessionDirs m.root dirs.id ∧
      t'.Tells m.manifestPath (dirs.id + 1) ∧ ∃ u, Raised m.root dirs.id t u ∧
        (∀ mode, ∃ n, u.node? (sessionPlace m.root mode dirs.id) = some n ∧ n.isDirectory = true) ∧
        ∀ p, p ≠ manifestPlace m.root → t'.node? p = u.node? p := by
  cases attempt with
  | @granted id u named opened tells below raised there file =>
    obtain ⟨_, located⟩ := Tree.openFile_entry named isEntry_manifest (raised.opened opened) file
      (.text (manifestText (id + 1)))
    have read := Tree.readText_of_file located (Tree.node?_set_self (manifestPlace_ne_nil m.root) _)
    obtain ⟨told, _⟩ := Text.natural?_trimmed_eq_some.mp (Text.natural?_line below)
    refine ⟨named, opened, tells, rfl, .numeral read told below, u, raised, there, ?_⟩
    exact fun p away => Tree.node?_set_of_ne away _

/-- A session that is allocated has the number that the manifest tells. Its directories are there, all else but the
manifest is as it was, and so is what was in them before. If the manifest was ahead of all directories of sessions, there
was nothing under the names of the new ones and nothing could be reached through them, and the manifest is ahead of all
again. -/
theorem allocate_fresh (run : m.allocate t = .ok (.ok dirs, m', t')) :
    t.Tells m.manifestPath dirs.id ∧ dirs = sessionDirs m.root dirs.id ∧
      (∀ p n, p ≠ placeOf m.manifestPath → t.node? p = some n → t'.node? p = some n) ∧
      (∀ mode, ∃ n, t'.node? (placeOf (dirs.dir mode)) = some n ∧ n.isDirectory = true) ∧
      (t.Ahead m.root → t'.Ahead m.root ∧ ∀ mode, t.node? (placeOf (dirs.dir mode)) = none ∧
        ∀ file, IsEntry file → ∀ n, t.lookup (join (dirs.dir mode) file) ≠ .ok n) := by
  obtain ⟨attempted, _⟩ := allocate_eq_ok.mp run
  have attempt := m.attempt_cases t
  rw [attempted] at attempt
  obtain ⟨named, opened, tells, own, next, u, raised, there, beside⟩ := attempt.granted_tree
  have manifest := placeOf_manifest named
  have path : ∀ mode, dirs.dir mode = join m.root (sessionName mode dirs.id) := by
    intro mode
    rw [own, sessionDirs_dir]
    rfl
  have place : ∀ mode, placeOf (dirs.dir mode) = sessionPlace m.root mode dirs.id := by
    intro mode
    rw [path]
    exact placeOf_join (isEntry_session mode dirs.id) named
  refine ⟨tells, own, ?_, ?_, ?_⟩
  · intro p n away found
    rw [manifest] at away
    rw [beside p away]
    exact raised.grown p n found
  · intro mode
    rw [place, beside _ (sessionPlace_ne_manifest m.root mode dirs.id)]
    exact there mode
  intro ahead
  constructor
  · intro mode id n found directory
    rw [beside _ (sessionPlace_ne_manifest m.root mode id)] at found
    refine ⟨dirs.id + 1, next, ?_⟩
    rcases raised.nodes (sessionPlace m.root mode id) with same | ⟨⟨other, clash⟩, _⟩
    · rw [same] at found
      obtain ⟨present, tells', below⟩ := ahead mode id n found directory
      have := tells.unique tells'
      omega
    · have := (sessionPlace_injective clash).2
      omega
  · intro mode
    have absent : t.node? (sessionPlace m.root mode dirs.id) = none := by
      rcases raised.nodes (sessionPlace m.root mode dirs.id) with same | ⟨_, absent, _⟩
      · obtain ⟨n, found, directory⟩ := there mode
        rw [same] at found
        obtain ⟨present, tells', below⟩ := ahead mode dirs.id n found directory
        have := tells.unique tells'
        omega
      · exact absent
    refine ⟨place mode ▸ absent, fun file entry n => ?_⟩
    rw [path]
    exact Tree.lookup_below_absent named (isEntry_session mode dirs.id) entry opened absent n

/-- A storage with an early session, and a manifest that somebody has written by hand. -/
def earlier : Tree :=
  { entries := [(["usb"], .directory), (["usb", "scan_manifest.txt"], .file (.text "\u2003+007\r\n")),
      (["usb", "continuous_scanning_0006"], .directory),
      (["usb", "continuous_scanning_0006", "gnss0000.gnss"], .file (.text "1 $OLD\n"))] }

/-- The session has the number that is written there, and the early one keeps its chunk. -/
theorem allocate_fresh_beside_earlier :
    ∃ dirs m' t', ({ root := "usb" } : Medium).allocate earlier = .ok (.ok dirs, m', t') ∧ dirs.id = 7 ∧
      earlier.node? (placeOf dirs.continuous) = none ∧ earlier.node? (placeOf dirs.stopScan) = none ∧
      t'.Ahead "usb" ∧
      t'.node? ["usb", "continuous_scanning_0006", "gnss0000.gnss"] = some (.file (.text "1 $OLD\n")) := by
  let taken : Tree := ((earlier.set ["usb", "continuous_scanning_0007"] .directory).set ["usb", "stop_scans_0007"]
    .directory).set ["usb", "scan_manifest.txt"] (.file (.text "8\n"))
  have run : ({ root := "usb" } : Medium).allocate earlier =
      .ok (.ok (sessionDirs "usb" 7), { root := "usb", session := some (sessionDirs "usb" 7) }, taken) := by
    decide +kernel
  obtain ⟨tells, _, kept, _, fresh⟩ := allocate_fresh run
  have ahead : earlier.Ahead "usb" := by
    intro mode id n found _
    have root : placeOf "usb" = ["usb"] := by decide +kernel
    have six : sessionName .continuous 6 = "continuous_scanning_0006" := by decide +kernel
    have member := Tree.mem_of_node? (sessionPlace_ne_nil "usb" mode id) found
    refine ⟨7, tells, ?_⟩
    simp only [earlier, sessionPlace, root, List.mem_cons, Prod.mk.injEq, List.not_mem_nil, or_false] at member
    rcases member with ⟨top, _⟩ | ⟨manifest, _⟩ | ⟨old, _⟩ | ⟨chunk, _⟩
    · cases top
    · exact absurd (List.cons.inj (List.cons.inj manifest).2).1 (sessionName_ne_manifest mode id)
    · have name := (List.cons.inj (List.cons.inj old).2).1
      rw [← six] at name
      have := (sessionName_injective name).2
      omega
    · cases (List.cons.inj (List.cons.inj chunk).2).2
  obtain ⟨ahead', absent⟩ := fresh ahead
  exact ⟨_, _, _, run, rfl, (absent .continuous).1, (absent .stopScan).1, ahead',
    kept _ _ (by decide +kernel) (by decide +kernel)⟩

/-- A storage with the directory of an early session and a chunk in it, but without its manifest. -/
def leftovers : Tree :=
  { entries := [(["usb"], .directory), (["usb", "continuous_scanning_0000"], .directory),
      (["usb", "continuous_scanning_0000", "gnss0000.gnss"], .file (.text "1 $OLD\n"))] }

/-- Without its manifest, a storage gives out a directory that is there already, and a chunk of the new session replaces
the file of an old one. -/
theorem leftovers_replaced :
    ∃ dirs m' t' t'', ({ root := "usb" } : Medium).allocate leftovers = .ok (.ok dirs, m', t') ∧
      leftovers.lookup dirs.continuous = .ok .directory ∧
      leftovers.readText (join dirs.continuous "gnss0000.gnss") = .ok "1 $OLD\n" ∧
      (⟨"gnss", some (.sentences [⟨2, "$NEW"⟩])⟩ : Chunk.Dump).write .standard dirs.continuous 0 t' =
        (.ok [join dirs.continuous "gnss0000.gnss"], t'') ∧
      t''.readText (join dirs.continuous "gnss0000.gnss") = .ok "2 $NEW\n" := by
  let taken : Tree := (leftovers.set ["usb", "stop_scans_0000"] .directory).set ["usb", "scan_manifest.txt"]
    (.file (.text "1\n"))
  refine ⟨sessionDirs "usb" 0, { root := "usb", session := some (sessionDirs "usb" 0) }, taken,
    taken.set ["usb", "continuous_scanning_0000", "gnss0000.gnss"] (.file (.text "2 $NEW\n")), ?_⟩
  decide +kernel

/-- A medium on which these attempts have been made, one after another, each with whatever there was on the storage. -/
inductive Used (root : String) : List (Except AllocError SessionDirs) → Medium → Prop
  | unused : Used root [] { root }
  | attempt {past m t result m' t'} (used : Used root past m) (run : m.allocate t = .ok (result, m', t')) :
      Used root (past ++ [result]) m'

/-- The session that was granted last. -/
def lastGranted (past : List (Except AllocError SessionDirs)) : Option SessionDirs :=
  (past.filterMap Except.toOption).getLast?

theorem Used.session_eq {root : String} {past : List (Except AllocError SessionDirs)} (used : Used root past m) :
    m.session = lastGranted past := by
  induction used with
  | unused => rfl
  | @attempt past m t result m' t' _ run ih =>
    obtain ⟨_, rfl⟩ := allocate_eq_ok.mp run
    cases result with
    | ok dirs => simp [lastGranted, Except.toOption]
    | error e => simpa [lastGranted, Except.toOption] using ih

theorem report_session_id (m : Medium) (t : Tree) :
    (m.report t).get? "session_id" = some (.ofOption (fun s => .nat s.id) m.session) := by
  simp [report, Json.get?]

theorem report_error (m : Medium) (t : Tree) :
    (m.report t).get? "error" = some (.ofOption .text m.lastError) := by
  simp [report, Json.get?]

/-- What a failed attempt leaves of a manifest is what it was, or a file with nothing in it. The latter is so only if
the file was opened and did not take the number that comes after the one it told. -/
inductive LeftManifest (m : Medium) (t : Tree) (e : AllocError) (t' : Tree) : Prop
  | kept (same : t'.lookup m.manifestPath = t.lookup m.manifestPath)
  | emptied {flaw : Flaw} {id : Nat} (flawed : t.flaw? (placeOf m.manifestPath) = some flaw)
      (cause : e = .access flaw.cause) (told : t.Tells m.manifestPath id)
      (left : t'.lookup m.manifestPath = .ok (.file (.bytes [])))
      (corrupt : m.nextId t' = .error (.corruptManifest m.manifestPath ""))

theorem Attempt.leftManifest {e : AllocError} (attempt : m.Attempt t (.ok (.error e, t'))) : LeftManifest m t e t' := by
  cases attempt with
  | refused => exact .kept rfl
  | failed _ named opened raised =>
    have same : t'.locate m.manifestPath = t.locate m.manifestPath :=
      Tree.locate_join named isEntry_manifest (raised.opened opened) opened
    refine .kept ?_
    unfold Tree.lookup
    rw [same]
    cases located : t.locate m.manifestPath with
    | error => rfl
    | ok p =>
      have place : p = manifestPlace m.root := (Tree.locate_eq located).trans (placeOf_manifest named)
      subst place
      simp only [bind, Except.bind, raised.manifest]
  | @emptied id u cause named opened tells raised file short =>
    obtain ⟨flaw, flawed, rfl⟩ := Tree.flaw?_of_shortage short
    have located : (u.set (manifestPlace m.root) (.file (.bytes []))).locate m.manifestPath = .ok (manifestPlace m.root) :=
      (Tree.openFile_entry named isEntry_manifest (raised.opened opened) file (.bytes [])).2
    have held := Tree.node?_set_self (t := u) (manifestPlace_ne_nil m.root) (.file (.bytes []))
    rw [Tree.flaw?_eq_of_flaws raised.flaws, ← placeOf_manifest named] at flawed
    refine .emptied flawed rfl tells ?_ ?_
    · rw [Tree.lookup, located]
      simp only [bind, Except.bind, held]
    · rw [nextId, Tree.readText_of_emptied located held]
      rfl

/-- An attempt to allocate a session, on whatever storage and after whatever attempts before, gets stuck only if the
manifest tells the last number. Otherwise it is answered by the session of the number that the manifest tells, and the
next one is told from then on, or by an error. Then the manifest is as it was, unless it was opened to be written and the
writing failed for a flaw of the storage: it is empty in that case, and no attempt goes on from it. The report then has
the number of the session granted last, and the error of this attempt, if it has failed. -/
theorem allocate_consistent {root : String} {past : List (Except AllocError SessionDirs)} (used : Used root past m)
    (t : Tree) :
    (m.allocate t = .error .idOverflow ∧ t.Tells m.manifestPath (idBound - 1)) ∨
      (∃ dirs m' t', m.allocate t = .ok (.ok dirs, m', t') ∧ t.Tells m.manifestPath dirs.id ∧
        m'.nextId t' = .ok (dirs.id + 1) ∧ (m'.report t').get? "session_id" = some (.nat dirs.id) ∧
        (m'.report t').get? "error" = some .null) ∨
      ∃ e m' t', m.allocate t = .ok (.error e, m', t') ∧ LeftManifest m t e t' ∧
        (m'.report t').get? "session_id" = some (.ofOption (fun s => .nat s.id) (lastGranted past)) ∧
        (m'.report t').get? "error" = some (.text e.message) := by
  have attempt := m.attempt_cases t
  cases attempted : m.attempt t with
  | error fault =>
    rw [attempted] at attempt
    cases attempt with
    | stuck tells =>
      left
      refine ⟨?_, tells⟩
      unfold allocate
      rw [attempted]
      rfl
  | ok answer =>
    obtain ⟨result, t'⟩ := answer
    rw [attempted] at attempt
    right
    cases result with
    | ok dirs =>
      left
      obtain ⟨_, _, tells, _, next, _⟩ := attempt.granted_tree
      refine ⟨dirs, _, t', allocate_eq_ok.mpr ⟨attempted, rfl⟩, tells, ?_, ?_, ?_⟩
      · exact nextId_eq_ok.mpr next
      · exact report_session_id _ t'
      · exact report_error _ t'
    | error e =>
      right
      refine ⟨e, _, t', allocate_eq_ok.mpr ⟨attempted, rfl⟩, attempt.leftManifest, ?_, ?_⟩
      · rw [← used.session_eq]
        exact report_session_id _ t'
      · exact report_error _ t'

/-- A storage that is full: the manifest can be opened, but nothing more can be written. -/
def full : Tree :=
  { entries := [(["usb"], .directory), (["usb", "scan_manifest.txt"], .file (.text "7\n"))]
    flaws := [(["usb", "scan_manifest.txt"], ⟨.noSpace, 0⟩)] }

/-- After a manifest that is no numeral, the report has the error no more when a session has been granted. A storage
that is full loses what its manifest has told. -/
theorem allocate_consistent_after_corrupt :
    (∃ m m' t', Used "usb" [.error (.corruptManifest "usb/scan_manifest.txt" "many")] m ∧
      (m.report earlier).get? "error" = some (.text "Manifest \x22usb/scan_manifest.txt\x22 is corrupt: \x22many\x22") ∧
      m.allocate earlier = .ok (.ok (sessionDirs "usb" 7), m', t') ∧ m'.nextId t' = .ok 8 ∧
      (m'.report t').get? "session_id" = some (.nat 7) ∧ (m'.report t').get? "error" = some .null) ∧
    ∃ m' t', ({ root := "usb" } : Medium).allocate full = .ok (.error (.access .noSpace), m', t') ∧
      t'.lookup "usb/scan_manifest.txt" = .ok (.file (.bytes [])) ∧
      (m'.report t').get? "session_id" = some .null ∧
      (m'.report t').get? "error" = some (.text (AllocError.access .noSpace).message) := by
  constructor
  · let corrupt : Tree := { entries := [(["usb"], .directory), (["usb", "scan_manifest.txt"], .file (.text "many"))] }
    let told : String := "Manifest \x22usb/scan_manifest.txt\x22 is corrupt: \x22many\x22"
    have refused : ({ root := "usb" } : Medium).allocate corrupt =
        .ok (.error (.corruptManifest "usb/scan_manifest.txt" "many"), { root := "usb", lastError := some told },
          corrupt) := by
      decide +kernel
    have used : Used "usb" _ { root := "usb", lastError := some told } := .attempt .unused refused
    have granted : (({ root := "usb", lastError := some told } : Medium).allocate earlier).toOption.map (·.1) =
        some (.ok (sessionDirs "usb" 7)) := by decide +kernel
    obtain ⟨⟨result, m', t'⟩, run, rfl⟩ := Option.map_eq_some_iff.mp granted
    have run := toOption_eq_some.mp run
    rcases allocate_consistent used earlier with
      ⟨stuck, _⟩ | ⟨dirs, m₁, t₁, answer, _, next, id, error⟩ | ⟨e, m₁, t₁, answer, _⟩
    · cases stuck.symm.trans run
    · cases answer.symm.trans run
      exact ⟨_, m', t', used, report_error _ earlier, run, next, id, error⟩
    · cases answer.symm.trans run
  · have failed : ((({ root := "usb" } : Medium).allocate full).toOption.map fun a =>
        (a.1, (a.2.2.readText "usb/scan_manifest.txt").toOption)) = some (.error (.access .noSpace), some "") := by
      decide +kernel
    obtain ⟨⟨result, m', t'⟩, run, seen⟩ := Option.map_eq_some_iff.mp failed
    have run := toOption_eq_some.mp run
    obtain ⟨rfl, lost⟩ : _ ∧ _ := by simpa only [Prod.mk.injEq] using seen
    have path : ({ root := "usb" } : Medium).manifestPath = "usb/scan_manifest.txt" := by decide +kernel
    have read : full.readText "usb/scan_manifest.txt" = .ok "7\n" := toOption_eq_some.mp (by decide +kernel)
    rcases allocate_consistent .unused full with
      ⟨stuck, _⟩ | ⟨dirs, m₁, t₁, answer, _⟩ | ⟨e, m₁, t₁, answer, manifest, id, error⟩
    · cases stuck.symm.trans run
    · cases answer.symm.trans run
    · cases answer.symm.trans run
      cases manifest with
      | kept same =>
        have kept : t'.readText "usb/scan_manifest.txt" = .ok "7\n" := by
          rw [← read, Tree.readText, ← path, same, Tree.readText]
        rw [kept] at lost
        exact absurd lost (by decide)
      | emptied _ _ _ left _ => exact ⟨m', t', run, path ▸ left, id, error⟩

/-- There is no number after the last one, and the attempt that would need it gets stuck. -/
theorem stuck_at_last_number :
    ∃ t : Tree, t.isWritable "usb" = true ∧ t.readText "usb/scan_manifest.txt" = .ok "18446744073709551615" ∧
      ({ root := "usb" } : Medium).allocate t = .error .idOverflow := by
  let t : Tree := { entries := [(["usb"], .directory), (["usb", "scan_manifest.txt"], .file (.text "18446744073709551615"))] }
  refine ⟨t, ?_⟩
  decide +kernel

end Medium

end CaptureRig.Storage

import CaptureRig.Proofs.Storage.Place
import CaptureRig.Proofs.Text.Digits
import CaptureRig.Proofs.Text.Utf8
import CaptureRig.Storage.Medium

namespace CaptureRig

def SessionDirs.dir (dirs : SessionDirs) : ScanMode → String
  | .continuous => dirs.continuous
  | .stopScan => dirs.stopScan

theorem ScanSession.dir_eq (s : ScanSession) (mode : ScanMode) : s.dir mode = s.dirs.dir mode := by
  cases mode <;> rfl

def SessionDirs.places (d : SessionDirs) : List Storage.Place :=
  [Storage.placeOf d.continuous, Storage.placeOf d.stopScan]

namespace Storage

open CaptureRig.Path

def sessionStem : ScanMode → String
  | .continuous => continuousStem
  | .stopScan => stopScanStem

/-- The name of the directory of a session for a way of capture. -/
def sessionName (mode : ScanMode) (id : Nat) : String := sessionStem mode ++ Text.padded 4 id

theorem sessionDirs_dir (root : String) (id : Nat) (mode : ScanMode) :
    (sessionDirs root id).dir mode = join root (sessionName mode id) := by
  cases mode <;> rfl

theorem isEntry_manifest : IsEntry manifestName := IsEntry.of_first rfl (by decide) (by decide)

theorem toList_sessionName (mode : ScanMode) (id : Nat) :
    (sessionName mode id).toList = (sessionStem mode).toList ++ (Text.padded 4 id).toList :=
  String.toList_append ..

theorem isEntry_session (mode : ScanMode) (id : Nat) : IsEntry (sessionName mode id) := by
  have slash : '/' ∉ (sessionName mode id).toList := by
    rw [toList_sessionName]
    intro member
    rcases List.mem_append.mp member with stem | digit
    · cases mode <;> exact absurd stem (by decide)
    · cases Text.isDigit_of_mem_padded digit
  have whole := toList_sessionName mode id
  cases mode with
  | continuous => exact IsEntry.of_first whole (by decide) slash
  | stopScan => exact IsEntry.of_first whole (by decide) slash

/-- No two sessions share a directory, nor do the ways of capture of one. -/
theorem sessionName_injective {mode other : ScanMode} {i j : Nat} (same : sessionName mode i = sessionName other j) :
    mode = other ∧ i = j := by
  have letters := congrArg String.toList same
  rw [toList_sessionName, toList_sessionName] at letters
  have alike : mode = other := by
    cases mode <;> cases other <;> first | rfl | cases (List.cons.inj letters).1
  subst alike
  exact ⟨rfl, Text.padded_injective (String.toList_inj.mp (List.append_cancel_left letters))⟩

theorem sessionName_ne_manifest (mode : ScanMode) (id : Nat) : sessionName mode id ≠ manifestName := by
  intro same
  have letters := congrArg String.toList same
  rw [toList_sessionName] at letters
  cases mode with
  | continuous => cases (List.cons.inj letters).1
  | stopScan => cases (List.cons.inj (List.cons.inj letters).2).1

/-- A writable directory, under whatever path. -/
structure Open (t : Tree) (root : String) : Prop where
  reached : t.descend [] (names root) = .ok (placeOf root)
  isOpen : t.isOpen (placeOf root) = true

namespace Tree

variable {t : Tree}

theorem descend_cons_eq_ok {here p : Place} {name : String} {rest : List String}
    (run : t.descend here (name :: rest) = .ok p) :
    ∃ there n, Place.next here name = .ok there ∧ t.node? there = some n ∧ n.isDirectory = true ∧
      t.descend there rest = .ok p := by
  unfold descend at run
  split at run
  · cases run
  · rename_i there next
    split at run
    · cases run
    split at run
    · rename_i n found directory
      exact ⟨there, n, next, found, directory, run⟩
    · cases run

theorem descend_cons {here there : Place} {name : String} {n : Node} (next : Place.next here name = .ok there)
    (found : t.node? there = some n) (directory : n.isDirectory = true) (rest : List String) :
    t.descend here (name :: rest) = t.descend there rest := by
  rw [descend, next]
  simp only [found, directory, if_true]

theorem descend_append {here there : Place} {before : List String} (run : t.descend here before = .ok there)
    (after : List String) : t.descend here (before ++ after) = t.descend there after := by
  induction before generalizing here with
  | nil =>
    cases run
    rfl
  | cons name rest ih =>
    obtain ⟨middle, n, next, found, directory, run⟩ := descend_cons_eq_ok run
    rw [List.cons_append, descend_cons next found directory]
    exact ih run

/-- A directory that a path leads to can be gone through. -/
theorem descend_of_locate {path : String} {p : Place} {n : Node} (run : t.locate path = .ok p)
    (found : t.node? p = some n) (directory : n.isDirectory = true) : t.descend [] (names path) = .ok p := by
  unfold locate at run
  split at run
  · cases run
  split at run
  · unfold reach at run
    split at run
    · rename_i none
      cases run
      rw [List.getLast?_eq_none_iff.mp none]
      rfl
    · rename_i last ending
      obtain ⟨above, descended, next⟩ := bind_eq_ok.mp run
      obtain ⟨before, same⟩ := List.getLast?_eq_some_iff.mp ending
      rw [same, List.dropLast_concat] at descended
      rw [same, descend_append descended, descend_cons next found directory]
      rfl
  · exact run

theorem isWritable_open {root : String} (writable : t.isWritable root = true) : Open t root := by
  unfold isWritable at writable
  split at writable
  · rename_i n lookup
    obtain ⟨p, located, lookup⟩ := bind_eq_ok.mp lookup
    split at lookup
    · rename_i found
      cases lookup
      have directory : n.isDirectory = true := (Bool.and_eq_true_iff.mp writable).1
      have place := locate_eq located
      refine ⟨place ▸ descend_of_locate located found directory, ?_⟩
      rw [isOpen, ← place, found]
      exact writable
    · cases lookup
  · cases writable

/-- An entry of a directory that can be reached is reached by one name more. -/
theorem reach_entry {root name : String} (reached : t.descend [] (names root) = .ok (placeOf root)) :
    t.reach (names root ++ [name]) = Place.next (placeOf root) name := by
  unfold reach
  rw [List.getLast?_concat, List.dropLast_concat, reached]
  rfl

/-- What comes of making a directory at a place: it fails, or there is one, or one is put where there is nothing. -/
inductive Made (t : Tree) (p : Place) : Change → Prop
  | failed (e : AccessError) : Made t p (some e, t)
  | there {n : Node} (found : t.node? p = some n) (directory : n.isDirectory = true) : Made t p (none, t)
  | new (absent : t.node? p = none) : Made t p (none, t.set p .directory)

section Entry

variable {root name : String} (named : root ≠ "") (entry : IsEntry name)

include entry

theorem next_entry (here : Place) :
    Place.next here name = .ok (here ++ [name]) ∨ Place.next here name = .error .nameTooLong := by
  unfold Place.next
  rw [if_neg entry.up]
  split
  · exact Or.inl rfl
  · exact Or.inr rfl

/-- A directory is made in an open one, or nothing is changed. -/
theorem makeOne_entry (opened : Open t root) :
    (∃ e, e ≠ .notFound ∧ t.makeOne .name (names root ++ [name]) = .error e) ∨
      t.node? (placeOf root ++ [name]) = none ∧
        t.makeOne .name (names root ++ [name]) = .ok (t.set (placeOf root ++ [name]) .directory) := by
  unfold makeOne
  rw [if_neg (by decide), reach_entry opened.reached]
  rcases next_entry entry (placeOf root) with next | next
  · rw [next]
    cases there : t.node? (placeOf root ++ [name]) with
    | some n => exact Or.inl ⟨.alreadyExists, by decide, by simp [bind, Except.bind, there]⟩
    | none => exact Or.inr ⟨rfl, by simp [bind, Except.bind, there, opened.isOpen]⟩
  · exact Or.inl ⟨.nameTooLong, by decide, by rw [next]; rfl⟩

include named

/-- A directory is made in an open one where there is nothing, and one that is there is taken as it is. -/
theorem makeDirectory_made (opened : Open t root) :
    t.Made (placeOf root ++ [name]) (t.makeDirectory (join root name)) := by
  have filled : (join root name).isEmpty = false := by simpa using entry.join_ne_empty root
  have back : (names (join root name)).reverse = name :: (names root).reverse := by
    rw [entry.names_join named, List.reverse_append]
    rfl
  have forth : (name :: (names root).reverse).reverse = names root ++ [name] := by
    rw [List.reverse_cons, List.reverse_reverse]
  unfold makeDirectory
  rw [filled, if_neg Bool.false_ne_true]
  split
  · exact .failed _
  rw [entry.ending_join named, back, ensureAll]
  simp only [forth, ensureOne]
  rcases makeOne_entry entry opened with ⟨e, other, made⟩ | ⟨absent, made⟩
  · have missing : some e ≠ some AccessError.notFound := fun same => other (Option.some.inj same)
    rw [made]
    cases through : t.descend [] (names root ++ [name]) with
    | ok p =>
      rw [descend_append opened.reached] at through
      obtain ⟨there, n, next, found, directory, _⟩ := descend_cons_eq_ok through
      have place := Place.next_eq next
      rw [Place.along, List.foldl_cons, if_neg entry.up, List.foldl_nil] at place
      exact .there (place ▸ found) directory
    | error cause =>
      dsimp only [Except.isOk, Except.toBool]
      split
      · rename_i clash
        exact absurd (congrArg Prod.fst clash) missing
      · exact .failed e
  · rw [made]
    exact .new absent

end Entry

theorem refusal?_join {root name : String} (entry : IsEntry name) :
    refusal? (join root name) ≠ some .notFound := by
  have filled : (join root name).isEmpty = false := by simpa using entry.join_ne_empty root
  unfold refusal?
  rw [filled]
  split
  · simp
  · simp only [Bool.false_eq_true, if_false]
    split <;> simp

/-- The path to an entry of an open directory leads to its place, or is not followed for what it is itself. -/
theorem locate_entry {root name : String} (entry : IsEntry name) (named : root ≠ "") (opened : Open t root) :
    t.locate (join root name) = .ok (placeOf root ++ [name]) ∨
      ∃ e, e ≠ .notFound ∧ t.locate (join root name) = .error e := by
  unfold locate
  cases refused : refusal? (join root name) with
  | some e => exact Or.inr ⟨e, fun missing => refusal?_join entry (missing ▸ refused), rfl⟩
  | none =>
    simp only [entry.ending_join named, if_true]
    rw [entry.names_join named, reach_entry opened.reached]
    exact (next_entry entry _).imp_right fun long => ⟨.nameTooLong, by decide, long⟩

theorem readText_of_error {path : String} {e : AccessError} (failed : t.locate path = .error e) :
    t.readText path = .error e := by
  simp [readText, lookup, failed, bind, Except.bind]

theorem readText_of_none {path : String} {p : Place} (located : t.locate path = .ok p) (none : t.node? p = none) :
    t.readText path = .error .notFound := by
  simp [readText, lookup, located, none, bind, Except.bind]

theorem readText_of_file {path text : String} {p : Place} (located : t.locate path = .ok p)
    (found : t.node? p = some (.file (.text text))) : t.readText path = .ok text := by
  simp [readText, lookup, located, found, Node.file, bind, Except.bind]

theorem readText_of_emptied {path : String} {p : Place} (located : t.locate path = .ok p)
    (found : t.node? p = some (.file (.bytes []))) : t.readText path = .ok "" := by
  simp [readText, lookup, located, found, Node.file, Utf8.decode?, bind, Except.bind]

end Tree

def manifestPlace (root : String) : Place := placeOf root ++ [manifestName]

/-- Where the chunks of a session are for a way of capture. -/
def sessionPlace (root : String) (mode : ScanMode) (id : Nat) : Place := placeOf root ++ [sessionName mode id]

theorem sessionDirs_places {root : String} (named : root ≠ "") (id : Nat) :
    (sessionDirs root id).places = [sessionPlace root .continuous id, sessionPlace root .stopScan id] := by
  have place : ∀ mode, placeOf (Path.join root (sessionName mode id)) = sessionPlace root mode id :=
    fun mode => placeOf_join (isEntry_session mode id) named
  rw [← place .continuous, ← place .stopScan]
  rfl

theorem sessionPlace_injective {root : String} {mode other : ScanMode} {i j : Nat}
    (same : sessionPlace root mode i = sessionPlace root other j) : mode = other ∧ i = j :=
  sessionName_injective (List.cons.inj (List.append_cancel_left same)).1

/-- Sessions of different numbers share no directory, and the two of one session differ. -/
theorem places_nodup {root : String} (named : root ≠ "") {ids : List Nat} (distinct : ids.Nodup) :
    ((ids.map (sessionDirs root)).flatMap SessionDirs.places).Nodup := by
  rw [List.Nodup, List.pairwise_flatMap, List.pairwise_map]
  constructor
  · intro d member
    obtain ⟨id, _, rfl⟩ := List.mem_map.mp member
    rw [sessionDirs_places named, List.pairwise_pair]
    intro same
    cases (sessionPlace_injective same).1
  · refine distinct.imp fun {i j} other p member q member' same => other ?_
    rw [sessionDirs_places named] at member member'
    simp only [List.mem_cons, List.not_mem_nil, or_false] at member member'
    subst same
    rcases member with rfl | rfl <;> rcases member' with same | same <;> exact (sessionPlace_injective same).2

theorem length_manifestText {n : Nat} (below : n < idBound) :
    (Content.text (manifestText n)).encoded.length ≤ blockSize := by
  have digits : (Nat.toDigits 10 n).length ≤ 20 :=
    (Nat.length_toDigits_le_iff (by decide) (by decide)).mpr (Nat.lt_trans below (by decide))
  have letters : (manifestText n).toList.length = (Nat.toDigits 10 n).length + 1 := by
    rw [manifestText, String.toList_append, Nat.toString_eq_repr, Nat.toList_repr, List.length_append]
    rfl
  have bytes := Utf8.length_encode_le (manifestText n).toList
  rw [Content.encoded, blockSize]
  omega

/-- A number has room in one block, so a manifest that does not find room is left with nothing in it. -/
theorem fitting_manifestText {t : Tree} {p : Place} {n : Nat} {cause : AccessError} (below : n < idBound)
    (short : t.shortage? p (.text (manifestText n)) = some cause) :
    t.fitting p (.text (manifestText n)) = .bytes [] := by
  have size := length_manifestText below
  unfold Tree.shortage? at short
  unfold Tree.fitting
  split at short
  · rename_i flaw _
    split at short
    · cases short
    rename_i cut
    have none : flaw.room = 0 := by
      rw [Flaw.room] at cut ⊢
      rcases Nat.eq_zero_or_pos flaw.blocks with zero | some
      · rw [zero, Nat.zero_mul]
      · exact absurd (Nat.le_trans size (Nat.le_mul_of_pos_left blockSize some)) cut
    rw [if_neg cut, none, List.take_zero]
  · cases short

/-- The manifest tells that so many sessions have been allocated, or it has lost what it told to a failed write. -/
inductive Counts (t : Tree) (root : String) (n : Nat) : Prop
  | fresh (first : n = 0) (absent : t.node? (manifestPlace root) = none)
  | held (below : n < idBound) (there : t.node? (manifestPlace root) = some (.file (.text (manifestText n))))
  | emptied (there : t.node? (manifestPlace root) = some (.file (.bytes [])))

namespace Counts

variable {t : Tree} {root : String} {n : Nat} (counts : Counts t root n)

include counts

theorem of_same {t' : Tree} (same : t'.node? (manifestPlace root) = t.node? (manifestPlace root)) :
    Counts t' root n := by
  cases counts with
  | fresh first absent => exact .fresh first (same.trans absent)
  | held below there => exact .held below (same.trans there)
  | emptied there => exact .emptied (same.trans there)

/-- The number of the next session, if it can be told, is that of the sessions so far. -/
theorem nextId_eq {m : Medium} {id : Nat} (own : m.root = root) (named : root ≠ "") (opened : Open t root)
    (run : m.nextId t = .ok id) : id = n := by
  subst own
  unfold Medium.nextId Medium.manifestPath at run
  rcases Tree.locate_entry isEntry_manifest named opened with located | ⟨e, other, failed⟩
  · cases counts with
    | fresh first absent =>
      rw [Tree.readText_of_none located absent] at run
      cases run
      exact first.symm
    | held below there =>
      rw [Tree.readText_of_file located there] at run
      simp only [manifestText, Text.natural?_line below] at run
      cases run
      rfl
    | emptied there =>
      rw [Tree.readText_of_emptied located there] at run
      cases run
  · rw [Tree.readText_of_error failed] at run
    split at run
    · rename_i missing
      exact absurd (Except.error.inj missing) other
    · cases run
    · rename_i read
      cases read

end Counts

/-- The directories of one tree are in the other as they are. -/
def Tree.KeepsDirectories (t t' : Tree) : Prop :=
  ∀ p n, n.isDirectory = true → t.node? p = some n → t'.node? p = some n

namespace Tree.KeepsDirectories

variable {t t' : Tree} (kept : t.KeepsDirectories t')

include kept

theorem descend {here p : Place} {names : List String} (run : t.descend here names = .ok p) :
    t'.descend here names = .ok p := by
  induction names generalizing here with
  | nil => exact run
  | cons name rest ih =>
    obtain ⟨there, n, next, found, directory, run⟩ := descend_cons_eq_ok run
    rw [descend_cons next (kept _ _ directory found) directory]
    exact ih run

theorem opened {root : String} (opened : Open t root) : Open t' root := by
  refine ⟨kept.descend opened.reached, ?_⟩
  have before := opened.isOpen
  unfold Tree.isOpen at before ⊢
  cases found : t.node? (placeOf root) with
  | none => simp [found] at before
  | some n =>
    rw [found] at before
    rw [kept _ n (Bool.and_eq_true_iff.mp before).1 found]
    exact before

end Tree.KeepsDirectories

/-- All that is in one tree is in the other. -/
def Tree.Extends (t t' : Tree) : Prop := ∀ p n, t.node? p = some n → t'.node? p = some n

namespace Tree.Extends

variable {t t' : Tree} (grown : t.Extends t')

theorem refl (t : Tree) : t.Extends t := fun _ _ found => found

include grown

theorem keepsDirectories : t.KeepsDirectories t' := fun p n _ found => grown p n found

end Tree.Extends

/-- All that is in one tree is in the other, but perhaps for the manifest. -/
def Tree.ExtendsBeside (t : Tree) (root : String) (t' : Tree) : Prop :=
  ∀ p n, p ≠ manifestPlace root → t.node? p = some n → t'.node? p = some n

theorem Tree.Extends.beside {t t' : Tree} (grown : t.Extends t') (root : String) : t.ExtendsBeside root t' :=
  fun p n _ found => grown p n found

theorem Tree.Extends.beside_set {t t' : Tree} {root : String} (grown : t.Extends t') (n : Node) :
    t.ExtendsBeside root (t'.set (manifestPlace root) n) := by
  intro p m away found
  rw [node?_set_of_ne away]
  exact grown p m found

end Storage

end CaptureRig

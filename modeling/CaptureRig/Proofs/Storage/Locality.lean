import CaptureRig.Proofs.Storage.Manifest

namespace CaptureRig

namespace Path

/-- In a directory, names of entries that differ make paths that differ. -/
theorem IsEntry.join_injective {directory name other : String} (entry : IsEntry name) (entry' : IsEntry other)
    (same : join directory name = join directory other) : name = other := by
  unfold join at same
  rw [entry.startsWith_slash, entry'.startsWith_slash, Bool.false_or] at same
  split at same
  · exact same
  split at same
  all_goals exact String.append_right_inj _ |>.mp same

end Path

namespace Storage

open CaptureRig.Path

namespace Tree

variable {t t' : Tree}

/-- What is there and has no flaw can be synced. -/
theorem sync_eq_ok {path : String} {n : Node} (found : t.lookup path = .ok n) (sound : t.flaw? (placeOf path) = none) :
    t.sync path = .ok () := by
  obtain ⟨p, located, there⟩ := bind_eq_ok.mp found
  cases locate_eq located
  refine bind_eq_ok.mpr ⟨_, located, ?_⟩
  split at there
  · rename_i n present
    rw [present, sound]
  · cases there

namespace KeepsDirectories

theorem refl (t : Tree) : t.KeepsDirectories t := fun _ _ _ found => found

/-- A file is put where there is no directory. -/
theorem set {p : Place} (free : ∀ n, t.node? p = some n → n.isDirectory = false) (n : Node) :
    t.KeepsDirectories (t.set p n) := by
  intro q m directory found
  have other : q ≠ p := by
    rintro rfl
    cases directory.symm.trans (free m found)
  rw [node?_set_of_ne other, found]

variable (kept : t.KeepsDirectories t')

include kept

theorem trans {t'' : Tree} (more : t'.KeepsDirectories t'') : t.KeepsDirectories t'' :=
  fun p n directory found => more p n directory (kept p n directory found)

theorem locate {path : String} {p : Place} (run : t.locate path = .ok p) : t'.locate path = .ok p := by
  unfold Tree.locate at run ⊢
  split at run
  · cases run
  split at run
  · rename_i named
    rw [if_pos named]
    unfold reach at run ⊢
    split at run
    · exact run
    · obtain ⟨above, descended, next⟩ := bind_eq_ok.mp run
      exact bind_eq_ok.mpr ⟨above, kept.descend descended, next⟩
  · rename_i other
    rw [if_neg other]
    exact kept.descend run

theorem lookup {path : String} {n : Node} (directory : n.isDirectory = true) (run : t.lookup path = .ok n) :
    t'.lookup path = .ok n := by
  obtain ⟨p, located, found⟩ := bind_eq_ok.mp run
  refine bind_eq_ok.mpr ⟨p, kept.locate located, ?_⟩
  cases there : t.node? p with
  | none =>
    rw [there] at found
    cases found
  | some m =>
    rw [there] at found
    cases found
    rw [kept p n directory there]

end KeepsDirectories

section Flaw

variable {p : Place} (flaw : t.flaw? p = t'.flaw? p)

include flaw

theorem shortage?_alike (content : Content) : t.shortage? p content = t'.shortage? p content := by
  rw [shortage?, flaw, shortage?]

theorem fitting_alike {content : Content} : t.fitting p content = t'.fitting p content := by
  rw [fitting, flaw, fitting]

end Flaw

section Entry

variable {dir file : String} (named : dir ≠ "") (entry : IsEntry file)

include named entry

/-- The path to an entry of an open directory is followed or not, whatever else is in the tree. -/
theorem locate_join (opened : Open t dir) (opened' : Open t' dir) :
    t.locate (join dir file) = t'.locate (join dir file) := by
  unfold locate
  rw [entry.ending_join named, entry.names_join named, if_pos rfl, if_pos rfl, reach_entry opened.reached,
    reach_entry opened'.reached]

theorem placeOf_join_ne_nil : placeOf (join dir file) ≠ [] := by
  rw [placeOf_join entry named]
  exact List.append_ne_nil_of_right_ne_nil _ (by simp)

theorem locateFile_join : t.locateFile (join dir file) = t.locate (join dir file) := by
  unfold locateFile
  rw [entry.ending_join named, if_neg (by simp)]

/-- Whether a file can be opened depends on nothing but what is there under its name. -/
theorem openFile_alike (opened : Open t dir) (opened' : Open t' dir)
    (same : t.node? (placeOf (join dir file)) = t'.node? (placeOf (join dir file))) :
    t.openFile (join dir file) = t'.openFile (join dir file) := by
  unfold openFile
  rw [locateFile_join named entry, locateFile_join named entry, ← locate_join named entry opened opened']
  cases located : t.locate (join dir file) with
  | error e => rfl
  | ok p =>
    have above : p.dropLast = placeOf dir := by
      rw [locate_eq located, placeOf_join entry named, List.dropLast_concat]
    cases locate_eq located
    simp only [bind, Except.bind, above, opened.isOpen, opened'.isOpen, same]

/-- Text is added to what is there under the name. -/
theorem append_alike (opened : Open t dir) (opened' : Open t' dir)
    (same : t.node? (placeOf (join dir file)) = t'.node? (placeOf (join dir file)))
    (flaw : t.flaw? (placeOf (join dir file)) = t'.flaw? (placeOf (join dir file))) (text : String) :
    (t.append (join dir file) text).node? (placeOf (join dir file)) =
      (t'.append (join dir file) text).node? (placeOf (join dir file)) := by
  unfold append
  rw [← locate_join named entry opened opened']
  cases located : t.locate (join dir file) with
  | error e => exact same
  | ok p =>
    have below : placeOf (join dir file) ≠ [] := placeOf_join_ne_nil named entry
    cases locate_eq located
    dsimp only
    rw [← same]
    split
    · rw [node?_set_self below, node?_set_self below, fitting_alike flaw]
    · exact same

end Entry

end Tree

end Storage

namespace Chunk.WriteStep

open Storage

/-- A step writes a file that lies right in a directory. -/
def LiesIn (dir : String) (step : WriteStep) : Prop := ∃ file, Path.IsEntry file ∧ step.path = Path.join dir file

variable {dir : String} {step : WriteStep} {t t' u : Tree}

/-- What comes of a step depends on nothing but what is there under the name of its file, and what is wrong there. -/
theorem run_alike (named : dir ≠ "") (lies : step.LiesIn dir) (opened : Open t dir) (opened' : Open t' dir)
    (same : t.node? (placeOf step.path) = t'.node? (placeOf step.path))
    (flaw : t.flaw? (placeOf step.path) = t'.flaw? (placeOf step.path)) :
    (step.run t).1 = (step.run t').1 ∧
      (step.run t).2.node? (placeOf step.path) = (step.run t').2.node? (placeOf step.path) := by
  obtain ⟨file, entry, path⟩ := lies
  have below := Tree.placeOf_join_ne_nil named entry
  cases step with
  | create path' content failure =>
    obtain rfl : path' = Path.join dir file := path
    dsimp only [WriteStep.path] at same flaw ⊢
    have alike := Tree.openFile_alike named entry opened opened' same
    cases opening : t.openFile (Path.join dir file) with
    | error e =>
      rw [run_create_closed opening, run_create_closed (alike ▸ opening)]
      exact ⟨rfl, same⟩
    | ok p =>
      obtain ⟨rfl, _, _⟩ := Tree.openFile_eq opening
      rw [run_create_open opening, run_create_open (alike ▸ opening), Tree.shortage?_alike flaw,
        Tree.fitting_alike flaw, Tree.node?_set_self below, Tree.node?_set_self below]
      exact ⟨rfl, rfl⟩
  | append path' text =>
    obtain rfl : path' = Path.join dir file := path
    exact ⟨rfl, Tree.append_alike named entry opened opened' same flaw text⟩
  | finish path' whole =>
    obtain rfl : path' = Path.join dir file := path
    dsimp only [WriteStep.path] at same flaw ⊢
    have alike := Tree.locate_join named entry opened opened'
    cases located : t.locate (Path.join dir file) with
    | error e =>
      rw [run_finish_lost located, run_finish_lost (alike ▸ located)]
      exact ⟨rfl, same⟩
    | ok p =>
      cases Tree.locate_eq located
      rw [run_finish_located located, run_finish_located (alike ▸ located), Tree.shortage?_alike flaw]
      exact ⟨rfl, same⟩

/-- No step writes over a directory. -/
theorem run_keeps (step : WriteStep) (t : Tree) : t.KeepsDirectories (step.run t).2 := by
  rcases run_cases step t with same | ⟨content, readOnly, free, put⟩
  · rw [same]
    exact .refl t
  · rw [put]
    exact .set free _

end Chunk.WriteStep

end CaptureRig

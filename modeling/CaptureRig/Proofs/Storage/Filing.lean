import CaptureRig.Proofs.Chunk.FileName
import CaptureRig.Proofs.Storage.Manifest

namespace CaptureRig

open Storage

/-- A dump that was to be written into a directory as the chunk of a number. -/
structure Filing where
  dir : String
  index : Nat
  dump : Chunk.Dump

/-- The places of the files that a dump is written to. -/
def Filing.places (f : Filing) : List Place :=
  match f.dump.payload with
  | none => []
  | some p => (p.files f.dir f.index).map placeOf

/-- Whether the dump holds what the clients of the rig record. -/
def Filing.isRecorded (f : Filing) : Prop := ∀ p, f.dump.payload = some p → p.isRecorded = true

namespace Filing

/-- A dump is written to its places and nowhere else. -/
theorem write_frame (w : Csv.Writer) (f : Filing) (t : Tree) {p : Place} (away : p ∉ f.places) :
    (f.dump.write w f.dir f.index t).2.node? p = t.node? p := by
  unfold Chunk.Dump.write
  unfold places at away
  cases payload : f.dump.payload with
  | none => rfl
  | some payload' =>
    simp only [payload, List.mem_map, not_exists, not_and] at away
    have frame : (Chunk.WriteStep.runAll (payload'.steps w f.dir f.index) t).2.node? p = t.node? p :=
      Chunk.WriteStep.runAll_frame fun step member same => away _ (Chunk.path_mem_files member) same.symm
    unfold Chunk.Payload.write
    dsimp only
    split
    all_goals
      rename_i run
      rw [run] at frame
      exact frame

/-- A dump that is written into a directory of a session and holds what the clients of the rig record. -/
structure Of (root : String) (id : Nat) (f : Filing) : Prop where
  within : ∃ mode, f.dir = (sessionDirs root id).dir mode
  recorded : f.isRecorded

/-- Every place of a dump is right below a directory of its session, under a name for its number. -/
theorem Of.place {root : String} {id : Nat} {f : Filing} (own : f.Of root id) (named : root ≠ "") {p : Place}
    (member : p ∈ f.places) :
    ∃ mode file, p = sessionPlace root mode id ++ [file] ∧ Chunk.NamedFor f.index file := by
  obtain ⟨mode, dir⟩ := own.within
  unfold places at member
  split at member
  · cases member
  rename_i payload held
  obtain ⟨path, written, rfl⟩ := List.mem_map.mp member
  obtain ⟨_, _, file, join, bears⟩ := Chunk.bears_of_mem_files (own.recorded payload held) written
  have number := bears.namedFor
  have filled : f.dir ≠ "" := by
    rw [dir, sessionDirs_dir]
    exact (isEntry_session mode id).join_ne_empty root
  refine ⟨mode, file, ?_, number⟩
  rw [join, placeOf_join number.isEntry filled, dir, sessionDirs_dir, placeOf_join (isEntry_session mode id) named]
  rfl

theorem Of.ne_manifest {root : String} {id : Nat} {f : Filing} (own : f.Of root id) (named : root ≠ "") {p : Place}
    (member : p ∈ f.places) : p ≠ manifestPlace root := by
  obtain ⟨mode, file, rfl, _⟩ := own.place named member
  intro same
  have lengths := congrArg List.length same
  simp [sessionPlace, manifestPlace] at lengths

/-- A place tells the session and the number of what is written there. -/
theorem Of.unique {root : String} {id id' : Nat} {f f' : Filing} (own : f.Of root id) (own' : f'.Of root id')
    (named : root ≠ "") {p : Place} (member : p ∈ f.places) (member' : p ∈ f'.places) :
    id = id' ∧ f.index = f'.index := by
  obtain ⟨mode, file, same, number⟩ := own.place named member
  obtain ⟨mode', file', same', number'⟩ := own'.place named member'
  have alike : sessionPlace root mode id ++ [file] = sessionPlace root mode' id' ++ [file'] := same.symm.trans same'
  obtain ⟨session, last⟩ := List.append_inj' alike rfl
  cases (List.cons.inj last).1
  exact ⟨(sessionPlace_injective session).2, number.unique number'⟩

end Filing

end CaptureRig

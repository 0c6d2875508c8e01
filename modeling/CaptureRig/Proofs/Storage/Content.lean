import CaptureRig.Chunk.Dump
import CaptureRig.Proofs.Storage.Locality

namespace CaptureRig

namespace Storage

open CaptureRig.Path CaptureRig.Chunk

theorem Content.length_encoded_append (s text : String) :
    (Content.text s).encoded.length ≤ (Content.text (s ++ text)).encoded.length := by
  rw [encoded, encoded, String.toList_append, Utf8.encode_append, List.length_append]
  exact Nat.le_add_right ..

/-- The place of an entry, in whatever directory. -/
theorem placeOf_entry {name : String} (entry : IsEntry name) (directory : String) :
    placeOf (join directory name) = placeOf directory ++ [name] := by
  by_cases named : directory = ""
  · have alone : names name = [name] := by
      rw [names, Text.splitAt, entry.split_eq, List.map_singleton, String.ofList_toList,
        List.filter_cons_of_pos entry.leading, List.filter_nil]
    have relative : join directory name = name := by simp [join, named]
    rw [relative, placeOf, alone, named, Place.along, List.foldl_cons, List.foldl_nil, if_neg entry.up]
    rfl
  · exact placeOf_join entry named

section Entry

variable {directory name other : String} (entry : IsEntry name)

include entry

theorem placeOf_entry_ne_nil : placeOf (join directory name) ≠ [] := by
  rw [placeOf_entry entry]
  exact List.append_ne_nil_of_right_ne_nil _ (by simp)

theorem placeOf_ne_of_name_ne (entry' : IsEntry other) (differ : name ≠ other) :
    placeOf (join directory name) ≠ placeOf (join directory other) := by
  rw [placeOf_entry entry, placeOf_entry entry']
  intro same
  exact differ (List.cons.inj (List.append_cancel_left same)).1

end Entry

namespace Tree

variable {t t' : Tree} {path : String} {content content' : Content}

theorem locate_of_locateFile {p : Place} (run : t.locateFile path = .ok p) : t.locate path = .ok p := by
  unfold locateFile at run
  split at run
  · obtain ⟨_, _, run⟩ := bind_eq_ok.mp run
    cases run
  · exact run

/-- More has no room where less has none. -/
theorem shortage?_of_le {p : Place} (less : content.encoded.length ≤ content'.encoded.length)
    (roomy : t.shortage? p content' = none) : t.shortage? p content = none := by
  unfold shortage? at roomy ⊢
  split at roomy
  · split at roomy
    · rename_i fits
      exact if_pos (Nat.le_trans less fits)
    · cases roomy
  · rfl

/-- The file of this path is there and holds this. -/
structure Holds (t : Tree) (path : String) (content : Content) : Prop where
  located : t.locate path = .ok (placeOf path)
  there : t.node? (placeOf path) = some (.file content)

namespace Holds

theorem of_write (below : placeOf path ≠ []) (run : t.write path content = (none, t')) : t'.Holds path content := by
  have made := write_eq run
  rcases write_cases t path content with ⟨_, _, failed⟩ | ⟨opened, _⟩
  · cases failed.symm.trans run
  · obtain ⟨_, located, free⟩ := openFile_eq opened
    have kept : t.KeepsDirectories t' := made ▸ .set free _
    exact ⟨kept.locate (locate_of_locateFile located), by rw [made, node?_set_self below]⟩

variable (holds : t.Holds path content)

include holds

theorem lookup : t.lookup path = .ok (.file content) :=
  bind_eq_ok.mpr ⟨_, holds.located, by rw [holds.there]⟩

/-- What is written elsewhere is no matter. -/
theorem run_away {step : WriteStep} (away : placeOf path ≠ placeOf step.path) : (step.run t).2.Holds path content where
  located := (WriteStep.run_keeps step t).locate holds.located
  there := by rw [WriteStep.run_frame step t away, holds.there]

omit holds in
/-- Text is added to a file as long as there is room. -/
theorem append {s text : String} (below : placeOf path ≠ []) (holds : t.Holds path (.text s))
    (roomy : t.shortage? (placeOf path) (.text (s ++ text)) = none) :
    ((WriteStep.append path text).run t).2.Holds path (.text (s ++ text)) where
  located := (WriteStep.run_keeps (.append path text) t).locate holds.located
  there := by
    have there := holds.there
    rw [Node.file] at there
    simp only [WriteStep.run, Tree.append, holds.located, there, Content.extended]
    rw [node?_set_self below, fitting_of_shortage roomy, Node.file]

omit holds in
theorem readText {s : String} (holds : t.Holds path (.text s)) : t.readText path = .ok s :=
  bind_eq_ok.mpr ⟨_, holds.lookup, rfl⟩

end Holds

end Tree

end Storage

namespace Chunk.WriteStep

open Storage

theorem run_create {path : String} {content : Content} {failure : PersistError} {t t' : Tree}
    (run : (create path content failure).run t = (none, t')) : t.write path content = (none, t') := by
  cases opened : t.openFile path with
  | error e =>
    rw [run_create_closed opened] at run
    cases run
  | ok p =>
    rw [run_create_open opened] at run
    obtain ⟨roomy, rfl⟩ := Prod.mk.inj run
    simp only [Tree.write, opened, Tree.fill, Option.map_eq_none_iff.mp roomy]

theorem runAll_cons_eq_none {step : WriteStep} {steps : List WriteStep} {t t' : Tree}
    (done : runAll (step :: steps) t = (none, t')) :
    ∃ u, step.run t = (none, u) ∧ runAll steps u = (none, t') := by
  rcases runAll_cons step steps t with ⟨_, _, failed⟩ | ⟨fine, goes⟩
  · cases failed.symm.trans done
  · exact ⟨_, Prod.ext fine rfl, goes.symm.trans done⟩

theorem runAll_append_eq_none {before after : List WriteStep} {t t' : Tree}
    (done : runAll (before ++ after) t = (none, t')) :
    ∃ u, runAll before t = (none, u) ∧ runAll after u = (none, t') := by
  induction before generalizing t with
  | nil => exact ⟨t, rfl, done⟩
  | cons step rest ih =>
    obtain ⟨v, run, done⟩ := runAll_cons_eq_none done
    obtain ⟨u, whole, done⟩ := ih done
    exact ⟨u, by simp only [runAll, run, whole], done⟩

/-- A plan leaves alone what it does not write. -/
theorem runAll_holds {steps : List WriteStep} {t : Tree} {path : String} {content : Content}
    (holds : t.Holds path content) (away : ∀ step ∈ steps, placeOf path ≠ placeOf step.path) :
    (runAll steps t).2.Holds path content := by
  induction steps generalizing t with
  | nil => exact holds
  | cons step rest ih =>
    have here := holds.run_away (away step List.mem_cons_self)
    rcases runAll_cons step rest t with ⟨_, _, failed⟩ | ⟨_, goes⟩
    · rw [failed]
      exact here
    · rw [goes]
      exact ih here fun later member => away later (List.mem_cons_of_mem _ member)

/-- A file that a plan makes and leaves alone from then on holds what it is made with. -/
theorem runAll_makes {before after : List WriteStep} {path : String} {content : Content} {failure : PersistError}
    {t t' : Tree} (done : runAll (before ++ create path content failure :: after) t = (none, t'))
    (below : placeOf path ≠ []) (away : ∀ step ∈ after, placeOf path ≠ placeOf step.path) : t'.Holds path content := by
  obtain ⟨u, _, done⟩ := runAll_append_eq_none done
  obtain ⟨v, made, rest⟩ := runAll_cons_eq_none done
  have kept := runAll_holds (.of_write below (run_create made)) away
  rwa [rest] at kept

theorem runAll_keeps (steps : List WriteStep) (t : Tree) : t.KeepsDirectories (runAll steps t).2 := by
  induction steps generalizing t with
  | nil => exact .refl t
  | cons step rest ih =>
    rcases runAll_cons step rest t with ⟨_, _, failed⟩ | ⟨_, goes⟩
    · rw [failed]
      exact run_keeps step t
    · rw [goes]
      exact (run_keeps step t).trans (ih _)

@[simp] theorem runAll_flaws (steps : List WriteStep) (t : Tree) : (runAll steps t).2.flaws = t.flaws := by
  induction steps generalizing t with
  | nil => rfl
  | cons step rest ih =>
    rcases runAll_cons step rest t with ⟨_, _, failed⟩ | ⟨_, goes⟩
    · rw [failed, run_flaws]
    · rw [goes, ih, run_flaws]

/-- A file that is finished at the end of a plan has room for the whole of it. -/
theorem runAll_finish {steps : List WriteStep} {path : String} {whole : Content} {t t' : Tree}
    (done : runAll (steps ++ [finish path whole]) t = (none, t')) (located : t.locate path = .ok (placeOf path)) :
    runAll steps t = (none, t') ∧ t.shortage? (placeOf path) whole = none := by
  obtain ⟨u, written, done⟩ := runAll_append_eq_none done
  obtain ⟨v, finished, done⟩ := runAll_cons_eq_none done
  cases done
  have kept := runAll_keeps steps t
  have flaws := runAll_flaws steps t
  rw [written] at kept flaws
  rw [run_finish_located (kept.locate located)] at finished
  obtain ⟨roomy, rfl⟩ := Prod.mk.inj finished
  refine ⟨written, ?_⟩
  rw [← Tree.shortage?_alike (Tree.flaw?_eq_of_flaws flaws _)]
  exact Option.map_eq_none_iff.mp roomy

end Chunk.WriteStep

/-- What is written without a failure is written by the whole plan. -/
theorem Chunk.Payload.write_eq_ok {w : Csv.Writer} {p : Payload} {dir : String} {index : Nat} {files : List String}
    {t t' : Storage.Tree} (done : p.write w dir index t = (.ok files, t')) :
    files = p.files dir index ∧ WriteStep.runAll (p.steps w dir index) t = (none, t') := by
  unfold write at done
  split at done
  · rename_i whole
    cases done
    exact ⟨rfl, whole⟩
  · cases done

end CaptureRig

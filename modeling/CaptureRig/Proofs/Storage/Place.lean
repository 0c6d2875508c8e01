import CaptureRig.Chunk.Write
import CaptureRig.Proofs.Outcome

namespace CaptureRig

namespace Text

variable {isSeparator : Char → Bool}

theorem split_ne_nil (cs : List Char) : split isSeparator cs ≠ [] := by
  cases cs with
  | nil => simp [split]
  | cons c cs =>
    unfold split
    split
    · simp
    · split <;> simp

theorem split_cons (c : Char) (cs : List Char) : ∃ piece pieces, split isSeparator cs = piece :: pieces ∧
    split isSeparator (c :: cs) = if isSeparator c then [] :: piece :: pieces else (c :: piece) :: pieces := by
  cases pieces : split isSeparator cs with
  | nil => exact absurd pieces (split_ne_nil cs)
  | cons piece rest => exact ⟨piece, rest, rfl, by rw [split, pieces]⟩

theorem mem_of_mem_split {cs piece : List Char} (inside : piece ∈ split isSeparator cs) {c : Char}
    (member : c ∈ piece) : c ∈ cs := by
  induction cs generalizing piece with
  | nil =>
    cases List.mem_singleton.mp inside
    cases member
  | cons d cs ih =>
    obtain ⟨first, pieces, rest, whole⟩ : ∃ first pieces, split isSeparator cs = first :: pieces ∧ _ := split_cons d cs
    rw [whole] at inside
    rw [rest] at ih
    split at inside
    · rcases List.mem_cons.mp inside with rfl | later
      · cases member
      · exact List.mem_cons_of_mem d (ih later member)
    · rcases List.mem_cons.mp inside with rfl | later
      · rcases List.mem_cons.mp member with rfl | further
        · exact List.mem_cons_self
        · exact List.mem_cons_of_mem d (ih List.mem_cons_self further)
      · exact List.mem_cons_of_mem d (ih (List.mem_cons_of_mem first later) member)

theorem split_append {c : Char} (separator : isSeparator c = true) (before after : List Char) :
    split isSeparator (before ++ c :: after) = split isSeparator before ++ split isSeparator after := by
  induction before with
  | nil =>
    obtain ⟨piece, pieces, rest, whole⟩ := split_cons c after
    rw [List.nil_append, whole, separator, rest]
    rfl
  | cons b before ih =>
    obtain ⟨piece, pieces, rest, whole⟩ := split_cons b before
    obtain ⟨piece', pieces', rest', whole'⟩ := split_cons b (before ++ c :: after)
    rw [ih, rest, List.cons_append, List.cons.injEq] at rest'
    rw [List.cons_append, whole, whole', ← rest'.1, ← rest'.2]
    split <;> rfl

theorem split_of_none {cs : List Char} (none : ∀ c ∈ cs, isSeparator c = false) : split isSeparator cs = [cs] := by
  induction cs with
  | nil => rfl
  | cons c cs ih =>
    rw [split, ih fun c member => none c (List.mem_cons_of_mem _ member)]
    simp [none c (List.mem_cons_self ..)]

end Text

namespace Path

/-- A name that stands for an entry of a directory. -/
structure IsEntry (name : String) : Prop where
  leading : leads name = true
  slash : '/' ∉ name.toList
  up : name ≠ ".."

theorem IsEntry.of_first {name : String} {c : Char} {rest : List Char} (first : name.toList = c :: rest)
    (point : c ≠ '.') (slash : '/' ∉ name.toList) : IsEntry name where
  leading := by
    have filled : name.isEmpty = false := by
      simpa using fun empty => by rw [empty] at first; cases first
    have here : name ≠ "." := by
      rintro rfl
      exact point (List.cons.inj first).1.symm
    simp [leads, filled, here]
  slash := slash
  up := by
    rintro rfl
    exact point (List.cons.inj first).1.symm

theorem endsWith_slash_iff (s : String) : s.endsWith "/" = true ↔ ∃ before, s.toList = before ++ ['/'] := by
  rw [← String.endsWith_toSlice, String.Slice.endsWith_string_iff, String.copy_toSlice]
  exact ⟨fun ⟨before, same⟩ => ⟨before, same.symm⟩, fun ⟨before, same⟩ => ⟨before, same.symm⟩⟩

theorem toList_join (directory name : String) : ∃ above, (join directory name).toList = above ++ name.toList := by
  unfold join
  split
  · exact ⟨[], rfl⟩
  split
  · exact ⟨_, String.toList_append ..⟩
  · exact ⟨_, String.toList_append ..⟩

namespace IsEntry

variable {name : String} (entry : IsEntry name)

include entry

theorem toList_ne_nil : name.toList ≠ [] := by
  intro empty
  have blank : name = "" := String.toList_inj.mp empty
  have leading := entry.leading
  rw [blank] at leading
  cases leading

theorem startsWith_slash : name.startsWith "/" = false := by
  rw [String.startsWith_string_eq_false_iff]
  rintro ⟨rest, same⟩
  exact entry.slash (by rw [← same]; exact List.mem_cons_self ..)

theorem split_eq : Text.split (· == '/') name.toList = [name.toList] := by
  refine Text.split_of_none fun c member => ?_
  rw [beq_eq_false_iff_ne]
  rintro rfl
  exact entry.slash member

theorem splitAt_of_append {path : String} (before : List Char) (same : path.toList = before ++ '/' :: name.toList) :
    Text.splitAt '/' path = (Text.split (· == '/') before).map String.ofList ++ [name] := by
  rw [Text.splitAt, same, Text.split_append rfl, entry.split_eq, List.map_append, List.map_singleton,
    String.ofList_toList]

/-- The pieces of a path to an entry are those of the path to its directory, perhaps without an empty last one. -/
theorem splitAt_join {directory : String} (some : directory ≠ "") :
    ∃ pieces, Text.splitAt '/' (join directory name) = pieces ++ [name] ∧ pieces.filter leads = names directory := by
  have relative : (name.startsWith "/" || directory.isEmpty) = false := by
    rw [entry.startsWith_slash, Bool.false_or]
    simpa using some
  unfold join
  rw [relative, if_neg Bool.false_ne_true]
  by_cases slash : directory.endsWith "/" = true
  · obtain ⟨before, same⟩ := (endsWith_slash_iff directory).mp slash
    rw [if_pos slash]
    refine ⟨_, entry.splitAt_of_append before ?_, ?_⟩
    · rw [String.toList_append, same, List.append_assoc]
      rfl
    · rw [names, Text.splitAt, same, Text.split_append rfl, List.map_append, List.filter_append]
      exact (List.append_nil _).symm
  · rw [if_neg slash]
    refine ⟨_, entry.splitAt_of_append directory.toList ?_, rfl⟩
    rw [String.toList_append, String.toList_append, List.append_assoc]
    rfl

theorem names_join {directory : String} (some : directory ≠ "") :
    names (join directory name) = names directory ++ [name] := by
  obtain ⟨pieces, whole, above⟩ := entry.splitAt_join some
  rw [names, whole, List.filter_append, above, List.filter_cons_of_pos entry.leading, List.filter_nil]

theorem join_ne_empty (directory : String) : join directory name ≠ "" := by
  intro empty
  obtain ⟨above, whole⟩ := toList_join directory name
  rw [empty] at whole
  exact entry.toList_ne_nil (List.append_eq_nil_iff.mp whole.symm).2

theorem ending_join {directory : String} (some : directory ≠ "") : ending (join directory name) = .name := by
  obtain ⟨pieces, whole, _⟩ := entry.splitAt_join some
  have last : ¬(join directory name).endsWith "/" = true := by
    rw [endsWith_slash_iff]
    rintro ⟨before, slash⟩
    obtain ⟨above, same⟩ := toList_join directory name
    have slash : (above ++ name.toList).getLast? = Option.some '/' := by
      rw [← same, slash, List.getLast?_concat]
    rw [List.getLast?_append] at slash
    cases last : name.toList.getLast? with
    | none => exact entry.toList_ne_nil (List.getLast?_eq_none_iff.mp last)
    | some c =>
      rw [last, Option.some_or] at slash
      cases slash
      exact entry.slash (List.mem_of_getLast? last)
  have found : (Text.splitAt '/' (join directory name)).reverse.find? (!·.isEmpty) = Option.some name := by
    have filled : name.isEmpty = false := by
      simpa using fun empty => entry.toList_ne_nil (by rw [empty]; rfl)
    rw [whole, List.reverse_append]
    simp [filled]
  unfold ending
  rw [found, if_neg last]
  split
  · rename_i here
    have leading := entry.leading
    rw [Option.some.inj here] at leading
    cases leading
  · rfl

end IsEntry

end Path

namespace Storage

/-- The place that names lead to from another, by the names alone. -/
def Place.along (here : Place) (names : List String) : Place :=
  names.foldl (fun here name => if name = ".." then here.dropLast else here ++ [name]) here

/-- The place that a path leads to, if it can be followed. -/
def placeOf (path : String) : Place := Place.along [] (Path.names path)

theorem placeOf_join {name : String} (entry : Path.IsEntry name) {directory : String} (some : directory ≠ "") :
    placeOf (Path.join directory name) = placeOf directory ++ [name] := by
  rw [placeOf, entry.names_join some, Place.along, List.foldl_append, List.foldl_cons, List.foldl_nil, if_neg entry.up]
  rfl

theorem Place.next_eq {here there : Place} {name : String} (next : Place.next here name = .ok there) :
    there = Place.along here [name] := by
  unfold Place.next at next
  split at next
  · rename_i up
    cases next
    rw [along, List.foldl_cons, if_pos up, List.foldl_nil]
  · rename_i entry
    split at next
    · cases next
      rw [along, List.foldl_cons, if_neg entry, List.foldl_nil]
    · cases next

namespace Tree

variable {t t' : Tree}

theorem descend_eq {names : List String} {here p : Place} (run : t.descend here names = .ok p) :
    p = Place.along here names := by
  induction names generalizing here with
  | nil =>
    cases run
    rfl
  | cons name rest ih =>
    unfold descend at run
    split at run
    · cases run
    · rename_i there next
      split at run
      · cases run
      split at run
      · rw [ih run, Place.next_eq next]
        rfl
      · cases run

theorem reach_eq {names : List String} {p : Place} (run : t.reach names = .ok p) : p = Place.along [] names := by
  unfold reach at run
  split at run
  · rename_i none
    cases run
    rw [List.getLast?_eq_none_iff.mp none]
    rfl
  · rename_i last found
    obtain ⟨above, descended, next⟩ := bind_eq_ok.mp run
    obtain ⟨before, rfl⟩ := List.getLast?_eq_some_iff.mp found
    rw [List.dropLast_concat] at descended
    rw [Place.next_eq next, descend_eq descended, Place.along, Place.along, ← List.foldl_append]
    rfl

/-- A path that can be followed leads where its names say. -/
theorem locate_eq {path : String} {p : Place} (run : t.locate path = .ok p) : p = placeOf path := by
  unfold locate at run
  split at run
  · cases run
  split at run
  · exact reach_eq run
  · exact descend_eq run

theorem locateFile_eq {path : String} {p : Place} (run : t.locateFile path = .ok p) : p = placeOf path := by
  unfold locateFile at run
  split at run
  · obtain ⟨_, _, run⟩ := bind_eq_ok.mp run
    cases run
  · exact locate_eq run

theorem node?_set_of_ne {p q : Place} (other : q ≠ p) (n : Node) : (t.set p n).node? q = t.node? q := by
  unfold node? set
  split
  · rfl
  · rw [List.find?_cons_of_neg (by simpa using Ne.symm other), List.find?_filter]
    congr 2
    funext e
    by_cases same : e.1 = q
    · simp [same, other]
    · simp [same]

theorem node?_set_self {p : Place} (below : p ≠ []) (n : Node) : (t.set p n).node? p = some n := by
  unfold node? set
  rw [if_neg below, List.find?_cons_of_pos (by simp)]
  rfl

@[simp] theorem flaws_set (t : Tree) (p : Place) (n : Node) : (t.set p n).flaws = t.flaws := rfl

theorem flaw?_eq_of_flaws (same : t.flaws = t'.flaws) (p : Place) : t.flaw? p = t'.flaw? p := by
  rw [flaw?, same, flaw?]

theorem fitting_of_shortage {p : Place} {content : Content} (roomy : t.shortage? p content = none) :
    t.fitting p content = content := by
  unfold shortage? at roomy
  unfold fitting
  split at roomy
  · split at roomy
    · rename_i fits
      exact if_pos fits
    · cases roomy
  · rfl

theorem flaw?_of_shortage {p : Place} {content : Content} {cause : AccessError}
    (short : t.shortage? p content = some cause) : ∃ flaw, t.flaw? p = some flaw ∧ flaw.cause = cause := by
  unfold shortage? at short
  split at short
  · rename_i flaw flawed
    split at short
    · cases short
    · exact ⟨flaw, flawed, Option.some.inj short⟩
  · cases short

theorem openFile_eq {path : String} {p : Place} (run : t.openFile path = .ok p) :
    p = placeOf path ∧ t.locateFile path = .ok p ∧ ∀ n, t.node? p = some n → n.isDirectory = false := by
  obtain ⟨q, located, run⟩ := bind_eq_ok.mp run
  split at run
  · rename_i absent
    split at run
    · cases run
      exact ⟨locateFile_eq located, located, fun n found => by cases absent.symm.trans found⟩
    · cases run
  · rename_i n found
    split at run
    · cases run
    rename_i file
    split at run
    · cases run
    · cases run
      refine ⟨locateFile_eq located, located, fun m found' => ?_⟩
      cases found.symm.trans found'
      simpa using file

/-- A write that fails to open the file changes nothing. Any other puts into its place what finds room there. -/
theorem write_cases (t : Tree) (path : String) (content : Content) :
    (∃ e, t.openFile path = .error e ∧ t.write path content = (some e, t)) ∨
      t.openFile path = .ok (placeOf path) ∧
        t.write path content = (t.shortage? (placeOf path) content,
          t.set (placeOf path) (.file (t.fitting (placeOf path) content))) := by
  unfold write
  cases opened : t.openFile path with
  | error e => exact Or.inl ⟨e, rfl, rfl⟩
  | ok p =>
    obtain ⟨rfl, _, _⟩ := openFile_eq opened
    exact Or.inr ⟨rfl, rfl⟩

theorem write_eq {path : String} {content : Content} (run : t.write path content = (none, t')) :
    t' = t.set (placeOf path) (.file content) := by
  rcases write_cases t path content with ⟨e, _, failed⟩ | ⟨_, filled⟩
  · cases failed.symm.trans run
  · obtain ⟨roomy, rfl⟩ := Prod.mk.inj (filled.symm.trans run)
    rw [fitting_of_shortage roomy]

/-- Text is added to a file by putting another one into its place. -/
theorem append_cases (t : Tree) (path text : String) :
    t.append path text = t ∨
      ∃ content readOnly, t.locate path = .ok (placeOf path) ∧
        t.node? (placeOf path) = some ⟨.file content, readOnly⟩ ∧
        t.append path text =
          t.set (placeOf path) ⟨.file (t.fitting (placeOf path) (content.extended text)), readOnly⟩ := by
  unfold append
  cases located : t.locate path with
  | error e => exact Or.inl rfl
  | ok p =>
    cases locate_eq located
    dsimp only
    split
    · rename_i content readOnly there
      exact Or.inr ⟨content, readOnly, rfl, there, rfl⟩
    · exact Or.inl rfl

end Tree

end Storage

namespace Chunk.WriteStep

open Storage

section Run

variable {t : Tree} {path : String} {p : Place} {content : Content} {failure : PersistError}

theorem run_create_closed {e : AccessError} (closed : t.openFile path = .error e) :
    (create path content failure).run t = (some failure, t) := by
  simp only [WriteStep.run, closed]

theorem run_create_open (opened : t.openFile path = .ok p) :
    (create path content failure).run t =
      ((t.shortage? p content).map fun _ => lostBuffer content (t.fitting p content) failure,
        t.set p (.file (t.fitting p content))) := by
  simp only [WriteStep.run, opened, Tree.fill]

theorem run_finish_lost {e : AccessError} (lost : t.locate path = .error e) : (finish path content).run t = (none, t) := by
  simp only [WriteStep.run, lost]

theorem run_finish_located (located : t.locate path = .ok p) :
    (finish path content).run t = ((t.shortage? p content).map fun _ => .file, t) := by
  simp only [WriteStep.run, located]

end Run

/-- A step leaves the tree as it is, or puts a file into its place, where no directory is. -/
theorem run_cases (step : WriteStep) (t : Tree) :
    (step.run t).2 = t ∨
      ∃ content readOnly, (∀ n, t.node? (placeOf step.path) = some n → n.isDirectory = false) ∧
        (step.run t).2 = t.set (placeOf step.path) ⟨.file content, readOnly⟩ := by
  cases step with
  | create path content failure =>
    cases opened : t.openFile path with
    | error e => exact Or.inl (by rw [run_create_closed opened])
    | ok p =>
      obtain ⟨rfl, _, file⟩ := Tree.openFile_eq opened
      exact Or.inr ⟨_, _, file, by rw [run_create_open opened]; rfl⟩
  | append path text =>
    rcases Tree.append_cases t path text with same | ⟨content, readOnly, _, there, put⟩
    · exact Or.inl same
    · refine Or.inr ⟨_, _, fun n found => ?_, put⟩
      cases there.symm.trans found
      rfl
  | finish path whole =>
    left
    cases located : t.locate path with
    | error e => rw [run_finish_lost located]
    | ok p => rw [run_finish_located located]

theorem run_frame (step : WriteStep) (t : Tree) {q : Place} (away : q ≠ placeOf step.path) :
    (step.run t).2.node? q = t.node? q := by
  rcases run_cases step t with same | ⟨_, _, _, put⟩
  · rw [same]
  · rw [put, Tree.node?_set_of_ne away]

@[simp] theorem run_flaws (step : WriteStep) (t : Tree) : (step.run t).2.flaws = t.flaws := by
  rcases run_cases step t with same | ⟨_, _, _, put⟩
  · rw [same]
  · rw [put, Tree.flaws_set]

theorem runAll_cons (step : WriteStep) (steps : List WriteStep) (t : Tree) :
    (∃ e, (step.run t).1 = some e ∧ runAll (step :: steps) t = (some e, (step.run t).2)) ∨
      (step.run t).1 = none ∧ runAll (step :: steps) t = runAll steps (step.run t).2 := by
  rw [runAll]
  rcases step.run t with ⟨e | _, u⟩
  · exact Or.inr ⟨rfl, rfl⟩
  · exact Or.inl ⟨_, rfl, rfl⟩

/-- A plan changes nothing but what its steps write. -/
theorem runAll_frame {steps : List WriteStep} {t : Tree} {q : Place} (away : ∀ step ∈ steps, q ≠ placeOf step.path) :
    (runAll steps t).2.node? q = t.node? q := by
  induction steps generalizing t with
  | nil => rfl
  | cons step rest ih =>
    have here := run_frame step t (away step List.mem_cons_self)
    rcases runAll_cons step rest t with ⟨_, _, failed⟩ | ⟨_, goes⟩
    · rw [failed]
      exact here
    · rw [goes, ih fun later member => away later (List.mem_cons_of_mem _ member), here]

end Chunk.WriteStep

end CaptureRig

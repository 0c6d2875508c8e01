import CaptureRig.Chunk.Dump
import CaptureRig.Proofs.Storage.Place
import CaptureRig.Proofs.Text.Digits

namespace CaptureRig.Chunk

/-- A file name in which letters come first and then the number of a chunk. -/
inductive NamedFor (index : Nat) (file : String) : Prop
  | intro (first : Char) (stem : List Char) (after : Char) (rest : List Char)
      (whole : file.toList = (first :: stem) ++ ((number index).toList ++ after :: rest)) (point : first ≠ '.')
      (letters : ∀ c ∈ first :: stem, c.isDigit = false) (ends : after.isDigit = false) (slash : '/' ∉ file.toList)

namespace NamedFor

/-- The first digits in a file name. -/
def digits (file : String) : List Char := (file.toList.dropWhile fun c => !c.isDigit).takeWhile Char.isDigit

variable {index : Nat} {file : String} (named : NamedFor index file)

include named

theorem isEntry : Path.IsEntry file := by
  obtain ⟨first, stem, after, rest, whole, point, _, _, slash⟩ := named
  exact Path.IsEntry.of_first whole point slash

theorem digits_eq : digits file = (number index).toList := by
  obtain ⟨first, stem, after, rest, whole, _, letters, ends, _⟩ := named
  obtain ⟨d, ds, front, figure⟩ := Text.padded_cons 4 index
  have skipped : ((first :: stem) ++ ((number index).toList ++ after :: rest)).dropWhile (fun c => !c.isDigit) =
      (number index).toList ++ after :: rest := by
    rw [List.dropWhile_append_of_pos (by simpa using letters), number, front, List.cons_append,
      List.dropWhile_cons_of_neg (by simp [figure])]
  rw [digits, whole, skipped]
  exact Text.takeWhile_run (fun _ => Text.isDigit_of_mem_padded) fun _ first => Option.some.inj first ▸ ends

theorem unique {other : Nat} (same : NamedFor other file) : index = other := by
  have numbers : (number index).toList = (number other).toList := named.digits_eq.symm.trans same.digits_eq
  exact Text.padded_injective (String.toList_inj.mp numbers)

end NamedFor

/-- A kind of data, as the names of its files begin. -/
structure IsKind (kind : String) : Prop where
  first : ∃ c rest, kind.toList = c :: rest ∧ c ≠ '.'
  letters : ∀ c ∈ kind.toList, c.isDigit = false ∧ c ≠ '/'

/-- A file name that begins with a kind of data and the number of a chunk. -/
structure Bears (kind : String) (index : Nat) (file : String) : Prop where
  proper : IsKind kind
  whole : ∃ after rest, file.toList = kind.toList ++ ((number index).toList ++ after :: rest) ∧
    after.isDigit = false ∧ '/' ∉ after :: rest

namespace Bears

/-- What comes before the first digit in a file name. -/
def stem (file : String) : List Char := file.toList.takeWhile fun c => !c.isDigit

variable {kind file : String} {index : Nat} (bears : Bears kind index file)

include bears

theorem namedFor : NamedFor index file := by
  obtain ⟨first, stem, front, point⟩ := bears.proper.first
  obtain ⟨after, rest, whole, ends, slash⟩ := bears.whole
  refine .intro first stem after rest (by rw [whole, front]) point ?_ ends ?_
  · intro c member
    exact (bears.proper.letters c (by rw [front]; exact member)).1
  · rw [whole]
    intro member
    rcases List.mem_append.mp member with kind | more
    · exact (bears.proper.letters '/' kind).2 rfl
    rcases List.mem_append.mp more with figure | tail
    · cases Text.isDigit_of_mem_padded figure
    · exact slash tail

theorem stem_eq : stem file = kind.toList := by
  obtain ⟨after, rest, whole, _, _⟩ := bears.whole
  obtain ⟨d, ds, front, figure⟩ := Text.padded_cons 4 index
  have letters : ∀ c ∈ kind.toList, (!c.isDigit) = true := fun c member => by simp [(bears.proper.letters c member).1]
  rw [stem, whole, number, front]
  exact Text.takeWhile_run letters fun _ first => Option.some.inj first ▸ by simp [figure]

/-- Names of different kinds of data differ, whatever the numbers of their chunks. -/
theorem unique {other : String} {index' : Nat} (same : Bears other index' file) : kind = other :=
  String.toList_inj.mp (bears.stem_eq.symm.trans same.stem_eq)

end Bears

theorem toList_fileName (kind : String) (index : Nat) (extension : String) :
    (fileName kind index extension).toList = kind.toList ++ ((number index).toList ++ '.' :: extension.toList) := by
  simp [fileName, String.toList_append]

theorem bears_fileName {kind extension : String} (proper : IsKind kind) (slash : '/' ∉ extension.toList) (index : Nat) :
    Bears kind index (fileName kind index extension) :=
  ⟨proper, '.', extension.toList, toList_fileName kind index extension, rfl, by simpa using slash⟩

theorem isKind_lidar : IsKind "lidar" := ⟨⟨_, _, rfl, by decide⟩, by simp⟩

theorem isKind_imu : IsKind "imu" := ⟨⟨_, _, rfl, by decide⟩, by simp⟩

theorem isKind_gnss : IsKind "gnss" := ⟨⟨_, _, rfl, by decide⟩, by simp⟩

theorem isKind_camera : IsKind "camera" := ⟨⟨_, _, rfl, by decide⟩, by simp⟩

theorem slash_not_mem_number (n : Nat) : '/' ∉ (toString n).toList := by
  intro member
  cases Text.isDigit_of_mem_toString member

theorem bears_picture (f : Camera.Frame) (index : Nat) : Bears "camera" index (f.fileName index) := by
  refine ⟨isKind_camera, '_', (toString f.camera.toNat).toList ++ '_' :: ((toString f.timestamp.toNat).toList ++
    ".jpg".toList), ?_, rfl, ?_⟩
  · simp [Camera.Frame.fileName, Camera.pictureName, String.toList_append]
  · simp [-Nat.toString_eq_repr, slash_not_mem_number]

theorem toList_picture (camera : UInt32) (timestamp : UInt64) (index : Nat) :
    (Camera.pictureName camera timestamp index).toList = "camera".toList ++ ((number index).toList ++
      '_' :: ((toString camera.toNat).toList ++ '_' :: ((toString timestamp.toNat).toList ++ '.' :: "jpg".toList))) := by
  simp [Camera.pictureName, String.toList_append]

/-- The three numbers in the name of a picture can be told from it. -/
theorem pictureName_injective {camera camera' : UInt32} {timestamp timestamp' : UInt64} {index index' : Nat}
    (same : Camera.pictureName camera timestamp index = Camera.pictureName camera' timestamp' index') :
    index = index' ∧ camera = camera' ∧ timestamp = timestamp' := by
  have whole := congrArg String.toList same
  rw [toList_picture, toList_picture] at whole
  obtain ⟨indices, rest⟩ := Text.digits_cut (fun _ => Text.isDigit_of_mem_padded) (fun _ => Text.isDigit_of_mem_padded)
    rfl rfl (List.append_cancel_left whole)
  obtain ⟨cameras, rest⟩ := Text.digits_cut (fun _ => Text.isDigit_of_mem_toString) (fun _ => Text.isDigit_of_mem_toString)
    rfl rfl (List.cons.inj rest).2
  obtain ⟨times, _⟩ := Text.digits_cut (fun _ => Text.isDigit_of_mem_toString) (fun _ => Text.isDigit_of_mem_toString)
    rfl rfl (List.cons.inj rest).2
  refine ⟨Text.padded_injective (String.toList_inj.mp indices), ?_, ?_⟩
  · exact UInt32.toNat_inj.mp (Text.toString_injective (String.toList_inj.mp cameras))
  · exact UInt64.toNat_inj.mp (Text.toString_injective (String.toList_inj.mp times))

/-- An extension is what follows the last point of a name. -/
theorem extension_cut {stem stem' extension extension' : List Char} (plain : '.' ∉ extension)
    (plain' : '.' ∉ extension') (same : stem ++ '.' :: extension = stem' ++ '.' :: extension') :
    stem = stem' ∧ extension = extension' := by
  have inside {cs : List Char} (plain : '.' ∉ cs) : ∀ c ∈ cs, (c != '.') = true := fun c member =>
    bne_iff_ne.mpr fun point => plain (point ▸ member)
  have ends (cs : List Char) : ∀ c ∈ (cs ++ ['.']).getLast?, (c != '.') = false := by simp
  rw [List.append_cons, List.append_cons stem'] at same
  obtain ⟨stems, extensions⟩ := Text.tail_cut (inside plain) (inside plain') (ends stem) (ends stem') same
  exact ⟨List.append_cancel_right stems, extensions⟩

/-- A picture has an extension of its own, so that no other file has its name. -/
theorem pictureName_ne_fileName {extension : String} (plain : '.' ∉ extension.toList) (other : extension ≠ "jpg")
    (camera : UInt32) (timestamp : UInt64) (kind : String) (index index' : Nat) :
    Camera.pictureName camera timestamp index ≠ fileName kind index' extension := by
  intro same
  have picture : (Camera.pictureName camera timestamp index).toList =
      ("camera" ++ number index ++ "_" ++ toString camera.toNat ++ "_" ++ toString timestamp.toNat).toList ++
        '.' :: "jpg".toList := String.toList_append
  have file : (fileName kind index' extension).toList =
      (kind.toList ++ (number index').toList) ++ '.' :: extension.toList := by rw [toList_fileName, List.append_assoc]
  rw [same, file] at picture
  obtain ⟨_, extensions⟩ := extension_cut plain (by decide) picture
  exact other (String.toList_inj.mp extensions)

/-- A kind of data and an extension from which a number between them can be told: the kind does not end in a digit, and the
extension has no point. -/
structure Encloses (kind extension : String) : Prop where
  ends : ∀ c ∈ kind.toList.getLast?, c.isDigit = false
  plain : '.' ∉ extension.toList

/-- Kind, number and extension can be told from the name of a file, however many digits the number has. -/
theorem Encloses.fileName_inj {kind kind' extension extension' : String} (encloses : Encloses kind extension)
    (encloses' : Encloses kind' extension') {index index' : Nat}
    (same : fileName kind index extension = fileName kind' index' extension') :
    kind = kind' ∧ index = index' ∧ extension = extension' := by
  have whole := congrArg String.toList same
  rw [toList_fileName, toList_fileName, ← List.append_assoc, ← List.append_assoc] at whole
  obtain ⟨stems, extensions⟩ := extension_cut encloses.plain encloses'.plain whole
  obtain ⟨kinds, numbers⟩ := Text.tail_cut (fun _ => Text.isDigit_of_mem_padded) (fun _ => Text.isDigit_of_mem_padded)
    encloses.ends encloses'.ends stems
  exact ⟨String.toList_inj.mp kinds, Text.padded_injective (String.toList_inj.mp numbers),
    String.toList_inj.mp extensions⟩

/-- The name of a file tells what is in it. If the kind does not end in a digit and the extension has no point, then files
of one name have one kind, one number, of however many digits, and one extension. Pictures of one name are of one chunk,
camera and time. No file with another extension has the name of a picture, whatever its kind and its number. -/
theorem names_told_apart :
    (∀ kind kind' extension extension' index index', Encloses kind extension → Encloses kind' extension' →
      fileName kind index extension = fileName kind' index' extension' →
        kind = kind' ∧ index = index' ∧ extension = extension') ∧
    (∀ (f f' : Camera.Frame) index index', f.fileName index = f'.fileName index' →
      index = index' ∧ f.camera = f'.camera ∧ f.timestamp = f'.timestamp) ∧
    ∀ extension : String, '.' ∉ extension.toList → extension ≠ "jpg" →
      ∀ (f : Camera.Frame) index kind index', f.fileName index ≠ fileName kind index' extension := by
  refine ⟨?_, ?_, ?_⟩
  · intro kind kind' extension extension' index index' encloses encloses' same
    exact encloses.fileName_inj encloses' same
  · intro f f' index index' same
    exact pictureName_injective same
  · intro extension plain other f index kind index'
    exact pictureName_ne_fileName plain other f.camera f.timestamp kind index index'

/-- Numbers of five digits, a kind with digits and a point in it, and the files that stand beside pictures. -/
theorem names_told_apart_long :
    (∀ index, fileName "rig7.imu" index "csv" = "rig7.imu12345.csv" ↔ index = 12345) ∧
    (∀ (f : Camera.Frame) index, f.fileName index = "camera10000_2_42.jpg" →
      index = 10000 ∧ f.camera = 2 ∧ f.timestamp = 42) ∧
    ∀ kind ∈ ["lidar", "imu", "gnss", "camera"], ∀ extension ∈ ["csv", "sn", "gnss"],
      ∀ (f : Camera.Frame) index index', f.fileName index ≠ fileName kind index' extension := by
  obtain ⟨files, pictures, apart⟩ := names_told_apart
  have encloses : Encloses "rig7.imu" "csv" := ⟨by simp, by decide⟩
  have motion : fileName "rig7.imu" 12345 "csv" = "rig7.imu12345.csv" := by decide
  have picture : Camera.Frame.fileName ⟨2, 42, []⟩ 10000 = "camera10000_2_42.jpg" := by decide
  refine ⟨fun index => ⟨fun same => ?_, fun same => same ▸ motion⟩, fun f index same => ?_, ?_⟩
  · exact (files _ _ _ _ _ _ encloses encloses (same.trans motion.symm)).2.1
  · exact pictures f ⟨2, 42, []⟩ index 10000 (same.trans picture.symm)
  · intro kind _ extension member f index index'
    refine apart extension ?_ ?_ f index kind index'
    · revert extension
      decide
    · revert extension
      decide

/-- A digit at the end of the kind would be taken for one of the number. -/
example : fileName "lidar1" 23 "csv" = fileName "lidar" 10023 "csv" := by decide

def Payload.isRecorded : Payload → Bool
  | .texts .. => false
  | _ => true

/-- The kinds of data in the files that hold it. -/
def Payload.kinds : Payload → List String
  | .scans .. => ["lidar", "imu"]
  | .sentences _ => ["gnss"]
  | .frames _ => ["camera"]
  | .texts kind _ => [kind]

/-- What a step writes is one of the files of the data. -/
theorem path_mem_files {w : Csv.Writer} {p : Payload} {dir : String} {index : Nat} {step : WriteStep}
    (member : step ∈ p.steps w dir index) : step.path ∈ p.files dir index := by
  have table {α : Type} {row : α → List String} {records : List α} {path : String}
      (member : step ∈ Payload.tableStep w path (records.map row)) :
      step.path ∈ if records.isEmpty then [] else [path] := by
    unfold Payload.tableStep at member
    rw [List.isEmpty_map] at member
    split at member
    · cases member
    · rename_i some
      rw [List.mem_singleton.mp member, if_neg some]
      exact List.mem_singleton_self _
  cases p with
  | scans points motion serials =>
    simp only [Payload.steps, List.mem_append, List.mem_singleton] at member
    simp only [Payload.files, List.mem_append, List.mem_singleton]
    rcases member with (points | motion) | rfl
    · exact Or.inl (Or.inl (table points))
    · exact Or.inl (Or.inr (table motion))
    · exact Or.inr rfl
  | sentences lines =>
    rw [List.mem_singleton.mp member]
    exact List.mem_singleton_self _
  | frames taken =>
    have list : Payload.filePath dir "camera" index "csv" ∈ (Payload.frames taken).files dir index :=
      List.mem_append_right _ (List.mem_singleton_self _)
    simp only [Payload.steps, List.mem_cons, List.mem_append, List.mem_flatMap, List.not_mem_nil, or_false] at member
    rcases member with rfl | ⟨f, taken, written⟩ | rfl
    · exact list
    · simp only [Payload.frameSteps, List.mem_cons, List.not_mem_nil, or_false] at written
      rcases written with rfl | rfl
      · exact List.mem_append_left _ (List.mem_map_of_mem taken)
      · exact list
    · exact list
  | texts kind kept =>
    rw [List.mem_singleton.mp member]
    exact List.mem_singleton_self _

/-- Every file of a chunk lies in its directory and bears its kind and its number. -/
theorem bears_of_mem_files {p : Payload} (recorded : p.isRecorded = true) {dir path : String} {index : Nat}
    (member : path ∈ p.files dir index) :
    ∃ kind ∈ p.kinds, ∃ file, path = Path.join dir file ∧ Bears kind index file := by
  have table : ∀ {none : Bool} {kind extension : String},
      path ∈ (if none then [] else [Payload.filePath dir kind index extension]) →
        path = Path.join dir (fileName kind index extension) := by
    intro none kind extension member
    cases none with
    | true => cases member
    | false => exact List.mem_singleton.mp member
  cases p with
  | scans points motion serials =>
    simp only [Payload.files, List.mem_append, List.mem_singleton] at member
    rcases member with (points | motion) | rfl
    · exact ⟨"lidar", by simp [Payload.kinds], _, table points, bears_fileName isKind_lidar (by decide) index⟩
    · exact ⟨"imu", by simp [Payload.kinds], _, table motion, bears_fileName isKind_imu (by decide) index⟩
    · exact ⟨"lidar", by simp [Payload.kinds], _, rfl, bears_fileName isKind_lidar (by decide) index⟩
  | sentences lines =>
    rw [List.mem_singleton.mp member]
    exact ⟨"gnss", by simp [Payload.kinds], _, rfl, bears_fileName isKind_gnss (by decide) index⟩
  | frames taken =>
    refine ⟨"camera", by simp [Payload.kinds], ?_⟩
    rcases List.mem_append.mp member with picture | list
    · obtain ⟨f, _, rfl⟩ := List.mem_map.mp picture
      exact ⟨_, rfl, bears_picture f index⟩
    · rw [List.mem_singleton.mp list]
      exact ⟨_, rfl, bears_fileName isKind_camera (by decide) index⟩
  | texts => cases recorded

end CaptureRig.Chunk

import CaptureRig.Camera.Client
import CaptureRig.Proofs.Chunk.FileName
import CaptureRig.Proofs.Storage.Content

namespace CaptureRig

namespace Csv.Writer

theorem rows_append (w : Writer) (table more : List (List String)) :
    w.rows (table ++ more) = w.rows table ++ w.rows more := by
  rw [rows, List.map_append, String.join_append, rows, rows]

theorem rows_singleton (w : Writer) (fields : List String) : w.rows [fields] = w.row fields := by
  rw [rows, List.map_singleton, String.join_cons]
  exact String.append_empty

end Csv.Writer

namespace Chunk

open Storage

/-- The names of the files of a dump of frames, the list of its pictures among them. -/
def albumNames (index : Nat) (frames : List Camera.Frame) : List String :=
  frames.map (·.fileName index) ++ [fileName "camera" index "csv"]

variable {w : Csv.Writer} {dir : String} {index : Nat}

theorem isEntry_picture (f : Camera.Frame) (index : Nat) : Path.IsEntry (f.fileName index) :=
  (bears_picture f index).namedFor.isEntry

theorem isEntry_list (index : Nat) : Path.IsEntry (fileName "camera" index "csv") :=
  (bears_fileName isKind_camera (by decide) index).namedFor.isEntry

theorem placeOf_picture_ne_list (f : Camera.Frame) :
    placeOf (Payload.picturePath dir index f) ≠ placeOf (Payload.filePath dir "camera" index "csv") :=
  placeOf_ne_of_name_ne (isEntry_picture f index) (isEntry_list index)
    (pictureName_ne_fileName (by decide) (by decide) f.camera f.timestamp "camera" index index)

/-- The writing of other frames does not touch the picture of one that has another name. -/
theorem picture_away {f : Camera.Frame} {rest : List Camera.Frame} (fresh : f.fileName index ∉ albumNames index rest)
    {step : WriteStep}
    (member : step ∈ rest.flatMap (Payload.frameSteps w dir index (Payload.filePath dir "camera" index "csv"))) :
    placeOf (Payload.picturePath dir index f) ≠ placeOf step.path := by
  obtain ⟨g, later, written⟩ := List.mem_flatMap.mp member
  simp only [Payload.frameSteps, List.mem_cons, List.not_mem_nil, or_false] at written
  rcases written with rfl | rfl
  · refine placeOf_ne_of_name_ne (isEntry_picture f index) (isEntry_picture g index) fun same => fresh ?_
    rw [same]
    exact List.mem_append_left _ (List.mem_map_of_mem later)
  · exact placeOf_picture_ne_list f

/-- After the two steps for a frame it has its picture, and a row more is in the list. -/
theorem frame_listed {f : Camera.Frame} {table : List (List String)} {t u v : Tree}
    (holds : t.Holds (Payload.filePath dir "camera" index "csv") (.text (w.rows table)))
    (roomy : t.shortage? (placeOf (Payload.filePath dir "camera" index "csv"))
      (.text (w.rows (table ++ [Payload.frameRow index f]))) = none)
    (pictured : (WriteStep.create (Payload.picturePath dir index f) (.bytes f.jpeg) .file).run t = (none, u))
    (listed : (WriteStep.append (Payload.filePath dir "camera" index "csv")
      (w.row (Payload.frameRow index f))).run u = (none, v)) :
    v.Holds (Payload.filePath dir "camera" index "csv") (.text (w.rows (table ++ [Payload.frameRow index f]))) ∧
      v.Holds (Payload.picturePath dir index f) (.bytes f.jpeg) ∧ v.flaws = t.flaws := by
  have flaws := WriteStep.run_flaws (.create (Payload.picturePath dir index f) (.bytes f.jpeg) .file) t
  have flaws' := WriteStep.run_flaws (.append (Payload.filePath dir "camera" index "csv")
    (w.row (Payload.frameRow index f))) u
  have kept : ((WriteStep.create (Payload.picturePath dir index f) (.bytes f.jpeg) .file).run t).2.Holds _ _ :=
    holds.run_away (placeOf_picture_ne_list f).symm
  have picture : u.Holds (Payload.picturePath dir index f) (.bytes f.jpeg) :=
    .of_write (placeOf_entry_ne_nil (isEntry_picture f index)) (WriteStep.run_create pictured)
  have pictureKept : ((WriteStep.append (Payload.filePath dir "camera" index "csv")
      (w.row (Payload.frameRow index f))).run u).2.Holds _ _ := picture.run_away (placeOf_picture_ne_list f)
  rw [pictured] at flaws kept
  rw [listed] at flaws' pictureKept
  rw [← Tree.shortage?_alike (Tree.flaw?_eq_of_flaws flaws _), Csv.Writer.rows_append, Csv.Writer.rows_singleton] at roomy
  have row : ((WriteStep.append (Payload.filePath dir "camera" index "csv") (w.row (Payload.frameRow index f))).run
      u).2.Holds _ _ := kept.append (placeOf_entry_ne_nil (isEntry_list index)) roomy
  rw [listed] at row
  rw [Csv.Writer.rows_append, Csv.Writer.rows_singleton]
  exact ⟨row, pictureKept, flaws'.trans flaws⟩

/-- Once the frames are written, each has its picture, and the list has a row for each, in order, if there is room for
the whole of it. -/
theorem runAll_frames {frames : List Camera.Frame} {table : List (List String)} {t t' : Tree}
    (distinct : (albumNames index frames).Nodup)
    (holds : t.Holds (Payload.filePath dir "camera" index "csv") (.text (w.rows table)))
    (roomy : t.shortage? (placeOf (Payload.filePath dir "camera" index "csv"))
      (.text (w.rows (table ++ frames.map (Payload.frameRow index)))) = none)
    (done : WriteStep.runAll
      (frames.flatMap (Payload.frameSteps w dir index (Payload.filePath dir "camera" index "csv"))) t = (none, t')) :
    t'.Holds (Payload.filePath dir "camera" index "csv")
        (.text (w.rows (table ++ frames.map (Payload.frameRow index)))) ∧
      ∀ f ∈ frames, t'.Holds (Payload.picturePath dir index f) (.bytes f.jpeg) := by
  induction frames generalizing table t with
  | nil =>
    cases done
    rw [List.map_nil, List.append_nil]
    exact ⟨holds, nofun⟩
  | cons f rest ih =>
    obtain ⟨fresh, distinct⟩ := List.nodup_cons.mp distinct
    rw [List.flatMap_cons] at done
    simp only [Payload.frameSteps, List.cons_append, List.nil_append] at done
    obtain ⟨u, pictured, listing⟩ := WriteStep.runAll_cons_eq_none done
    obtain ⟨v, listed, others⟩ := WriteStep.runAll_cons_eq_none listing
    rw [List.map_cons, List.append_cons] at roomy ⊢
    -- The list has room for this row, as it has for all of them.
    have room : t.shortage? (placeOf (Payload.filePath dir "camera" index "csv"))
        (.text (w.rows (table ++ [Payload.frameRow index f]))) = none := by
      refine Tree.shortage?_of_le ?_ roomy
      rw [Csv.Writer.rows_append w (table ++ _)]
      exact Content.length_encoded_append ..
    obtain ⟨row, picture, flaws⟩ := frame_listed holds room pictured listed
    rw [← Tree.shortage?_alike (Tree.flaw?_eq_of_flaws flaws _)] at roomy
    obtain ⟨rows, pictures⟩ := ih distinct row roomy others
    refine ⟨rows, fun g member => ?_⟩
    rcases List.mem_cons.mp member with rfl | member
    · have kept := WriteStep.runAll_holds picture fun _ => picture_away (w := w) fresh
      rwa [others] at kept
    · exact pictures g member

/-- A dump of frames whose names differ is written as a picture for each and the list of them all. -/
theorem write_frames {frames : List Camera.Frame} {files : List String} {t t' : Tree}
    (distinct : (albumNames index frames).Nodup)
    (done : (Payload.frames frames).write w dir index t = (.ok files, t')) :
    files = (albumNames index frames).map (Path.join dir) ∧
      t'.Holds (Payload.filePath dir "camera" index "csv") (.text (w.rows (frames.map (Payload.frameRow index)))) ∧
      ∀ f ∈ frames, t'.Holds (Payload.picturePath dir index f) (.bytes f.jpeg) := by
  obtain ⟨rfl, whole⟩ := Payload.write_eq_ok done
  obtain ⟨v, listed, rest⟩ := WriteStep.runAll_cons_eq_none whole
  have empty : v.Holds (Payload.filePath dir "camera" index "csv") (.text (w.rows [])) :=
    .of_write (placeOf_entry_ne_nil (isEntry_list index)) (WriteStep.run_create listed)
  obtain ⟨rest, roomy⟩ := WriteStep.runAll_finish rest empty.located
  obtain ⟨rows, pictures⟩ := runAll_frames distinct empty roomy rest
  refine ⟨?_, rows, pictures⟩
  rw [albumNames, List.map_append, List.map_map]
  rfl

end Chunk

namespace Camera

/-- What is done with the client of the cameras. -/
inductive Act where
  /-- An image is to be kept, with the time that the clock shows then. -/
  | record (stamp : UInt64) (camera : UInt32) (image : Image)
  | start
  | stop
  | freeze
  /-- The clock of the rig is handed over. -/
  | provide

/-- The client of the cameras, with every frame that it has kept and every dump that it has handed over. -/
structure Roll where
  client : Client := {}
  kept : List Frame := []
  dumps : List Chunk.Dump := []

namespace Roll

variable (encode : Encoder)

def act (r : Roll) : Act → Roll
  | .record stamp camera image =>
    match r.client.record encode stamp camera image, encode image with
    | (.ok true, client), .ok jpeg => { r with client, kept := r.kept ++ [⟨camera, stamp, jpeg⟩] }
    | (_, client), _ => { r with client }
  | .start => { r with client := r.client.start }
  | .stop => { r with client := r.client.stop }
  | .freeze =>
    let (dump, client) := r.client.freeze
    { r with client, dumps := r.dumps ++ [dump] }
  | .provide => { r with client := r.client.provide }

def run (acts : List Act) : Roll := acts.foldl (act encode) {}

end Roll

namespace Client

/-- What a call to keep an image comes to. -/
inductive Recorded (encode : Encoder) (stamp : UInt64) (camera : UInt32) (image : Image) (c : Client) :
    Except EncodeError Bool → Client → Prop
  | idle (idle : c.logging = false) : Recorded encode stamp camera image c (.ok false) c
  | stale (logging : c.logging = true) (old : stamp ≤ c.lastTime camera) :
      Recorded encode stamp camera image c (.ok false)
        { c with stale := c.stale + 1, lastTimes := c.lastTimes.insert camera (c.lastTime camera) }
  | lost {e : EncodeError} (logging : c.logging = true) (later : c.lastTime camera < stamp)
      (failed : encode image = .error e) :
      Recorded encode stamp camera image c (.error e) { c with lastTimes := c.lastTimes.insert camera stamp }
  | taken {jpeg : List UInt8} (logging : c.logging = true) (later : c.lastTime camera < stamp)
      (encoded : encode image = .ok jpeg) :
      Recorded encode stamp camera image c (.ok true)
        { c with
          lastTimes := c.lastTimes.insert camera stamp
          taken := c.taken + 1
          buffer := c.buffer ++ [⟨camera, stamp, jpeg⟩] }

theorem record_cases (encode : Encoder) (stamp : UInt64) (camera : UInt32) (image : Image) (c : Client) :
    Recorded encode stamp camera image c (c.record encode stamp camera image).1
      (c.record encode stamp camera image).2 := by
  unfold record
  split
  · rename_i idle
    exact .idle (by simpa using idle)
  rename_i logging
  have logging : c.logging = true := by simpa using logging
  split
  · rename_i old
    exact .stale logging old
  rename_i later
  have later := UInt64.not_le.mp later
  dsimp only
  split
  · rename_i e failed
    exact .lost logging later failed
  · rename_i jpeg encoded
    exact .taken logging later encoded

theorem lastTime_insert (c : Client) (camera other : UInt32) (stamp : UInt64) :
    ((c.lastTimes.insert camera stamp).find? other).getD 0 = if other = camera then stamp else c.lastTime other := by
  split
  · rename_i same
    rw [same, Table.find?_insert_self]
    rfl
  · rename_i differ
    rw [Table.find?_insert_of_ne _ differ, lastTime]

/-- The last time of a camera never goes back. -/
theorem Recorded.lastTime_le {encode : Encoder} {stamp : UInt64} {camera : UInt32} {image : Image} {c c' : Client}
    {answer : Except EncodeError Bool} (recorded : Recorded encode stamp camera image c answer c') (other : UInt32) :
    c.lastTime other ≤ c'.lastTime other := by
  cases recorded with
  | idle => exact UInt64.le_refl _
  | stale =>
    rw [lastTime, lastTime, lastTime_insert]
    split
    · rename_i same
      rw [same]
      exact UInt64.le_refl _
    · exact UInt64.le_refl _
  | lost _ later | taken _ later =>
    rw [lastTime, lastTime, lastTime_insert]
    split
    · rename_i same
      rw [same]
      exact UInt64.le_of_lt later
    · exact UInt64.le_refl _

end Client

namespace Roll

/-- The frames of a dump. -/
def framesIn (d : Chunk.Dump) : List Frame :=
  match d.payload with
  | some (.frames frames) => frames
  | _ => []

/-- Frames of one camera have later and later times. -/
def Advance (frames : List Frame) : Prop :=
  frames.Pairwise fun f g => f.camera = g.camera → f.timestamp < g.timestamp

/-- A frame that is later than the last one of its camera goes on with frames up to that one. -/
theorem Advance.concat {frames : List Frame} (advance : Advance frames) {c : Client}
    (past : ∀ f ∈ frames, f.timestamp ≤ c.lastTime f.camera) {f : Frame} (later : c.lastTime f.camera < f.timestamp) :
    Advance (frames ++ [f]) := by
  refine List.pairwise_append.mpr ⟨advance, List.pairwise_singleton .., fun g member h new same => ?_⟩
  cases List.mem_singleton.mp new
  have older := past g member
  rw [same] at older
  exact UInt64.lt_of_le_of_lt older later

/-- What holds of the roll at any time. -/
structure Orderly (r : Roll) : Prop where
  advance : Advance r.kept
  timed : ∀ f ∈ r.kept, f.timestamp ≠ 0
  past : ∀ f ∈ r.kept, f.timestamp ≤ r.client.lastTime f.camera
  counted : r.client.taken = r.kept.length
  handed : (r.dumps.flatMap framesIn ++ r.client.buffer).Sublist r.kept
  dumps : ∀ d ∈ r.dumps, ∃ frames, d = ⟨clientName, some (.frames frames)⟩

namespace Orderly

variable {encode : Encoder} {r : Roll}

theorem record (orderly : r.Orderly) (stamp : UInt64) (camera : UInt32) (image : Image) :
    (r.act encode (.record stamp camera image)).Orderly := by
  have recorded := r.client.record_cases encode stamp camera image
  rw [act]
  generalize r.client.record encode stamp camera image = outcome at recorded ⊢
  obtain ⟨answer, client⟩ := outcome
  dsimp only at recorded
  have past (f : Frame) (member : f ∈ r.kept) : f.timestamp ≤ client.lastTime f.camera :=
    UInt64.le_trans (orderly.past f member) (recorded.lastTime_le f.camera)
  cases recorded with
  | idle => exact orderly
  | stale => exact ⟨orderly.advance, orderly.timed, past, orderly.counted, orderly.handed, orderly.dumps⟩
  | lost _ _ failed =>
    rw [failed]
    exact ⟨orderly.advance, orderly.timed, past, orderly.counted, orderly.handed, orderly.dumps⟩
  | taken logging later encoded =>
    rw [encoded]
    refine ⟨?_, ?_, ?_, ?_, ?_, orderly.dumps⟩
    · exact orderly.advance.concat orderly.past later
    · intro f member
      rcases List.mem_append.mp member with member | new
      · exact orderly.timed f member
      · cases List.mem_singleton.mp new
        rintro rfl
        exact UInt64.not_lt_zero later
    · intro f member
      rcases List.mem_append.mp member with member | new
      · exact past f member
      · cases List.mem_singleton.mp new
        rw [Client.lastTime, Client.lastTime_insert, if_pos rfl]
        exact UInt64.le_refl _
    · rw [List.length_append, ← orderly.counted]
      rfl
    · rw [← List.append_assoc]
      exact orderly.handed.append (.refl _)

theorem freeze (orderly : r.Orderly) : (r.act encode .freeze).Orderly := by
  refine ⟨orderly.advance, orderly.timed, orderly.past, orderly.counted, ?_, fun d member => ?_⟩
  · have handed : (r.dumps ++ [r.client.freeze.1]).flatMap framesIn ++ [] =
        r.dumps.flatMap framesIn ++ r.client.buffer := by
      rw [List.flatMap_append, List.append_nil, List.flatMap_singleton]
      rfl
    exact handed ▸ orderly.handed
  · rcases List.mem_append.mp member with member | new
    · exact orderly.dumps d member
    · exact ⟨_, List.mem_singleton.mp new⟩

theorem start (orderly : r.Orderly) : (r.act encode .start).Orderly := by
  rw [act, Client.start]
  split
  · exact orderly
  · refine ⟨orderly.advance, orderly.timed, orderly.past, orderly.counted, ?_, orderly.dumps⟩
    exact (List.Sublist.append_left (List.nil_sublist _) _).trans orderly.handed

theorem act (orderly : r.Orderly) (a : Act) : (r.act encode a).Orderly := by
  cases a with
  | record stamp camera image => exact orderly.record stamp camera image
  | start => exact orderly.start
  | freeze => exact orderly.freeze
  | stop | provide =>
    exact ⟨orderly.advance, orderly.timed, orderly.past, orderly.counted, orderly.handed, orderly.dumps⟩

end Orderly

theorem orderly_run (encode : Encoder) (acts : List Act) : (run encode acts).Orderly := by
  have goOn : ∀ (acts : List Act) (r : Roll), r.Orderly → (acts.foldl (Roll.act encode) r).Orderly := by
    intro acts
    induction acts with
    | nil => exact fun _ orderly => orderly
    | cons a rest ih => exact fun r orderly => ih _ (orderly.act a)
  exact goOn acts {} ⟨.nil, nofun, nofun, rfl, .refl [], nofun⟩

/-- Frames whose times advance have different names, and none has that of the list. -/
theorem Advance.distinct {frames : List Frame} (advance : Advance frames) (index : Nat) :
    (Chunk.albumNames index frames).Nodup := by
  refine List.nodup_append.mpr ⟨?_, List.pairwise_singleton .., ?_⟩
  · refine List.pairwise_map.mpr (advance.imp fun later same => ?_)
    obtain ⟨_, camera, timestamp⟩ := Chunk.pictureName_injective same
    have less := later camera
    rw [timestamp] at less
    exact UInt64.lt_irrefl _ less
  · intro name member other list
    obtain ⟨f, _, rfl⟩ := List.mem_map.mp member
    cases List.mem_singleton.mp list
    exact Chunk.pictureName_ne_fileName (by decide) (by decide) f.camera f.timestamp "camera" index index

/-- Whatever compresses the images, whatever times the clock shows and however the client is started, stopped and frozen
meanwhile: the frames that are kept of one camera have later and later times, none of them zero, and what the dumps and
the buffer hold are kept frames in order. While logging a call keeps its frame if its time is later than the last one of
the camera, unless the image cannot be compressed, and is counted as stale if not; otherwise it changes nothing. In a
chunk of any number the pictures of a dump and the list of them have different names, and once the dump is written each
frame has its picture, and the list names the frames in order. -/
theorem frames_advance (encode : Encoder) (w : Csv.Writer) (acts : List Act) :
    let r := run encode acts
    Advance r.kept ∧ (∀ f ∈ r.kept, f.timestamp ≠ 0) ∧ r.client.taken = r.kept.length ∧
    (r.dumps.flatMap framesIn ++ r.client.buffer).Sublist r.kept ∧
    (∀ stamp camera image,
      (r.client.logging = false → r.client.record encode stamp camera image = (.ok false, r.client)) ∧
      ∀ answer c, r.client.logging = true → r.client.record encode stamp camera image = (answer, c) →
        (answer = .ok true ∧ r.client.lastTime camera < stamp ∧ c.taken = r.client.taken + 1 ∧
          c.stale = r.client.stale ∧
          ∃ jpeg, encode image = .ok jpeg ∧ c.buffer = r.client.buffer ++ [⟨camera, stamp, jpeg⟩]) ∨
        (answer = .ok false ∧ stamp ≤ r.client.lastTime camera ∧ c.taken = r.client.taken ∧
          c.stale = r.client.stale + 1 ∧ c.buffer = r.client.buffer) ∨
        (∃ e, answer = .error e ∧ r.client.lastTime camera < stamp ∧ encode image = .error e ∧
          c.taken = r.client.taken ∧ c.stale = r.client.stale ∧ c.buffer = r.client.buffer)) ∧
    ∀ d ∈ r.dumps, ∃ frames, d = ⟨clientName, some (.frames frames)⟩ ∧ ∀ index,
      (Chunk.albumNames index frames).Nodup ∧
      ∀ dir t files t', d.write w dir index t = (.ok files, t') →
        files = (Chunk.albumNames index frames).map (Path.join dir) ∧
        t'.readText (Chunk.Payload.filePath dir "camera" index "csv") =
          .ok (w.rows (frames.map (Chunk.Payload.frameRow index))) ∧
        ∀ f ∈ frames, t'.lookup (Chunk.Payload.picturePath dir index f) = .ok (.file (.bytes f.jpeg)) := by
  intro r
  have orderly : r.Orderly := orderly_run encode acts
  refine ⟨orderly.advance, orderly.timed, orderly.counted, orderly.handed, fun stamp camera image => ⟨?_, ?_⟩, ?_⟩
  · intro idle
    rw [Client.record, idle]
    rfl
  · intro answer c logging done
    have recorded := r.client.record_cases encode stamp camera image
    rw [done] at recorded
    dsimp only at recorded
    cases recorded with
    | idle idle => cases idle.symm.trans logging
    | stale _ old => exact Or.inr (Or.inl ⟨rfl, old, rfl, rfl, rfl⟩)
    | lost _ later failed => exact Or.inr (Or.inr ⟨_, rfl, later, failed, rfl, rfl, rfl⟩)
    | taken _ later encoded => exact Or.inl ⟨rfl, later, rfl, rfl, _, encoded, rfl⟩
  · intro d member
    obtain ⟨frames, rfl⟩ := orderly.dumps d member
    have part : frames.Sublist r.kept := by
      refine List.Sublist.trans ?_ ((List.sublist_append_left _ _).trans orderly.handed)
      exact List.sublist_flatten_of_mem (List.mem_map_of_mem member)
    refine ⟨frames, rfl, fun index => ?_⟩
    have distinct := Advance.distinct (orderly.advance.sublist part) index
    refine ⟨distinct, fun dir t files t' done => ?_⟩
    obtain ⟨named, rows, pictures⟩ := Chunk.write_frames distinct done
    exact ⟨named, rows.readText, fun f member => (pictures f member).lookup⟩

/-- A time is repeated, and after a freeze and a new start another goes back, but for one of two cameras only. -/
def twoCameras : List Act :=
  [.start, .record 5 0 ⟨4, 4, fun _ _ => (0, 0, 0)⟩, .record 5 0 ⟨4, 4, fun _ _ => (9, 9, 9)⟩, .freeze, .stop, .start,
    .record 4 0 ⟨4, 4, fun _ _ => (0, 0, 0)⟩, .record 4 1 ⟨4, 4, fun _ _ => (0, 0, 0)⟩,
    .record 6 0 ⟨4, 4, fun x y => (x, y, 0)⟩, .freeze]

/-- An encoder whose pictures tell the red of their first two pixels. -/
def reds : Encoder := fun image => .ok [(image.pixel 0 0).1.toUInt8, (image.pixel 1 0).1.toUInt8]

theorem frames_advance_interleaved :
    let r := run reds twoCameras
    let dump : Chunk.Dump := ⟨clientName, some (.frames [⟨1, 4, [0, 0]⟩, ⟨0, 6, [0, 1]⟩])⟩
    let written := dump.write .standard "usb" 2 { entries := [(["usb"], .directory)] }
    r.kept.map (fun f => (f.camera, f.timestamp)) = [(0, 5), (1, 4), (0, 6)] ∧ Advance r.kept ∧ dump ∈ r.dumps ∧
    written.1 = .ok ["usb/camera0002_1_4.jpg", "usb/camera0002_0_6.jpg", "usb/camera0002.csv"] ∧
    written.2.readText "usb/camera0002.csv" = .ok "4 1 camera0002_1_4.jpg\n6 0 camera0002_0_6.jpg\n" ∧
    written.2.readBytes "usb/camera0002_0_6.jpg" = .ok [0, 1] := by
  intro r dump written
  obtain ⟨advance, _, _, _, _, dumped⟩ := frames_advance reds .standard twoCameras
  have handed : dump ∈ r.dumps := by decide +kernel
  have files : written.1 = .ok ["usb/camera0002_1_4.jpg", "usb/camera0002_0_6.jpg", "usb/camera0002.csv"] :=
    toOption_eq_some.mp (by decide +kernel)
  obtain ⟨frames, same, album⟩ := dumped dump handed
  simp only [dump, Chunk.Dump.mk.injEq, Option.some.injEq, Chunk.Payload.frames.injEq, true_and] at same
  subst same
  obtain ⟨_, done⟩ := album 2
  obtain ⟨_, text, pictures⟩ := done "usb" _ _ written.2 (Prod.ext files rfl)
  have listed : Chunk.Payload.filePath "usb" "camera" 2 "csv" = "usb/camera0002.csv" := by decide +kernel
  have rows : Csv.Writer.standard.rows (([⟨1, 4, [0, 0]⟩, ⟨0, 6, [0, 1]⟩] : List Frame).map (Chunk.Payload.frameRow 2)) =
      "4 1 camera0002_1_4.jpg\n6 0 camera0002_0_6.jpg\n" := by decide +kernel
  rw [listed, rows] at text
  have path : Chunk.Payload.picturePath "usb" 2 ⟨0, 6, [0, 1]⟩ = "usb/camera0002_0_6.jpg" := by decide +kernel
  have picture := pictures ⟨0, 6, [0, 1]⟩ (by simp)
  rw [path] at picture
  exact ⟨by decide +kernel, advance, handed, files, text, bind_eq_ok.mpr ⟨_, picture, rfl⟩⟩

end Roll

end Camera

end CaptureRig

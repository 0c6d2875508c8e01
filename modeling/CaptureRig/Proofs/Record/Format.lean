import CaptureRig.Proofs.Camera.Roll
import CaptureRig.Proofs.Gnss.ChunkFile
import CaptureRig.Proofs.Lidar.Stamps
import CaptureRig.Proofs.Record.Provenance
import CaptureRig.Proofs.Record.Recorder

namespace CaptureRig

namespace Camera.Client

/-- The frames in the buffer advance, and none is later than the last time of its camera. -/
def InOrder (c : Client) : Prop := Roll.Advance c.buffer ∧ ∀ f ∈ c.buffer, f.timestamp ≤ c.lastTime f.camera

variable {c : Client}

theorem inOrder_of_empty (empty : c.buffer = []) : c.InOrder := by
  rw [InOrder, empty]
  exact ⟨.nil, nofun⟩

theorem InOrder.start (ordered : c.InOrder) : c.start.InOrder := by
  rcases c.start_cases with ⟨same, _⟩ | begun
  · rwa [same]
  · exact inOrder_of_empty (by rw [begun])

theorem InOrder.record (ordered : c.InOrder) (encode : Encoder) (stamp : UInt64) (camera : UInt32) (image : Image) :
    (c.record encode stamp camera image).2.InOrder := by
  have recorded := c.record_cases encode stamp camera image
  generalize c.record encode stamp camera image = outcome at recorded ⊢
  obtain ⟨answer, c'⟩ := outcome
  dsimp only at recorded ⊢
  have past (f : Frame) (member : f ∈ c.buffer) : f.timestamp ≤ c'.lastTime f.camera :=
    UInt64.le_trans (ordered.2 f member) (recorded.lastTime_le f.camera)
  cases recorded with
  | idle => exact ordered
  | stale | lost => exact ⟨ordered.1, past⟩
  | taken _ later =>
    refine ⟨ordered.1.concat ordered.2 later, fun f member => ?_⟩
    rcases List.mem_append.mp member with old | new
    · exact past f old
    · cases List.mem_singleton.mp new
      rw [lastTime, lastTime_insert, if_pos rfl]
      exact UInt64.le_refl _

theorem InOrder.capture (ordered : c.InOrder) (encode : Encoder) (stamp : UInt64) (camera : UInt32)
    (grabbed : Option Image) : (c.capture encode stamp camera grabbed).InOrder := by
  unfold Client.capture
  split
  · exact ordered
  split
  · exact ordered
  · rename_i image
    have recorded := ordered.record encode stamp camera image
    split
    all_goals
      rename_i done
      rw [done] at recorded
      exact recorded

end Camera.Client

namespace Recorder

open Chunk

variable {γ α : Type}

/-- How the records of a track stand in the files of a chunk, provided that the client has kept them in order. -/
structure Track.Format {R : Recorder γ} (T : R.Track α) where
  orderly : γ → Prop
  /-- Among the files that have been written, and as the storage is then, there are those of just these records. -/
  holds : Csv.Writer → (dir : String) → (index : Nat) → (files : List String) → Storage.Tree → List α → Prop
  orderly_of_empty : ∀ c, T.buffer c = [] → orderly c
  orderly_start : ∀ c, orderly c → orderly (R.start c)
  orderly_stop : ∀ c, orderly c → orderly (R.stop c)
  orderly_provide : ∀ c, orderly c → orderly (R.provide c)
  orderly_act : ∀ (k : Intake) i, orderly (R.get i) → orderly (R.get (k.act i))
  holds_of_write : ∀ {c w dir index t files left}, orderly c →
    (R.freeze c).1.write w dir index t = (.ok files, left) → holds w dir index files left (T.buffer c)

namespace Track.Format

variable {R : Recorder γ} {T : R.Track α} (F : T.Format)

/-- The client keeps its records in order, and tables are written by one writer. -/
def Sound (w : Csv.Writer) (i : Instruments) : Prop := i.writer = w ∧ F.orderly (R.get i)

variable {F} in
/-- Instruments stay sound if the client is as it was or in order again. -/
theorem Sound.step {w : Csv.Writer} {i j : Instruments} (sound : F.Sound w i) (writer : j.writer = i.writer) {p : Prop}
    [Decidable p] {c : γ} (got : R.get j = if p then c else R.get i) (ordered : F.orderly c) : F.Sound w j := by
  refine ⟨writer.trans sound.1, ?_⟩
  rw [got]
  split
  · exact ordered
  · exact sound.2

theorem upkeep (w : Csv.Writer) : Upkeep Instruments.equipment Intake.act (F.Sound w) where
  start r i sound := sound.step (i.start_writer r) (R.get_start r i) (F.orderly_start _ sound.2)
  stop r i sound := sound.step (i.stop_writer r) (R.get_stop r i) (F.orderly_stop _ sound.2)
  provide r i sound := sound.step (i.provide_writer r) (R.get_provide r i) (F.orderly_provide _ sound.2)
  freeze r i sound := sound.step (i.freeze_writer r) (R.get_freeze r i) (F.orderly_of_empty _ (T.buffer_freeze _))
  setLed led on i sound := ⟨sound.1, (R.get_setLed led on i).symm ▸ sound.2⟩
  allocate run sound := by
    obtain ⟨medium, rfl⟩ := Instruments.allocate_eq run
    exact ⟨sound.1, (R.get_medium _ medium).symm ▸ sound.2⟩
  act k i sound := ⟨(k.act_writer i).trans sound.1, F.orderly_act k i sound.2⟩

end Track.Format

/-- Every frame has a picture of its own, and the list has a row for each, in order. -/
def album : frames.Format where
  orderly := Camera.Client.InOrder
  holds w dir index files t frames :=
    (albumNames index frames).Nodup ∧ files = (albumNames index frames).map (Path.join dir) ∧
      t.Holds (Payload.filePath dir "camera" index "csv") (.text (w.rows (frames.map (Payload.frameRow index)))) ∧
      ∀ f ∈ frames, t.Holds (Payload.picturePath dir index f) (.bytes f.jpeg)
  orderly_of_empty _ empty := Camera.Client.inOrder_of_empty empty
  orderly_start _ ordered := ordered.start
  orderly_stop _ ordered := ordered
  orderly_provide _ ordered := ordered
  orderly_act k i ordered := by
    cases k with
    | frame now camera image => exact ordered.record i.encoder _ camera image
    | capture now camera grabbed => exact ordered.capture i.encoder _ camera grabbed
    | _ => exact ordered
  holds_of_write {c w dir index t files left} ordered done := by
    have frames : (Payload.frames c.buffer).write w dir index t = (.ok files, left) := done
    have distinct := ordered.1.distinct index
    exact ⟨distinct, write_frames distinct frames⟩

end Recorder

end CaptureRig

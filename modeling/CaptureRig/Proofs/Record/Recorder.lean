import CaptureRig.Proofs.Record.Intake
import CaptureRig.Proofs.Record.Stream

namespace CaptureRig

namespace Instruments

theorem allocate_eq {i j : Instruments} {t u : Storage.Tree} {dirs : Option SessionDirs}
    (run : i.allocate t = .ok (dirs, j, u)) : ∃ medium, j = { i with medium } := by
  unfold allocate at run
  split at run
  · cases run
    exact ⟨i.medium, rfl⟩
  · obtain ⟨⟨_, medium, _⟩, _, run⟩ := bind_eq_ok.mp run
    cases pure_eq_ok.mp run
    exact ⟨medium, rfl⟩

end Instruments

/-- A client of the rig that records: its place among the instruments, and what starting it and the like come to. -/
structure Recorder (γ : Type) where
  client : Instrument
  get : Instruments → γ
  start : γ → γ
  stop : γ → γ
  provide : γ → γ
  freeze : γ → Chunk.Dump × γ
  logging : γ → Bool
  get_start : ∀ r i, get (i.start r) = if r = client then start (get i) else get i
  get_stop : ∀ r i, get (i.stop r) = if r = client then stop (get i) else get i
  get_provide : ∀ r i, get (i.provide r) = if r = client then provide (get i) else get i
  get_freeze : ∀ r i, get (i.freeze r).2 = if r = client then (freeze (get i)).2 else get i
  dump_freeze : ∀ i : Instruments, (i.freeze client).1 = (freeze (get i)).1
  get_setLed : ∀ led on i, get (i.setLed led on) = get i
  get_medium : ∀ i medium, get { i with medium } = get i
  logging_start : ∀ c, logging (start c) = true
  logging_stop : ∀ c, logging (stop c) = false
  logging_provide : ∀ c, logging (provide c) = logging c
  logging_freeze : ∀ c, logging (freeze c).2 = logging c
  logging_act : ∀ (k : Intake) i, logging (get (k.act i)) = logging (get i)

namespace Recorder

variable {γ α : Type}

def logger (R : Recorder γ) : Logger Instruments.equipment Intake.act where
  client := R.client
  logging i := R.logging (R.get i)
  logging_start r i := by
    change R.logging (R.get (i.start r)) = _
    rw [R.get_start]
    by_cases own : r = R.client <;> simp [own, R.logging_start]
  logging_stop r i := by
    change R.logging (R.get (i.stop r)) = _
    rw [R.get_stop]
    by_cases own : r = R.client <;> simp [own, R.logging_stop]
  logging_provide r i := by
    change R.logging (R.get (i.provide r)) = _
    rw [R.get_provide]
    split
    · exact R.logging_provide _
    · rfl
  logging_freeze r i := by
    change R.logging (R.get (i.freeze r).2) = _
    rw [R.get_freeze]
    split
    · exact R.logging_freeze _
    · rfl
  logging_setLed led on i := congrArg R.logging (R.get_setLed led on i)
  logging_allocate {i t dirs j u} run := by
    obtain ⟨medium, rfl⟩ := Instruments.allocate_eq run
    exact congrArg R.logging (R.get_medium i medium)
  logging_act := R.logging_act

/-- One kind of the records of a client. -/
structure Track (R : Recorder γ) (α : Type) where
  buffer : γ → List α
  records : Chunk.Dump → List α
  brought : Intake → Instruments → List α
  buffer_start : ∀ c, buffer c = [] → buffer (R.start c) = []
  buffer_stop : ∀ c, buffer (R.stop c) = buffer c
  buffer_provide : ∀ c, buffer (R.provide c) = buffer c
  buffer_freeze : ∀ c, buffer (R.freeze c).2 = []
  records_freeze : ∀ c, records (R.freeze c).1 = buffer c
  records_of_size : ∀ d, d.size = 0 → records d = []
  buffer_act : ∀ (k : Intake) i, buffer (R.get (k.act i)) =
    buffer (R.get i) ++ if R.logging (R.get i) then brought k i else []

/-- The scanners. -/
def lidar : Recorder Lidar.Client where
  client := .lidar
  get := Instruments.lidar
  start := Lidar.Client.start
  stop := Lidar.Client.stop
  provide c := c
  freeze := Lidar.Client.freeze
  logging := Lidar.Client.logging
  get_start r i := by cases r <;> rfl
  get_stop r i := by cases r <;> rfl
  get_provide r i := by
    cases r with
    | sensor name => exact i.provide_sensor (fun _ _ => rfl) name
    | _ => rfl
  get_freeze r i := by
    cases r with
    | sensor name => exact i.freeze_sensor (fun _ _ => rfl) name
    | _ => rfl
  dump_freeze _ := rfl
  get_setLed _ _ _ := rfl
  get_medium _ _ := rfl
  logging_start c := by
    rcases c.start_cases with ⟨same, on⟩ | begun
    · rw [same, on]
    · rw [begun]
  logging_stop _ := rfl
  logging_provide _ := rfl
  logging_freeze _ := rfl
  logging_act k i := by
    cases k with
    | packet now p => exact congrArg (·.1) (i.lidar.ingest_kept now p i.authority)
    | datagram now bytes => exact congrArg (·.1) (i.lidar.receive_kept now bytes i.authority)
    | _ => rfl

/-- The satellite receiver. -/
def gnss : Recorder Gnss.Client where
  client := .gnss
  get := Instruments.gnss
  start := Gnss.Client.start
  stop := Gnss.Client.stop
  provide := Gnss.Client.provide
  freeze := Gnss.Client.freeze
  logging := Gnss.Client.logging
  get_start r i := by cases r <;> rfl
  get_stop r i := by cases r <;> rfl
  get_provide r i := by
    cases r with
    | sensor name => exact i.provide_sensor (fun _ _ => rfl) name
    | _ => rfl
  get_freeze r i := by
    cases r with
    | sensor name => exact i.freeze_sensor (fun _ _ => rfl) name
    | _ => rfl
  dump_freeze _ := rfl
  get_setLed _ _ _ := rfl
  get_medium _ _ := rfl
  logging_start c := by
    rcases c.start_cases with ⟨same, on⟩ | begun
    · rw [same, on]
    · rw [begun]
  logging_stop _ := rfl
  logging_provide _ := rfl
  logging_freeze _ := rfl
  logging_act k i := by
    cases k with
    | sentence now line => exact i.gnss.ingest_logging _ line
    | _ => rfl

/-- The cameras. -/
def cameras : Recorder Camera.Client where
  client := .cameras
  get := Instruments.cameras
  start := Camera.Client.start
  stop := Camera.Client.stop
  provide := Camera.Client.provide
  freeze := Camera.Client.freeze
  logging := Camera.Client.logging
  get_start r i := by cases r <;> rfl
  get_stop r i := by cases r <;> rfl
  get_provide r i := by
    cases r with
    | sensor name => exact i.provide_sensor (fun _ _ => rfl) name
    | _ => rfl
  get_freeze r i := by
    cases r with
    | sensor name => exact i.freeze_sensor (fun _ _ => rfl) name
    | _ => rfl
  dump_freeze _ := rfl
  get_setLed _ _ _ := rfl
  get_medium _ _ := rfl
  logging_start c := by
    rcases c.start_cases with ⟨same, on⟩ | begun
    · rw [same, on]
    · rw [begun]
  logging_stop _ := rfl
  logging_provide _ := rfl
  logging_freeze _ := rfl
  logging_act k i := by
    cases k with
    | frame now camera image => exact i.cameras.record_logging i.encoder _ camera image
    | capture now camera grabbed => exact i.cameras.capture_logging i.encoder _ camera grabbed
    | _ => rfl

def points : lidar.Track Lidar.Point where
  buffer := Lidar.Client.points
  records d :=
    match d.payload with
    | some (.scans points _ _) => points
    | _ => []
  brought
    | .packet now p, i => i.lidar.pointsOf now p i.authority
    | .datagram now bytes, i =>
      (Lidar.Packet.decode bytes).toOption.toList.flatMap fun p => i.lidar.pointsOf now p i.authority
    | _, _ => []
  buffer_start c empty := by
    change c.start.points = []
    rcases c.start_cases with ⟨same, _⟩ | begun
    · rw [same, empty]
    · rw [begun]
  buffer_stop _ := rfl
  buffer_provide _ := rfl
  buffer_freeze _ := rfl
  records_freeze _ := rfl
  records_of_size
    | ⟨_, none⟩, _ => rfl
    | ⟨_, some payload⟩, empty => by
      cases payload with
      | scans => exact List.eq_nil_of_length_eq_zero (Nat.eq_zero_of_add_eq_zero empty).1
      | _ => rfl
  buffer_act k i := by
    cases k with
    | packet now p => exact congrArg (·.2.1) (i.lidar.ingest_kept now p i.authority)
    | datagram now bytes => exact congrArg (·.2.1) (i.lidar.receive_kept now bytes i.authority)
    | _ => exact (List.append_nil _).symm.trans (congrArg _ (ite_self []).symm)

def motion : lidar.Track Lidar.Motion where
  buffer := Lidar.Client.motion
  records d :=
    match d.payload with
    | some (.scans _ motion _) => motion
    | _ => []
  brought
    | .packet now p, i => i.lidar.motionOf now p i.authority
    | .datagram now bytes, i =>
      (Lidar.Packet.decode bytes).toOption.toList.flatMap fun p => i.lidar.motionOf now p i.authority
    | _, _ => []
  buffer_start c empty := by
    change c.start.motion = []
    rcases c.start_cases with ⟨same, _⟩ | begun
    · rw [same, empty]
    · rw [begun]
  buffer_stop _ := rfl
  buffer_provide _ := rfl
  buffer_freeze _ := rfl
  records_freeze _ := rfl
  records_of_size
    | ⟨_, none⟩, _ => rfl
    | ⟨_, some payload⟩, empty => by
      cases payload with
      | scans => exact List.eq_nil_of_length_eq_zero (Nat.eq_zero_of_add_eq_zero empty).2
      | _ => rfl
  buffer_act k i := by
    cases k with
    | packet now p => exact congrArg (·.2.2) (i.lidar.ingest_kept now p i.authority)
    | datagram now bytes => exact congrArg (·.2.2) (i.lidar.receive_kept now bytes i.authority)
    | _ => exact (List.append_nil _).symm.trans (congrArg _ (ite_self []).symm)

def sentences : gnss.Track Gnss.Line where
  buffer := Gnss.Client.buffer
  records d :=
    match d.payload with
    | some (.sentences lines) => lines
    | _ => []
  brought
    | .sentence now line, i => Gnss.Client.linesOf (Station.stamp i.gnss.provided now i) line
    | _, _ => []
  buffer_start c empty := by
    change c.start.buffer = []
    rcases c.start_cases with ⟨same, _⟩ | begun
    · rw [same, empty]
    · rw [begun]
  buffer_stop _ := rfl
  buffer_provide _ := rfl
  buffer_freeze _ := rfl
  records_freeze _ := rfl
  records_of_size
    | ⟨_, none⟩, _ => rfl
    | ⟨_, some payload⟩, empty => by
      cases payload with
      | sentences => exact List.eq_nil_of_length_eq_zero empty
      | _ => rfl
  buffer_act k i := by
    cases k with
    | sentence now line => exact i.gnss.ingest_buffer _ line
    | _ => exact (List.append_nil _).symm.trans (congrArg _ (ite_self []).symm)

def frames : cameras.Track Camera.Frame where
  buffer := Camera.Client.buffer
  records d :=
    match d.payload with
    | some (.frames taken) => taken
    | _ => []
  brought
    | .frame now camera image, i => i.cameras.framesOf i.encoder (Station.stamp i.cameras.provided now i) camera image
    | .capture now camera grabbed, i =>
      grabbed.toList.flatMap fun image =>
        i.cameras.framesOf i.encoder (Station.stamp i.cameras.provided now i) camera image
    | _, _ => []
  buffer_start c empty := by
    change c.start.buffer = []
    rcases c.start_cases with ⟨same, _⟩ | begun
    · rw [same, empty]
    · rw [begun]
  buffer_stop _ := rfl
  buffer_provide _ := rfl
  buffer_freeze _ := rfl
  records_freeze _ := rfl
  records_of_size
    | ⟨_, none⟩, _ => rfl
    | ⟨_, some payload⟩, empty => by
      cases payload with
      | frames => exact List.eq_nil_of_length_eq_zero empty
      | _ => rfl
  buffer_act k i := by
    cases k with
    | frame now camera image => exact i.cameras.record_buffer i.encoder _ camera image
    | capture now camera grabbed => exact i.cameras.capture_buffer i.encoder _ camera grabbed
    | _ => exact (List.append_nil _).symm.trans (congrArg _ (ite_self []).symm)

end Recorder

end CaptureRig

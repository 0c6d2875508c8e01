import CaptureRig.Rig.Station

namespace CaptureRig

/-- The instruments of the rig itself, not those for rehearsals. -/
def Instrument.isReal : Instrument → Bool
  | .sensor _ => false
  | _ => true

namespace Instruments

theorem provide_sensor_eq (i : Instruments) (name : String) :
    ∃ sensors, i.provide (.sensor name) = { i with sensors } := by
  unfold provide changeSensor
  dsimp only
  split
  · exact ⟨_, rfl⟩
  · exact ⟨i.sensors, rfl⟩

theorem freeze_sensor_eq (i : Instruments) (name : String) :
    ∃ sensors, (i.freeze (.sensor name)).2 = { i with sensors } := by
  unfold freeze
  dsimp only
  split
  · exact ⟨_, rfl⟩
  · exact ⟨i.sensors, rfl⟩

/-- What no sensor for rehearsals is part of. -/
theorem provide_sensor {β : Type} {get : Instruments → β} (apart : ∀ i sensors, get { i with sensors } = get i)
    (i : Instruments) (name : String) : get (i.provide (.sensor name)) = get i := by
  obtain ⟨sensors, same⟩ := i.provide_sensor_eq name
  rw [same, apart]

theorem freeze_sensor {β : Type} {get : Instruments → β} (apart : ∀ i sensors, get { i with sensors } = get i)
    (i : Instruments) (name : String) : get (i.freeze (.sensor name)).2 = get i := by
  obtain ⟨sensors, same⟩ := i.freeze_sensor_eq name
  rw [same, apart]

theorem start_writer (r : Instrument) (i : Instruments) : (i.start r).writer = i.writer := by
  cases r <;> rfl

theorem provide_writer (r : Instrument) (i : Instruments) : (i.provide r).writer = i.writer := by
  cases r with
  | sensor name => exact i.provide_sensor (fun _ _ => rfl) name
  | _ => rfl

theorem freeze_writer (r : Instrument) (i : Instruments) : (i.freeze r).2.writer = i.writer := by
  cases r with
  | sensor name => exact i.freeze_sensor (fun _ _ => rfl) name
  | _ => rfl

theorem stop_writer (r : Instrument) (i : Instruments) : (i.stop r).writer = i.writer := by
  cases r <;> rfl

theorem persist_real {r : Instrument} (real : r.isReal = true) (d : Chunk.Dump) (i : Instruments) (dir : String)
    (index : Nat) (t : Storage.Tree) :
    i.persist r d dir index t =
      match d.write i.writer dir index t with
      | (.ok files, t) => (.wrote files, t)
      | (.error e, t) => (.failed e, t) := by
  cases r with
  | sensor => cases real
  | _ => rfl

end Instruments

namespace Lidar.Client

theorem start_cases (c : Client) :
    c.start = c ∧ c.logging = true ∨ c.start = { c with logging := true, points := [], motion := [] } := by
  unfold start
  split
  · rename_i on
    exact Or.inl ⟨rfl, on⟩
  · exact Or.inr rfl

/-- The authoritative time of a packet and the number of its scanner, unless its samples are not to be kept at all. -/
def stampOf? (now : UInt64) (p : Packet) (c : Client) (a : Clock.Authority) : Option (UInt64 × UInt16) :=
  match (c.scannerId p.serial).1 with
  | none => none
  | some scanner => if p.timestamp = 0 then none else some ((a.correctAt p.timestamp now).1, scanner)

def pointsOf (now : UInt64) (p : Packet) (c : Client) (a : Clock.Authority) : List Point :=
  match c.stampOf? now p a, p.payload with
  | some (base, scanner), .points samples => samples.map (·.stamped base scanner)
  | _, _ => []

def motionOf (now : UInt64) (p : Packet) (c : Client) (a : Clock.Authority) : List Motion :=
  match c.stampOf? now p a, p.payload with
  | some (base, scanner), .motion samples => samples.map (·.stamped base scanner)
  | _, _ => []

/-- What is kept of the samples, apart from the numbers of the scanners. -/
def kept (c : Client) : Bool × List Point × List Motion := (c.logging, c.points, c.motion)

theorem scannerId_kept (c : Client) (serial : String) : (c.scannerId serial).2.kept = c.kept := by
  unfold scannerId
  split
  · rfl
  · split <;> rfl

theorem countPacket_kept (c : Client) (p : Packet) : (c.countPacket p).kept = c.kept := by
  unfold countPacket
  split <;> rfl

/-- A packet adds its samples to what is kept, if the client logs. -/
theorem ingest_kept (now : UInt64) (p : Packet) (c : Client) (a : Clock.Authority) :
    (c.ingest now p a).1.kept =
      (c.logging, c.points ++ (if c.logging then c.pointsOf now p a else []),
        c.motion ++ if c.logging then c.motionOf now p a else []) := by
  have same := c.scannerId_kept p.serial
  unfold ingest pointsOf motionOf stampOf?
  generalize c.scannerId p.serial = found at same
  obtain ⟨_ | scanner, numbered⟩ := found
  · simp only [ite_self, List.append_nil]
    exact same
  have counted := (numbered.countPacket_kept p).trans same
  dsimp only
  generalize numbered.countPacket p = c' at counted
  obtain ⟨logging, points, motion⟩ : c'.logging = c.logging ∧ c'.points = c.points ∧ c'.motion = c.motion := by
    simpa only [kept, Prod.mk.injEq] using counted
  rw [← logging, ← points, ← motion]
  by_cases zero : p.timestamp = 0
  · simp [zero, kept]
  · simp only [zero, if_false]
    cases on : c'.logging with
    | false => simp [kept, on]
    | true => cases payload : p.payload <;> simp [keep, kept, on, payload]

/-- The packet in a datagram, if there is one, adds its samples to what is kept. -/
theorem receive_kept (now : UInt64) (bytes : List UInt8) (c : Client) (a : Clock.Authority) :
    (c.receive now bytes a).1.kept =
      (c.logging,
        c.points ++ (if c.logging then (Packet.decode bytes).toOption.toList.flatMap fun p => c.pointsOf now p a else []),
        c.motion ++ if c.logging then (Packet.decode bytes).toOption.toList.flatMap fun p => c.motionOf now p a else []) := by
  unfold receive
  cases decoded : Packet.decode bytes with
  | ok p => simpa [Except.toOption] using c.ingest_kept now p a
  | error => simp [Except.toOption, kept]

end Lidar.Client

namespace Gnss.Client

theorem start_cases (c : Client) :
    c.start = c ∧ c.logging = true ∨ c.start = { c with logging := true, buffer := [] } := by
  unfold start
  split
  · rename_i on
    exact Or.inl ⟨rfl, on⟩
  · exact Or.inr rfl

/-- The line that is kept of what the receiver sends, if it is not blank. -/
def linesOf (stamp : UInt64) (line : String) : List Line :=
  if (Text.trim line).isEmpty then [] else [⟨stamp, Text.trim line⟩]

theorem ingest_logging (stamp : UInt64) (line : String) (c : Client) : (c.ingest stamp line).logging = c.logging := by
  unfold ingest
  dsimp only
  split <;> rfl

theorem ingest_buffer (stamp : UInt64) (line : String) (c : Client) :
    (c.ingest stamp line).buffer = c.buffer ++ if c.logging then linesOf stamp line else [] := by
  unfold ingest linesOf
  dsimp only
  split
  · simp only [ite_self, List.append_nil]
  · cases c.logging <;> simp

end Gnss.Client

namespace Camera.Client

theorem start_cases (c : Client) :
    c.start = c ∧ c.logging = true ∨ c.start = { c with logging := true, buffer := [] } := by
  unfold start
  split
  · rename_i on
    exact Or.inl ⟨rfl, on⟩
  · exact Or.inr rfl

/-- The frame that is kept of an image, if time has moved on for the camera and the image can be compressed. -/
def framesOf (encode : Encoder) (stamp : UInt64) (camera : UInt32) (image : Image) (c : Client) : List Frame :=
  if stamp ≤ c.lastTime camera then []
  else match encode image with
    | .ok jpeg => [⟨camera, stamp, jpeg⟩]
    | .error _ => []

variable (encode : Encoder)

theorem record_logging (stamp : UInt64) (camera : UInt32) (image : Image) (c : Client) :
    (c.record encode stamp camera image).2.logging = c.logging := by
  unfold record
  split
  · rfl
  split
  · rfl
  · dsimp only
    split <;> rfl

theorem record_buffer (stamp : UInt64) (camera : UInt32) (image : Image) (c : Client) :
    (c.record encode stamp camera image).2.buffer =
      c.buffer ++ if c.logging then c.framesOf encode stamp camera image else [] := by
  unfold record framesOf
  cases logging : c.logging with
  | false => simp
  | true =>
    simp only [Bool.not_true, Bool.false_eq_true, if_false, if_true]
    split
    · exact (List.append_nil _).symm
    · split
      · rename_i failed
        rw [failed, List.append_nil]
      · rename_i taken
        rw [taken]

theorem capture_logging (stamp : UInt64) (camera : UInt32) (grabbed : Option Image) (c : Client) :
    (c.capture encode stamp camera grabbed).logging = c.logging := by
  unfold capture
  split
  · rfl
  cases grabbed with
  | none => rfl
  | some image =>
    have same := c.record_logging encode stamp camera image
    dsimp only
    split
    all_goals
      rename_i recorded
      rw [recorded] at same
      exact same

theorem capture_buffer (stamp : UInt64) (camera : UInt32) (grabbed : Option Image) (c : Client) :
    (c.capture encode stamp camera grabbed).buffer =
      c.buffer ++ if c.logging then grabbed.toList.flatMap fun image => c.framesOf encode stamp camera image else [] := by
  unfold capture
  cases logging : c.logging with
  | false => simp
  | true =>
    cases grabbed with
    | none => simp
    | some image =>
      have added := c.record_buffer encode stamp camera image
      rw [logging] at added
      simp only [Bool.not_true, Bool.false_eq_true, if_false, if_true, Option.toList_some, List.flatMap_singleton]
      split
      all_goals
        rename_i recorded
        rw [recorded] at added
        exact added

end Camera.Client

/-- What the instruments take in. -/
inductive Intake where
  | packet (now : UInt64) (p : Lidar.Packet)
  | datagram (now : UInt64) (bytes : List UInt8)
  | opened
  | sentence (now : UInt64) (line : String)
  | frame (now : UInt64) (camera : UInt32) (image : Camera.Image)
  | capture (now : UInt64) (camera : UInt32) (grabbed : Option Camera.Image)
  /-- All instruments are found as they are in others, but for the clients, the storage and what encodes and writes. -/
  | aside (others : Instruments)

namespace Intake

def act : Intake → Instruments → Instruments
  | .packet now p, i =>
    let (lidar, authority) := i.lidar.ingest now p i.authority
    { i with lidar, authority }
  | .datagram now bytes, i =>
    let (lidar, authority) := i.lidar.receive now bytes i.authority
    { i with lidar, authority }
  | .opened, i => { i with lidar := i.lidar.opened }
  | .sentence now line, i => { i with gnss := i.gnss.ingest (Station.stamp i.gnss.provided now i) line }
  | .frame now camera image, i =>
    { i with cameras := (i.cameras.record i.encoder (Station.stamp i.cameras.provided now i) camera image).2 }
  | .capture now camera grabbed, i =>
    { i with cameras := i.cameras.capture i.encoder (Station.stamp i.cameras.provided now i) camera grabbed }
  | .aside others, i =>
    { others with
      lidar := i.lidar, gnss := i.gnss, cameras := i.cameras, medium := i.medium, fixedDirs := i.fixedDirs
      encoder := i.encoder, writer := i.writer }

theorem act_writer (k : Intake) (i : Instruments) : (k.act i).writer = i.writer := by
  cases k <;> rfl

section Station

variable (s : Station)

/-- The station with its instruments after an intake. -/
def into (k : Intake) : Station := { s with instruments := k.act s.instruments }

theorem into_packet (now : UInt64) (p : Lidar.Packet) : into s (.packet now p) = Station.packet now p s := rfl

theorem into_datagram (now : UInt64) (bytes : List UInt8) :
    into s (.datagram now bytes) = Station.datagram now bytes s := rfl

theorem into_sentence (now : UInt64) (line : String) : into s (.sentence now line) = Station.sentence now line s := rfl

theorem into_frame (now : UInt64) (camera : UInt32) (image : Camera.Image) :
    into s (.frame now camera image) = (Station.frame now camera image s).2 := rfl

/-- What a device gives is taken in line by line. -/
theorem device_eq (now : Nat → UInt64) (segments : List (List UInt8)) :
    Station.device now segments s =
      (Gnss.Device.read segments).zipIdx.foldl (fun s (line, n) => into s (.sentence (now n) line)) s :=
  rfl

/-- What a camera gives is taken in round by round. -/
theorem capture_eq (now : Nat → UInt64) (camera : UInt32) (grabs : List (Option Camera.Image)) :
    Station.capture now camera grabs s =
      grabs.zipIdx.foldl (fun s (grab, n) => into s (.capture (now n) camera grab)) s :=
  rfl

end Station

end Intake

end CaptureRig

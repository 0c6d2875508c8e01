import CaptureRig.Proofs.Chunk.FileName
import CaptureRig.Proofs.Clock.Correction
import CaptureRig.Proofs.Lidar.Traffic
import CaptureRig.Proofs.Storage.Content

namespace CaptureRig

namespace Clock.Authority

/-- The offset that a sample fixes, where its time stands with what the system clock shows then. -/
def offsetOf (fixed : UInt64 × UInt64) : Int := offsetFrom fixed.1 fixed.2

/-- The sample that fixes the offset if there is none yet. -/
def fixedBy? (sensor now : UInt64) : Option (UInt64 × UInt64) := if usable sensor then some (sensor, now) else none

theorem usable_of_fixedBy {sensor now : UInt64} {fixed : UInt64 × UInt64} (found : fixedBy? sensor now = some fixed) :
    usable fixed.1 = true := by
  unfold fixedBy? at found
  split at found
  · cases found
    assumption
  · cases found

/-- Whether a time of the sensor is moved to zero or beyond by the sample that has fixed the offset. As long as none has,
the system clock must show zero itself. -/
def BeforeZero (fixed : Option (UInt64 × UInt64)) (sensor now : UInt64) : Prop :=
  match fixed with
  | some (first, read) => sensor.toNat + read.toNat ≤ first.toNat
  | none => now = 0

theorem correctAt_offset (a : Authority) (sensor now : UInt64) :
    (a.correctAt sensor now).2.offset = a.offset.or ((fixedBy? sensor now).map offsetOf) := by
  unfold fixedBy?
  cases fixed : a.offset with
  | some offset =>
    rw [correctAt_fixed fixed]
    exact fixed
  | none =>
    cases possible : usable sensor with
    | false =>
      rw [correctAt_unusable fixed possible]
      exact fixed
    | true =>
      rw [correctAt_usable fixed possible]
      rfl

/-- The sample that fixes the offset is within the range of offsets, so that no offset is cut off on this side. -/
theorem shifted_eq_zero_iff {first : UInt64} (possible : usable first = true) (sensor read : UInt64) :
    shifted sensor (offsetFrom first read) = 0 ↔ sensor.toNat + read.toNat ≤ first.toNat := by
  have within := (usable_iff first).mp possible
  have time := toNat_shifted sensor (offsetFrom first read)
  rw [Int64.toInt_maxValue] at within
  unfold offsetFrom clamp lowestOffset highestOffset highestTime at time
  rw [← UInt64.toNat_inj, UInt64.toNat_zero]
  unfold offsetFrom clamp lowestOffset highestOffset
  omega

theorem correctAt_eq_zero_iff {a : Authority} {fixed : Option (UInt64 × UInt64)} (known : a.offset = fixed.map offsetOf)
    (possible : ∀ f, fixed = some f → usable f.1 = true) (sensor now : UInt64) :
    (a.correctAt sensor now).1 = 0 ↔ BeforeZero (fixed.or (fixedBy? sensor now)) sensor now := by
  cases fixed with
  | some f =>
    rw [correctAt_fixed known]
    exact shifted_eq_zero_iff (possible f rfl) sensor f.2
  | none =>
    unfold fixedBy?
    cases able : usable sensor with
    | false =>
      rw [correctAt_unusable known able]
      rfl
    | true =>
      rw [correctAt_usable known able]
      exact shifted_eq_zero_iff able sensor now

end Clock.Authority

namespace Chunk

open Storage

variable {w : Csv.Writer} {dir : String} {index : Nat}

theorem motion_name_ne_scan {extension : String} (slash : '/' ∉ extension.toList) :
    fileName "imu" index "csv" ≠ fileName "lidar" index extension := by
  intro same
  have motion : Bears "imu" index (fileName "imu" index "csv") := bears_fileName isKind_imu (by decide) index
  have scan := bears_fileName isKind_lidar slash index
  exact absurd (motion.unique (same ▸ scan)) (by decide)

theorem isEntry_motion (index : Nat) : Path.IsEntry (fileName "imu" index "csv") :=
  (bears_fileName isKind_imu (by decide) index).namedFor.isEntry

theorem isEntry_scan {extension : String} (slash : '/' ∉ extension.toList) (index : Nat) :
    Path.IsEntry (fileName "lidar" index extension) :=
  (bears_fileName isKind_lidar slash index).namedFor.isEntry

theorem scan_name_ne_serials : fileName "lidar" index "csv" ≠ fileName "lidar" index "sn" :=
  fun same => absurd ((String.append_right_inj _).mp same) (by decide)

variable (w) in
/-- A table has been written under a path, or no file of this path if it has no row. -/
def Tabled (files : List String) (t : Tree) (path : String) (table : List (List String)) : Prop :=
  if table = [] then path ∉ files else path ∈ files ∧ t.Holds path (.text (w.rows table))

theorem Tabled.of_plan (before : List WriteStep) {after : List WriteStep} {path : String} {table : List (List String)}
    {files : List String} {t t' : Tree} (below : placeOf path ≠ []) (named : path ∈ files ↔ table ≠ [])
    (away : ∀ step ∈ after, placeOf path ≠ placeOf step.path)
    (done : WriteStep.runAll (before ++ Payload.tableStep w path table ++ after) t = (none, t')) :
    Tabled w files t' path table := by
  unfold Tabled
  split
  · rename_i none
    exact fun member => named.mp member none
  · rename_i some
    refine ⟨named.mpr some, ?_⟩
    have step : Payload.tableStep w path table = [.create path (.text (w.rows table)) .table] := by
      simp [Payload.tableStep, some]
    rw [step, List.append_assoc] at done
    exact WriteStep.runAll_makes done below away

/-- Samples are written with a row for every one, and points and motion in files of their own. -/
theorem write_scans {points : List Lidar.Point} {motion : List Lidar.Motion} {serials : List (UInt16 × String)}
    {files : List String} {t t' : Tree}
    (done : (Payload.scans points motion serials).write w dir index t = (.ok files, t')) :
    Tabled w files t' (Payload.filePath dir "lidar" index "csv") (points.map Lidar.Point.row) ∧
      Tabled w files t' (Payload.filePath dir "imu" index "csv") (motion.map Lidar.Motion.row) := by
  obtain ⟨rfl, whole⟩ := Payload.write_eq_ok done
  have motionAway {extension : String} (slash : '/' ∉ extension.toList) :
      placeOf (Payload.filePath dir "imu" index "csv") ≠ placeOf (Payload.filePath dir "lidar" index extension) :=
    placeOf_ne_of_name_ne (isEntry_motion index) (isEntry_scan slash index) (motion_name_ne_scan slash)
  have serialsAway :
      placeOf (Payload.filePath dir "lidar" index "csv") ≠ placeOf (Payload.filePath dir "lidar" index "sn") :=
    placeOf_ne_of_name_ne (isEntry_scan (by decide) index) (isEntry_scan (by decide) index) scan_name_ne_serials
  have named (path : String) : path ∈ (Payload.scans points motion serials).files dir index ↔
      points ≠ [] ∧ path = Payload.filePath dir "lidar" index "csv" ∨
        motion ≠ [] ∧ path = Payload.filePath dir "imu" index "csv" ∨ path = Payload.filePath dir "lidar" index "sn" := by
    simp only [Payload.files, List.mem_append, List.mem_singleton, or_assoc, List.mem_ite_nil_left, List.isEmpty_iff,
      ne_eq]
  constructor
  · refine .of_plan [] (placeOf_entry_ne_nil (isEntry_scan (by decide) index)) ?_ ?_
      ((congrArg (WriteStep.runAll · t) (List.append_assoc ..)).symm.trans whole)
    · refine (named _).trans (Iff.trans ?_ (not_congr List.map_eq_nil_iff).symm)
      constructor
      · rintro (⟨some, _⟩ | ⟨_, same⟩ | same)
        · exact some
        · exact absurd (congrArg placeOf same).symm (motionAway (by decide))
        · exact absurd (congrArg placeOf same) serialsAway
      · exact fun some => Or.inl ⟨some, rfl⟩
    · intro step member
      rcases List.mem_append.mp member with member | member
      · unfold Payload.tableStep at member
        split at member
        · cases member
        · cases List.mem_singleton.mp member
          exact (motionAway (by decide)).symm
      · cases List.mem_singleton.mp member
        exact serialsAway
  · refine .of_plan _ (placeOf_entry_ne_nil (isEntry_motion index)) ?_ (fun step member => ?_) whole
    · refine (named _).trans (Iff.trans ?_ (not_congr List.map_eq_nil_iff).symm)
      constructor
      · rintro (⟨_, same⟩ | ⟨some, _⟩ | same)
        · exact absurd (congrArg placeOf same) (motionAway (by decide))
        · exact some
        · exact absurd (congrArg placeOf same) (motionAway (by decide))
      · exact fun some => Or.inr (Or.inl ⟨some, rfl⟩)
    · cases List.mem_singleton.mp member
      exact motionAway (by decide)

end Chunk

namespace Lidar

open Clock.Authority

/-- What stands in a line before the first blank. -/
def firstField (line : List Char) : List Char := line.takeWhile (· != ' ')

/-- The line of a motion sample begins with its time, whatever else the writer puts into quotes. -/
theorem Motion.firstField_eq (w : Csv.Writer) (m : Motion) :
    firstField (w.row m.row).toList = (toString m.timestamp.toNat).toList := by
  have plain : ∀ c ∈ (toString m.timestamp.toNat).toList, Csv.needsQuotes c = false ∧ (c != ' ') = true := by
    intro c member
    have digit := Text.isDigit_of_mem_toString member
    constructor
    · simp only [Csv.needsQuotes, Bool.or_eq_false_iff, beq_eq_false_iff_ne]
      refine ⟨⟨⟨?_, ?_⟩, ?_⟩, ?_⟩
      all_goals
        rintro rfl
        cases digit
    · rw [bne_iff_ne]
      rintro rfl
      cases digit
  have bare : w.field (toString m.timestamp.toNat) = toString m.timestamp.toNat :=
    w.field_plain _ fun c member => (plain c member).1
  obtain ⟨rest, line⟩ : ∃ rest, (w.row m.row).toList = (toString m.timestamp.toNat).toList ++ ' ' :: rest := by
    have more : m.places.map w.field ≠ [] := by simp [Motion.places]
    refine ⟨(" ".intercalate (m.places.map w.field) ++ "\n").toList, ?_⟩
    rw [Csv.Writer.row, Motion.row, List.map_cons, bare, String.intercalate_cons_of_ne_nil more]
    simp only [String.toList_append, List.append_assoc]
    rfl
  rw [firstField, line]
  exact Text.takeWhile_run (fun c member => (plain c member).2) fun _ first => Option.some.inj first ▸ rfl

theorem Motion.firstField_zero_iff (w : Csv.Writer) (m : Motion) :
    firstField (w.row m.row).toList = ['0'] ↔ m.timestamp = 0 := by
  rw [m.firstField_eq w, ← UInt64.toNat_inj, UInt64.toNat_zero]
  constructor
  · intro zero
    exact Text.toString_injective (String.toList_inj.mp (zero : _ = (toString 0).toList))
  · intro zero
    rw [zero]
    rfl

theorem laterBy_eq_zero_iff (base : UInt64) (offset : UInt32) : laterBy base offset = 0 ↔ base = 0 ∧ offset = 0 := by
  have time := toNat_laterBy base offset
  have positive : 0 < UInt64.size - 1 := by decide
  rw [← UInt64.toNat_inj, ← UInt64.toNat_inj, ← UInt32.toNat_inj, UInt64.toNat_zero, UInt32.toNat_zero]
  omega

/-- The packet that an act brings, with what the system clock shows then. -/
def Act.arrival? : Act → Option (UInt64 × Packet)
  | .packet now p => some (now, p)
  | .datagram now bytes => (Packet.decode bytes).toOption.map (now, ·)
  | _ => none

theorem Client.mem_motionOf {m : Motion} {now : UInt64} {p : Packet} {c : Client} {a : Clock.Authority}
    (member : m ∈ c.motionOf now p a) :
    p.timestamp ≠ 0 ∧ ∃ samples, p.payload = .motion samples ∧
      ∃ raw ∈ samples, m = raw.stamped (a.correctAt p.timestamp now).1 m.lidar := by
  unfold motionOf stampOf? at member
  split at member
  · rename_i base id samples stamp payload
    split at stamp
    · cases stamp
    split at stamp
    · cases stamp
    · rename_i running
      cases stamp
      obtain ⟨raw, inside, rfl⟩ := List.mem_map.mp member
      exact ⟨running, samples, payload, raw, inside, rfl⟩
  · cases member

namespace Watch

/-- The motion samples in a dump. -/
def motionIn (d : Chunk.Dump) : List Motion :=
  match d.payload with
  | some (.scans _ motion _) => motion
  | _ => []

/-- The motion samples that are kept or have been handed over. -/
def held (w : Watch) : List Motion := w.dumps.flatMap (motionIn ·.1) ++ w.client.motion

/-- An act brings a motion sample: a packet with a time has it, which comes while the client logs. -/
structure Brings (w : Watch) (k : Act) (now : UInt64) (p : Packet) (raw : RawMotion) (m : Motion) : Prop where
  arrival : k.arrival? = some (now, p)
  logging : w.client.logging = true
  numbered : (w.client.scannerId p.serial).1 = some m.lidar
  running : p.timestamp ≠ 0
  sample : ∃ samples, p.payload = .motion samples ∧ raw ∈ samples
  stamped : m = raw.stamped (w.authority.correctAt p.timestamp now).1 m.lidar

/-- The sample by which an act fixes the offset, if there is no offset yet. -/
def fixes? (w : Watch) (k : Act) : Option (UInt64 × UInt64) :=
  match k.arrival? with
  | some (now, p) =>
    if (w.client.scannerId p.serial).1.isSome ∧ p.timestamp ≠ 0 then fixedBy? p.timestamp now else none
  | none => none

/-- The first sample of a run that can fix the offset. -/
def fixing (w : Watch) : List Act → Option (UInt64 × UInt64)
  | [] => none
  | k :: acts => (w.fixes? k).or ((w.act k).fixing acts)

section Arrival

variable {w : Watch} {k : Act}

theorem act_of_arrival {now : UInt64} {p : Packet} (arrival : k.arrival? = some (now, p)) :
    w.act k = w.act (.packet now p) := by
  cases k with
  | packet =>
    cases arrival
    rfl
  | datagram now bytes =>
    cases decoded : Packet.decode bytes with
    | ok p =>
      simp only [Act.arrival?, decoded, Except.toOption, Option.map_some, Option.some.injEq, Prod.mk.injEq] at arrival
      obtain ⟨rfl, rfl⟩ := arrival
      exact act_datagram_of_ok w _ decoded
    | error => simp [Act.arrival?, decoded, Except.toOption] at arrival
  | _ => cases arrival

/-- Where no packet arrives, the authority stays as it is and nothing comes to be held. -/
theorem act_of_no_arrival (none : k.arrival? = none) :
    (w.act k).authority = w.authority ∧ ∀ m ∈ (w.act k).held, m ∈ w.held := by
  cases k with
  | packet => cases none
  | datagram now bytes =>
    cases decoded : Packet.decode bytes with
    | ok p => simp [Act.arrival?, decoded, Except.toOption] at none
    | error =>
      rw [act_datagram_of_error w now decoded]
      exact ⟨rfl, fun m member => member⟩
  | number serial =>
    have same : (w.client.scannerId serial).2.motion = w.client.motion :=
      congrArg (·.2.2) (w.client.scannerId_kept serial)
    refine ⟨rfl, fun m member => ?_⟩
    rw [held, act, same] at member
    exact member
  | start =>
    refine ⟨rfl, fun m member => ?_⟩
    rcases w.client.start_cases with ⟨same, _⟩ | empty
    · rw [held, act, same] at member
      exact member
    · rw [held, act, empty] at member
      exact List.mem_append_left _ ((List.mem_append.mp member).resolve_right List.not_mem_nil)
  | freeze =>
    refine ⟨rfl, fun m member => ?_⟩
    rw [held, act] at member
    simpa [held, motionIn, Client.freeze] using member
  | opened => exact ⟨rfl, fun m member => member⟩
  | stop => exact ⟨rfl, fun m member => member⟩

theorem act_arrival_motion {now : UInt64} {p : Packet} (arrival : k.arrival? = some (now, p)) :
    (w.act k).client.motion =
      w.client.motion ++ if w.client.logging then w.client.motionOf now p w.authority else [] := by
  rw [act_of_arrival arrival]
  exact congrArg (·.2.2) (w.client.ingest_kept now p w.authority)

/-- What is brought is kept. -/
theorem Brings.kept {now : UInt64} {p : Packet} {raw : RawMotion} {m : Motion} (brings : w.Brings k now p raw m) :
    m ∈ (w.act k).client.motion := by
  obtain ⟨samples, payload, inside⟩ := brings.sample
  have stamp : w.client.stampOf? now p w.authority = some ((w.authority.correctAt p.timestamp now).1, m.lidar) := by
    rw [Client.stampOf?, brings.numbered]
    exact if_neg brings.running
  have brought : m ∈ w.client.motionOf now p w.authority := by
    simp only [Client.motionOf, stamp, payload]
    exact List.mem_map.mpr ⟨raw, inside, brings.stamped.symm⟩
  rw [act_arrival_motion brings.arrival, brings.logging]
  exact List.mem_append_right _ brought

theorem held_act {m : Motion} (member : m ∈ (w.act k).held) : m ∈ w.held ∨ ∃ now p raw, w.Brings k now p raw m := by
  cases arrival : k.arrival? with
  | none => exact Or.inl ((act_of_no_arrival arrival).2 m member)
  | some arrived =>
    obtain ⟨now, p⟩ := arrived
    have dumps : (w.act k).dumps = w.dumps := by
      rw [act_of_arrival arrival]
      rfl
    rw [held, dumps, act_arrival_motion arrival, ← List.append_assoc] at member
    rcases List.mem_append.mp member with old | new
    · exact Or.inl old
    split at new
    · rename_i logging
      obtain ⟨running, samples, payload, raw, inside, stamped⟩ := Client.mem_motionOf new
      exact Or.inr ⟨now, p, raw, arrival, logging, Client.given_of_mem_motionOf new, running,
        ⟨samples, payload, inside⟩, stamped⟩
    · cases new

theorem offset_act (w : Watch) (k : Act) :
    (w.act k).authority.offset = w.authority.offset.or ((w.fixes? k).map offsetOf) := by
  cases arrival : k.arrival? with
  | none =>
    rw [(act_of_no_arrival arrival).1, fixes?, arrival]
    exact (Option.or_none ..).symm
  | some arrived =>
    obtain ⟨now, p⟩ := arrived
    have brought : (w.act k).authority = (w.client.ingest now p w.authority).2 := by
      rw [act_of_arrival arrival]
      rfl
    rw [brought, fixes?, arrival]
    cases given : (w.client.scannerId p.serial).1 with
    | none =>
      rw [Client.ingest_of_none now w.authority given]
      simp [given]
    | some id =>
      rw [Client.ingest_of_some now w.authority given]
      split
      · rename_i zero
        simp [zero]
      · rename_i running
        simpa [running, given] using correctAt_offset w.authority p.timestamp now

end Arrival

section Run

variable {w : Watch} {acts : List Act}

/-- Whatever is held at the end of a run was held from the start or is brought by one of the acts. -/
theorem held_run {m : Motion} (member : m ∈ (w.run acts).held) :
    m ∈ w.held ∨ ∃ before k after now p raw, acts = before ++ k :: after ∧ (w.run before).Brings k now p raw m := by
  induction acts generalizing w with
  | nil => exact Or.inl member
  | cons k acts ih =>
    rcases ih member with first | ⟨before, k', after, now, p, raw, rfl, brings⟩
    · rcases held_act first with old | ⟨now, p, raw, brings⟩
      · exact Or.inl old
      · exact Or.inr ⟨[], k, acts, now, p, raw, rfl, brings⟩
    · exact Or.inr ⟨k :: before, k', after, now, p, raw, rfl, brings⟩

theorem offset_run (w : Watch) (acts : List Act) :
    (w.run acts).authority.offset = w.authority.offset.or ((w.fixing acts).map offsetOf) := by
  induction acts generalizing w with
  | nil => exact (Option.or_none ..).symm
  | cons k acts ih =>
    have later : (w.run (k :: acts)).authority.offset = _ := ih (w.act k)
    rw [later, offset_act, fixing, Option.map_or, Option.or_assoc]

theorem fixing_append (w : Watch) (acts more : List Act) :
    w.fixing (acts ++ more) = (w.fixing acts).or ((w.run acts).fixing more) := by
  induction acts generalizing w with
  | nil => rfl
  | cons k acts ih =>
    rw [List.cons_append, fixing, ih, fixing, Option.or_assoc]
    rfl

theorem usable_of_fixing {fixed : UInt64 × UInt64} (found : w.fixing acts = some fixed) : usable fixed.1 = true := by
  induction acts generalizing w with
  | nil => cases found
  | cons k acts ih =>
    rw [fixing, Option.or_eq_some_iff] at found
    rcases found with here | ⟨_, later⟩
    · unfold fixes? at here
      split at here
      · split at here
        · exact usable_of_fixedBy here
        · cases here
      · cases here
    · exact ih later

/-- A motion sample of a packet has the time zero if the time of the packet is moved to zero and its own offset is zero. -/
theorem Brings.timestamp_eq_zero_iff {k : Act} {now : UInt64} {p : Packet} {raw : RawMotion} {m : Motion}
    (unfixed : w.authority.offset = none) (brings : (w.run acts).Brings k now p raw m) :
    m.timestamp = 0 ↔ raw.offset = 0 ∧ BeforeZero (w.fixing (acts ++ [k])) p.timestamp now := by
  have known : (w.run acts).authority.offset = (w.fixing acts).map offsetOf := by
    rw [offset_run, unfixed, Option.none_or]
  -- The packet itself may be the one that fixes the offset.
  have last : (w.run acts).fixing [k] = fixedBy? p.timestamp now := by
    simp only [fixing, Option.or_none, fixes?, brings.arrival, brings.numbered, Option.isSome_some, true_and,
      brings.running, ne_eq, not_false_eq_true, if_true]
  have base := correctAt_eq_zero_iff known (fun f found => usable_of_fixing found) p.timestamp now
  have time : m.timestamp = laterBy ((w.run acts).authority.correctAt p.timestamp now).1 raw.offset :=
    congrArg Motion.timestamp brings.stamped
  rw [time, laterBy_eq_zero_iff, base, fixing_append, last, and_comm]

end Run

/-- Whatever packets come and whatever the system clock shows, every motion sample of a packet with a time that comes
while the client logs is kept. The line that it has in the file begins with zero if the packet is moved to zero and the
offset of the sample is zero. A dump holds no other motion samples, and the file written of it has a line for each. So no
line begins with zero if the packet that fixes the difference of the clocks comes no earlier by the system clock than by
its own, and the system clock never shows zero. -/
theorem motion_times (w : Csv.Writer) (serials : List String) (primary : Option String) (acts : List Act) :
    let w₀ := fresh serials { primary }
    (∀ before k now p raw m, (w₀.run before).Brings k now p raw m → m ∈ ((w₀.run before).act k).client.motion ∧
      (firstField (w.row m.row).toList = ['0'] ↔ raw.offset = 0 ∧ BeforeZero (w₀.fixing (before ++ [k])) p.timestamp now)) ∧
    ∀ entry ∈ (w₀.run acts).dumps, ∃ points motion table, entry.1.payload = some (.scans points motion table) ∧
      (∀ m ∈ motion, ∃ before k after now p raw, acts = before ++ k :: after ∧ (w₀.run before).Brings k now p raw m) ∧
      ((∀ fixed, w₀.fixing acts = some fixed → fixed.1 ≤ fixed.2) →
        (∀ k ∈ acts, ∀ now p, k.arrival? = some (now, p) → now ≠ 0) →
        ∀ m ∈ motion, firstField (w.row m.row).toList ≠ ['0']) ∧
      ∀ dir index t files t', entry.1.write w dir index t = (.ok files, t') →
        if motion = [] then Chunk.Payload.filePath dir "imu" index "csv" ∉ files
        else t'.readText (Chunk.Payload.filePath dir "imu" index "csv") =
          .ok (String.join (motion.map fun m => w.row m.row)) := by
  intro w₀
  have zero {before : List Act} {k : Act} {now : UInt64} {p : Packet} {raw : RawMotion} {m : Motion}
      (brings : (w₀.run before).Brings k now p raw m) : firstField (w.row m.row).toList = ['0'] ↔
        raw.offset = 0 ∧ BeforeZero (w₀.fixing (before ++ [k])) p.timestamp now :=
    (m.firstField_zero_iff w).trans (brings.timestamp_eq_zero_iff rfl)
  refine ⟨fun before k now p raw m brings => ⟨brings.kept, zero brings⟩, fun entry member => ?_⟩
  obtain ⟨table, payload, _⟩ := ((Faithful.fresh serials { primary }).run acts).attributed entry member
  refine ⟨_, _, table, payload, ?_⟩
  generalize entry.2.points.map (·.2) = points at payload
  generalize entry.2.motion.map (·.2) = motion at payload
  have origin (m : Motion) (inside : m ∈ motion) :
      ∃ before k after now p raw, acts = before ++ k :: after ∧ (w₀.run before).Brings k now p raw m := by
    have here : m ∈ motionIn entry.1 := by rwa [motionIn, payload]
    have kept : m ∈ (w₀.run acts).held := List.mem_append_left _ (List.mem_flatMap.mpr ⟨entry, member, here⟩)
    exact (held_run kept).resolve_left List.not_mem_nil
  refine ⟨origin, fun ahead shown m inside => ?_, fun dir index t files t' done => ?_⟩
  · obtain ⟨before, k, after, now, p, raw, rfl, brings⟩ := origin m inside
    rw [ne_eq, zero brings, not_and]
    intro _ back
    unfold BeforeZero at back
    split at back
    · rename_i first read found
      have fixed : w₀.fixing (before ++ k :: after) = some (first, read) := by
        rw [List.append_cons, fixing_append, found, Option.some_or]
      have reached : first.toNat ≤ read.toNat := ahead _ fixed
      -- Only a packet at the time zero lies that far back, and it brings nothing.
      have none : p.timestamp.toNat = 0 := by omega
      exact brings.running (UInt64.toNat_inj.mp none)
    · exact shown k (by simp) now p brings.arrival back
  · rw [Chunk.Dump.write, payload] at done
    obtain ⟨_, written⟩ := Chunk.write_scans done
    unfold Chunk.Tabled at written
    split at written
    · rename_i none
      rw [if_pos (List.map_eq_nil_iff.mp none)]
      exact written
    · rename_i some
      rw [if_neg fun none => some (List.map_eq_nil_iff.mpr none), written.2.readText, Csv.Writer.rows, List.map_map]
      rfl

/-- A sample of a scanner at rest. -/
def atRest (offset : UInt32) : RawMotion :=
  { gyro := ⟨⟨0⟩, ⟨0⟩, ⟨0⟩⟩, acc := ⟨⟨0⟩, ⟨0⟩, ⟨0x3F800000⟩⟩, offset }

/-- A chunk with two packets of a scanner, of which the first is empty. -/
def twoPackets (first second : UInt64) : List Act :=
  [.start, .packet 1600000000000000000 ⟨"A", first, .motion []⟩,
    .packet 1600000000000000500 ⟨"A", second, .motion [atRest 0, atRest 5]⟩, .freeze]

def emptyRoot : Storage.Tree := { entries := [(["usb"], .directory)] }

/-- What is handed over at the end of it, where the first sample comes at this time. -/
def restDump (time : UInt64) : Chunk.Dump :=
  ⟨clientName, some (.scans [] [(atRest 0).stamped time 0, (atRest 5).stamped time 0] [(0, "A")])⟩

theorem motion_times_steady :
    ∃ entry ∈ ((fresh ["A"] { primary := "lidar" }).run (twoPackets 1000 1300)).dumps,
      ∃ files t', (motionIn entry.1).map (·.timestamp) = [1600000000000000300, 1600000000000000305] ∧
        (∀ m ∈ motionIn entry.1, firstField (Csv.Writer.standard.row m.row).toList ≠ ['0']) ∧
        entry.1.write .standard "usb" 3 emptyRoot = (.ok files, t') ∧
        t'.readText "usb/imu0003.csv" = .ok (String.join ((motionIn entry.1).map fun m => Csv.Writer.standard.row m.row)) := by
  have handed : ((fresh ["A"] { primary := "lidar" }).run (twoPackets 1000 1300)).dumps.map (·.1) =
      [restDump 1600000000000000300] := by decide +kernel
  obtain ⟨entry, member, same⟩ := List.mem_map.mp (handed ▸ List.mem_singleton_self (restDump 1600000000000000300))
  obtain ⟨_, dumped⟩ := motion_times .standard ["A"] (some "lidar") (twoPackets 1000 1300)
  obtain ⟨points, motion, table, payload, _, nonzero, written⟩ := dumped entry member
  have here : motionIn entry.1 = motion := by rw [motionIn, payload]
  have ahead : ∀ fixed, (fresh ["A"] { primary := "lidar" }).fixing (twoPackets 1000 1300) = some fixed →
      fixed.1 ≤ fixed.2 := by
    have first : (fresh ["A"] { primary := "lidar" }).fixing (twoPackets 1000 1300) = some (1000, 1600000000000000000) := by
      decide +kernel
    intro fixed found
    cases first.symm.trans found
    decide
  have shown : ∀ k ∈ twoPackets 1000 1300, ∀ now p, k.arrival? = some (now, p) → now ≠ 0 := by
    intro k inside now p arrival
    simp only [twoPackets, List.mem_cons, List.not_mem_nil, or_false] at inside
    rcases inside with rfl | rfl | rfl | rfl
    all_goals cases arrival
    all_goals decide
  have whole : entry.1.write .standard "usb" 3 emptyRoot =
      (.ok ["usb/imu0003.csv", "usb/lidar0003.sn"], (entry.1.write .standard "usb" 3 emptyRoot).2) := by
    refine Prod.ext ?_ rfl
    rw [same]
    decide +kernel
  have times : (motionIn entry.1).map (·.timestamp) = [1600000000000000300, 1600000000000000305] := by
    rw [same]
    decide +kernel
  have some : motion ≠ [] := by
    rintro rfl
    rw [here] at times
    cases times
  have path : Chunk.Payload.filePath "usb" "imu" 3 "csv" = "usb/imu0003.csv" := by decide +kernel
  have text := written "usb" 3 emptyRoot _ _ whole
  rw [if_neg some, path, ← here] at text
  exact ⟨entry, member, _, _, times, here ▸ nonzero ahead shown, whole, text⟩

/-- The clock of the scanner is set back by far, and the system clock has not run for so long. A sample is written at the
time zero. -/
theorem clock_set_back :
    ∃ entry ∈ ((fresh ["A"] { primary := "lidar" }).run (twoPackets 9223372036854775807 1)).dumps, ∃ files t',
      entry.1.write .standard "usb" 0 emptyRoot = (.ok files, t') ∧
        t'.readText "usb/imu0000.csv" =
          .ok "0 0.0 0.0 0.0 0.0 0.0 1.0 0\n5 0.0 0.0 0.0 0.0 0.0 1.0 0\n" := by
  have handed : ((fresh ["A"] { primary := "lidar" }).run (twoPackets 9223372036854775807 1)).dumps.map (·.1) =
      [restDump 0] := by decide +kernel
  obtain ⟨entry, member, same⟩ := List.mem_map.mp (handed ▸ List.mem_singleton_self (restDump 0))
  have done : (entry.1.write .standard "usb" 0 emptyRoot).1 = .ok ["usb/imu0000.csv", "usb/lidar0000.sn"] := by
    rw [same]
    decide +kernel
  have text : (entry.1.write .standard "usb" 0 emptyRoot).2.readText "usb/imu0000.csv" =
      .ok "0 0.0 0.0 0.0 0.0 0.0 1.0 0\n5 0.0 0.0 0.0 0.0 0.0 1.0 0\n" := by
    rw [same]
    decide +kernel
  exact ⟨entry, member, _, _, Prod.ext done rfl, text⟩

end Watch

end Lidar

end CaptureRig

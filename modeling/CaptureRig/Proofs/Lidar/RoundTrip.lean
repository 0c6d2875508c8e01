import CaptureRig.Proofs.Lidar.Layout
import CaptureRig.Proofs.Lidar.Serial

namespace CaptureRig.Lidar

theorem Payload.width_pos (payload : Payload) : 0 < payload.width := by
  cases payload <;> exact Nat.zero_lt_succ _

namespace Packet

/-- The header that is read when the samples are too many to be counted. -/
def wrappedHeader (p : Packet) : Header :=
  { p.header with serial := keptSerial p.serial, count := p.size % 65536 }

theorem run_header (p : Packet) : Header.read.run p.encode = .ok (p.wrappedHeader, p.payload.encode) := by
  have same : p.wrappedHeader.encode (serialField p.serial) = p.header.encode (serialField p.serial) := by
    have count : Bytes.ofNat 2 (p.size % 65536) = Bytes.ofNat 2 p.size := Bytes.ofNat_mod 2 p.size
    simp only [Header.encode, wrappedHeader, count, header]
  refine Header.run_read_eq_ok.mpr ⟨p.payload.kind_lt, Nat.mod_lt _ (by decide), serialField p.serial,
    length_serialField p.serial, serialOfField_serialField p.serial, ?_⟩
  rw [same, encode_eq]

theorem length_encode (p : Packet) : p.encode.length = headerSize + p.size * p.payload.width := by
  rw [encode_eq, List.length_append, Header.length_encode _ (length_serialField p.serial), Payload.length_encode]
  rfl

/-- Writing and reading back keeps the kind, the time and all samples, and of the serial number what its field keeps.
With more than 65535 samples the count does not fit the datagram, which is then refused. -/
theorem decode_encode (p : Packet) :
    (p.size ≤ 65535 →
      Packet.decode p.encode = .ok { p with serial := keptSerial p.serial } ∧
        (p.serial.utf8ByteSize ≤ 16 → p.serial.toList.getLast? ≠ some '\x00' → Packet.decode p.encode = .ok p)) ∧
    (65535 < p.size →
      Packet.decode p.encode =
        .error (.lengthMismatch (p.size % 65536 * p.payload.width) (p.size * p.payload.width))) := by
  constructor
  · intro few
    have back : Packet.decode p.encode = .ok { p with serial := keptSerial p.serial } := by
      rw [decode_eq_ok_iff]
      exact ⟨Nat.lt_succ_of_le few, serialField p.serial, length_serialField p.serial,
        serialOfField_serialField p.serial, rfl⟩
    refine ⟨back, fun fits ends => ?_⟩
    rw [back, keptSerial_eq_self fits ends]
  · intro many
    have size : p.encode.length - headerSize = p.size * p.payload.width := by
      rw [length_encode, Nat.add_sub_cancel_left]
    have differ : p.size * p.payload.width ≠ p.size % 65536 * p.payload.width := by
      intro same
      have counts := Nat.eq_of_mul_eq_mul_right p.payload.width_pos same
      omega
    rw [decode_eq_error, Packet.read, if_neg (by rw [length_encode]; omega), Cursor.result_eq_error, Packet.reader,
      Cursor.run_bind_of_ok p.run_header, size]
    exact Cursor.run_bind_of_error (Payload.run_read_mismatch p.payload.sampleSize?_kind differ _)

/-- A motion sample whose first value is not a number. -/
def strayMotion : RawMotion :=
  { gyro := ⟨⟨0x7FC00001⟩, ⟨0x80000000⟩, ⟨0⟩⟩, acc := ⟨⟨0x3F800000⟩, ⟨0⟩, ⟨0xFF800000⟩⟩, offset := 4294967295 }

/-- The serial number is cut within its last character; the zero inside it stays. -/
def longNamed : Packet :=
  { serial := "lidar-\x00-front--é", timestamp := 18446744073709551615, payload := .motion [strayMotion, strayMotion] }

def crowded : Packet :=
  { serial := "lidar", timestamp := 0
    payload := .points (List.replicate 65537
      { x := -1, y := 2147483647, z := 0, reflectivity := 255, tag := 0, offset := 7 }) }

theorem decode_encode_cut_and_wrapped :
    (longNamed.size ≤ 65535 ∧ 65535 < crowded.size) ∧
      Packet.decode longNamed.encode = .ok { longNamed with serial := "lidar-\x00-front--\uFFFD" } ∧
      ("lidar".utf8ByteSize ≤ 16 ∧ "lidar".toList.getLast? ≠ some '\x00' ∧
        Packet.decode { longNamed with serial := "lidar" }.encode = .ok { longNamed with serial := "lidar" }) ∧
      Packet.decode crowded.encode = .error (.lengthMismatch 18 1179666) := by
  have kept : keptSerial longNamed.serial = "lidar-\x00-front--\uFFFD" := by decide +kernel
  have few : longNamed.size ≤ 65535 := by decide
  have count : crowded.size = 65537 := List.length_replicate
  have many : 65535 < crowded.size := by omega
  have fits : "lidar".utf8ByteSize ≤ 16 := by decide +kernel
  have ends : "lidar".toList.getLast? ≠ some '\x00' := by decide +kernel
  have cut := ((decode_encode longNamed).1 few).1
  have whole := ((decode_encode { longNamed with serial := "lidar" }).1 few).2 fits ends
  have wrapped := (decode_encode crowded).2 many
  rw [kept] at cut
  rw [count] at wrapped
  exact ⟨⟨few, many⟩, cut, ⟨fits, ends, whole⟩, wrapped⟩

end Packet

end CaptureRig.Lidar

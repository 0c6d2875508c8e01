import CaptureRig.Lidar.Datagram
import CaptureRig.Proofs.Text.Utf8
import Mathlib.Data.List.DropRight

namespace CaptureRig.Lidar

def isNull (c : Char) : Bool := c.toNat == 0

theorem eq_null {c : Char} (null : isNull c = true) : c = '\x00' := by
  apply Char.toNat_inj.mp
  exact beq_iff_eq.mp null

/-- What a field keeps of a serial number: as much as its bytes hold, without the zeros at the end. -/
def keptSerial (serial : String) : String :=
  String.ofList ((Utf8.decodeLossy ((Utf8.encode serial.toList).take serialWidth)).rdropWhile isNull)

theorem rdropWhile_append_nulls (cs : List Char) (n : Nat) :
    (cs ++ List.replicate n '\x00').rdropWhile isNull = cs.rdropWhile isNull := by
  induction n with
  | zero => rw [List.replicate_zero, List.append_nil]
  | succ n ih => rw [List.replicate_succ', ← List.append_assoc, List.rdropWhile_concat_pos isNull _ _ rfl, ih]

/-- What is dropped from the end is nothing but zeros. -/
theorem eq_rdropWhile_append_nulls (cs : List Char) :
    ∃ n, cs = cs.rdropWhile isNull ++ List.replicate n '\x00' := by
  refine ⟨(cs.rtakeWhile isNull).length, ?_⟩
  have nulls : cs.rtakeWhile isNull = List.replicate (cs.rtakeWhile isNull).length '\x00' :=
    List.eq_replicate_of_mem fun c member => eq_null (List.mem_rtakeWhile_imp member)
  rw [← nulls, List.rdropWhile_append_rtakeWhile]

theorem length_serialField (serial : String) : (serialField serial).length = serialWidth := by
  have short : ((Utf8.encode serial.toList).take serialWidth).length ≤ serialWidth := List.length_take_le _ _
  rw [serialField, List.length_append, List.length_replicate]
  omega

theorem length_encode_toList (serial : String) : (Utf8.encode serial.toList).length = serial.utf8ByteSize := by
  rw [String.utf8ByteSize, ← String.utf8Encode_toList, List.utf8Encode, List.size_toByteArray]
  rfl

theorem serialOfField_serialField (serial : String) : serialOfField (serialField serial) = keptSerial serial := by
  change String.ofList ((Utf8.decodeLossy (serialField serial)).rdropWhile isNull) = keptSerial serial
  rw [keptSerial, serialField]
  by_cases fits : (Utf8.encode serial.toList).length ≤ serialWidth
  · rw [List.take_of_length_le fits, ← Utf8.encode_nulls, ← Utf8.encode_append, Utf8.decodeLossy_encode,
      Utf8.decodeLossy_encode, rdropWhile_append_nulls]
  · have full : ((Utf8.encode serial.toList).take serialWidth).length = serialWidth :=
      List.length_take_of_le (by omega)
    rw [full, Nat.sub_self, List.replicate_zero, List.append_nil]

theorem keptSerial_eq_self {serial : String} (fits : serial.utf8ByteSize ≤ serialWidth)
    (ends : serial.toList.getLast? ≠ some '\x00') : keptSerial serial = serial := by
  rw [← length_encode_toList] at fits
  have whole : serial.toList.rdropWhile isNull = serial.toList := by
    refine List.rdropWhile_eq_self_iff.mpr fun some null => ends ?_
    rw [List.getLast?_eq_some_getLast some, eq_null null]
  rw [keptSerial, List.take_of_length_le fits, Utf8.decodeLossy_encode, whole, String.ofList_toList]

theorem serialField_serialOfField {field : List UInt8} (full : field.length = serialWidth)
    (valid : field.toByteArray.IsValidUTF8) : serialField (serialOfField field) = field := by
  obtain ⟨cs, rfl⟩ := Utf8.exists_eq_encode valid
  obtain ⟨n, split⟩ := eq_rdropWhile_append_nulls cs
  have bytes : Utf8.encode cs = Utf8.encode (cs.rdropWhile isNull) ++ List.replicate n 0 := by
    rw [← Utf8.encode_nulls, ← Utf8.encode_append, ← split]
  have length := congrArg List.length bytes
  rw [full, List.length_append, List.length_replicate] at length
  change serialField (String.ofList ((Utf8.decodeLossy (Utf8.encode cs)).rdropWhile isNull)) = Utf8.encode cs
  rw [Utf8.decodeLossy_encode, serialField, String.toList_ofList, List.take_of_length_le (by omega), bytes]
  congr 2
  omega

end CaptureRig.Lidar

import CaptureRig.Proofs.Lidar.Layout
import CaptureRig.Proofs.Lidar.Serial

namespace CaptureRig.Lidar

/-- The number at an offset, its lowest byte first. -/
def numberAt (bytes : List UInt8) (offset width : Nat) : Nat := Bytes.toNat ((bytes.drop offset).take width)

/-- The bytes of the serial number. -/
def serialBytes (bytes : List UInt8) : List UInt8 := (bytes.drop 4).take 16

/-- The kinds of samples, and how many bytes one sample has. -/
inductive SampleKind : Nat → Nat → Prop where
  | points : SampleKind 0 18
  | motion : SampleKind 1 28

/-- The bytes are a datagram. -/
structure Grammatical (bytes : List UInt8) : Prop where
  whole : 30 ≤ bytes.length
  magic : numberAt bytes 0 2 = 0x5352
  version : numberAt bytes 2 1 = 1
  samples : ∃ width, SampleKind (numberAt bytes 3 1) width ∧ bytes.length = 30 + numberAt bytes 28 2 * width

/-- What can be wrong with bytes, each flaw on its own terms: several may stand together. -/
inductive Flaw (bytes : List UInt8) : DecodeError → Prop where
  | tooShort (short : bytes.length < 30) : Flaw bytes (.tooShort bytes.length)
  | badMagic (other : numberAt bytes 0 2 ≠ 0x5352) : Flaw bytes (.badMagic (numberAt bytes 0 2))
  | unsupportedVersion (other : numberAt bytes 2 1 ≠ 1) : Flaw bytes (.unsupportedVersion (numberAt bytes 2 1))
  | unknownKind (unknown : ∀ width, ¬SampleKind (numberAt bytes 3 1) width) :
    Flaw bytes (.unknownKind (numberAt bytes 3 1))
  | lengthMismatch {width : Nat} (kind : SampleKind (numberAt bytes 3 1) width)
    (other : bytes.length - 30 ≠ numberAt bytes 28 2 * width) :
    Flaw bytes (.lengthMismatch (numberAt bytes 28 2 * width) (bytes.length - 30))

/-- The place of a flaw in the order in which they are looked for. -/
def DecodeError.rank : DecodeError → Nat
  | .tooShort _ => 0
  | .badMagic _ => 1
  | .unsupportedVersion _ => 2
  | .unknownKind _ => 3
  | .lengthMismatch _ _ => 4

structure FirstFlaw (bytes : List UInt8) (cause : DecodeError) : Prop where
  flaw : Flaw bytes cause
  first : ∀ other, Flaw bytes other → cause.rank ≤ other.rank

theorem SampleKind.unique {kind width other : Nat} (one : SampleKind kind width) (another : SampleKind kind other) :
    width = other := by
  cases one <;> cases another <;> rfl

/-- No two flaws are looked for at the same time. -/
theorem Flaw.eq_of_rank {bytes : List UInt8} {one another : DecodeError} (flaw : Flaw bytes one)
    (other : Flaw bytes another) (same : one.rank = another.rank) : one = another := by
  cases flaw <;> cases other <;> try first | rfl | cases same
  case lengthMismatch.lengthMismatch.refl kind _ _ known _ => rw [kind.unique known]

theorem FirstFlaw.unique {bytes : List UInt8} {one another : DecodeError} (first : FirstFlaw bytes one)
    (other : FirstFlaw bytes another) : one = another :=
  first.flaw.eq_of_rank other.flaw (Nat.le_antisymm (first.first _ other.flaw) (other.first _ first.flaw))

/-- The check for the flaw of a rank is passed. -/
def Passes (bytes : List UInt8) : Nat → Prop
  | 0 => 30 ≤ bytes.length
  | 1 => numberAt bytes 0 2 = 0x5352
  | 2 => numberAt bytes 2 1 = 1
  | 3 => ∃ width, SampleKind (numberAt bytes 3 1) width
  | _ => ∀ width, SampleKind (numberAt bytes 3 1) width → bytes.length - 30 = numberAt bytes 28 2 * width

theorem Flaw.not_passes {bytes : List UInt8} {cause : DecodeError} (flaw : Flaw bytes cause) :
    ¬Passes bytes cause.rank := by
  intro passes
  cases flaw with
  | tooShort short => exact absurd passes (Nat.not_le_of_lt short)
  | badMagic other => exact other passes
  | unsupportedVersion other => exact other passes
  | unknownKind unknown => exact passes.elim unknown
  | lengthMismatch kind other => exact other (passes _ kind)

theorem FirstFlaw.of_passed {bytes : List UInt8} {cause : DecodeError} (flaw : Flaw bytes cause)
    (passed : ∀ n < cause.rank, Passes bytes n) : FirstFlaw bytes cause :=
  ⟨flaw, fun other also => Nat.le_of_not_lt fun earlier => also.not_passes (passed other.rank earlier)⟩

theorem Grammatical.passes {bytes : List UInt8} (grammatical : Grammatical bytes) (n : Nat) : Passes bytes n := by
  obtain ⟨whole, magic, version, width, kind, length⟩ := grammatical
  match n with
  | 0 => exact whole
  | 1 => exact magic
  | 2 => exact version
  | 3 => exact ⟨width, kind⟩
  | _ + 4 =>
    intro other known
    rw [← kind.unique known]
    omega

namespace Cursor

variable {ε : Type}

theorem run_bytes_of_le {n : Nat} {left : List UInt8} (enough : n ≤ left.length) :
    (bytes n : Cursor ε (List UInt8)).run left = .ok (left.take n, left.drop n) :=
  run_bytes_eq_ok.mpr ⟨List.length_take_of_le enough, (List.take_append_drop n left).symm⟩

theorem run_numberAt {bytes : List UInt8} {offset width : Nat} (enough : offset + width ≤ bytes.length) :
    (number width : Cursor ε Nat).run (bytes.drop offset) =
      .ok (numberAt bytes offset width, bytes.drop (offset + width)) := by
  have there : width ≤ (bytes.drop offset).length := by rw [List.length_drop]; omega
  rw [number, run_bind_of_ok (run_bytes_of_le there), List.drop_drop]
  rfl

end Cursor

/-- The header that stands in the bytes. -/
def headerAt (bytes : List UInt8) : Header :=
  { kind := numberAt bytes 3 1, serial := serialOfField (serialBytes bytes)
    timestamp := UInt64.ofNat (numberAt bytes 20 8), count := numberAt bytes 28 2 }

theorem Header.run_read {bytes : List UInt8} (whole : 30 ≤ bytes.length) :
    Header.read.run bytes =
      if numberAt bytes 0 2 ≠ magic then .error (.refused (.badMagic (numberAt bytes 0 2)))
      else if numberAt bytes 2 1 ≠ version then .error (.refused (.unsupportedVersion (numberAt bytes 2 1)))
      else .ok (headerAt bytes, bytes.drop 30) := by
  have found := Cursor.run_numberAt (ε := DecodeError) (by omega : 0 + 2 ≤ bytes.length)
  rw [List.drop_zero] at found
  rw [Header.read, Cursor.run_bind_of_ok found]
  by_cases known : numberAt bytes 0 2 ≠ magic
  · rw [if_pos known, if_pos known]
    rfl
  rw [if_neg known, if_neg known, Cursor.run_bind_of_ok (Cursor.run_numberAt (by omega : 2 + 1 ≤ bytes.length))]
  by_cases current : numberAt bytes 2 1 ≠ version
  · rw [if_pos current, if_pos current]
    rfl
  have field : (Cursor.bytes serialWidth).run (bytes.drop (3 + 1)) =
      (.ok (serialBytes bytes, bytes.drop 20) : Except (ReadError DecodeError) _) := by
    have enough : serialWidth ≤ (bytes.drop (3 + 1)).length := by
      change 16 ≤ _
      rw [List.length_drop]
      omega
    rw [Cursor.run_bytes_of_le enough, List.drop_drop]
    rfl
  have time : Cursor.word64.run (bytes.drop 20) =
      (.ok (UInt64.ofNat (numberAt bytes 20 8), bytes.drop (20 + 8)) : Except (ReadError DecodeError) _) :=
    Cursor.run_bind_of_ok (Cursor.run_numberAt (by omega : 20 + 8 ≤ bytes.length))
  rw [if_neg current, if_neg current, Cursor.run_bind_of_ok (Cursor.run_numberAt (by omega : 3 + 1 ≤ bytes.length)),
    Cursor.run_bind_of_ok field, Cursor.run_bind_of_ok time,
    Cursor.run_bind_of_ok (Cursor.run_numberAt (by omega : 28 + 2 ≤ bytes.length))]
  rfl

theorem sampleSize?_eq_some {kind width : Nat} : sampleSize? kind = some width ↔ SampleKind kind width := by
  constructor
  · intro known
    match kind with
    | 0 =>
      cases known
      exact .points
    | 1 =>
      cases known
      exact .motion
    | kind + 2 => cases known
  · rintro (_ | _) <;> rfl

theorem sampleSize?_eq_none {kind : Nat} (unknown : ∀ width, ¬SampleKind kind width) : sampleSize? kind = none :=
  Option.eq_none_iff_forall_ne_some.mpr fun width known => unknown width (sampleSize?_eq_some.mp known)

namespace Packet

theorem decode_refuses {bytes : List UInt8} {cause : DecodeError} (whole : 30 ≤ bytes.length)
    (run : (Packet.reader bytes.length).run bytes = .error (.refused cause)) : Packet.decode bytes = .error cause := by
  rw [decode_eq_error, Packet.read, if_neg (by change ¬bytes.length < 30; omega), Cursor.result_eq_error, run]

theorem decode_of_grammatical {bytes : List UInt8} (grammatical : Grammatical bytes) :
    ∃ p, Packet.decode bytes = .ok p := by
  have known : ¬numberAt bytes 0 2 ≠ magic := not_not_intro grammatical.magic
  have current : ¬numberAt bytes 2 1 ≠ version := not_not_intro grammatical.version
  obtain ⟨whole, -, -, width, kind, length⟩ := grammatical
  have header := Header.run_read whole
  rw [if_neg known, if_neg current] at header
  have size : bytes.length - headerSize = (headerAt bytes).count * width := by
    change bytes.length - 30 = numberAt bytes 28 2 * width
    omega
  have enough : (headerAt bytes).count * width ≤ (bytes.drop 30).length := by
    rw [List.length_drop, ← size]
    exact Nat.le_refl _
  obtain ⟨payload, samples⟩ := Payload.takes_read (sampleSize?_eq_some.mpr kind) (headerAt bytes).count _ enough
  rw [← size] at samples
  refine ⟨{ serial := (headerAt bytes).serial, timestamp := (headerAt bytes).timestamp, payload }, ?_⟩
  rw [decode_eq_ok, Packet.read, if_neg (by change ¬bytes.length < 30; omega), Cursor.result_eq_ok, Packet.reader,
    Cursor.run_bind_of_ok header]
  exact ⟨_, Cursor.run_bind_of_ok samples⟩

/-- The checks come in the order of the ranks, and with each check passed one more flaw is out of question. -/
theorem decode_cases (bytes : List UInt8) :
    (Grammatical bytes ∧ ∃ p, Packet.decode bytes = .ok p) ∨
      ∃ cause, FirstFlaw bytes cause ∧ Packet.decode bytes = .error cause := by
  by_cases short : bytes.length < 30
  · exact Or.inr ⟨_, .of_passed (.tooShort short) nofun, decode_eq_error.mpr (if_pos short)⟩
  have whole : 30 ≤ bytes.length := by omega
  have passed : ∀ n < 1, Passes bytes n := Nat.forall_lt_succ_right.mpr ⟨nofun, whole⟩
  have header := Header.run_read whole
  by_cases known : numberAt bytes 0 2 ≠ magic
  · rw [if_pos known] at header
    exact Or.inr ⟨_, .of_passed (.badMagic known) passed, decode_refuses whole (Cursor.run_bind_of_error header)⟩
  have passed : ∀ n < 2, Passes bytes n := Nat.forall_lt_succ_right.mpr ⟨passed, not_ne_iff.mp known⟩
  rw [if_neg known] at header
  by_cases current : numberAt bytes 2 1 ≠ version
  · rw [if_pos current] at header
    exact Or.inr ⟨_, .of_passed (.unsupportedVersion current) passed,
      decode_refuses whole (Cursor.run_bind_of_error header)⟩
  have passed : ∀ n < 3, Passes bytes n := Nat.forall_lt_succ_right.mpr ⟨passed, not_ne_iff.mp current⟩
  rw [if_neg current] at header
  by_cases unknown : ∀ width, ¬SampleKind (numberAt bytes 3 1) width
  · refine Or.inr ⟨_, .of_passed (.unknownKind unknown) passed, decode_refuses whole ?_⟩
    rw [Packet.reader, Cursor.run_bind_of_ok header]
    exact Cursor.run_bind_of_error (Payload.run_read_unknown (sampleSize?_eq_none unknown) _ _ _)
  obtain ⟨width, kind⟩ := not_forall_not.mp unknown
  have passed : ∀ n < 4, Passes bytes n := Nat.forall_lt_succ_right.mpr ⟨passed, width, kind⟩
  by_cases differ : bytes.length - 30 ≠ numberAt bytes 28 2 * width
  · refine Or.inr ⟨_, .of_passed (.lengthMismatch kind differ) passed, decode_refuses whole ?_⟩
    rw [Packet.reader, Cursor.run_bind_of_ok header]
    exact Cursor.run_bind_of_error (Payload.run_read_mismatch (sampleSize?_eq_some.mpr kind) differ _)
  have grammatical : Grammatical bytes :=
    ⟨whole, not_ne_iff.mp known, not_ne_iff.mp current, width, kind, by omega⟩
  exact Or.inl ⟨grammatical, decode_of_grammatical grammatical⟩

/-- The field of the serial number stands where the grammar has it. -/
theorem serialBytes_encode (h : Header) {field : List UInt8} (full : field.length = serialWidth) (rest : List UInt8) :
    serialBytes (h.encode field ++ rest) = field := by
  have four : h.encode field ++ rest =
      [0x52, 0x53, UInt8.ofNat version, UInt8.ofNat h.kind] ++
        (field ++ (Bytes.ofNat 8 h.timestamp.toNat ++ (Bytes.ofNat 2 h.count ++ rest))) := by
    simp only [Header.encode, List.append_assoc]
    rfl
  rw [serialBytes, four]
  exact List.take_left' full

/-- A datagram with a well-formed serial number is what is written for the packet it holds. -/
theorem encode_of_decode {bytes : List UInt8} {p : Packet} (found : Packet.decode bytes = .ok p)
    (valid : (serialBytes bytes).toByteArray.IsValidUTF8) : p.encode = bytes := by
  obtain ⟨-, field, full, serial, rfl⟩ := decode_eq_ok_iff.mp found
  rw [serialBytes_encode _ full] at valid
  rw [encode_eq, ← serial, serialField_serialOfField full valid]

/-- Just the datagrams of the grammar are read, of other bytes the first flaw is told, and the bytes never run out.
Of a datagram whose serial number is well formed nothing is lost. -/
theorem decode_grammar (bytes : List UInt8) :
    ((∃ p, Packet.decode bytes = .ok p) ↔ Grammatical bytes) ∧
      (∀ cause, Packet.decode bytes = .error cause ↔ FirstFlaw bytes cause) ∧
      (Packet.read bytes = (Packet.decode bytes).mapError .refused ∧ Packet.read bytes ≠ .error .cutShort) ∧
      ∀ p, Packet.decode bytes = .ok p → (serialBytes bytes).toByteArray.IsValidUTF8 →
        p.encode = bytes ∧
        ∀ other, Packet.decode other = .ok p → (serialBytes other).toByteArray.IsValidUTF8 → other = bytes := by
  refine ⟨⟨?_, decode_of_grammatical⟩, fun cause => ⟨?_, ?_⟩, ⟨read_eq_decode bytes, read_ne_cutShort bytes⟩, ?_⟩
  · rintro ⟨p, found⟩
    rcases decode_cases bytes with ⟨grammatical, -⟩ | ⟨cause, -, refused⟩
    · exact grammatical
    · rw [found] at refused
      cases refused
  · intro refused
    rcases decode_cases bytes with ⟨-, p, found⟩ | ⟨other, first, also⟩
    · rw [found] at refused
      cases refused
    · rw [also] at refused
      cases refused
      exact first
  · intro first
    rcases decode_cases bytes with ⟨grammatical, -⟩ | ⟨other, also, refused⟩
    · exact absurd (grammatical.passes cause.rank) first.flaw.not_passes
    · rw [refused, also.unique first]
  · intro p found valid
    have written := encode_of_decode found valid
    exact ⟨written, fun other also formed => (encode_of_decode also formed).symm.trans written⟩

/-- A datagram of one point. Its serial number has a character of two bytes, and a zero that is not at the end. -/
def pointDatagram : List UInt8 :=
  [0x52, 0x53, 1, 0] ++ [0xC3, 0xA9, 0, 97, 0, 0, 0, 0, 0, 0, 0, 0, 0, 0, 0, 0] ++ [1, 2, 0, 0, 0, 0, 0, 255] ++ [1, 0] ++
    [255, 255, 255, 255, 0, 0, 0, 128, 3, 0, 0, 0, 200, 16, 0, 1, 0, 0]

def pointPacket : Packet :=
  { serial := "é\x00a", timestamp := 18374686479671624193
    payload := .points [{ x := -1, y := -2147483648, z := 3, reflectivity := 200, tag := 16, offset := 256 }] }

/-- The version, the kind and the length are all wrong. -/
def mangled : List UInt8 := [0x52, 0x53, 2, 9] ++ List.replicate 27 7

theorem decode_grammar_point :
    Grammatical pointDatagram ∧ Packet.decode pointDatagram = .ok pointPacket ∧
      (serialBytes pointDatagram).toByteArray.IsValidUTF8 ∧ pointPacket.encode = pointDatagram ∧
      FirstFlaw mangled (.unsupportedVersion 2) ∧ Packet.decode mangled = .error (.unsupportedVersion 2) := by
  have found : Packet.decode pointDatagram = .ok pointPacket := toOption_eq_some.mp (by decide +kernel)
  have valid : (serialBytes pointDatagram).toByteArray.IsValidUTF8 :=
    .intro ("é\x00a".toList ++ List.replicate 12 '\x00') (by decide +kernel)
  have first : FirstFlaw mangled (.unsupportedVersion 2) := by
    refine ⟨.unsupportedVersion (by decide), ?_⟩
    rintro _ (short | other | _ | _ | _)
    · exact absurd short (by decide)
    · exact absurd rfl other
    all_goals exact Nat.le_of_ble_eq_true rfl
  obtain ⟨accepted, -, -, lossless⟩ := decode_grammar pointDatagram
  exact ⟨accepted.mp ⟨_, found⟩, found, valid, (lossless _ found valid).1, first,
    ((decode_grammar mangled).2.1 _).mpr first⟩

end Packet

end CaptureRig.Lidar

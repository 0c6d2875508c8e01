import CaptureRig.Lidar.Datagram
import CaptureRig.Proofs.Outcome
import Mathlib

namespace CaptureRig.Lidar

namespace Bytes

theorem length_ofNat (width n : Nat) : (ofNat width n).length = width := by
  induction width generalizing n with
  | zero => rfl
  | succ width ih => rw [ofNat, List.length_cons, ih]

theorem toNat_ofNat (width n : Nat) : toNat (ofNat width n) = n % 256 ^ width := by
  induction width generalizing n with
  | zero => rw [Nat.pow_zero, Nat.mod_one]; rfl
  | succ width ih =>
    have larger : 256 ^ (width + 1) = 256 * 256 ^ width := Nat.pow_succ'
    rw [ofNat, toNat, ih, UInt8.toNat_ofNat', larger, Nat.mod_mul]

theorem toNat_lt (bytes : List UInt8) : toNat bytes < 256 ^ bytes.length := by
  induction bytes with
  | nil => exact Nat.one_pos
  | cons b bytes ih =>
    have small := b.toNat_lt
    rw [toNat, List.length_cons, Nat.pow_succ]
    omega

theorem ofNat_toNat (bytes : List UInt8) : ofNat bytes.length (toNat bytes) = bytes := by
  induction bytes with
  | nil => rfl
  | cons b bytes ih =>
    have small := b.toNat_lt
    have others : (b.toNat + 256 * toNat bytes) / 256 = toNat bytes := by omega
    have lowest : UInt8.ofNat (b.toNat + 256 * toNat bytes) = b := by
      apply UInt8.toNat_inj.mp
      rw [UInt8.toNat_ofNat']
      omega
    rw [List.length_cons, toNat, ofNat, others, lowest, ih]

theorem ofNat_mod (width n : Nat) : ofNat width (n % 256 ^ width) = ofNat width n := by
  have same := ofNat_toNat (ofNat width n)
  rwa [length_ofNat, toNat_ofNat] at same

end Bytes

namespace Cursor

variable {ε α β : Type}

theorem run_bind_eq_ok {c : Cursor ε α} {f : α → Cursor ε β} {left rest : List UInt8} {b : β} :
    (c >>= f).run left = .ok (b, rest) ↔ ∃ a mid, c.run left = .ok (a, mid) ∧ (f a).run mid = .ok (b, rest) := by
  rw [StateT.run_bind, bind_eq_ok, Prod.exists]

theorem run_pure_eq_ok {a b : α} {left rest : List UInt8} :
    (pure a : Cursor ε α).run left = .ok (b, rest) ↔ a = b ∧ left = rest := by
  rw [StateT.run_pure, pure_eq_ok, Prod.mk.injEq]

theorem result_eq_ok {c : Cursor ε α} {left : List UInt8} {a : α} :
    c.run' left = .ok a ↔ ∃ rest, c.run left = .ok (a, rest) := by
  rw [StateT.run'_eq]
  cases c.run left with
  | error cause => exact ⟨nofun, nofun⟩
  | ok found =>
    change Except.ok found.1 = Except.ok a ↔ ∃ rest, Except.ok found = Except.ok (a, rest)
    simp only [Except.ok.injEq, Prod.ext_iff, exists_and_left, exists_eq', and_true]

theorem result_eq_error {c : Cursor ε α} {left : List UInt8} {cause : ReadError ε} :
    c.run' left = .error cause ↔ c.run left = .error cause := by
  rw [StateT.run'_eq]
  cases c.run left with
  | error other =>
    change Except.error other = Except.error cause ↔ _
    rw [Except.error.injEq, Except.error.injEq]
  | ok found => exact ⟨nofun, nofun⟩

theorem run_byte_eq_ok {left rest : List UInt8} {b : UInt8} :
    (byte : Cursor ε UInt8).run left = .ok (b, rest) ↔ left = b :: rest := by
  cases left with
  | nil => exact ⟨nofun, nofun⟩
  | cons first others =>
    change Except.ok (first, others) = Except.ok (b, rest) ↔ _
    rw [Except.ok.injEq, Prod.mk.injEq, List.cons.injEq]

theorem run_bytes_eq_ok {n : Nat} {left rest front : List UInt8} :
    (bytes n : Cursor ε (List UInt8)).run left = .ok (front, rest) ↔ front.length = n ∧ left = front ++ rest := by
  induction n generalizing left rest front with
  | zero =>
    rw [bytes, run_pure_eq_ok, List.length_eq_zero_iff]
    constructor
    · rintro ⟨rfl, rfl⟩
      exact ⟨rfl, rfl⟩
    · rintro ⟨rfl, rfl⟩
      exact ⟨rfl, rfl⟩
  | succ n ih =>
    simp only [bytes, run_bind_eq_ok, run_byte_eq_ok, run_pure_eq_ok, ih]
    constructor
    · rintro ⟨first, mid, rfl, others, last, ⟨rfl, rfl⟩, rfl, rfl⟩
      exact ⟨rfl, rfl⟩
    · rintro ⟨full, rfl⟩
      obtain ⟨first, others, rfl⟩ := List.exists_cons_of_length_eq_add_one full
      exact ⟨first, others ++ rest, rfl, others, rest, ⟨Nat.succ.inj full, rfl⟩, rfl, rfl⟩

theorem run_number_eq_ok {width n : Nat} {left rest : List UInt8} :
    (number width : Cursor ε Nat).run left = .ok (n, rest) ↔
      n < 256 ^ width ∧ left = Bytes.ofNat width n ++ rest := by
  simp only [number, run_bind_eq_ok, run_bytes_eq_ok, run_pure_eq_ok]
  constructor
  · rintro ⟨front, mid, ⟨rfl, rfl⟩, rfl, rfl⟩
    exact ⟨Bytes.toNat_lt front, by rw [Bytes.ofNat_toNat]⟩
  · rintro ⟨small, rfl⟩
    refine ⟨Bytes.ofNat width n, rest, ⟨Bytes.length_ofNat width n, rfl⟩, ?_, rfl⟩
    rw [Bytes.toNat_ofNat, Nat.mod_eq_of_lt small]

theorem run_refuse_if_eq_ok {bad : Prop} [Decidable bad] {cause : ε} {c : Cursor ε α} {left : List UInt8}
    {found : α × List UInt8} :
    (if bad then refuse cause else c).run left = .ok found ↔ ¬bad ∧ c.run left = .ok found := by
  by_cases refused : bad
  · rw [if_pos refused]
    exact ⟨nofun, fun accepted => absurd refused accepted.1⟩
  · rw [if_neg refused]
    exact ⟨fun run => ⟨refused, run⟩, fun accepted => accepted.2⟩

/-- The reader finds a value exactly where it is written. -/
def Exact (read : Cursor ε α) (write : α → List UInt8) : Prop :=
  ∀ left a rest, read.run left = .ok (a, rest) ↔ left = write a ++ rest

/-- A word is found where its number is written, if the numbers of so many bytes are just the numbers of words. -/
theorem exact_word {width : Nat} {ofNat : Nat → α} {toNat : α → Nat} (fits : ∀ w, toNat w < 256 ^ width)
    (word : ∀ w, ofNat (toNat w) = w) (number : ∀ n < 256 ^ width, toNat (ofNat n) = n) :
    Exact (do let n ← Cursor.number width; return ofNat n : Cursor ε α) fun w => Bytes.ofNat width (toNat w) := by
  intro left w rest
  simp only [run_bind_eq_ok, run_number_eq_ok, run_pure_eq_ok]
  constructor
  · rintro ⟨n, mid, ⟨small, rfl⟩, rfl, rfl⟩
    rw [number n small]
  · rintro rfl
    exact ⟨toNat w, rest, ⟨fits w, rfl⟩, word w, rfl⟩

theorem exact_word32 : Exact (word32 : Cursor ε UInt32) fun w => Bytes.ofNat 4 w.toNat :=
  exact_word UInt32.toNat_lt (fun _ => UInt32.ofNat_toNat) fun _ small => UInt32.toNat_ofNat_of_lt' small

theorem exact_word64 : Exact (word64 : Cursor ε UInt64) fun w => Bytes.ofNat 8 w.toNat :=
  exact_word UInt64.toNat_lt (fun _ => UInt64.ofNat_toNat) fun _ small => UInt64.toNat_ofNat_of_lt' small

/-- The items read are those that stand written one after another. -/
theorem Exact.run_items {item : Cursor ε α} {write : α → List UInt8} (exact : Exact item write) {count : Nat}
    {before found : List α} {left rest : List UInt8} :
    (items item count before).run left = .ok (found, rest) ↔
      ∃ next, next.length = count ∧ found = before.reverse ++ next ∧ left = next.flatMap write ++ rest := by
  induction count generalizing before left with
  | zero =>
    rw [items, run_pure_eq_ok]
    constructor
    · rintro ⟨rfl, rfl⟩
      exact ⟨[], rfl, by rw [List.append_nil], rfl⟩
    · rintro ⟨next, none, rfl, rfl⟩
      rw [List.eq_nil_of_length_eq_zero none, List.append_nil]
      exact ⟨rfl, rfl⟩
  | succ count ih =>
    simp only [items, run_bind_eq_ok, exact _ _ _, ih]
    constructor
    · rintro ⟨first, mid, rfl, next, rfl, rfl, rfl⟩
      refine ⟨first :: next, rfl, ?_, ?_⟩
      · rw [List.reverse_cons, List.append_assoc, List.singleton_append]
      · rw [List.flatMap_cons, List.append_assoc]
    · rintro ⟨next, full, rfl, rfl⟩
      obtain ⟨first, others, rfl⟩ := List.exists_cons_of_length_eq_add_one full
      refine ⟨first, others.flatMap write ++ rest, ?_, others, Nat.succ.inj full, ?_, rfl⟩
      · rw [List.flatMap_cons, List.append_assoc]
      · rw [List.reverse_cons, List.append_assoc, List.singleton_append]

/-- As many samples are read as the size says, and nothing is read of another size. -/
theorem Exact.run_sized {item : Cursor ε α} {write : α → List UInt8} (exact : Exact item write) {wrap : List α → β}
    {count width size : Nat} {cause : ε} {b : β} {left rest : List UInt8} :
    (if size ≠ count * width then refuse cause
      else do
        let samples ← items item count []
        return wrap samples : Cursor ε β).run left = .ok (b, rest) ↔
      size = count * width ∧ ∃ samples, samples.length = count ∧ wrap samples = b ∧
        left = samples.flatMap write ++ rest := by
  simp only [run_refuse_if_eq_ok, ne_eq, Decidable.not_not, run_bind_eq_ok, run_pure_eq_ok, exact.run_items,
    List.reverse_nil, List.nil_append]
  constructor
  · rintro ⟨full, samples, _, ⟨_, many, rfl, rfl⟩, rfl, rfl⟩
    exact ⟨full, samples, many, rfl, rfl⟩
  · rintro ⟨full, samples, many, rfl, rfl⟩
    exact ⟨full, samples, rest, ⟨samples, many, rfl, rfl⟩, rfl, rfl⟩

end Cursor

open Cursor

theorem RawPoint.exact_read : Exact RawPoint.read RawPoint.encode := by
  intro left p rest
  simp only [RawPoint.read, RawPoint.encode, run_bind_eq_ok, run_byte_eq_ok, run_pure_eq_ok, exact_word32 _ _ _]
  constructor
  · rintro ⟨x, _, rfl, y, _, rfl, z, _, rfl, reflectivity, _, rfl, tag, _, rfl, offset, _, rfl, rfl, rfl⟩
    simp only [UInt32.toUInt32_toInt32, List.append_assoc, List.cons_append, List.nil_append]
  · rintro rfl
    refine ⟨p.x.toUInt32, _, ?_, p.y.toUInt32, _, rfl, p.z.toUInt32, _, rfl, p.reflectivity, _, rfl, p.tag, _, rfl,
      p.offset, rest, rfl, ?_, rfl⟩
    · simp only [List.append_assoc, List.cons_append, List.nil_append]
    · simp only [Int32.toInt32_toUInt32]

def Triple.encode (t : Triple) : List UInt8 := t.toList.flatMap fun x => Bytes.ofNat 4 x.bits.toNat

theorem Triple.exact_read : Exact Triple.read Triple.encode := by
  intro left t rest
  simp only [Triple.read, Triple.encode, Triple.toList, List.flatMap_cons, List.flatMap_nil, List.append_nil,
    run_bind_eq_ok, run_pure_eq_ok, exact_word32 _ _ _]
  constructor
  · rintro ⟨x, _, rfl, y, _, rfl, z, _, rfl, rfl, rfl⟩
    simp only [List.append_assoc]
  · rintro rfl
    exact ⟨t.x.bits, _, by simp only [List.append_assoc], t.y.bits, _, rfl, t.z.bits, rest, rfl, rfl, rfl⟩

theorem RawMotion.exact_read : Exact RawMotion.read RawMotion.encode := by
  intro left s rest
  have written : s.encode = s.gyro.encode ++ s.acc.encode ++ Bytes.ofNat 4 s.offset.toNat := by
    rw [RawMotion.encode, List.flatMap_append, Triple.encode, Triple.encode]
  simp only [written, RawMotion.read, run_bind_eq_ok, run_pure_eq_ok, Triple.exact_read _ _ _, exact_word32 _ _ _]
  constructor
  · rintro ⟨gyro, _, rfl, acc, _, rfl, offset, _, rfl, rfl, rfl⟩
    simp only [List.append_assoc]
  · rintro rfl
    exact ⟨s.gyro, _, by simp only [List.append_assoc], s.acc, _, rfl, s.offset, rest, rfl, rfl, rfl⟩

/-- A header as it is written, with the field of the serial number as given. -/
def Header.encode (h : Header) (field : List UInt8) : List UInt8 :=
  Bytes.ofNat 2 magic ++ [UInt8.ofNat version, UInt8.ofNat h.kind] ++ field ++ Bytes.ofNat 8 h.timestamp.toNat ++
    Bytes.ofNat 2 h.count

theorem Header.length_encode (h : Header) {field : List UInt8} (full : field.length = serialWidth) :
    (h.encode field).length = headerSize := by
  simp only [Header.encode, List.length_append, Bytes.length_ofNat, full, List.length_cons, List.length_nil]
  rfl

/-- What is lost of a header is how the field spells the serial number. -/
theorem Header.run_read_eq_ok {h : Header} {left rest : List UInt8} :
    Header.read.run left = .ok (h, rest) ↔
      h.kind < 256 ∧ h.count < 65536 ∧ ∃ field : List UInt8, field.length = serialWidth ∧
        serialOfField field = h.serial ∧ left = h.encode field ++ rest := by
  simp only [Header.read, run_bind_eq_ok, run_refuse_if_eq_ok, ne_eq, Decidable.not_not, run_number_eq_ok, run_bytes_eq_ok,
    exact_word64 _ _ _, run_pure_eq_ok]
  constructor
  · rintro ⟨_, _, ⟨-, rfl⟩, rfl, _, _, ⟨-, rfl⟩, rfl, kind, _, ⟨small, rfl⟩, field, _, ⟨full, rfl⟩, timestamp, _, rfl,
      count, _, ⟨few, rfl⟩, rfl, rfl⟩
    refine ⟨small, few, field, full, rfl, ?_⟩
    simp only [Header.encode, Bytes.ofNat, List.append_assoc, List.cons_append, List.nil_append]
  · rintro ⟨small, few, field, full, serial, rfl⟩
    refine ⟨magic, _, ⟨by decide, ?_⟩, rfl, version, _, ⟨by decide, rfl⟩, rfl, h.kind, _, ⟨small, rfl⟩, field, _,
      ⟨full, rfl⟩, h.timestamp, _, rfl, h.count, rest, ⟨few, rfl⟩, by rw [serial], rfl⟩
    simp only [Header.encode, Bytes.ofNat, List.append_assoc, List.cons_append, List.nil_append]

/-- The size of one sample. -/
def Payload.width : Payload → Nat
  | .points _ => pointSize
  | .motion _ => motionSize

theorem Payload.kind_lt (payload : Payload) : payload.kind < 256 := by
  cases payload <;> simp [Payload.kind]

theorem Payload.sampleSize?_kind (payload : Payload) : sampleSize? payload.kind = some payload.width := by
  cases payload <;> rfl

theorem length_flatMap_eq {α : Type} {write : α → List UInt8} {width : Nat} (each : ∀ a, (write a).length = width)
    (samples : List α) : (samples.flatMap write).length = samples.length * width := by
  induction samples with
  | nil => rw [List.flatMap_nil, List.length_nil, List.length_nil, Nat.zero_mul]
  | cons a samples ih => rw [List.flatMap_cons, List.length_append, each, ih, List.length_cons, Nat.succ_mul, Nat.add_comm]

theorem RawPoint.length_encode (p : RawPoint) : p.encode.length = pointSize := by
  simp only [RawPoint.encode, List.length_append, Bytes.length_ofNat, List.length_cons, List.length_nil]
  rfl

theorem RawMotion.length_encode (s : RawMotion) : s.encode.length = motionSize := by
  simp only [RawMotion.encode, List.length_append, Bytes.length_ofNat,
    length_flatMap_eq fun x : Binary32 => Bytes.length_ofNat 4 x.bits.toNat]
  rfl

theorem Payload.length_encode (payload : Payload) : payload.encode.length = payload.size * payload.width := by
  cases payload with
  | points samples => exact length_flatMap_eq RawPoint.length_encode samples
  | motion samples => exact length_flatMap_eq RawMotion.length_encode samples

theorem Payload.run_read_eq_ok {payload : Payload} {kind count size : Nat} {left rest : List UInt8} :
    (Payload.read kind count size).run left = .ok (payload, rest) ↔
      payload.kind = kind ∧ payload.size = count ∧ size = count * payload.width ∧ left = payload.encode ++ rest := by
  obtain _ | _ | kind := kind
  · refine RawPoint.exact_read.run_sized.trans ⟨?_, ?_⟩
    · rintro ⟨full, samples, rfl, rfl, rfl⟩
      exact ⟨rfl, rfl, full, rfl⟩
    · rintro ⟨points, rfl, full, rfl⟩
      cases payload with
      | points samples => exact ⟨full, samples, rfl, rfl, rfl⟩
      | motion samples => cases points
  · refine RawMotion.exact_read.run_sized.trans ⟨?_, ?_⟩
    · rintro ⟨full, samples, rfl, rfl, rfl⟩
      exact ⟨rfl, rfl, full, rfl⟩
    · rintro ⟨motion, rfl, full, rfl⟩
      cases payload with
      | points samples => cases motion
      | motion samples => exact ⟨full, samples, rfl, rfl, rfl⟩
  · constructor
    · intro run
      cases run
    · rintro ⟨known, -⟩
      cases payload <;> cases known

theorem Payload.run_read_unknown {kind : Nat} (unknown : sampleSize? kind = none) (count size : Nat) (left : List UInt8) :
    (Payload.read kind count size).run left = .error (.refused (.unknownKind kind)) := by
  rw [Payload.read, unknown]
  rfl

theorem Payload.run_read_mismatch {kind width count size : Nat} (known : sampleSize? kind = some width)
    (differ : size ≠ count * width) (left : List UInt8) :
    (Payload.read kind count size).run left = .error (.refused (.lengthMismatch (count * width) size)) := by
  rw [Payload.read, known]
  dsimp only
  rw [if_pos differ]
  rfl

namespace Packet

/-- Decoding is reading, which is never cut short. -/
theorem read_eq_decode (bytes : List UInt8) : Packet.read bytes = (Packet.decode bytes).mapError .refused := by
  unfold Packet.decode
  split
  · rename_i run
    exact run
  · rename_i run
    exact run
  · rename_i run
    exact absurd run (Packet.read_ne_cutShort bytes)

theorem decode_eq_ok {bytes : List UInt8} {p : Packet} : Packet.decode bytes = .ok p ↔ Packet.read bytes = .ok p := by
  rw [read_eq_decode]
  cases Packet.decode bytes <;> simp [Except.mapError]

theorem decode_eq_error {bytes : List UInt8} {cause : DecodeError} :
    Packet.decode bytes = .error cause ↔ Packet.read bytes = .error (.refused cause) := by
  rw [read_eq_decode]
  cases Packet.decode bytes <;> simp [Except.mapError]

def header (p : Packet) : Header :=
  { kind := p.payload.kind, serial := p.serial, timestamp := p.timestamp, count := p.size }

theorem encode_eq (p : Packet) : p.encode = p.header.encode (serialField p.serial) ++ p.payload.encode := rfl

/-- The datagrams that hold a packet are those that spell its serial number in one way or another. -/
theorem decode_eq_ok_iff {bytes : List UInt8} {p : Packet} :
    Packet.decode bytes = .ok p ↔ p.size < 65536 ∧ ∃ field : List UInt8, field.length = serialWidth ∧
      serialOfField field = p.serial ∧ bytes = p.header.encode field ++ p.payload.encode := by
  rw [decode_eq_ok, Packet.read]
  constructor
  · intro run
    split at run
    · cases run
    obtain ⟨_, run⟩ := result_eq_ok.mp run
    simp only [Packet.reader, run_bind_eq_ok, Header.run_read_eq_ok, Payload.run_read_eq_ok, run_pure_eq_ok] at run
    obtain ⟨h, _, ⟨-, few, field, full, serial, rfl⟩, payload, rest, ⟨kind, count, size, rfl⟩, rfl, rfl⟩ := run
    -- The size that has been checked leaves nothing after the samples.
    rw [List.length_append, List.length_append, h.length_encode full, payload.length_encode, count] at size
    obtain rfl := List.eq_nil_of_length_eq_zero (by omega : rest.length = 0)
    obtain ⟨_, _, _, _⟩ := h
    cases kind
    cases count
    exact ⟨few, field, full, serial, by rw [List.append_nil]; rfl⟩
  · rintro ⟨few, field, full, serial, rfl⟩
    have length : (p.header.encode field ++ p.payload.encode).length = headerSize + p.size * p.payload.width := by
      rw [List.length_append, Header.length_encode _ full, Payload.length_encode]
      rfl
    rw [if_neg (by omega), result_eq_ok]
    simp only [Packet.reader, run_bind_eq_ok, Header.run_read_eq_ok, Payload.run_read_eq_ok, run_pure_eq_ok]
    exact ⟨[], p.header, _, ⟨p.payload.kind_lt, few, field, full, serial, rfl⟩, p.payload, [],
      ⟨rfl, rfl, by rw [length, Nat.add_sub_cancel_left]; rfl, by rw [List.append_nil]⟩, rfl, rfl⟩

end Packet

end CaptureRig.Lidar

import CaptureRig.Lidar.Cursor
import CaptureRig.Lidar.Packet
import CaptureRig.Text.Utf8

namespace CaptureRig.Lidar

def magic : Nat := 0x5352

def version : Nat := 1

def serialWidth : Nat := 16

def headerSize : Nat := 30

def pointSize : Nat := 18

def motionSize : Nat := 28

inductive DecodeError where
  | tooShort (size : Nat)
  | badMagic (found : Nat)
  | unsupportedVersion (found : Nat)
  | unknownKind (found : Nat)
  | lengthMismatch (expected actual : Nat)
  deriving Repr, DecidableEq

def DecodeError.message : DecodeError → String
  | .tooShort size => "Packet is too short (" ++ toString size ++ " bytes)"
  | .badMagic found => "Packet has a bad magic number (0x" ++ Text.hex 4 found ++ ")"
  | .unsupportedVersion found => "Unsupported packet version " ++ toString found
  | .unknownKind found => "Unknown packet kind " ++ toString found
  | .lengthMismatch expected actual =>
    "Packet declares " ++ toString expected ++ " bytes of samples but carries " ++ toString actual

def ReadError.message : ReadError DecodeError → String
  | .refused cause => cause.message
  | .cutShort => "Could not read packet: failed to fill whole buffer"

namespace RawPoint

def encode (p : RawPoint) : List UInt8 :=
  Bytes.ofNat 4 p.x.toUInt32.toNat ++ Bytes.ofNat 4 p.y.toUInt32.toNat ++ Bytes.ofNat 4 p.z.toUInt32.toNat ++
    [p.reflectivity, p.tag] ++ Bytes.ofNat 4 p.offset.toNat

def read : Cursor DecodeError RawPoint := do
  let x ← Cursor.word32
  let y ← Cursor.word32
  let z ← Cursor.word32
  let reflectivity ← Cursor.byte
  let tag ← Cursor.byte
  let offset ← Cursor.word32
  return { x := x.toInt32, y := y.toInt32, z := z.toInt32, reflectivity, tag, offset }

end RawPoint

def Triple.read : Cursor DecodeError Triple := do
  let x ← Cursor.word32
  let y ← Cursor.word32
  let z ← Cursor.word32
  return ⟨⟨x⟩, ⟨y⟩, ⟨z⟩⟩

namespace RawMotion

def encode (s : RawMotion) : List UInt8 :=
  ((s.gyro.toList ++ s.acc.toList).flatMap fun x => Bytes.ofNat 4 x.bits.toNat) ++ Bytes.ofNat 4 s.offset.toNat

def read : Cursor DecodeError RawMotion := do
  let gyro ← Triple.read
  let acc ← Triple.read
  let offset ← Cursor.word32
  return { gyro, acc, offset }

end RawMotion

/-- The kind byte of a payload. -/
def Payload.kind : Payload → Nat
  | .points _ => 0
  | .motion _ => 1

def Payload.encode : Payload → List UInt8
  | .points samples => samples.flatMap RawPoint.encode
  | .motion samples => samples.flatMap RawMotion.encode

/-- The size of one sample of a kind. -/
def sampleSize? : Nat → Option Nat
  | 0 => some pointSize
  | 1 => some motionSize
  | _ => none

/-- The first bytes of the serial number, padded with zeros. -/
def serialField (serial : String) : List UInt8 :=
  let bytes := (Utf8.encode serial.toList).take serialWidth
  bytes ++ List.replicate (serialWidth - bytes.length) 0

/-- The serial number in a field: malformed characters are replaced, and the zeros at the end dropped. -/
def serialOfField (field : List UInt8) : String :=
  let cs := Utf8.decodeLossy field
  String.ofList (cs.reverse.dropWhile fun c => c.toNat == 0).reverse

/-- The number of samples is written modulo 65536. -/
def Packet.encode (p : Packet) : List UInt8 :=
  Bytes.ofNat 2 magic ++ [UInt8.ofNat version, UInt8.ofNat p.payload.kind] ++ serialField p.serial ++
    Bytes.ofNat 8 p.timestamp.toNat ++ Bytes.ofNat 2 p.size ++ p.payload.encode

/-- What the header says of a datagram. -/
structure Header where
  kind : Nat
  serial : String
  timestamp : UInt64
  count : Nat
  deriving Repr, DecidableEq

def Header.read : Cursor DecodeError Header := do
  let found ← Cursor.number 2
  if found ≠ magic then Cursor.refuse (.badMagic found)
  else
    let revision ← Cursor.number 1
    if revision ≠ version then Cursor.refuse (.unsupportedVersion revision)
    else
      let kind ← Cursor.number 1
      let field ← Cursor.bytes serialWidth
      let timestamp ← Cursor.word64
      let count ← Cursor.number 2
      return { kind, serial := serialOfField field, timestamp, count }

/-- Read the samples of a packet, for which `size` bytes are left. -/
def Payload.read (kind count size : Nat) : Cursor DecodeError Payload :=
  match sampleSize? kind with
  | none => Cursor.refuse (.unknownKind kind)
  | some width => do
    if size ≠ count * width then Cursor.refuse (.lengthMismatch (count * width) size)
    else if kind = 0 then
      let samples ← Cursor.items RawPoint.read count []
      return .points samples
    else
      let samples ← Cursor.items RawMotion.read count []
      return .motion samples

/-- Read a packet off so many bytes. -/
def Packet.reader (size : Nat) : Cursor DecodeError Packet := do
  let header ← Header.read
  let payload ← Payload.read header.kind header.count (size - headerSize)
  return { serial := header.serial, timestamp := header.timestamp, payload }

def Packet.read (bytes : List UInt8) : Except (ReadError DecodeError) Packet :=
  if bytes.length < headerSize then .error (.refused (.tooShort bytes.length))
  else (Packet.reader bytes.length).run' bytes

theorem RawPoint.takes_read : Cursor.Takes pointSize RawPoint.read :=
  Cursor.takes_word32.bind fun _ => Cursor.takes_word32.bind fun _ => Cursor.takes_word32.bind fun _ =>
    Cursor.takes_byte.bind fun _ => Cursor.takes_byte.bind fun _ => Cursor.takes_word32.bind fun _ => Cursor.takes_pure _

theorem Triple.takes_read : Cursor.Takes 12 Triple.read :=
  Cursor.takes_word32.bind fun _ => Cursor.takes_word32.bind fun _ => Cursor.takes_word32.bind fun _ =>
    Cursor.takes_pure _

theorem RawMotion.takes_read : Cursor.Takes motionSize RawMotion.read :=
  Triple.takes_read.bind fun _ => Triple.takes_read.bind fun _ => Cursor.takes_word32.bind fun _ => Cursor.takes_pure _

theorem Header.fed_read : Cursor.Fed headerSize Header.read := by
  change Cursor.Fed (2 + (1 + 27)) Header.read
  refine (Cursor.takes_number 2).fed.bind fun found => ?_
  split
  · exact Cursor.fed_refuse _ _
  refine (Cursor.takes_number 1).fed.bind fun revision => ?_
  split
  · exact Cursor.fed_refuse _ _
  have fields (kind : Nat) : Cursor.Takes 26 (do
      let field ← Cursor.bytes serialWidth
      let timestamp ← Cursor.word64
      let count ← Cursor.number 2
      return { kind, serial := serialOfField field, timestamp, count } : Cursor DecodeError Header) :=
    (Cursor.takes_bytes serialWidth).bind fun _ => Cursor.takes_word64.bind fun _ => (Cursor.takes_number 2).bind fun _ =>
      Cursor.takes_pure _
  exact ((Cursor.takes_number 1).bind fields).fed

/-- Of a known kind, as many samples are read as the bytes are said to hold. -/
theorem Payload.takes_read {kind width : Nat} (known : sampleSize? kind = some width) (count : Nat) :
    Cursor.Takes (count * width) (Payload.read kind count (count * width)) := by
  simp only [Payload.read, known, ne_eq, not_true_eq_false, if_false]
  match kind with
  | 0 =>
    cases known
    exact (RawPoint.takes_read.items count []).bind fun _ => Cursor.takes_pure _
  | 1 =>
    cases known
    exact (RawMotion.takes_read.items count []).bind fun _ => Cursor.takes_pure _
  | kind + 2 => cases known

theorem Payload.fed_read (kind count size : Nat) : Cursor.Fed size (Payload.read kind count size) := by
  cases known : sampleSize? kind with
  | none =>
    simp only [Payload.read, known]
    exact Cursor.fed_refuse _ _
  | some width =>
    by_cases full : size = count * width
    · rw [full]
      exact (Payload.takes_read known count).fed
    · simp only [Payload.read, known, ne_eq, full, not_false_eq_true, if_true]
      exact Cursor.fed_refuse _ _

/-- With a whole header there, and as many bytes after it as are said to be there, reading is never cut short. -/
theorem Packet.read_ne_cutShort (bytes : List UInt8) : Packet.read bytes ≠ .error .cutShort := by
  unfold Packet.read
  split
  · nofun
  rename_i whole
  have enough : headerSize + (bytes.length - headerSize) ≤ bytes.length := by omega
  have fed : Cursor.Fed (headerSize + (bytes.length - headerSize)) (Packet.reader bytes.length) :=
    Header.fed_read.bind fun h => (Payload.fed_read h.kind h.count _).bind fun _ => (Cursor.takes_pure _).fed
  rw [StateT.run'_eq]
  rcases fed bytes enough with ⟨cause, run⟩ | ⟨p, run⟩
  · rw [run]
    nofun
  · rw [run]
    nofun

/-- The packet that a datagram holds. -/
def Packet.decode (bytes : List UInt8) : Except DecodeError Packet :=
  match run : Packet.read bytes with
  | .ok p => .ok p
  | .error (.refused cause) => .error cause
  | .error .cutShort => absurd run (Packet.read_ne_cutShort bytes)

end CaptureRig.Lidar

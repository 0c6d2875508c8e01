namespace CaptureRig.Utf8

def encode (cs : List Char) : List UInt8 :=
  cs.flatMap String.utf8EncodeChar

def replacement : Char := Char.ofNat 0xFFFD

/-- How many further bytes a character led by this byte has, the payload of the leading byte, and the range
of the second byte. -/
def lead? (b : UInt8) : Option (Nat × Nat × Nat × Nat) :=
  let n := b.toNat
  if n < 0x80 then some (0, n, 0x80, 0xBF)
  else if n < 0xC2 then none
  else if n < 0xE0 then some (1, n - 0xC0, 0x80, 0xBF)
  else if n = 0xE0 then some (2, 0, 0xA0, 0xBF)
  else if n = 0xED then some (2, 0xD, 0x80, 0x9F)
  else if n < 0xF0 then some (2, n - 0xE0, 0x80, 0xBF)
  else if n = 0xF0 then some (3, 0, 0x90, 0xBF)
  else if n < 0xF4 then some (3, n - 0xF0, 0x80, 0xBF)
  else if n = 0xF4 then some (3, 4, 0x80, 0x8F)
  else none

/-- Collect `count` further bytes onto the payload; the second component counts the bytes that fitted. -/
def collect : Nat → Nat → Nat → Nat → List UInt8 → Option Nat × Nat
  | 0, payload, _, _, _ => (some payload, 0)
  | _ + 1, _, _, _, [] => (none, 0)
  | count + 1, payload, low, high, b :: rest =>
    if low ≤ b.toNat ∧ b.toNat ≤ high then
      let (code, used) := collect count (payload * 64 + (b.toNat - 0x80)) 0x80 0xBF rest
      (code, used + 1)
    else (none, 0)

/-- The character that `b :: rest` begins with, if it is well formed, and how many bytes of `rest` belong to
it or to the malformed part. -/
def next (b : UInt8) (rest : List UInt8) : Option Char × Nat :=
  match lead? b with
  | none => (none, 0)
  | some (count, payload, low, high) =>
    let (code, used) := collect count payload low high rest
    (code.map Char.ofNat, used)

/-- One replacement character stands for each malformed part. -/
def decodeLossy : List UInt8 → List Char
  | [] => []
  | b :: rest =>
    let (c, used) := next b rest
    c.getD replacement :: decodeLossy (rest.drop used)
termination_by bytes => bytes.length
decreasing_by simp only [List.length_drop, List.length_cons]; omega

def decode? : List UInt8 → Option (List Char)
  | [] => some []
  | b :: rest =>
    match next b rest with
    | (none, _) => none
    | (some c, used) => (decode? (rest.drop used)).map (c :: ·)
termination_by bytes => bytes.length
decreasing_by simp only [List.length_drop, List.length_cons]; omega

end CaptureRig.Utf8

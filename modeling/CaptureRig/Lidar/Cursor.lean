namespace CaptureRig.Lidar

namespace Bytes

/-- The `width` low bytes of a number, lowest first. -/
def ofNat : Nat → Nat → List UInt8
  | 0, _ => []
  | width + 1, n => UInt8.ofNat n :: ofNat width (n / 256)

/-- The number whose bytes these are, lowest first. -/
def toNat : List UInt8 → Nat
  | [] => 0
  | b :: bs => b.toNat + 256 * toNat bs

end Bytes

/-- Why reading ends early: what has been read is refused, or there are not enough bytes. -/
inductive ReadError (ε : Type) where
  | refused (cause : ε)
  | cutShort
  deriving Repr, DecidableEq

/-- A reader of values, which takes them off the front of the bytes that are left. -/
abbrev Cursor (ε : Type) := StateT (List UInt8) (Except (ReadError ε))

namespace Cursor

variable {ε α β : Type}

def byte : Cursor ε UInt8
  | [] => .error .cutShort
  | b :: rest => .ok (b, rest)

/-- The next `n` bytes. -/
def bytes : Nat → Cursor ε (List UInt8)
  | 0 => pure []
  | n + 1 => do
    let first ← byte
    let others ← bytes n
    return first :: others

/-- The number in the next `width` bytes. -/
def number (width : Nat) : Cursor ε Nat := do
  let read ← bytes width
  return Bytes.toNat read

def word32 : Cursor ε UInt32 := do
  let n ← number 4
  return UInt32.ofNat n

def word64 : Cursor ε UInt64 := do
  let n ← number 8
  return UInt64.ofNat n

def refuse (cause : ε) : Cursor ε α := fun _ => .error (.refused cause)

/-- Read `count` items, onto those read before. -/
def items (item : Cursor ε α) : Nat → List α → Cursor ε (List α)
  | 0, read => return read.reverse
  | count + 1, read => do
    let next ← item
    items item count (next :: read)

/-- With `width` bytes left the reader takes just these, whatever they are. -/
def Takes (width : Nat) (c : Cursor ε α) : Prop :=
  ∀ left, width ≤ left.length → ∃ a, c.run left = .ok (a, left.drop width)

/-- With `width` bytes left the reader takes just these, unless it refuses what they say. -/
def Fed (width : Nat) (c : Cursor ε α) : Prop :=
  ∀ left, width ≤ left.length →
    (∃ cause, c.run left = .error (.refused cause)) ∨ ∃ a, c.run left = .ok (a, left.drop width)

theorem run_bind_of_ok {c : Cursor ε α} {f : α → Cursor ε β} {left rest : List UInt8} {a : α}
    (run : c.run left = .ok (a, rest)) : (c >>= f).run left = (f a).run rest := by
  rw [StateT.run_bind, run]
  rfl

theorem run_bind_of_error {c : Cursor ε α} {f : α → Cursor ε β} {left : List UInt8} {cause : ReadError ε}
    (run : c.run left = .error cause) : (c >>= f).run left = .error cause := by
  rw [StateT.run_bind, run]
  rfl

theorem takes_pure (a : α) : Takes 0 (pure a : Cursor ε α) := fun _ _ => ⟨a, rfl⟩

theorem Takes.bind {first rest : Nat} {c : Cursor ε α} {f : α → Cursor ε β} (takes : Takes first c)
    (next : ∀ a, Takes rest (f a)) : Takes (first + rest) (c >>= f) := by
  intro left enough
  obtain ⟨a, run⟩ := takes left (by omega)
  have later := next a (left.drop first) (by rw [List.length_drop]; omega)
  rwa [List.drop_drop, ← run_bind_of_ok run] at later

theorem takes_byte : Takes 1 (byte : Cursor ε UInt8) := by
  intro left enough
  cases left with
  | nil => cases enough
  | cons b rest => exact ⟨b, rfl⟩

theorem takes_bytes (n : Nat) : Takes n (bytes n : Cursor ε (List UInt8)) := by
  induction n with
  | zero => exact takes_pure []
  | succ n ih =>
    have both : Takes (1 + n) (bytes (n + 1) : Cursor ε (List UInt8)) :=
      takes_byte.bind fun b => ih.bind fun rest => takes_pure (b :: rest)
    rwa [Nat.add_comm] at both

theorem takes_number (width : Nat) : Takes width (number width : Cursor ε Nat) :=
  (takes_bytes width).bind fun read => takes_pure (Bytes.toNat read)

theorem takes_word32 : Takes 4 (word32 : Cursor ε UInt32) := (takes_number 4).bind fun n => takes_pure (UInt32.ofNat n)

theorem takes_word64 : Takes 8 (word64 : Cursor ε UInt64) := (takes_number 8).bind fun n => takes_pure (UInt64.ofNat n)

theorem Takes.items {width : Nat} {item : Cursor ε α} (takes : Takes width item) (count : Nat) (read : List α) :
    Takes (count * width) (Cursor.items item count read) := by
  induction count generalizing read with
  | zero =>
    rw [Nat.zero_mul]
    exact takes_pure read.reverse
  | succ count ih =>
    rw [Nat.succ_mul, Nat.add_comm]
    exact takes.bind fun next => ih (next :: read)

theorem Takes.fed {width : Nat} {c : Cursor ε α} (takes : Takes width c) : Fed width c :=
  fun left enough => Or.inr (takes left enough)

theorem fed_refuse (width : Nat) (cause : ε) : Fed width (refuse cause : Cursor ε α) := fun _ _ => Or.inl ⟨cause, rfl⟩

theorem Fed.bind {first rest : Nat} {c : Cursor ε α} {f : α → Cursor ε β} (fed : Fed first c)
    (next : ∀ a, Fed rest (f a)) : Fed (first + rest) (c >>= f) := by
  intro left enough
  rcases fed left (by omega) with ⟨cause, run⟩ | ⟨a, run⟩
  · exact Or.inl ⟨cause, run_bind_of_error run⟩
  · have later := next a (left.drop first) (by rw [List.length_drop]; omega)
    rwa [List.drop_drop, ← run_bind_of_ok run] at later

end Cursor

end CaptureRig.Lidar

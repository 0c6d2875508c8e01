import CaptureRig.Number.Power

namespace CaptureRig

/-- The quotient to the nearest natural, a half going to the even neighbour. -/
def roundDiv (num den : Nat) : Nat :=
  let whole := num / den
  let twice := 2 * (num % den)
  if den < twice ∨ (twice = den ∧ whole % 2 = 1) then whole + 1 else whole

/-- A binary interchange format: bits of a significand, its leading one included, and bits of an exponent. -/
structure FloatFormat where
  significandBits : Nat
  exponentBits : Nat

namespace FloatFormat

def single : FloatFormat := ⟨24, 8⟩

def double : FloatFormat := ⟨53, 11⟩

def bias (f : FloatFormat) : Nat :=
  twoTo (f.exponentBits - 1) - 1

/-- The exponent of a subnormal's last bit. -/
def lowestExponent (f : FloatFormat) : Int :=
  1 - f.bias - (f.significandBits - 1 : Nat)

def infinityBits (f : FloatFormat) : Nat :=
  (twoTo f.exponentBits - 1) * twoTo (f.significandBits - 1)

def signBit (f : FloatFormat) : Nat :=
  twoTo (f.significandBits - 1 + f.exponentBits)

end FloatFormat

/-- What a bit pattern stands for. -/
inductive FloatValue where
  | notANumber
  | infinite (negative : Bool)
  /-- Plus or minus `m · 2^q`. -/
  | finite (negative : Bool) (m : Nat) (q : Int)
  deriving Repr, DecidableEq

namespace FloatFormat

def decode (f : FloatFormat) (bits : Nat) : FloatValue :=
  let fraction := bits % twoTo (f.significandBits - 1)
  let exponent := bits / twoTo (f.significandBits - 1) % twoTo f.exponentBits
  let negative := bits / f.signBit % 2 == 1
  if exponent = twoTo f.exponentBits - 1 then
    if fraction = 0 then .infinite negative else .notANumber
  else if exponent = 0 then .finite negative fraction f.lowestExponent
  else .finite negative (fraction + twoTo (f.significandBits - 1)) (f.lowestExponent + exponent - 1)

/-- `num / (den · 2^q)`, rounded. -/
def scaledRound (num den : Nat) : Int → Nat
  | .ofNat q => roundDiv num (den * twoTo q)
  | .negSucc q => roundDiv (num * twoTo (q + 1)) den

/-- Whether `num / den` is at least `2^e`. -/
def atLeastPower (num den : Nat) : Int → Bool
  | .ofNat e => den * twoTo e ≤ num
  | .negSucc e => den ≤ num * twoTo (e + 1)

/-- The exponent of the greatest power of two that is at most `num / den`. -/
def binaryExponent (num den : Nat) : Int :=
  let e : Int := (num.log2 : Int) - den.log2
  if atLeastPower num den e then e else e - 1

/-- The bits nearest to `num / den`, without a sign. -/
def nearestMagnitude (f : FloatFormat) (num den : Nat) : Nat :=
  if num = 0 ∨ den = 0 then 0
  else
    let q := max (binaryExponent num den - (f.significandBits - 1 : Nat)) f.lowestExponent
    let m := scaledRound num den q
    let hidden := twoTo (f.significandBits - 1)
    let bits := if m < hidden then m else ((q - f.lowestExponent).toNat + 1) * hidden + (m - hidden)
    min bits f.infinityBits

/-- The pattern nearest to plus or minus `num / den`; beyond the largest finite number it is an infinity. -/
def nearest (f : FloatFormat) (negative : Bool) (num den : Nat) : Nat :=
  f.nearestMagnitude num den + if negative then f.signBit else 0

/-- The pattern nearest to plus or minus `digits · 10^exponent`. An exponent far outside the range decides
the answer before any power is formed. -/
def nearestDecimal (f : FloatFormat) (negative : Bool) (digits : Nat) (exponent : Int) : Nat :=
  let size : Int := (Nat.toDigits 10 digits).length + exponent
  let sign := if negative then f.signBit else 0
  if digits = 0 ∨ size < -400 then sign
  else if 400 < size then f.infinityBits + sign
  else match exponent with
    | .ofNat e => f.nearest negative (digits * tenTo e) 1
    | .negSucc e => f.nearest negative digits (tenTo (e + 1))

/-- The pattern nearest to plus or minus `m · 2^q`. -/
def nearestScaled (f : FloatFormat) (negative : Bool) (m : Nat) : Int → Nat
  | .ofNat q => f.nearest negative (m * twoTo q) 1
  | .negSucc q => f.nearest negative m (twoTo (q + 1))

end FloatFormat

/-- A double-precision number. -/
structure Binary64 where
  bits : UInt64
  deriving Repr, DecidableEq, Inhabited

/-- A single-precision number. -/
structure Binary32 where
  bits : UInt32
  deriving Repr, DecidableEq, Inhabited

namespace Binary64

def value (x : Binary64) : FloatValue :=
  FloatFormat.double.decode x.bits.toNat

def ofBits (n : Nat) : Binary64 := ⟨n.toUInt64⟩

def nearest (negative : Bool) (num den : Nat) : Binary64 :=
  ofBits (FloatFormat.double.nearest negative num den)

def ofDecimal (negative : Bool) (digits : Nat) (exponent : Int) : Binary64 :=
  ofBits (FloatFormat.double.nearestDecimal negative digits exponent)

def ofInt (n : Int) : Binary64 :=
  nearest (n < 0) n.natAbs 1

def notANumber : Binary64 := ⟨0x7FF8000000000000⟩

def infinity (negative : Bool) : Binary64 :=
  ofBits (FloatFormat.double.infinityBits + if negative then FloatFormat.double.signBit else 0)

def isFinite (x : Binary64) : Bool :=
  match x.value with
  | .finite .. => true
  | _ => false

/-- The exact product of two finite numbers, rounded once. Only finite factors are multiplied here. -/
def times (x y : Binary64) : Binary64 :=
  match x.value, y.value with
  | .finite n m q, .finite n' m' q' =>
    ofBits (FloatFormat.double.nearestScaled (n != n') (m * m') (q + q'))
  | _, _ => notANumber

/-- The exact quotient of a finite number by a finite one that is not zero, rounded once. -/
def dividedBy (x y : Binary64) : Binary64 :=
  match x.value, y.value with
  | .finite n m q, .finite n' m' q' =>
    match q - q' with
    | .ofNat e => nearest (n != n') (m * twoTo e) m'
    | .negSucc e => nearest (n != n') m (m' * twoTo (e + 1))
  | _, _ => notANumber

def isZero (x : Binary64) : Bool :=
  match x.value with
  | .finite _ m _ => m == 0
  | _ => false

def negate (x : Binary64) : Binary64 :=
  ⟨x.bits ^^^ 0x8000000000000000⟩

end Binary64

namespace Binary32

def value (x : Binary32) : FloatValue :=
  FloatFormat.single.decode x.bits.toNat

/-- The single-precision number nearest to a double-precision one. -/
def ofBinary64 (x : Binary64) : Binary32 :=
  match x.value with
  | .notANumber => ⟨0x7FC00000⟩
  | .infinite negative => ⟨if negative then 0xFF800000 else 0x7F800000⟩
  | .finite negative m q => ⟨(FloatFormat.single.nearestScaled negative m q).toUInt32⟩

def ofInt (n : Int) : Binary32 :=
  ⟨(FloatFormat.single.nearest (n < 0) n.natAbs 1).toUInt32⟩

/-- Equality of numbers: zeros of either sign are equal, and nothing equals what is not a number. -/
def numericallyEqual (x y : Binary32) : Bool :=
  match x.value, y.value with
  | .notANumber, _ | _, .notANumber => false
  | .finite _ 0 _, .finite _ 0 _ => true
  | _, _ => x.bits == y.bits

end Binary32

end CaptureRig

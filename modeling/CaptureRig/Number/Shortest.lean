import CaptureRig.Number.Binary

namespace CaptureRig

/-- The decimal `digits · 10^exponent`. -/
structure Decimal where
  digits : Nat
  exponent : Int
  deriving Repr, DecidableEq

/-- Which of two equally near decimals is taken. -/
inductive Tie where
  | up
  | even
  deriving Repr, DecidableEq

namespace Shortest

/-- A non-negative rational with a positive denominator. -/
structure Ratio where
  num : Nat
  den : Nat

/-- `n · 2^q` -/
def Ratio.scaled (n : Nat) : Int → Ratio
  | .ofNat q => ⟨n * twoTo q, 1⟩
  | .negSucc q => ⟨n, twoTo (q + 1)⟩

/-- `r · 10^(-p)` -/
def Ratio.shifted (r : Ratio) : Int → Ratio
  | .ofNat p => ⟨r.num, r.den * tenTo p⟩
  | .negSucc p => ⟨r.num * tenTo (p + 1), r.den⟩

def digitCount (n : Nat) : Nat := (Nat.toDigits 10 n).length

/-- The exponent of the greatest power of ten that is at most the ratio, which is not zero. -/
def Ratio.decimalExponent (r : Ratio) : Int :=
  if r.den ≤ r.num then (digitCount (r.num / r.den) : Int) - 1
  else
    let least := (r.den + r.num - 1) / r.num
    Int.negOfNat (digitCount (least - 1))

/-- A number, and the ends of the interval that rounds to it. -/
structure Interval where
  low : Ratio
  value : Ratio
  high : Ratio
  ends : Bool

/-- The interval of `m · 2^q`: half a unit on either side, but a quarter below when the significand is the
least of its binade. The ends belong to it when the significand is even. -/
def Interval.around (f : FloatFormat) (m : Nat) (q : Int) : Interval :=
  let narrow := m = twoTo (f.significandBits - 1) ∧ f.lowestExponent < q
  { low := .scaled (if narrow then 4 * m - 1 else 4 * m - 2) (q - 2)
    value := .scaled (4 * m) (q - 2)
    high := .scaled (4 * m + 2) (q - 2)
    ends := m % 2 == 0 }

/-- Whether the whole number `n` lies in the interval, all of it divided by `10^p`. -/
def Interval.holds (i : Interval) (p : Int) (n : Nat) : Bool :=
  let low := i.low.shifted p
  let high := i.high.shifted p
  let above := if i.ends then low.num ≤ n * low.den else low.num < n * low.den
  let below := if i.ends then n * high.den ≤ high.num else n * high.den < high.num
  above && below

/-- The point of the grid of step `10^p` that stands for the number, if the grid has one. -/
def Interval.onGrid? (i : Interval) (tie : Tie) (p : Int) : Option Nat :=
  let v := i.value.shifted p
  let down := v.num / v.den
  match i.holds p down && down != 0, i.holds p (down + 1) with
  | false, false => none
  | true, false => some down
  | false, true => some (down + 1)
  | true, true =>
    let twice := 2 * (v.num % v.den)
    if twice < v.den then some down
    else if v.den < twice then some (down + 1)
    else match tie with
      | .up => some (down + 1)
      | .even => some (if down % 2 = 0 then down else down + 1)

/-- Try grids of more and more digits. -/
def search (i : Interval) (tie : Tie) (top : Int) : Nat → Nat → Option Decimal
  | _, 0 => none
  | digits, fuel + 1 =>
    let p := top - digits
    match i.onGrid? tie p with
    | some n => some ⟨n, p⟩
    | none => search i tie top (digits + 1) fuel

/-- Drop the zeros that a number ends in. -/
def strip : Nat → Decimal → Decimal
  | 0, d => d
  | fuel + 1, d =>
    if d.digits ≠ 0 ∧ d.digits % 10 = 0 then strip fuel ⟨d.digits / 10, d.exponent + 1⟩ else d

/-- Seventeen digits tell any two double-precision numbers apart, nine any two single-precision ones. -/
def mostDigits : Nat := 17

end Shortest

/-- The shortest decimal that reads back as `m · 2^q`, its last digit not zero. -/
def FloatFormat.shortest (f : FloatFormat) (tie : Tie) (m : Nat) (q : Int) : Decimal :=
  if m = 0 then ⟨0, 0⟩
  else
    let i := Shortest.Interval.around f m q
    let found := Shortest.search i tie i.value.decimalExponent 0 (Shortest.mostDigits + 1)
    Shortest.strip (Shortest.mostDigits + 2) (found.getD ⟨0, 0⟩)

end CaptureRig

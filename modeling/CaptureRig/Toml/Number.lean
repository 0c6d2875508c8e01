import CaptureRig.Number.Binary
import CaptureRig.Text.Digits

namespace CaptureRig.Toml

inductive Number where
  | integer (n : Int)
  | float (x : Binary64)
  deriving Repr, DecidableEq

namespace Number

/-- The value of a character as a digit of the base. -/
def digit? (base : Nat) (c : Char) : Option Nat :=
  match Text.hexValue? c with
  | some n => if n < base then some n else none
  | none => none

/-- What a run of digits may look like. -/
structure Style where
  base : Nat
  signed : Bool
  leadingZeros : Bool

/-- What has been seen of a run: whether anything, whether a zero first, and whether an underscore last. -/
structure Seen where
  digits : List Char := []
  any : Bool := false
  zeroFirst : Bool := false
  underscore : Bool := false

/-- Go on with a run of digits; the answer is its digits without the underscores, and what follows it. -/
def run (style : Style) (seen : Seen) : List Char → Option (List Char × List Char)
  | [] => if !seen.any || seen.underscore then none else some (seen.digits.reverse, [])
  | c :: cs =>
    if c = '0' ∧ ¬ seen.any then
      run style { seen with digits := c :: seen.digits, any := true, zeroFirst := true } cs
    else if (digit? style.base c).isSome then
      if seen.zeroFirst ∧ ¬ style.leadingZeros then none
      else run style { seen with digits := c :: seen.digits, any := true, underscore := false } cs
    else if c = '_' ∧ ¬ seen.any then none
    else if c = '_' ∧ ¬ seen.underscore then run style { seen with underscore := true } cs
    else if !seen.any || seen.underscore then none
    else some (seen.digits.reverse, c :: cs)

/-- A sign, if one is allowed, and a run of digits. -/
def signedRun (style : Style) (cs : List Char) : Option (Bool × List Char × List Char) :=
  let (negative, cs) := match cs with
    | '-' :: rest => if style.signed then (true, rest) else (false, cs)
    | '+' :: rest => if style.signed then (false, rest) else (false, cs)
    | cs => (false, cs)
  (run style {} cs).map fun (digits, rest) => (negative, digits, rest)

def whole : Style := ⟨10, true, false⟩

def fraction : Style := ⟨10, false, true⟩

def power : Style := ⟨10, true, true⟩

/-- A whole number of 64 bits with a sign. -/
def integer? (style : Style) (cs : List Char) : Option Number :=
  match signedRun style cs with
  | some (negative, digits, []) =>
    match Text.digitsValue? (digit? style.base) style.base digits with
    | some n =>
      let value : Int := if negative then -n else n
      if -9223372036854775808 ≤ value ∧ value ≤ 9223372036854775807 then some (.integer value) else none
    | none => none
  | _ => none

/-- The number with these digits before and after the point and this power of ten, if it is finite. -/
def ofParts? (negative : Bool) (digits decimals : List Char) (exponent : Int) : Option Number :=
  let n := (Text.digitsValue? Text.decimalValue? 10 (digits ++ decimals)).getD 0
  let x := Binary64.ofDecimal negative n (exponent - decimals.length)
  if x.isFinite then some (.float x) else none

/-- The value of a power of ten that has been read. -/
def powerValue (negative : Bool) (digits : List Char) : Int :=
  let n := (Text.digitsValue? Text.decimalValue? 10 digits).getD 0
  if negative then -n else n

/-- A whole number in the base that its first characters name, or in base ten. -/
def based? : List Char → Option Number
  | '0' :: 'x' :: cs => integer? ⟨16, false, true⟩ cs
  | '0' :: 'o' :: cs => integer? ⟨8, false, true⟩ cs
  | '0' :: 'b' :: cs => integer? ⟨2, false, true⟩ cs
  | cs => integer? whole cs

/-- Whether the first characters name a base. -/
def namesBase : List Char → Bool
  | '0' :: c :: _ => c == 'x' || c == 'o' || c == 'b'
  | _ => false

/-- The values that are no numbers, by their words. -/
def word? (cs : List Char) : Option Number :=
  match String.ofList cs with
  | "inf" => some (.float (.infinity false))
  | "-inf" => some (.float (.infinity true))
  | "nan" => some (.float .notANumber)
  | "-nan" => some (.float Binary64.notANumber.negate)
  | _ => none

end Number

end CaptureRig.Toml

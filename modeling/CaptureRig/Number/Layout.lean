import CaptureRig.Number.Shortest

namespace CaptureRig

structure NumberLayout where
  tie : Tie
  /-- The exponents of the first digit that are written without a power of ten; all of them if not given. -/
  positional : Option (Int × Int)
  /-- Whether a whole number ends in `.0`. -/
  keepsPoint : Bool
  /-- What stands before the digits of a power of ten that is not negative. -/
  plus : String
  notANumber : String
  infinite : Bool → String

namespace NumberLayout

def zeros (n : Nat) : List Char := List.replicate n '0'

/-- The digits with a point in its place and no power of ten. -/
def positionalDigits (keepsPoint : Bool) (digits : List Char) (exponent : Int) : List Char :=
  match exponent with
  | .ofNat e => digits ++ zeros e ++ if keepsPoint then ['.', '0'] else []
  | .negSucc e =>
    let places := e + 1
    if places < digits.length then
      digits.take (digits.length - places) ++ '.' :: digits.drop (digits.length - places)
    else '0' :: '.' :: zeros (places - digits.length) ++ digits

def scientificDigits (plus : String) (digits : List Char) (top : Int) : List Char :=
  let mantissa := match digits with
    | [] => []
    | [d] => [d]
    | d :: rest => d :: '.' :: rest
  let power := match top with
    | .ofNat e => plus.toList ++ Nat.toDigits 10 e
    | .negSucc e => '-' :: Nat.toDigits 10 (e + 1)
  mantissa ++ 'e' :: power

def magnitude (l : NumberLayout) (d : Decimal) : List Char :=
  let digits := Nat.toDigits 10 d.digits
  let top := d.exponent + digits.length - 1
  let plain := match l.positional with
    | none => true
    | some (low, high) => low ≤ top && top ≤ high
  if plain then positionalDigits l.keepsPoint digits d.exponent else scientificDigits l.plus digits top

def write (l : NumberLayout) (f : FloatFormat) : FloatValue → String
  | .notANumber => l.notANumber
  | .infinite negative => l.infinite negative
  | .finite negative m q =>
    String.ofList ((if negative then ['-'] else []) ++ l.magnitude (f.shortest l.tie m q))

/-- Numbers as they stand in messages: always positional, a half going up, and no point on a whole number. -/
def message : NumberLayout :=
  { tie := .up, positional := none, keepsPoint := false, plus := "", notANumber := "NaN"
    infinite := fun negative => if negative then "-inf" else "inf" }

end NumberLayout

def Binary64.write (l : NumberLayout) (x : Binary64) : String :=
  l.write .double x.value

def Binary32.write (l : NumberLayout) (x : Binary32) : String :=
  l.write .single x.value

end CaptureRig

namespace CaptureRig.Text

/-- A number in decimal, padded on the left with zeros to at least `width` digits. -/
def padded (width n : Nat) : String :=
  let digits := Nat.toDigits 10 n
  String.ofList (List.replicate (width - digits.length) '0' ++ digits)

/-- The value of a hexadecimal digit of either case. -/
def hexValue? (c : Char) : Option Nat :=
  let n := c.toNat
  if 48 ≤ n ∧ n ≤ 57 then some (n - 48)
  else if 97 ≤ n ∧ n ≤ 102 then some (n - 87)
  else if 65 ≤ n ∧ n ≤ 70 then some (n - 55)
  else none

/-- At least `width` lower-case hexadecimal digits. -/
def hex (width n : Nat) : String :=
  let digits := Nat.toDigits 16 n
  String.ofList (List.replicate (width - digits.length) '0' ++ digits)

def decimalValue? (c : Char) : Option Nat :=
  let n := c.toNat
  if 48 ≤ n ∧ n ≤ 57 then some (n - 48) else none

/-- The number a non-empty run of digits stands for; `none` if a character is no digit. -/
def digitsValue? (value? : Char → Option Nat) (base : Nat) : List Char → Option Nat
  | [] => none
  | cs => cs.foldlM (fun total c => (value? c).map (total * base + ·)) 0

/-- A whole number below `bound`: digits after at most one plus sign. -/
def natural? (value? : Char → Option Nat) (base bound : Nat) (cs : List Char) : Option Nat :=
  let digits := match cs with
    | '+' :: rest => rest
    | _ => cs
  (digitsValue? value? base digits).bind fun n => if n < bound then some n else none

end CaptureRig.Text

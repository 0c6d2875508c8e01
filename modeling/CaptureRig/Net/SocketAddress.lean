import CaptureRig.Text.Digits

namespace CaptureRig.Net

/-- A version 4 address has four bytes, a version 6 one eight groups of 16 bits and a scope. -/
inductive Host where
  | v4 (octets : List Nat)
  | v6 (groups : List Nat) (scope : Nat)
  deriving Repr, DecidableEq

structure SocketAddress where
  host : Host
  port : Nat
  deriving Repr, DecidableEq

namespace Address

/-- The digits at the front, and what follows them. -/
def digits (value? : Char → Option Nat) (cs : List Char) : List Char × List Char :=
  (cs.takeWhile fun c => (value? c).isSome, cs.dropWhile fun c => (value? c).isSome)

/-- One character. -/
def expect (c : Char) : List Char → Option (List Char)
  | d :: rest => if d = c then some rest else none
  | [] => none

/-- A decimal byte of at most three digits, which does not begin with a zero unless it is one. -/
def octet? (cs : List Char) : Option (Nat × List Char) :=
  let (ds, rest) := digits Text.decimalValue? cs
  if 3 < ds.length || (ds.head? == some '0' && ds.length != 1) then none
  else match Text.digitsValue? Text.decimalValue? 10 ds with
    | some n => if n < 256 then some (n, rest) else none
    | none => none

/-- Four bytes with points between them. -/
def octets? (cs : List Char) : Option (List Nat × List Char) := do
  let (a, cs) ← octet? cs
  let (b, cs) ← octet? (← expect '.' cs)
  let (c, cs) ← octet? (← expect '.' cs)
  let (d, cs) ← octet? (← expect '.' cs)
  return ([a, b, c, d], cs)

/-- A group of one to four hexadecimal digits. -/
def group? (cs : List Char) : Option (Nat × List Char) :=
  let (ds, rest) := digits Text.hexValue? cs
  if 4 < ds.length then none else (Text.digitsValue? Text.hexValue? 16 ds).map fun n => (n, rest)

/-- Skip the colon before any group but the first. -/
def separator? (first : Bool) (cs : List Char) : Option (List Char) :=
  if first then some cs else expect ':' cs

/-- As many groups as there are, `room` at most; a version 4 address may take the place of the last two. The
answer also says whether one did. -/
def groups (first : Bool) : Nat → List Char → List Nat × Bool × List Char
  | 0, cs => ([], false, cs)
  | room + 1, cs =>
    match if room = 0 then none else (separator? first cs).bind octets? with
    | some ([a, b, c, d], rest) => ([a * 256 + b, c * 256 + d], true, rest)
    | _ =>
      match (separator? first cs).bind group? with
      | some (g, rest) =>
        let (gs, embedded, rest) := groups false room rest
        (g :: gs, embedded, rest)
      | none => ([], false, cs)

/-- Eight groups, or fewer around two colons that stand for the zero groups left out. -/
def sixteens? (cs : List Char) : Option (List Nat × List Char) :=
  let (head, embedded, rest) := groups true 8 cs
  if head.length = 8 then some (head, rest)
  else if embedded then none
  else do
    let rest ← expect ':' rest
    let rest ← expect ':' rest
    let (tail, _, rest) := groups true (7 - head.length) rest
    return (head ++ List.replicate (8 - head.length - tail.length) 0 ++ tail, rest)

/-- A decimal number below `bound`, with any number of leading zeros. -/
def bounded? (bound : Nat) (cs : List Char) : Option (Nat × List Char) :=
  let (ds, rest) := digits Text.decimalValue? cs
  match Text.digitsValue? Text.decimalValue? 10 ds with
  | some n => if n < bound then some (n, rest) else none
  | none => none

def port? (cs : List Char) : Option Nat := do
  match ← bounded? 65536 (← expect ':' cs) with
  | (n, []) => some n
  | _ => none

/-- A scope after a percent sign, zero if there is none. -/
def scope (cs : List Char) : Nat × List Char :=
  match (expect '%' cs).bind (bounded? UInt32.size) with
  | some found => found
  | none => (0, cs)

end Address

namespace SocketAddress

def parse? (s : String) : Option SocketAddress :=
  let v4 : Option SocketAddress := do
    let (octets, rest) ← Address.octets? s.toList
    return ⟨.v4 octets, ← Address.port? rest⟩
  v4 <|> do
    let (groups, rest) ← Address.sixteens? (← Address.expect '[' s.toList)
    let (scope, rest) := Address.scope rest
    return ⟨.v6 groups scope, ← Address.port? (← Address.expect ']' rest)⟩

def writeOctets (octets : List Nat) : String :=
  String.intercalate "." (octets.map toString)

def writeGroups (groups : List Nat) : String :=
  String.intercalate ":" (groups.map (Text.hex 1))

/-- The zeros that a list begins with. -/
def zeroRun (groups : List Nat) : Nat := (groups.takeWhile (· == 0)).length

/-- The place and the length of the longest run of zero groups, the first of several. -/
def longestRun (groups : List Nat) : Nat × Nat :=
  (List.range groups.length).foldl (fun (at_, length) i =>
    let run := zeroRun (groups.drop i)
    if length < run then (i, run) else (at_, length)) (0, 0)

/-- The longest run of at least two zero groups shrinks to two colons. A version 4 address embedded in the
usual way keeps its own form. -/
def writeSixteens (groups : List Nat) : String :=
  match groups with
  | [0, 0, 0, 0, 0, 0xffff, a, b] => "::ffff:" ++ writeOctets [a / 256, a % 256, b / 256, b % 256]
  | _ =>
    let (start, length) := longestRun groups
    if 1 < length then writeGroups (groups.take start) ++ "::" ++ writeGroups (groups.drop (start + length))
    else writeGroups groups

def write (a : SocketAddress) : String :=
  let host := match a.host with
    | .v4 octets => writeOctets octets
    | .v6 groups 0 => "[" ++ writeSixteens groups ++ "]"
    | .v6 groups scope => "[" ++ writeSixteens groups ++ "%" ++ toString scope ++ "]"
  host ++ ":" ++ toString a.port

/-- Every interface, at a port. -/
def anywhere (port : Nat) : SocketAddress := ⟨.v4 [0, 0, 0, 0], port⟩

end SocketAddress

end CaptureRig.Net

import CaptureRig.Json.Value
import CaptureRig.Table

namespace CaptureRig.Json

/-- A number as written. -/
structure NumberLiteral where
  negative : Bool
  whole : List Char
  fraction : List Char
  /-- The sign and the digits of the power of ten. -/
  power : Option (Bool × List Char)

/-- A piece of a string: a character, or a code unit written as an escape. -/
inductive TextUnit where
  | char (c : Char)
  | unit (n : Nat)

/-- A text taken apart by the grammar. -/
inductive Raw where
  | null
  | bool (b : Bool)
  | number (literal : NumberLiteral)
  | text (units : List TextUnit)
  | list (items : List Raw)
  | object (members : List (List TextUnit × Raw))
  deriving Inhabited

namespace Raw

def isDigit (c : Char) : Bool := (Text.decimalValue? c).isSome

def skipBlanks : List Char → List Char :=
  List.dropWhile fun c => c == ' ' || c == '\n' || c == '\t' || c == '\r'

/-- Four hexadecimal digits. -/
def hexUnit? (a b c d : Char) : Option Nat :=
  Text.digitsValue? Text.hexValue? 16 [a, b, c, d]

/-- The character of a one-letter escape. -/
def escape? (c : Char) : Option Char :=
  if c = '\x22' ∨ c = '\\' ∨ c = '/' then some c
  else if c = 'b' then some (Char.ofNat 8)
  else if c = 'f' then some (Char.ofNat 12)
  else if c = 'n' then some '\n'
  else if c = 'r' then some '\r'
  else if c = 't' then some '\t'
  else none

/-- The rest of a string after its opening quote, and what follows it. -/
def readText (read : List TextUnit) : List Char → Option (List TextUnit × List Char)
  | [] => none
  | '\x22' :: rest => some (read.reverse, rest)
  | '\\' :: 'u' :: a :: b :: c :: d :: rest =>
    match hexUnit? a b c d with
    | some n => readText (.unit n :: read) rest
    | none => none
  | '\\' :: c :: rest =>
    match escape? c with
    | some c => readText (.char c :: read) rest
    | none => none
  | c :: rest => if c.toNat < 0x20 then none else readText (.char c :: read) rest

/-- A fraction, if there is one: a point and at least one digit. -/
def readFraction : List Char → Option (List Char × List Char)
  | '.' :: rest =>
    let digits := rest.takeWhile isDigit
    if digits.isEmpty then none else some (digits, rest.dropWhile isDigit)
  | rest => some ([], rest)

/-- A power of ten, if there is one: a mark, at most one sign and at least one digit. -/
def readPower (cs : List Char) : Option (Option (Bool × List Char) × List Char) :=
  match cs with
  | c :: rest =>
    if c = 'e' ∨ c = 'E' then
      let (negative, rest) := match rest with
        | '-' :: rest => (true, rest)
        | '+' :: rest => (false, rest)
        | rest => (false, rest)
      let digits := rest.takeWhile isDigit
      if digits.isEmpty then none else some (some (negative, digits), rest.dropWhile isDigit)
    else some (none, cs)
  | [] => some (none, cs)

/-- A number; a whole part of several digits does not begin with zero. -/
def readNumber (negative : Bool) (cs : List Char) : Option (NumberLiteral × List Char) := do
  let whole := cs.takeWhile isDigit
  if whole.isEmpty || (whole.head? == some '0' && whole.length != 1) then none
  let (fraction, rest) ← readFraction (cs.dropWhile isDigit)
  let (power, rest) ← readPower rest
  return (⟨negative, whole, fraction, power⟩, rest)

mutual

/-- A value and what follows it. -/
def readValue : Nat → List Char → Option (Raw × List Char)
  | 0, _ => none
  | fuel + 1, cs =>
    match skipBlanks cs with
    | 'n' :: 'u' :: 'l' :: 'l' :: rest => some (.null, rest)
    | 't' :: 'r' :: 'u' :: 'e' :: rest => some (.bool true, rest)
    | 'f' :: 'a' :: 'l' :: 's' :: 'e' :: rest => some (.bool false, rest)
    | '\x22' :: rest => (readText [] rest).map fun (units, rest) => (.text units, rest)
    | '-' :: rest => (readNumber true rest).map fun (n, rest) => (.number n, rest)
    | '[' :: rest =>
      match skipBlanks rest with
      | ']' :: rest => some (.list [], rest)
      | rest => readItems fuel [] rest
    | '\x7b' :: rest =>
      match skipBlanks rest with
      | '\x7d' :: rest => some (.object [], rest)
      | rest => readMembers fuel [] rest
    | rest => (readNumber false rest).map fun (n, rest) => (.number n, rest)

/-- The items of a list that has at least one more. -/
def readItems : Nat → List Raw → List Char → Option (Raw × List Char)
  | 0, _, _ => none
  | fuel + 1, read, cs =>
    match readValue fuel cs with
    | none => none
    | some (item, rest) =>
      match skipBlanks rest with
      | ',' :: rest => readItems fuel (item :: read) rest
      | ']' :: rest => some (.list (item :: read).reverse, rest)
      | _ => none

/-- The members of an object that has at least one more. -/
def readMembers : Nat → List (List TextUnit × Raw) → List Char → Option (Raw × List Char)
  | 0, _, _ => none
  | fuel + 1, read, cs =>
    match skipBlanks cs with
    | '\x22' :: rest =>
      match readText [] rest with
      | none => none
      | some (key, rest) =>
        match skipBlanks rest with
        | ':' :: rest =>
          match readValue fuel rest with
          | none => none
          | some (value, rest) =>
            match skipBlanks rest with
            | ',' :: rest => readMembers fuel ((key, value) :: read) rest
            | '\x7d' :: rest => some (.object ((key, value) :: read).reverse, rest)
            | _ => none
        | _ => none
    | _ => none

end

/-- Take a whole text apart. Each step of reading uses up a character, so its length is fuel enough. -/
def read? (s : String) : Option Raw :=
  let cs := s.toList
  match readValue (2 * cs.length + 2) cs with
  | some (value, rest) => if (skipBlanks rest).isEmpty then some value else none
  | none => none

end Raw

/-- The string that the pieces make: code units beyond the basic plane come in pairs. -/
def unitsText? : List TextUnit → Option (List Char)
  | [] => some []
  | .char c :: rest => (unitsText? rest).map (c :: ·)
  | .unit n :: rest =>
    if 0xDC00 ≤ n ∧ n ≤ 0xDFFF then none
    else if 0xD800 ≤ n ∧ n ≤ 0xDBFF then
      match rest with
      | .unit low :: rest =>
        if 0xDC00 ≤ low ∧ low ≤ 0xDFFF then
          (unitsText? rest).map (Char.ofNat (0x10000 + (n - 0xD800) * 0x400 + (low - 0xDC00)) :: ·)
        else none
      | _ => none
    else (unitsText? rest).map (Char.ofNat n :: ·)

def textOf? (units : List TextUnit) : Option String :=
  (unitsText? units).map String.ofList

namespace NumberLiteral

/-- Significands stay below this bound. -/
def significandBound : Nat := UInt64.size

/-- Take digits into the significand as long as it stays below the bound; the other digits are handed back. -/
def accumulate (significand : Nat) : List Char → Nat × List Char
  | [] => (significand, [])
  | c :: rest =>
    let grown := significand * 10 + (Text.decimalValue? c).getD 0
    if grown < significandBound then accumulate grown rest else (significand, c :: rest)

/-- `f · 10^exponent` in steps of at most 308, each of them rounded; `none` beyond the finite numbers. -/
def scaleBy (f : Binary64) (exponent : Int) : Nat → Option Binary64
  | 0 => some f
  | fuel + 1 =>
    if 0 ≤ exponent then
      if 308 < exponent then (if f.isZero then some f else none)
      else
        let product := f.times (.ofDecimal false 1 exponent)
        if product.isFinite then some product else none
    else if exponent < -308 then
      if f.isZero then some f else scaleBy (f.dividedBy (.ofDecimal false 1 308)) (exponent + 308) fuel
    else some (f.dividedBy (.ofDecimal false 1 (-exponent)))

/-- The double-precision number of a literal: its significand is cut where it would leave 64 bits, converted, and
scaled by a rounded power of ten. `none` if the number is out of range. -/
def toDouble? (n : NumberLiteral) : Option Binary64 := do
  let (significand, dropped) := accumulate 0 n.whole
  let (significand, ignored) := accumulate significand n.fraction
  let exponent : Int := dropped.length - (n.fraction.length - ignored.length : Nat)
  let magnitude ← match n.power with
    | none => scaleBy (.ofInt significand) exponent 8
    | some (negative, digits) =>
      let power := (Text.digitsValue? Text.decimalValue? 10 digits).getD 0
      if 2147483648 ≤ power then
        if significand ≠ 0 ∧ ¬ negative then none else some (.ofInt 0)
      else scaleBy (.ofInt significand) (if negative then exponent - power else exponent + power) 8
  return if n.negative then magnitude.negate else magnitude

/-- A whole number within 64 bits is an integer, any other a double-precision number; so is a negative zero. -/
def value? (n : NumberLiteral) : Option Json :=
  let whole := (Text.digitsValue? Text.decimalValue? 10 n.whole).getD 0
  if n.fraction.isEmpty && n.power.isNone && !n.negative && whole < UInt64.size then some (.int whole)
  else if n.fraction.isEmpty && n.power.isNone && n.negative && whole != 0 && whole ≤ 9223372036854775808 then
    some (.int (-whole))
  else n.toDouble?.map .double

end NumberLiteral

/-- Values may be nested this deep. -/
def depthLimit : Nat := 127

mutual

/-- The value of a text taken apart, at most `depth` levels deep. Members of an object are sorted by key, and the
last of several with one key counts. -/
def ofRaw? (depth : Nat) : Raw → Option Json
  | .null => some .null
  | .bool b => some (.bool b)
  | .number n => n.value?
  | .text units => (textOf? units).map .text
  | .list items => if depth = 0 then none else (itemsOfRaw? (depth - 1) items).map .list
  | .object members =>
    if depth = 0 then none
    else (membersOfRaw? (depth - 1) members).map fun pairs => .object (Table.ofList pairs).entries

def itemsOfRaw? (depth : Nat) : List Raw → Option (List Json)
  | [] => some []
  | item :: items => do
    let item ← ofRaw? depth item
    let items ← itemsOfRaw? depth items
    return item :: items

def membersOfRaw? (depth : Nat) : List (List TextUnit × Raw) → Option (List (String × Json))
  | [] => some []
  | (key, value) :: members => do
    let key ← textOf? key
    let value ← ofRaw? depth value
    let members ← membersOfRaw? depth members
    return (key, value) :: members

end

/-- The value of a JSON text. -/
def parse? (s : String) : Option Json :=
  (Raw.read? s).bind (ofRaw? depthLimit)

end CaptureRig.Json

import CaptureRig.Number.Layout
import CaptureRig.Text.Digits

namespace CaptureRig

inductive Json where
  | null
  | bool (b : Bool)
  | int (n : Int)
  | double (x : Binary64)
  | single (x : Binary32)
  | text (s : String)
  | list (items : List Json)
  | object (members : List (String × Json))
  deriving Inhabited

namespace Json

/-- Double-precision numbers: positional for exponents from -5 to 15, whole ones keep their point, a half goes to
the even neighbour, and what is no number is null. -/
def doubleLayout : NumberLayout :=
  { tie := .even, positional := some (-5, 15), keepsPoint := true, plus := "+", notANumber := "null"
    infinite := fun _ => "null" }

/-- Single-precision numbers: positional for exponents from -6 to 12. -/
def singleLayout : NumberLayout :=
  { doubleLayout with positional := some (-6, 12) }

/-- How one character stands in a JSON string: only quotes, backslashes and controls are escaped. -/
def escapedChar (c : Char) : List Char :=
  if c = '\x22' then ['\\', '\x22']
  else if c = '\\' then ['\\', '\\']
  else if c = '\n' then ['\\', 'n']
  else if c = '\r' then ['\\', 'r']
  else if c = '\t' then ['\\', 't']
  else if c.toNat = 8 then ['\\', 'b']
  else if c.toNat = 12 then ['\\', 'f']
  else if c.toNat < 0x20 then ['\\', 'u'] ++ (Text.hex 4 c.toNat).toList
  else [c]

def writeText (s : String) : String :=
  String.ofList ('\x22' :: s.toList.flatMap escapedChar ++ ['\x22'])

/-- The text of a value that has no parts. -/
def writeScalar : Json → String
  | .bool b => if b then "true" else "false"
  | .int n => if n < 0 then "-" ++ toString n.natAbs else toString n.natAbs
  | .double x => x.write doubleLayout
  | .single x => x.write singleLayout
  | .text s => writeText s
  | _ => "null"

mutual

/-- The text without blanks. -/
def compact : Json → String
  | .list [] => "[]"
  | .list (item :: items) => "[" ++ compact item ++ compactItems items ++ "]"
  | .object [] => "\x7b\x7d"
  | .object ((key, value) :: members) =>
    "\x7b" ++ writeText key ++ ":" ++ compact value ++ compactMembers members ++ "\x7d"
  | scalar => writeScalar scalar

def compactItems : List Json → String
  | [] => ""
  | item :: items => "," ++ compact item ++ compactItems items

def compactMembers : List (String × Json) → String
  | [] => ""
  | (key, value) :: members => "," ++ writeText key ++ ":" ++ compact value ++ compactMembers members

end

/-- A new line, indented by two blanks for each level. -/
def newLine (level : Nat) : String :=
  String.ofList ('\n' :: List.replicate (2 * level) ' ')

mutual

/-- The text with one item or member a line, empty lists and objects closed at once. -/
def prettyAt (level : Nat) : Json → String
  | .list [] => "[]"
  | .list (item :: items) =>
    "[" ++ newLine (level + 1) ++ prettyAt (level + 1) item ++ prettyItems (level + 1) items ++ newLine level ++ "]"
  | .object [] => "\x7b\x7d"
  | .object ((key, value) :: members) =>
    "\x7b" ++ newLine (level + 1) ++ writeText key ++ ": " ++ prettyAt (level + 1) value ++
      prettyMembers (level + 1) members ++ newLine level ++ "\x7d"
  | scalar => writeScalar scalar

def prettyItems (level : Nat) : List Json → String
  | [] => ""
  | item :: items => "," ++ newLine level ++ prettyAt level item ++ prettyItems level items

def prettyMembers (level : Nat) : List (String × Json) → String
  | [] => ""
  | (key, value) :: members =>
    "," ++ newLine level ++ writeText key ++ ": " ++ prettyAt level value ++ prettyMembers level members

end

def pretty (j : Json) : String := prettyAt 0 j

def nat (n : Nat) : Json := .int n

def ofOption {α : Type} (f : α → Json) : Option α → Json
  | none => .null
  | some a => f a

def texts (items : List String) : Json := .list (items.map .text)

/-- The member of an object. -/
def get? (key : String) : Json → Option Json
  | .object members => (members.find? (·.1 == key)).map (·.2)
  | _ => none

end Json

end CaptureRig

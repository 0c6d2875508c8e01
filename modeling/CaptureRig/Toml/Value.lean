import CaptureRig.Toml.Number
import CaptureRig.Toml.Token

namespace CaptureRig.Toml

inductive Value where
  | text (s : String)
  | number (n : Number)
  | flag (b : Bool)
  /-- A date or a time, whose digits nobody here asks about. -/
  | date
  | list (items : List Value)
  /-- A table in braces or under a header. -/
  | table (pairs : List (String × Value))
  /-- A table that dotted keys have opened, which more of them may add to. -/
  | dotted (pairs : List (String × Value))
  deriving Inhabited

/-- The tokens not yet read. -/
abbrev Rest := List Token

namespace Value

/-- Put a value under a dotted key: the tables on the way are opened, or added to where dotted keys have opened
them before. -/
def insertDotted : List String → Value → List (String × Value) → Option (List (String × Value))
  | [], _, _ => none
  | [key], value, pairs => some (pairs ++ [(key, value)])
  | key :: keys, value, pairs =>
    match pairs.find? (·.1 == key) with
    | some (_, .dotted inner) => (insertDotted keys value inner).map fun inner => replaceFirst key (.dotted inner) pairs
    | some _ => none
    | none => (insertDotted keys value []).map fun inner => pairs ++ [(key, .dotted inner)]
where
  /-- Change the value of the first pair with a key. -/
  replaceFirst (key : String) (value : Value) : List (String × Value) → List (String × Value)
    | [] => []
    | (k, v) :: rest => if k == key then (k, value) :: rest else (k, v) :: replaceFirst key value rest

def skipBlanks : Rest → Rest
  | .blanks _ :: rest => rest
  | rest => rest

/-- Skip blanks, newlines and comments; a comment ends with its line. -/
def skipLines : Nat → Rest → Option Rest
  | 0, rest => some rest
  | fuel + 1, rest =>
    match skipBlanks rest with
    | .newline :: rest => skipLines fuel rest
    | .comment :: .newline :: rest => skipLines fuel rest
    | [.comment] => some []
    | .comment :: _ => none
    | rest => some rest

def expect (t : Token) : Rest → Option Rest
  | u :: rest => if u = t then some rest else none
  | [] => none

/-- Skip a token if it is there. -/
def allow (t : Token) (rest : Rest) : Rest := (expect t rest).getD rest

def bare? : Rest → Option (List Char × Rest)
  | .bare cs :: rest => some (cs, rest)
  | _ => none

/-- One part of a key. -/
def key? : Rest → Option (String × Rest)
  | .bare cs :: rest => some (String.ofList cs, rest)
  | .text s false :: rest => some (s, rest)
  | _ => none

/-- The further parts of a dotted key. -/
def moreKeys : Nat → List String → Rest → Option (List String × Rest)
  | 0, _, _ => none
  | fuel + 1, keys, rest =>
    match skipBlanks rest with
    | .sign '.' :: rest => do
      let (key, rest) ← key? (skipBlanks rest)
      moreKeys fuel (key :: keys) rest
    | rest => some (keys.reverse, rest)

def dottedKey? (rest : Rest) : Option (List String × Rest) := do
  let (key, rest) ← key? rest
  moreKeys (rest.length + 1) [key] rest

/-- A number with a point or a power of ten, whose first characters are `cs`. The digits after a point and the
sign of a power are tokens of their own. -/
def float? (cs : List Char) (afterPoint : Option (List Char)) (rest : Rest) : Option (Value × Rest) := do
  let (negative, digits, tail) ← Number.signedRun Number.whole cs
  let (decimals, tail) ← match afterPoint with
    | none => some ([], tail)
    | some more => if tail.isEmpty then Number.run Number.fraction {} more else none
  let (exponent, rest) ← match tail with
    | [] => some (0, rest)
    | [e] =>
      if e = 'e' ∨ e = 'E' then do
        let (more, rest) ← bare? (allow (.sign '+') rest)
        match ← Number.run Number.fraction {} more with
        | (ds, []) => some (Number.powerValue false ds, rest)
        | _ => none
      else none
    | e :: more =>
      if e = 'e' ∨ e = 'E' then do
        match ← Number.signedRun Number.power more with
        | (lower, ds, []) => some (Number.powerValue lower ds, rest)
        | _ => none
      else none
  let n ← Number.ofParts? negative digits decimals exponent
  return (.number n, rest)

def hasPowerMark (cs : List Char) : Bool := cs.any fun c => c == 'e' || c == 'E'

/-- A number whose first characters are `cs`. -/
def number? (cs : List Char) (rest : Rest) : Option (Value × Rest) :=
  if Number.namesBase cs then (Number.based? cs).map fun n => (.number n, rest)
  else if hasPowerMark cs then float? cs none rest
  else match rest with
    | .sign '.' :: rest => (bare? rest).bind fun (more, rest) => float? cs (some more) rest
    | _ => (Number.word? cs <|> Number.based? cs).map fun n => (.number n, rest)

/-- Skip an hour that stands one space after a date. -/
def skipHour : Rest → Rest
  | .blanks true :: .bare _ :: rest => rest
  | rest => rest

/-- The time after the colon that follows an hour: minutes, seconds, a fraction and an offset. -/
def time? (rest : Rest) : Option Rest := do
  let (_, rest) ← bare? rest
  let (_, rest) ← bare? (← expect (.sign ':') rest)
  let rest ← part '.' rest
  let rest ← part '+' rest
  part ':' rest
where
  /-- A sign with something after it, or neither. -/
  part (c : Char) (rest : Rest) : Option Rest :=
    match expect (.sign c) rest with
    | none => some rest
    | some rest => (bare? rest).map (·.2)

/-- A date, a time or both, after its first characters. -/
def date? (colonRead : Bool) (rest : Rest) : Option (Value × Rest) :=
  let rest := skipHour rest
  let afterColon := if colonRead then some rest else expect (.sign ':') rest
  match afterColon with
  | none => some (.date, rest)
  | some rest => (time? rest).map fun rest => (.date, rest)

/-- Whether the characters are taken for a date: a T in them, or a hyphen after the first that no power of ten has
before it. -/
def looksDated (cs : List Char) : Bool :=
  cs.any (fun c => c == 'T' || c == 't') ||
    ((cs.drop 1).contains '-' && !(cs.zip (cs.drop 1)).any fun (a, b) => (a == 'e' || a == 'E') && b == '-')

/-- A value of bare characters: a number, a date, or one of the words. -/
def bareValue? (cs : List Char) (rest : Rest) : Option (Value × Rest) :=
  let isNumeral := match cs with
    | c :: _ => c == '-' || (Text.decimalValue? c).isSome
    | [] => false
  if String.ofList cs == "true" then some (.flag true, rest)
  else if String.ofList cs == "false" then some (.flag false, rest)
  else if !isNumeral && String.ofList cs != "inf" && String.ofList cs != "nan" then none
  else if looksDated cs then date? false rest
  else match rest with
    | .sign ':' :: rest => date? true rest
    | rest => number? cs rest

mutual

/-- A value and what follows it. -/
def read? : Nat → Rest → Option (Value × Rest)
  | 0, _ => none
  | fuel + 1, rest =>
    match rest with
    | .text s _ :: rest => some (.text s, rest)
    | .bare cs :: rest => bareValue? cs rest
    | .sign '+' :: .bare cs :: rest => number? cs rest
    | .sign '[' :: rest => items? fuel [] rest
    | .sign '\x7b' :: rest =>
      match skipBlanks rest with
      | .sign '\x7d' :: rest => some (.table [], rest)
      | rest => pairs? fuel [] rest
    | _ => none

/-- The items of a list up to its closing bracket, over any number of lines; a comma may follow the last. -/
def items? : Nat → List Value → Rest → Option (Value × Rest)
  | 0, _, _ => none
  | fuel + 1, found, rest =>
    match skipLines (rest.length + 1) rest with
    | none => none
    | some (.sign ']' :: rest) => some (.list found.reverse, rest)
    | some rest =>
      match read? fuel rest with
      | none => none
      | some (value, rest) =>
        match skipLines (rest.length + 1) rest with
        | some (.sign ',' :: rest) => items? fuel (value :: found) rest
        | some (.sign ']' :: rest) => some (.list (value :: found).reverse, rest)
        | _ => none

/-- The pairs of a table in braces, all on one line and at least one more. -/
def pairs? : Nat → List (String × Value) → Rest → Option (Value × Rest)
  | 0, _, _ => none
  | fuel + 1, found, rest =>
    match dottedKey? rest with
    | none => none
    | some (keys, rest) =>
      match expect (.sign '=') (skipBlanks rest) with
      | none => none
      | some rest =>
        match read? fuel (skipBlanks rest) with
        | none => none
        | some (value, rest) =>
          match insertDotted keys value found with
          | none => none
          | some found =>
            match skipBlanks rest with
            | .sign '\x7d' :: rest => some (.table found, rest)
            | .sign ',' :: rest => pairs? fuel found (skipBlanks rest)
            | _ => none

end

/-- The end of a line, after blanks and a comment. -/
def lineEnd? (rest : Rest) : Option Rest :=
  match skipBlanks rest with
  | .comment :: rest => newline rest
  | rest => newline rest
where
  newline : Rest → Option Rest
    | .newline :: rest => some rest
    | [] => some []
    | _ => none

end Value

/-- A stretch of a text under one header; `array` says that it is one more entry of a list of tables. The stretch
before the first header has an empty one. -/
structure Section where
  header : List String
  array : Bool
  pairs : List (String × Value)

namespace Section

/-- A header in single or double brackets, up to the end of its line. -/
def header? (array : Bool) (rest : Rest) : Option (List String × Rest) := do
  let (keys, rest) ← Value.dottedKey? (Value.skipBlanks rest)
  let rest ← Value.expect (.sign ']') rest
  let rest ← if array then Value.expect (.sign ']') rest else some rest
  let rest ← Value.lineEnd? rest
  return (keys, rest)

/-- A key and its value, up to the end of their line, put into the section. -/
def pair? (s : Section) (rest : Rest) : Option (Section × Rest) := do
  let (keys, rest) ← Value.dottedKey? rest
  let rest ← Value.expect (.sign '=') (Value.skipBlanks rest)
  let (value, rest) ← Value.read? (2 * rest.length + 1) (Value.skipBlanks rest)
  let rest ← Value.lineEnd? rest
  let pairs ← Value.insertDotted keys value s.pairs
  return ({ s with pairs }, rest)

/-- Close a section, unless it is an empty one before the first header. -/
def close (s : Section) (found : List Section) : List Section :=
  if s.header.isEmpty && s.pairs.isEmpty then found else s :: found

/-- The sections of a text, line by line. -/
def read? : Nat → List Section → Section → Rest → Option (List Section)
  | 0, _, _, _ => none
  | fuel + 1, found, s, rest =>
    match Value.skipLines (rest.length + 1) rest with
    | none => none
    | some [] => some (close s found).reverse
    | some (.sign '[' :: rest) =>
      let (array, rest) := match rest with
        | .sign '[' :: rest => (true, rest)
        | rest => (false, rest)
      match header? array rest with
      | some (header, rest) => read? fuel (close s found) ⟨header, array, []⟩ rest
      | none => none
    | some rest =>
      match pair? s rest with
      | some (s, rest) => read? fuel found s rest
      | none => none

def ofTokens? (tokens : List Token) : Option (List Section) :=
  read? (tokens.length + 1) [] ⟨[], false, []⟩ tokens

end Section

end CaptureRig.Toml

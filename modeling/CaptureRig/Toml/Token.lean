import CaptureRig.Text.Digits

namespace CaptureRig.Toml

inductive Token where
  /-- A run of blanks; what it consists of matters only between a date and a time. -/
  | blanks (oneSpace : Bool)
  | newline
  | comment
  /-- One of `= . , : +` and the brackets. -/
  | sign (c : Char)
  /-- A run of letters, digits, hyphens and underscores. -/
  | bare (cs : List Char)
  | text (s : String) (multiline : Bool)
  deriving Repr, DecidableEq

namespace Token

def isBare (c : Char) : Bool :=
  let n := c.toNat
  (48 ≤ n && n ≤ 57) || (65 ≤ n && n ≤ 90) || (97 ≤ n && n ≤ 122) || c == '-' || c == '_'

def isBlank (c : Char) : Bool := c == ' ' || c == '\t'

/-- Characters that may stand in a string as they are. -/
def isPlain (c : Char) : Bool := c == '\t' || (0x20 ≤ c.toNat && c.toNat != 0x7F)

/-- A comment ends before the first control other than a tab. -/
def isCommented (c : Char) : Bool := c == '\t' || 0x20 ≤ c.toNat

def signs : List Char := ['=', '.', ',', ':', '+', '[', ']', '\x7b', '\x7d']

/-- Make a newline of each carriage return with a line feed. -/
def foldLineEnds : List Char → List Char
  | '\r' :: '\n' :: cs => '\n' :: foldLineEnds cs
  | c :: cs => c :: foldLineEnds cs
  | [] => []

/-- The character of `width` hexadecimal digits, and what follows them. -/
def escapedCode? (width : Nat) (cs : List Char) : Option (Char × List Char) :=
  let ds := cs.take width
  match if ds.length = width then Text.digitsValue? Text.hexValue? 16 ds else none with
  | some n => if n.isValidChar then some (Char.ofNat n, cs.drop width) else none
  | none => none

/-- The character of a one-letter escape. -/
def escape? (c : Char) : Option Char :=
  if c = '\x22' ∨ c = '\\' then some c
  else if c = 'b' then some (Char.ofNat 8)
  else if c = 'f' then some (Char.ofNat 12)
  else if c = 'n' then some '\n'
  else if c = 'r' then some '\r'
  else if c = 't' then some '\t'
  else none

/-- What follows a backslash that ends a line: the rest of that line is blank, and blank lines after it are
skipped with the blanks that the next line begins with. -/
def continued? (cs : List Char) : Option (List Char) :=
  match cs.dropWhile isBlank with
  | '\n' :: rest => some (rest.dropWhile fun c => isBlank c || c == '\n')
  | [] => some []
  | _ => none

/-- The rest of a string after its opening quotes, and what follows the closing ones. In a string over several
lines up to two quotes may stand right before the closing three. -/
def readText (quote : Char) (escapes multiline : Bool) : Nat → List Char → List Char → Option (List Char × List Char)
  | 0, _, _ => none
  | _, _, [] => none
  | fuel + 1, read, c :: rest =>
    if c = '\n' then
      if multiline then readText quote escapes multiline fuel ('\n' :: read) rest else none
    else if c = quote then
      if !multiline then some (read.reverse, rest)
      else match rest with
        | q :: r :: rest' =>
          if q = quote ∧ r = quote then
            let extra := (rest'.take 2).takeWhile (· == quote)
            some ((extra ++ read).reverse, rest'.drop extra.length)
          else readText quote escapes multiline fuel (c :: read) rest
        | _ => readText quote escapes multiline fuel (c :: read) rest
    else if escapes ∧ c = '\\' then
      match rest with
      | [] => none
      | e :: rest' =>
        if e = 'u' ∨ e = 'U' then
          match escapedCode? (if e = 'u' then 4 else 8) rest' with
          | some (d, rest') => readText quote escapes multiline fuel (d :: read) rest'
          | none => none
        else match escape? e with
          | some d => readText quote escapes multiline fuel (d :: read) rest'
          | none =>
            if multiline ∧ (isBlank e ∨ e = '\n') then
              match continued? rest with
              | some rest' => readText quote escapes multiline fuel read rest'
              | none => none
            else none
    else if isPlain c then readText quote escapes multiline fuel (c :: read) rest
    else none

/-- A string after its first quote. A newline right after three opening quotes is no part of it. -/
def readString (quote : Char) (cs : List Char) : Option (Token × List Char) :=
  let escapes := quote == '\x22'
  let single := (readText quote escapes false (cs.length + 1) [] cs).map fun (s, rest) =>
    (Token.text (String.ofList s) false, rest)
  match cs with
  | q :: r :: rest =>
    if q = quote ∧ r = quote then
      let rest := match rest with
        | '\n' :: rest => rest
        | rest => rest
      (readText quote escapes true (rest.length + 1) [] rest).map fun (s, rest) =>
        (Token.text (String.ofList s) true, rest)
    else single
  | _ => single

/-- The token at the front. -/
def next? : List Char → Option (Token × List Char)
  | [] => none
  | c :: rest =>
    if c = '\n' then some (.newline, rest)
    else if isBlank c then
      let more := rest.takeWhile isBlank
      some (.blanks (c == ' ' && more.isEmpty), rest.dropWhile isBlank)
    else if c = '#' then some (.comment, rest.dropWhile isCommented)
    else if signs.contains c then some (.sign c, rest)
    else if c = '\x22' ∨ c = '\x27' then readString c rest
    else if isBare c then some (.bare (c :: rest.takeWhile isBare), rest.dropWhile isBare)
    else none

/-- All tokens, onto those found before. -/
def scan : Nat → List Token → List Char → Option (List Token)
  | _, found, [] => some found.reverse
  | 0, _, _ => none
  | fuel + 1, found, cs =>
    match next? cs with
    | some (t, rest) => scan fuel (t :: found) rest
    | none => none

/-- The tokens of a text. Each takes at least one character, so the length is fuel enough. -/
def ofText? (s : String) : Option (List Token) :=
  let cs := match s.toList with
    | c :: rest => if c.toNat = 0xFEFF then rest else c :: rest
    | [] => []
  scan (cs.length + 1) [] (foldLineEnds cs)

end Token

end CaptureRig.Toml

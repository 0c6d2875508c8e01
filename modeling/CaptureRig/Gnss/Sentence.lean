import CaptureRig.Text.Blank
import CaptureRig.Text.Digits
import CaptureRig.Text.Utf8

namespace CaptureRig.Gnss

/-- The exclusive or of all bytes. -/
def checksum (data : List Char) : UInt8 :=
  (Utf8.encode data).foldl (· ^^^ ·) 0

/-- The characters before and after the last star, if there is one. -/
def cutAtStar? : List Char → Option (List Char × List Char)
  | [] => none
  | c :: cs =>
    match cutAtStar? cs with
    | some (data, sum) => some (c :: data, sum)
    | none => if c = '*' then some ([], cs) else none

/-- Two hexadecimal digits as a rule, but any number below 256 will do, even after a plus sign. -/
def checksumField? (cs : List Char) : Option Nat :=
  Text.natural? Text.hexValue? 16 256 cs

/-- Whether the checksum field is right. A sentence without one passes. -/
def checksumHolds (sentence : List Char) : Bool :=
  match cutAtStar? ((Text.trimmed sentence).dropWhile (· == '$')) with
  | none => true
  | some (data, sum) =>
    match checksumField? sum with
    | none => false
    | some expected => (checksum data).toNat == expected

/-- A byte as two upper-case hexadecimal digits. -/
def upperHex (n : Nat) : List Char :=
  (Text.hex 2 n).toList.map Char.toUpper

/-- The sentence that carries these data. -/
def sentence (data : List Char) : List Char :=
  '$' :: data ++ '*' :: upperHex (checksum data).toNat

/-- The data of the simulated fix number `step`, which drifts slowly north. -/
def simulatedData (step : Nat) : List Char :=
  let secs := step % 86400
  ("GPGGA," ++ Text.padded 2 (secs / 3600) ++ Text.padded 2 (secs / 60 % 60) ++ Text.padded 2 (secs % 60) ++
    ".000,5321." ++ Text.padded 4 (step % 10000) ++ ",N,00630.3372,W,1,8,1.03,61.7,M,55.2,M,,").toList

def simulated (step : Nat) : String :=
  String.ofList (sentence (simulatedData step))

end CaptureRig.Gnss

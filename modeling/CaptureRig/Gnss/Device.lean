import CaptureRig.Text.Utf8

namespace CaptureRig.Gnss.Device

def newline : UInt8 := 10

/-- The lines of a segment, each with its newline; the last may lack it. -/
def rawLines : List UInt8 → List (List UInt8)
  | [] => []
  | b :: bs =>
    if b = newline then [b] :: rawLines bs
    else match rawLines bs with
      | [] => [[b]]
      | line :: lines => (b :: line) :: lines

/-- The lines of a segment that are text. -/
def lines (segment : List UInt8) : List String :=
  (rawLines segment).filterMap fun line => (Utf8.decode? line).map String.ofList

/-- The lines read from all segments. -/
def read (segments : List (List UInt8)) : List String := segments.flatMap lines

end CaptureRig.Gnss.Device

import CaptureRig.Camera.Frame

namespace CaptureRig.Camera.TestPattern

def width : Nat := 320

def height : Nat := 240

/-- A source of frames: the camera it stands in for and the number of the next frame. -/
structure Source where
  camera : UInt32
  step : UInt32

/-- How far the bars have moved. -/
def shift (step : UInt32) : UInt32 := step * 4

/-- The red, green and blue of one pixel; `none` if its place in the moving bars leaves 32 bits. -/
def pixel? (camera step : UInt32) (x y : Nat) : Option (Nat × Nat × Nat) :=
  let place := x + (shift step).toNat
  if place < UInt32.size then some (place / 40 % 8 * 32, y % 256, (camera * 60).toNat % 256) else none

/-- The pixels of the next frame, row by row; `none` if one of them cannot be placed. -/
def grab? (s : Source) : Option (List (Nat × Nat × Nat)) :=
  (List.range height).foldr (fun y later =>
    (List.range width).foldr (fun x later =>
      match pixel? s.camera s.step x y, later with
      | some p, some ps => some (p :: ps)
      | _, _ => none) later) (some [])

/-- The next frame, whose pixels that cannot be placed are black. -/
def image (s : Source) : Image := ⟨width, height, fun x y => (pixel? s.camera s.step x y).getD (0, 0, 0)⟩

def Source.next (s : Source) : Source := { s with step := s.step + 1 }

/-- The bytes of the pixels. -/
def bytes (pixels : List (Nat × Nat × Nat)) : List Nat :=
  pixels.flatMap fun (r, g, b) => [r, g, b]

/-- A sum of the bytes, each weighted by its place modulo 251. -/
def weightedSum (bytes : List Nat) : Nat :=
  (bytes.foldl (fun (sum, i) b => (sum + (i % 251 + 1) * b, i + 1)) (0, 0)).1

end CaptureRig.Camera.TestPattern

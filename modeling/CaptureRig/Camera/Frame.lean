import CaptureRig.Chunk.Name
import CaptureRig.Json.Value

namespace CaptureRig.Camera

/-- An image as it is grabbed: its size in pixels, and the red, green and blue of each. -/
structure Image where
  width : Nat
  height : Nat
  pixel : (x y : Nat) → Nat × Nat × Nat := fun _ _ => (0, 0, 0)

/-- A compressed frame with its authoritative time. -/
structure Frame where
  camera : UInt32
  timestamp : UInt64
  jpeg : List UInt8
  deriving Repr, DecidableEq

inductive EncodeError where
  | tooLarge
  deriving Repr, DecidableEq

/-- What compresses images: the bytes of a picture, unless it refuses the image. -/
abbrev Encoder : Type := Image → Except EncodeError (List UInt8)

/-- A compressed picture has at most this many pixels on a side. -/
def sideLimit : Nat := 65535

/-- An encoder that looks at nothing but the size: its pictures are the marks for the start and the end of one. -/
def Encoder.marks : Encoder := fun image =>
  if image.width ≤ sideLimit ∧ image.height ≤ sideLimit then .ok [0xFF, 0xD8, 0xFF, 0xD9] else .error .tooLarge

/-- The name of the picture within a chunk. -/
def pictureName (camera : UInt32) (timestamp : UInt64) (index : Nat) : String :=
  "camera" ++ Chunk.number index ++ "_" ++ toString camera.toNat ++ "_" ++ toString timestamp.toNat ++ ".jpg"

def Frame.fileName (f : Frame) (index : Nat) : String := pictureName f.camera f.timestamp index

/-- The record of a frame, without its picture. -/
def recordJson (camera : UInt32) (timestamp : UInt64) : Json :=
  .object [("camera", .nat camera.toNat), ("timestamp_ns", .nat timestamp.toNat)]

end CaptureRig.Camera

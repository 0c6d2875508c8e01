import CaptureRig.Text.Digits

namespace CaptureRig.Chunk

/-- The index with at least four digits. -/
def number (index : Nat) : String := Text.padded 4 index

/-- The kind of data, the number of the chunk, and the extension. -/
def fileName (kind : String) (index : Nat) (extension : String) : String :=
  kind ++ number index ++ "." ++ extension

end CaptureRig.Chunk

import CaptureRig.Proofs.Record.Balance
import CaptureRig.Proofs.Record.Format

namespace CaptureRig

namespace Recorder

variable {γ α : Type}

end Recorder

open Recorder

/-- The files that a call has written, with the text that it has left in each. -/
def Call.texts : Call Instrument Chunk.Dump → List (String × String)
  | .persisted _ _ _ _ (.wrote files) left =>
    files.filterMap fun path => (left.readText path).toOption.map fun text => (path, text)
  | _ => []

end CaptureRig

import CaptureRig.Chunk.Write
import CaptureRig.Fault
import CaptureRig.Panel.Basic
import CaptureRig.Scan.Session

namespace CaptureRig

/-- How the writing of a dump ended. -/
inductive Persisted where
  | wrote (files : List String)
  | failed (cause : Chunk.PersistError)
  /-- The instrument broke down over it. -/
  | broke
  deriving Repr, DecidableEq

/-- References `ρ` to instruments, their joint state `σ`, and their dumps `δ`. -/
structure Equipment (ρ σ δ : Type) where
  start : ρ → σ → σ
  stop : ρ → σ → σ
  /-- Hand over the clock of the rig. -/
  provide : ρ → σ → σ
  /-- Take the data kept so far. -/
  freeze : ρ → σ → δ × σ
  /-- The number of records in a dump. -/
  size : δ → Nat
  /-- Write a dump into a directory as the chunk of that number. -/
  persist : ρ → δ → σ → (dir : String) → (index : Nat) → Storage.Tree → Persisted × Storage.Tree
  /-- Open a directory and bring it to the medium, which may fail with the directory in place. -/
  sync : σ → (dir : String) → Storage.Tree → Except Storage.AccessError Unit
  /-- Allocate the directories of a session; `none` if that fails. -/
  allocate : σ → Storage.Tree → Except Fault (Option SessionDirs × σ × Storage.Tree)
  setLed : Led → Bool → σ → σ
  /-- How long the last commit has taken, in microseconds. -/
  commitMicros : σ → Nat

end CaptureRig

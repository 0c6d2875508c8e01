import CaptureRig.Json.Value

namespace CaptureRig

/-- Where a session puts its chunks. -/
structure SessionDirs where
  id : Nat
  continuous : String
  stopScan : String
  deriving Repr, DecidableEq

/-- The two ways of capture. -/
inductive ScanMode where
  | continuous
  | stopScan
  deriving Repr, DecidableEq

structure ScanSession where
  dirs : SessionDirs
  continuousChunks : Nat := 0
  stopScanChunks : Nat := 0
  deriving Repr, DecidableEq

namespace ScanSession

/-- The number of the next chunk, in whichever way it is captured. -/
def nextChunk (s : ScanSession) : Nat := s.continuousChunks + s.stopScanChunks

def dir (s : ScanSession) : ScanMode → String
  | .continuous => s.dirs.continuous
  | .stopScan => s.dirs.stopScan

/-- Count a committed chunk. -/
def committed (s : ScanSession) : ScanMode → ScanSession
  | .continuous => { s with continuousChunks := s.continuousChunks + 1 }
  | .stopScan => { s with stopScanChunks := s.stopScanChunks + 1 }

def json (s : ScanSession) : Json :=
  .object [("id", .nat s.dirs.id), ("continuous_dir", .text s.dirs.continuous), ("stop_scan_dir", .text s.dirs.stopScan),
    ("chunks_continuous", .nat s.continuousChunks), ("chunks_stop_scan", .nat s.stopScanChunks)]

end ScanSession

end CaptureRig

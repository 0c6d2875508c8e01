namespace CaptureRig

inductive Phase where
  | waitForResources
  | idle
  | startingScan
  | scanning
  | stopping
  | startingStopScan
  | stopScanInitialProgress
  | stopScanInProgress
  | stoppingStopScan
  | lidarError
  | storageError
  deriving Repr, DecidableEq

namespace Phase

def all : List Phase :=
  [.waitForResources, .idle, .startingScan, .scanning, .stopping, .startingStopScan, .stopScanInitialProgress,
   .stopScanInProgress, .stoppingStopScan, .lidarError, .storageError]

def name : Phase → String
  | .waitForResources => "WAIT_FOR_RESOURCES"
  | .idle => "IDLE"
  | .startingScan => "STARTING_SCAN"
  | .scanning => "SCANNING"
  | .stopping => "STOPPING"
  | .startingStopScan => "STARTING_STOP_SCAN"
  | .stopScanInitialProgress => "STOP_SCAN_IN_INITIAL_PROGRESS"
  | .stopScanInProgress => "STOP_SCAN_IN_PROGRESS"
  | .stoppingStopScan => "STOPPING_STOP_SCAN"
  | .lidarError => "LIDAR_ERROR"
  | .storageError => "USB_IO_ERROR"

/-- The phases that no transition leaves, but for the one error that outranks the other. -/
def isError : Phase → Bool
  | .lidarError | .storageError => true
  | _ => false

/-- The phases whose work is done in one step, with nothing to wait for. -/
def isTransient : Phase → Bool
  | .startingScan | .stopping | .startingStopScan | .stoppingStopScan => true
  | _ => false

/-- The number that stands for the phase where it is shared between threads. -/
def code (p : Phase) : Nat := p.ctorIdx

def ofCode? (n : Nat) : Option Phase := all[n]?

/-- A number that stands for no phase reads as the storage error. -/
def ofCode (n : Nat) : Phase := (ofCode? n).getD .storageError

end Phase

end CaptureRig

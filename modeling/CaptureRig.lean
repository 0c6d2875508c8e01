import CaptureRig.Camera.TestPattern
import CaptureRig.Clock.Span
import CaptureRig.Http
import CaptureRig.Journal.Session
import CaptureRig.Json.Record
import CaptureRig.Lidar.Simulator
import CaptureRig.Settings
import CaptureRig.Proofs.Scan.Commit
import CaptureRig.Proofs.Scan.Deed
import CaptureRig.Proofs.Scan.Run
import CaptureRig.Proofs.Scan.Transition
import CaptureRig.Proofs.Scan.Numbering
import CaptureRig.Proofs.Record.Conservation
import CaptureRig.Proofs.Record.Custody
import CaptureRig.Proofs.Record.Stream
import CaptureRig.Proofs.Storage.Campaign
import CaptureRig.Proofs.Scan.Drain
import CaptureRig.Proofs.Scan.Halt
import CaptureRig.Proofs.Record.Logging
import CaptureRig.Proofs.Scan.Lamp
import CaptureRig.Proofs.Scan.Abort
import CaptureRig.Proofs.Chunk.Phases
import CaptureRig.Proofs.Chunk.Workers
import CaptureRig.Proofs.Storage.Allocation
import CaptureRig.Proofs.Storage.Locality
import CaptureRig.Proofs.Scan.Deadline
import CaptureRig.Proofs.Clock.Correction
import CaptureRig.Proofs.Clock.Advance
import CaptureRig.Proofs.Scan.Lifecycle
import CaptureRig.Proofs.Lidar.Grammar
import CaptureRig.Proofs.Lidar.RoundTrip
import CaptureRig.Proofs.Lidar.Traffic
import CaptureRig.Proofs.Scan.StopScan
import CaptureRig.Proofs.Scan.Cadence
import CaptureRig.Proofs.Camera.Roll
import CaptureRig.Proofs.Camera.Bars
import CaptureRig.Proofs.Lidar.Stamps
import CaptureRig.Proofs.Scan.Display
import CaptureRig.Proofs.Panel.Settling
import CaptureRig.Proofs.Registry
import CaptureRig.Proofs.Status.Document
import CaptureRig.Proofs.Gnss.Checksum
import CaptureRig.Proofs.Text.Lines
import CaptureRig.Proofs.Gnss.Device
import CaptureRig.Proofs.Gnss.ChunkFile
import CaptureRig.Proofs.Journal.Saving

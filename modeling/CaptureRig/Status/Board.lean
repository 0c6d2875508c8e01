import CaptureRig.Rig.Station
import CaptureRig.Status.Document

namespace CaptureRig

/-- One millionth, as nearly as it can be held. -/
def millionth : Binary64 := .ofDecimal false 1 (-6)

namespace CommitStats

def reportName : String := "chunks"

/-- There is no last chunk before the first commit. -/
def report (c : CommitStats) : Json :=
  .object [("barriers", .nat c.barriers), ("commits", .nat c.commits),
    ("last_chunk", if 0 < c.commits then .nat c.lastChunk else .null),
    ("last_commit_duration_s", .double ((Binary64.ofInt c.lastMicros).times millionth)),
    ("persist_failures", .nat c.persistFailures)]

end CommitStats

def Clock.Authority.reportName : String := "timestamp"

namespace Status

/-- The document of a phase: reports in order, of which the last of one name counts, and the clients attached. Reports
of a reserved name are left out. -/
def board (phase : Phase) (reports : List (String × Json)) (attached : List (String × Capabilities)) : Document :=
  let d := reports.foldl (fun d (name, report) => (Document.insert d name report).2) (Document.new phase.name)
  d.setClients (Table.ofList (attached.map fun (name, c) => (name, c.json)))

end Status

namespace Instruments

/-- The key of an instrument's report. -/
def reportName (i : Instruments) : Instrument → String
  | .lidar => Lidar.clientName
  | .gnss => Gnss.clientName
  | .cameras => Camera.clientName
  | .panel => Panel.clientName
  | .storage => Storage.clientName
  | .sensor name =>
    match i.sensors.find? name with
    | some s => s.reportName
    | none => name

def report (i : Instruments) (files : Storage.Tree) : Instrument → Json
  | .lidar => i.lidar.report
  | .gnss => i.gnss.report
  | .cameras => i.cameras.report
  | .panel => i.panel.report
  | .storage => i.medium.report files
  | .sensor name => .ofOption Rehearsal.Sensor.report (i.sensors.find? name)

end Instruments

namespace Station

/-- Every report with its name: commits and clock first, then what is attached. -/
def reports (now : UInt64) (s : Station) : List (String × Json) :=
  (CommitStats.reportName, s.stats.report) ::
    (Clock.Authority.reportName, s.instruments.authority.report now) ::
    s.registry.reporters.map fun r => (s.instruments.reportName r, s.instruments.report s.files r)

/-- The status document, where `now` is what the system clock shows. -/
def status (now : UInt64) (s : Station) : Status.Document :=
  Status.board s.control.phase (s.reports now) s.registry.attached

end Station

end CaptureRig

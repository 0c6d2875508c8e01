import CaptureRig.Journal.Record
import CaptureRig.Journal.Saver

namespace CaptureRig.Journal

/-- Times as they stand in names and lines. -/
structure Times where
  /-- The epoch in names of directories. -/
  stamp : String
  /-- The epoch in the log. -/
  epoch : String
  /-- The time since the epoch. -/
  elapsed : String

structure Session where
  root : String
  logFile : String
  deriving Repr, DecidableEq

/-- A logger with its limit and its file. -/
structure Logger where
  limit : Severity
  file : String
  deriving Repr, DecidableEq

structure Run where
  times : Times
  /-- The root of the software, if it is known. -/
  softwareRoot : Option String
  files : Storage.Tree
  /-- Whether the epoch has been set. -/
  begun : Bool := false
  session : Option Session := none
  /-- The saver of the session, which stays in reach after the session has ended. -/
  saver : Option Saver := none
  logger : Option Logger := none
  /-- All that has been printed. -/
  console : String := ""

inductive OpenError where
  | rootNotSet
  | cannotCreateDirectory (cause : Storage.AccessError)
  /-- The epoch has been set before. -/
  | alreadyBegun
  deriving Repr, DecidableEq

inductive LoggerError where
  | limitTooLow (limit : Limit)
  | logFile (cause : Storage.AccessError)
  /-- There is a logger already. -/
  | alreadySet
  deriving Repr, DecidableEq

def LoggerError.message : LoggerError → String
  | .limitTooLow limit => "Expected a log level of at least `INFO`, found `" ++ limit.name ++ "`"
  | .logFile cause => "Error initialising the log file: " ++ cause.message
  | .alreadySet => "An error occured while setting up the logger: there is one already"

/-- The targets of the records made here. -/
def loggerTarget : String := "util::logger"

def sessionTarget : String := "util::session"

/-- Lines on the console end like this, so that they stay readable while it takes single keys. -/
def consoleEnd : String := "\r\n"

def logPath (root name : String) : String := Path.join root (name ++ ".log")

namespace Run

/-- Write a record to the console and the log file, if there is a logger that lets it through. -/
def log (r : Record) (j : Run) : Run :=
  match j.logger with
  | none => j
  | some l =>
    if r.passes l.limit then
      { j with
        console := j.console ++ r.consoleLine j.times.elapsed ++ consoleEnd
        files := j.files.append l.file (r.fileLine j.times.elapsed ++ "\n") }
    else j

def info (target text : String) (j : Run) : Run := j.log ⟨.info, target, text⟩

def warn (text : String) (j : Run) : Run := j.log ⟨.warning, sessionTarget, text⟩

/-- Begin a session in a directory. The epoch is set before the directory is made, and stays set if that fails. -/
def openIn (name directory : String) (j : Run) : Except OpenError Session × Run :=
  if j.begun then (.error .alreadyBegun, j)
  else
    let j := { j with begun := true }
    let root := Path.join directory (name ++ "_" ++ j.times.stamp)
    match j.files.makeDirectory root with
    | (some e, files) => (.error (.cannotCreateDirectory e), { j with files })
    | (none, files) =>
      let session : Session := ⟨root, logPath root name⟩
      (.ok session, { j with files, session := some session, saver := some {} })

/-- Begin a session in a directory below the root of the software. -/
def openBelow (name directory : String) (j : Run) : Except OpenError Session × Run :=
  match j.softwareRoot with
  | none => (.error .rootNotSet, j)
  | some root => j.openIn name (Path.join root directory)

/-- Set up the logger of a session. -/
def setLogger (limit : Limit) (s : Session) (j : Run) : Except LoggerError Unit × Run :=
  match limit with
  | none => (.error (.limitTooLow none), j)
  | some most =>
    if most.verbosity < Severity.info.verbosity then (.error (.limitTooLow limit), j)
    else
      let (failure, files) : Storage.Change := match j.files.lookup s.logFile with
        | .error .notFound => j.files.write s.logFile (.text "")
        | .error e => (some e, j.files)
        | .ok n => (if n.isDirectory then some .isADirectory else none, j.files)
      let j := { j with files }
      match failure with
      | some e => (.error (.logFile e), j)
      | none =>
        if j.logger.isSome then (.error .alreadySet, j)
        else
          let j := { j with logger := some ⟨most, s.logFile⟩ }
          (.ok (), [("Logging initialised"), ("    Session epoch: " ++ j.times.epoch), ("    Log level: " ++ most.word),
            ("    Log file path: " ++ Text.quoted s.logFile)].foldl (fun j text => j.info loggerTarget text) j)

/-- Ask for a value to be saved, whether or not the session has ended. -/
def save (r : SaveRequest) (j : Run) : Run :=
  match j.saver with
  | none => j.warn "Cannot save data as session is not initialised yet"
  | some saver =>
    if saver.thread = .ended then
      j.warn ("Couldn\x27t send data to save thread for file " ++ Text.quoted r.path ++ ": sending on a closed channel")
    else { j with saver := some (saver.send r) }

/-- Carry out a request to save. A failure is worth a warning. -/
def carryOut (root : String) (r : SaveRequest) (j : Run) : Run :=
  let path := Path.join root r.path
  let (failure, files) := writeJson path r.value j.files
  let j := { j with files }
  match failure with
  | none => j
  | some e => j.warn ("Couldn\x27t save " ++ Text.quoted path ++ ": " ++ e.message)

/-- Let the saver end, and carry out what it has taken. -/
def settle (root : String) (j : Run) : Run :=
  match j.saver with
  | none => j
  | some saver =>
    let saver := saver.raise.finish
    saver.taken.foldl (fun j r => j.carryOut root r) { j with saver := some saver }

/-- End the session, after all that was to be saved has been. -/
def exit (j : Run) : Run :=
  match j.session with
  | none => j
  | some s =>
    let j := (j.info sessionTarget "Stopping save thread").settle s.root
    { j with session := none }.info sessionTarget "Save thread exited"

/-- What is left when the program ends, with or without an exit from the session. -/
def close (j : Run) : Run :=
  match j.session with
  | none => j
  | some s => { j.settle s.root with session := none }

end Run

end CaptureRig.Journal

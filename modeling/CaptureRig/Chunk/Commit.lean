import CaptureRig.Rig.Basic
import CaptureRig.Text.Quoted

namespace CaptureRig

namespace Chunk

inductive CommitError where
  | emptyDirectory
  | inaccessible (dir : String) (cause : Storage.AccessError)
  | notADirectory (dir : String)
  | readOnly (dir : String)
  | syncFailed (dir : String) (cause : Storage.AccessError)
  deriving Repr, DecidableEq

def CommitError.message : CommitError → String
  | .emptyDirectory => "No output directory was given"
  | .inaccessible dir cause => "Output directory " ++ Text.quoted dir ++ " is not accessible: " ++ cause.message
  | .notADirectory dir => "Output path " ++ Text.quoted dir ++ " is not a directory"
  | .readOnly dir => "Output directory " ++ Text.quoted dir ++ " is read only"
  | .syncFailed dir cause => "Could not sync output directory " ++ Text.quoted dir ++ ": " ++ cause.message

/-- What a commit has done: the files the clients named, and the clients that failed. -/
structure CommitReport where
  index : Nat
  files : List String
  failed : List String
  deriving Repr, DecidableEq

/-- Refuse a path that is no directory to write into. -/
def checkDirectory (t : Storage.Tree) (dir : String) : Except CommitError Unit :=
  if dir.isEmpty then .error .emptyDirectory
  else match t.lookup dir with
    | .error e => .error (.inaccessible dir e)
    | .ok n =>
      if !n.isDirectory then .error (.notADirectory dir)
      else if n.readOnly then .error (.readOnly dir)
      else .ok ()

/-- A client with the dump it has handed over. -/
structure Frozen (ρ δ : Type) where
  name : String
  client : ρ
  dump : δ

/-- A client with what came of writing its dump. -/
abbrev Outcome : Type := String × Persisted

def filesOf (outcomes : List Outcome) : List String :=
  outcomes.flatMap fun (_, outcome) =>
    match outcome with
    | .wrote files => files
    | _ => []

def failedOf (outcomes : List Outcome) : List String :=
  outcomes.filterMap fun (name, outcome) =>
    match outcome with
    | .wrote _ => none
    | _ => some name

end Chunk

namespace Rig

open Chunk

variable {ρ σ δ : Type}

/-- Freeze clients one after another. -/
def freezeEach (E : Equipment ρ σ δ) : List (String × ρ) → Rig ρ σ δ → List (Frozen ρ δ) × Rig ρ σ δ
  | [], g => ([], g)
  | (name, client) :: rest, g =>
    let (dump, instruments) := E.freeze client g.instruments
    let (frozen, g) := freezeEach E rest ({ g with instruments }.note (.froze client dump))
    (⟨name, client, dump⟩ :: frozen, g)

/-- Write dumps one after another. -/
def persistEach (E : Equipment ρ σ δ) (dir : String) (index : Nat) :
    List (Frozen ρ δ) → Rig ρ σ δ → List Outcome × Rig ρ σ δ
  | [], g => ([], g)
  | f :: rest, g =>
    let (outcome, files) := E.persist f.client f.dump g.instruments dir index g.files
    let g := { g with files }.note (.persisted f.client f.dump dir index outcome files)
    let (outcomes, g) := persistEach E dir index rest g
    ((f.name, outcome) :: outcomes, g)

/-- Count a commit with its clients that failed. -/
def countCommit (E : Equipment ρ σ δ) (index failures : Nat) (g : Rig ρ σ δ) : Rig ρ σ δ :=
  { g with stats :=
    { commits := g.stats.commits + 1, barriers := g.stats.barriers + 1
      persistFailures := g.stats.persistFailures + failures, lastChunk := index
      lastMicros := E.commitMicros g.instruments } }

/-- What comes of opening and syncing a directory of the rig. -/
def sync (E : Equipment ρ σ δ) (dir : String) (g : Rig ρ σ δ) : Except Storage.AccessError Unit :=
  E.sync g.instruments dir g.files

/-- The commit after the check of its directory. -/
def commitChecked (E : Equipment ρ σ δ) (dir : String) (index : Nat) (stop : Bool) (g : Rig ρ σ δ) :
    Except CommitError CommitReport × Rig ρ σ δ :=
  let (frozen, g) := freezeEach E g.registry.dumpables g
  let g := if stop then g.stopAll E else g
  let (outcomes, g) := persistEach E dir index (frozen.filter fun f => E.size f.dump != 0) g
  match g.sync E dir with
  | .error e => (.error (.syncFailed dir e), g)
  | .ok () =>
    (.ok ⟨index, filesOf outcomes, failedOf outcomes⟩, countCommit E index (failedOf outcomes).length g)

/-- Commit the data kept since the last commit as chunk `index`. -/
def commit (E : Equipment ρ σ δ) (dir : String) (index : Nat) (stop : Bool) (g : Rig ρ σ δ) :
    Except CommitError CommitReport × Rig ρ σ δ :=
  match checkDirectory g.files dir with
  | .error e => (.error e, g)
  | .ok () => commitChecked E dir index stop g

end Rig

end CaptureRig

import CaptureRig.Path
import CaptureRig.Text.Utf8

namespace CaptureRig.Storage

/-- What a file holds: a text, or bytes that need not be one. -/
inductive Content where
  | text (s : String)
  | bytes (bytes : List UInt8)
  deriving Repr, DecidableEq

namespace Content

def encoded : Content → List UInt8
  | .text s => Utf8.encode s.toList
  | .bytes held => held

/-- A content with a text after it. -/
def extended (content : Content) (more : String) : Content :=
  match content with
  | .text s => .text (s ++ more)
  | .bytes held => .bytes (held ++ Utf8.encode more.toList)

end Content

inductive Kind where
  | directory
  | file (content : Content)
  deriving Repr, DecidableEq

structure Node where
  kind : Kind
  readOnly : Bool := false
  deriving Repr, DecidableEq

namespace Node

def directory : Node := ⟨.directory, false⟩

def file (content : Content) : Node := ⟨.file content, false⟩

def isDirectory (n : Node) : Bool :=
  match n.kind with
  | .directory => true
  | .file _ => false

/-- Whether entries may come and go in it. -/
def isOpen (n : Node) : Bool := n.isDirectory && !n.readOnly

end Node

/-- Why an access fails. -/
inductive AccessError where
  | notFound
  | notPermitted
  | notADirectory
  | isADirectory
  | alreadyExists
  /-- A directory cannot be removed by a name for "here" or for the one above. -/
  | namedByPosition
  | nameTooLong
  | zeroInPath
  | notText
  | noSpace
  | inputOutput
  deriving Repr, DecidableEq

/-- What the operating system says of it. -/
def AccessError.message : AccessError → String
  | .notFound => "No such file or directory (os error 2)"
  | .notPermitted => "Permission denied (os error 13)"
  | .notADirectory => "Not a directory (os error 20)"
  | .isADirectory => "Is a directory (os error 21)"
  | .alreadyExists => "File exists (os error 17)"
  | .namedByPosition => "Invalid argument (os error 22)"
  | .nameTooLong => "File name too long (os error 36)"
  | .zeroInPath => "file name contained an unexpected NUL byte"
  | .notText => "stream did not contain valid UTF-8"
  | .noSpace => "No space left on device (os error 28)"
  | .inputOutput => "Input/output error (os error 5)"

/-- A path as the names it goes through. -/
abbrev Place := List String

/-- The place of a name in a directory, whether or not anything is there. Names have at most 255 bytes. -/
def Place.next (here : Place) (name : String) : Except AccessError Place :=
  if name = ".." then .ok here.dropLast
  else if name.utf8ByteSize ≤ 255 then .ok (here ++ [name])
  else .error .nameTooLong

/-- Files are kept in blocks of this many bytes. -/
def blockSize : Nat := 512

/-- What is wrong with a place: a file there gets no more than some blocks, and a directory there cannot be synced. -/
structure Flaw where
  cause : AccessError
  blocks : Nat := 0
  deriving Repr, DecidableEq

/-- The bytes that find room. -/
def Flaw.room (f : Flaw) : Nat := f.blocks * blockSize

/-- Directories and files by their places. A read only file keeps what it holds, a read only directory its entries. -/
structure Tree where
  entries : List (Place × Node) := []
  flaws : List (Place × Flaw) := []
  deriving Repr, DecidableEq

namespace Tree

/-- The top of the tree, which belongs to the system. -/
def top : Node := ⟨.directory, true⟩

/-- What is at a place. -/
def node? (t : Tree) (p : Place) : Option Node :=
  if p = [] then some top else (t.entries.find? (·.1 = p)).map (·.2)

/-- What is wrong with a place, if anything. -/
def flaw? (t : Tree) (p : Place) : Option Flaw := (t.flaws.find? (·.1 = p)).map (·.2)

/-- Put a node in its place, over what is there. -/
def set (t : Tree) (p : Place) (n : Node) : Tree :=
  { t with entries := (p, n) :: t.entries.filter (·.1 ≠ p) }

/-- Take away a place and all below it. -/
def clear (t : Tree) (p : Place) : Tree :=
  { t with entries := t.entries.filter fun e => !(p.isPrefixOf e.1) }

/-- Why a path is not followed at all, if so: it is empty, has more than 4095 bytes, or holds a zero character. -/
def refusal? (path : String) : Option AccessError :=
  if path.toList.any (·.toNat == 0) then some .zeroInPath
  else if path.isEmpty then some .notFound
  else if 4095 < path.utf8ByteSize then some .nameTooLong
  else none

/-- Follow names from a directory, all of which must be directories. -/
def descend (t : Tree) : Place → List String → Except AccessError Place
  | here, [] => .ok here
  | here, name :: rest =>
    match Place.next here name with
    | .error e => .error e
    | .ok there =>
      match t.node? there with
      | none => .error .notFound
      | some n => if n.isDirectory then t.descend there rest else .error .notADirectory

/-- The place that names lead to from the top. There need not be anything where the last one leads. -/
def reach (t : Tree) (names : List String) : Except AccessError Place :=
  match names.getLast? with
  | none => .ok []
  | some last => do Place.next (← t.descend [] names.dropLast) last

/-- The place a path leads to. There need not be anything unless more than a name ends the path. -/
def locate (t : Tree) (path : String) : Except AccessError Place :=
  match refusal? path with
  | some e => .error e
  | none => if Path.ending path = .name then t.reach (Path.names path) else t.descend [] (Path.names path)

/-- What a path leads to. -/
def lookup (t : Tree) (path : String) : Except AccessError Node := do
  match t.node? (← t.locate path) with
  | some n => .ok n
  | none => .error .notFound

/-- The bytes of a file. -/
def readBytes (t : Tree) (path : String) : Except AccessError (List UInt8) := do
  match (← t.lookup path).kind with
  | .directory => .error .isADirectory
  | .file content => .ok content.encoded

/-- The text of a file. -/
def readText (t : Tree) (path : String) : Except AccessError String := do
  match (← t.lookup path).kind with
  | .directory => .error .isADirectory
  | .file (.text s) => .ok s
  | .file (.bytes bytes) =>
    match Utf8.decode? bytes with
    | some cs => .ok (String.ofList cs)
    | none => .error .notText

/-- Open what a path leads to and bring it to the medium. -/
def sync (t : Tree) (path : String) : Except AccessError Unit := do
  let p ← t.locate path
  match t.node? p, t.flaw? p with
  | none, _ => .error .notFound
  | some _, some flaw => .error flaw.cause
  | some _, none => .ok ()

/-- Whether entries may come and go at a place. -/
def isOpen (t : Tree) (p : Place) : Bool := (t.node? p).any Node.isOpen

/-- Whether a path leads to a directory that may be written to. -/
def isWritable (t : Tree) (path : String) : Bool :=
  match t.lookup path with
  | .ok n => n.isOpen
  | .error _ => false

/-- The directories right below a place. -/
def directoriesIn (t : Tree) (p : Place) : List String :=
  t.entries.filterMap fun (q, n) =>
    match q.getLast? with
    | some name => if q.dropLast = p ∧ n.isDirectory then some name else none
    | none => none

/-- The names of the directories in a directory, ascending. -/
def directories (t : Tree) (path : String) : List String :=
  match t.locate path with
  | .error _ => []
  | .ok p => (t.directoriesIn p).mergeSort fun a b => a ≤ b

end Tree

end CaptureRig.Storage

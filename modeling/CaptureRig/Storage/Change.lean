import CaptureRig.Storage.Tree

namespace CaptureRig.Storage

/-- What comes of a change: the error, if there is one, and the tree as it is left. -/
abbrev Change := Option AccessError × Tree

/-- The order of removal: by name, but what is in a directory before the directory. -/
def Place.goesBefore : Place → Place → Bool
  | _, [] => true
  | [], _ :: _ => false
  | a :: p, b :: q => if a = b then goesBefore p q else a ≤ b

namespace Tree

/-- The place of a file that a path names, which has no slash after its name. -/
def locateFile (t : Tree) (path : String) : Except AccessError Place := do
  if Path.ending path = .slash ∧ refusal? path = none then
    let _ ← t.descend [] (Path.names path).dropLast
    .error .isADirectory
  else t.locate path

/-- Open a file to be written, over one of that name. -/
def openFile (t : Tree) (path : String) : Except AccessError Place := do
  let p ← t.locateFile path
  match t.node? p with
  | none => if t.isOpen p.dropLast then .ok p else .error .notPermitted
  | some n =>
    if n.isDirectory then .error .isADirectory
    else if n.readOnly then .error .notPermitted
    else .ok p

/-- Why a content finds no room at a place, if so. -/
def shortage? (t : Tree) (p : Place) (content : Content) : Option AccessError :=
  match t.flaw? p with
  | some flaw => if content.encoded.length ≤ flaw.room then none else some flaw.cause
  | none => none

/-- What of a content finds room at a place. -/
def fitting (t : Tree) (p : Place) (content : Content) : Content :=
  match t.flaw? p with
  | some flaw =>
    if content.encoded.length ≤ flaw.room then content else .bytes (content.encoded.take flaw.room)
  | none => content

/-- Write into a file that is open, as far as there is room. What was in it is gone at once. -/
def fill (t : Tree) (p : Place) (content : Content) : Change :=
  (t.shortage? p content, t.set p (.file (t.fitting p content)))

/-- Write a file, over one of that name. A write that fails leaves the file emptied or cut short. -/
def write (t : Tree) (path : String) (content : Content) : Change :=
  match t.openFile path with
  | .error e => (some e, t)
  | .ok p => t.fill p content

/-- Add text to a file that is open for writing, as far as there is room. If the file has been taken away, nobody
sees the text. -/
def append (t : Tree) (path : String) (text : String) : Tree :=
  match t.locate path with
  | .error _ => t
  | .ok p =>
    match t.node? p with
    | some ⟨.file content, readOnly⟩ => t.set p ⟨.file (t.fitting p (content.extended text)), readOnly⟩
    | _ => t

/-- Make one directory in another. The name for "here" makes none. -/
def makeOne (t : Tree) (ending : Path.Ending) (names : List String) : Except AccessError Tree := do
  let p ← if ending = .here then t.descend [] names else t.reach names
  match t.node? p with
  | some _ => .error .alreadyExists
  | none => if t.isOpen p.dropLast then .ok (t.set p .directory) else .error .notPermitted

/-- Make one directory unless it is there. -/
def ensureOne (t : Tree) (ending : Path.Ending) (names : List String) : Change :=
  match t.makeOne ending names with
  | .ok t => (none, t)
  | .error e => (if (t.descend [] names).isOk then none else some e, t)

/-- Make the directory that names lead to, given the last one first. If something above it is missing, make that
first. -/
def ensureAll (t : Tree) (ending : Path.Ending) : List String → Change
  | [] => (none, t)
  | last :: above =>
    let names := (last :: above).reverse
    match t.ensureOne ending names with
    | (some .notFound, t) =>
      match t.ensureAll .name above with
      | (none, t) => t.ensureOne ending names
      | failed => failed
    | done => done

/-- Make a directory and those above it, as far as they are not there. The empty path asks for nothing. -/
def makeDirectory (t : Tree) (path : String) : Change :=
  if path.isEmpty then (none, t)
  else match refusal? path with
    | some e => (some e, t)
    | none => t.ensureAll (Path.ending path) (Path.names path).reverse

/-- Make the directories above what a path leads to, as far as they are not there. -/
def makeParent (t : Tree) (path : String) : Change := t.makeDirectory (Path.parent path)

/-- Take away what is at a place. -/
def removeAt (t : Tree) (p : Place) : Change :=
  if t.isOpen p.dropLast then (none, t.clear p) else (some .notPermitted, t)

/-- Take away what is at some places, up to the first that has to stay. -/
def removeEach (t : Tree) : List Place → Change
  | [] => (none, t)
  | p :: rest =>
    match t.removeAt p with
    | (none, t) => t.removeEach rest
    | failed => failed

/-- Take away all below a place, one branch after another and each from its end. -/
def empty (t : Tree) (p : Place) : Change :=
  t.removeEach (((t.entries.map (·.1)).filter fun q => p.isPrefixOf q && q ≠ p).mergeSort Place.goesBefore)

/-- Take away an empty directory by its path. If the path itself led through something that is gone, it stays. -/
def removeEmpty (t : Tree) (path : String) : Change :=
  match t.locate path with
  | .error .notFound => (none, t)
  | .error e => (some e, t)
  | .ok p =>
    if Path.ending path = .here ∨ (Path.names path).getLast? = some ".." then (some .namedByPosition, t)
    else t.removeAt p

/-- Take away a directory with all below it. -/
def removeDirectory (t : Tree) (path : String) : Change :=
  match t.locate path with
  | .error e => (some e, t)
  | .ok p =>
    match t.node? p with
    | none => (some .notFound, t)
    | some n =>
      if n.isDirectory then
        match t.empty p with
        | (none, t) => t.removeEmpty path
        | failed => failed
      else (some .notADirectory, t)

/-- Take away a file, or a directory with all below it. -/
def remove (t : Tree) (path : String) : Change :=
  match t.locate path with
  | .error e => (some e, t)
  | .ok p =>
    match t.node? p with
    | none => (some .notFound, t)
    | some n => if n.isDirectory then t.removeDirectory path else t.removeAt p

/-- Mark what a path leads to as read only, or take the mark away. -/
def setReadOnly (t : Tree) (path : String) (readOnly : Bool) : Except AccessError Tree := do
  let p ← t.locate path
  if p = [] then .error .notPermitted
  else match t.node? p with
    | some n => .ok (t.set p { n with readOnly })
    | none => .error .notFound

end Tree

end CaptureRig.Storage
